import TootTok.Crates
import TootTok.Note

/-!
# Activities

The activity types of the inbox, their stored JSON form, and the identifiers
the handlers read out of raw objects.
-/

namespace TootTok

open Json (Value)

variable {Url : Type}

/-- A request of `actor` to follow `object`. -/
structure Follow (Url : Type) where
  id : Url
  actor : Url
  object : Url

/-- The object of an `Accept` or `Reject`: the embedded follow, a reference to
it or its URL. -/
inductive FollowObject (Url : Type)
  | follow (embedded : Follow Url)
  | ref (id : Url)
  | url (id : Url)

def FollowObject.id : FollowObject Url → Url
  | .follow embedded => embedded.id
  | .ref id => id
  | .url id => id

structure Accept (Url : Type) where
  id : Url
  actor : Url
  object : FollowObject Url

structure Reject (Url : Type) where
  id : Url
  actor : Url
  object : FollowObject Url

/-- The object stays raw: anything may be undone. -/
structure Undo (Url : Type) where
  id : Url
  actor : Url
  object : Value

inductive DeleteObject (Url : Type)
  | tombstone (id : Url)
  | url (id : Url)

def DeleteObject.id : DeleteObject Url → Url
  | .tombstone id => id
  | .url id => id

structure Delete (Url : Type) where
  id : Url
  actor : Url
  object : DeleteObject Url

structure Create (Url : Type) where
  id : Url
  actor : Url
  object : Value

structure Update (Url : Type) where
  id : Url
  actor : Url
  object : Value

structure Move (Url : Type) where
  id : Url
  actor : Url
  object : Url
  target : Option Url

/-- An activity of any other type. -/
structure Passthrough (Url : Type) where
  id : Url
  actor : Url
  raw : Value

/-- Every activity that the inbox takes. -/
inductive ApActivities (Url : Type)
  | follow (activity : Follow Url)
  | accept (activity : Accept Url)
  | reject (activity : Reject Url)
  | undo (activity : Undo Url)
  | delete (activity : Delete Url)
  | create (activity : Create Url)
  | update (activity : Update Url)
  | move (activity : Move Url)
  | passthrough (activity : Passthrough Url)

namespace ApActivities

def id : ApActivities Url → Url
  | .follow activity => activity.id
  | .accept activity => activity.id
  | .reject activity => activity.id
  | .undo activity => activity.id
  | .delete activity => activity.id
  | .create activity => activity.id
  | .update activity => activity.id
  | .move activity => activity.id
  | .passthrough activity => activity.id

/-- The actor, which the signature of the request has been checked against. -/
def actor : ApActivities Url → Url
  | .follow activity => activity.actor
  | .accept activity => activity.actor
  | .reject activity => activity.actor
  | .undo activity => activity.actor
  | .delete activity => activity.actor
  | .create activity => activity.actor
  | .update activity => activity.actor
  | .move activity => activity.actor
  | .passthrough activity => activity.actor

end ApActivities

/-! ## Stored form -/

section ToValue

variable [UrlCrate Url]

def Json.Value.ofUrl (url : Url) : Value := .string (UrlCrate.asStr url)

/-- The members every activity has. -/
def activityValue (type : String) (id actor : Url) (object : Value) : Value :=
  .object [("type", .string type), ("id", .ofUrl id), ("actor", .ofUrl actor),
    ("object", object)]

def Follow.toValue (activity : Follow Url) : Value :=
  activityValue "Follow" activity.id activity.actor (.ofUrl activity.object)

def FollowObject.toValue : FollowObject Url → Value
  | .follow embedded => embedded.toValue
  | .ref id => .object [("type", .string "Follow"), ("id", .ofUrl id)]
  | .url id => .ofUrl id

def Accept.toValue (activity : Accept Url) : Value :=
  activityValue "Accept" activity.id activity.actor activity.object.toValue

def Reject.toValue (activity : Reject Url) : Value :=
  activityValue "Reject" activity.id activity.actor activity.object.toValue

def Undo.toValue (activity : Undo Url) : Value :=
  activityValue "Undo" activity.id activity.actor activity.object

def DeleteObject.toValue : DeleteObject Url → Value
  | .tombstone id => .object [("id", .ofUrl id), ("type", .string "Tombstone")]
  | .url id => .ofUrl id

def Delete.toValue (activity : Delete Url) : Value :=
  activityValue "Delete" activity.id activity.actor activity.object.toValue

def Create.toValue (activity : Create Url) : Value :=
  activityValue "Create" activity.id activity.actor activity.object

def Update.toValue (activity : Update Url) : Value :=
  activityValue "Update" activity.id activity.actor activity.object

def Move.toValue (activity : Move Url) : Value :=
  .object [("type", .string "Move"), ("id", .ofUrl activity.id),
    ("actor", .ofUrl activity.actor), ("object", .ofUrl activity.object),
    ("target", activity.target.elim .null .ofUrl)]

end ToValue

/-! ## Identifiers in raw objects -/

mutual

/-- The id of the undone follow; `none` for an object of any other shape. -/
def undoFollowTarget : Value → Option String
  | .string text => some text
  | .object members =>
      let object := Value.object members
      if (object.getStr "type").getD "" ≠ "Follow" then none
      else (object.getStr "id").filter (· ≠ "")
  | .array items => undoFollowTargetIn items
  | _ => none

/-- The first item that is or references a follow wins. -/
def undoFollowTargetIn : List Value → Option String
  | [] => none
  | item :: items => (undoFollowTarget item).or (undoFollowTargetIn items)

end

/-- A best-effort id of the object of an activity. -/
def rawObjectId (raw : Value) : Option String :=
  match raw.get "object" with
  | some (.string text) => some text
  | some (.object members) => (Value.object members).getStr "id"
  | _ => none

/-! ## Outbound activities -/

/-- The reply to a follow, with the follow embedded. -/
def acceptActivity [UrlCrate Url]
    (baseUrl uuid : String) (actor : Url) (followId followActor followObject : String) :
    Value :=
  .object [
    ("@context", .string "https://www.w3.org/ns/activitystreams"),
    ("id", .string (baseUrl ++ "/activities/" ++ uuid)),
    ("type", .string "Accept"),
    ("actor", .ofUrl actor),
    ("object", .object [
      ("id", .string followId),
      ("type", .string "Follow"),
      ("actor", .string followActor),
      ("object", .string followObject)]),
    ("to", .array [.string followActor])]

/-- The activity by which a local actor asks to follow. -/
def followActivity (id followerApId targetApId : String) : Value :=
  .object [
    ("@context", .string "https://www.w3.org/ns/activitystreams"),
    ("id", .string id),
    ("type", .string "Follow"),
    ("actor", .string followerApId),
    ("object", .string targetApId),
    ("to", .array [.string targetApId]),
    ("cc", .array [.string (followerApId ++ "/followers")])]

/-- The activity by which a local actor takes a follow back. -/
def undoActivity (id actorApId followId : String) : Value :=
  .object [
    ("@context", .string "https://www.w3.org/ns/activitystreams"),
    ("id", .string id),
    ("type", .string "Undo"),
    ("actor", .string actorApId),
    ("object", .object [("id", .string followId), ("type", .string "Follow")]),
    ("to", .array [.string (actorApId ++ "/followers")])]

def activityIdFromJson (activity : Value) : String :=
  (activity.getStr "id").getD ""

end TootTok
