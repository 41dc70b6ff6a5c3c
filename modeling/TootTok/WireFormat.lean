import TootTok.Pipeline

/-!
# The wire format of activities

How an activity is read from JSON. The type decides which variant is tried. An
activity of an unknown type is kept raw, and so is an `Undo`, a `Create` or an
`Update` that cannot be read. What has been read is read back from what is
written.
-/

namespace TootTok

open Json (Value)
open UrlCrate

variable {Url : Type} [UrlCrate Url]

/-! ## Structures -/

/-- The fields of a structure: members of an object, or all items of an array. -/
def structFields (names : List String) : Value → Option (List Value)
  | .object members => names.mapM fun name => (Value.object members).get name
  | .array items => if items.length = names.length then some items else none
  | _ => none

/-- The only variant of an enumeration: its name, alone or as a key with `null`. -/
def isKind (name : String) : Value → Bool
  | .string text => text = name
  | .object [(key, .null)] => key = name
  | _ => false

def decodeUrl : Value → Option Url
  | .string text => parse text
  | _ => none

/-- An activity of a type: its id, its actor and its object. -/
def decodeTyped {Object : Type}
    (name : String) (decodeObject : Value → Option Object) (value : Value) :
    Option (Url × Url × Object) :=
  match structFields ["type", "id", "actor", "object"] value with
  | some [kind, id, actor, object] =>
      if isKind name kind then do
        pure (← decodeUrl id, ← decodeUrl actor, ← decodeObject object)
      else none
  | _ => none

def decodeFollow (value : Value) : Option (Follow Url) :=
  (decodeTyped "Follow" decodeUrl value).map fun (id, actor, object) => ⟨id, actor, object⟩

/-- A minimal reference to a follow. -/
def decodeFollowRef (value : Value) : Option Url :=
  match structFields ["type", "id"] value with
  | some [kind, id] => if isKind "Follow" kind then decodeUrl id else none
  | _ => none

/-- The first of the three shapes that fits. -/
def decodeFollowObject (value : Value) : Option (FollowObject Url) :=
  ((decodeFollow value).map .follow).or
    (((decodeFollowRef value).map .ref).or ((decodeUrl value).map .url))

def decodeAccept (value : Value) : Option (Accept Url) :=
  (decodeTyped "Accept" decodeFollowObject value).map fun (id, actor, object) =>
    ⟨id, actor, object⟩

def decodeReject (value : Value) : Option (Reject Url) :=
  (decodeTyped "Reject" decodeFollowObject value).map fun (id, actor, object) =>
    ⟨id, actor, object⟩

def decodeUndo (value : Value) : Option (Undo Url) :=
  (decodeTyped "Undo" some value).map fun (id, actor, object) => ⟨id, actor, object⟩

def decodeTombstone (value : Value) : Option Url :=
  match structFields ["id", "type"] value with
  | some [id, kind] => if isKind "Tombstone" kind then decodeUrl id else none
  | _ => none

/-- A tombstone, or else a URL. -/
def decodeDeleteObject (value : Value) : Option (DeleteObject Url) :=
  ((decodeTombstone value).map .tombstone).or ((decodeUrl value).map .url)

def decodeDelete (value : Value) : Option (Delete Url) :=
  (decodeTyped "Delete" decodeDeleteObject value).map fun (id, actor, object) =>
    ⟨id, actor, object⟩

def decodeCreate (value : Value) : Option (Create Url) :=
  (decodeTyped "Create" some value).map fun (id, actor, object) => ⟨id, actor, object⟩

def decodeUpdate (value : Value) : Option (Update Url) :=
  (decodeTyped "Update" some value).map fun (id, actor, object) => ⟨id, actor, object⟩

/-- An optional URL, absent or `null` when there is none. -/
def decodeTarget : Option Value → Option (Option Url)
  | none | some .null => some none
  | some value => (decodeUrl value).map some

def decodeMove (value : Value) : Option (Move Url) := do
  let (id, actor, object) ← decodeTyped "Move" decodeUrl value
  let target ← decodeTarget (value.get "target")
  pure ⟨id, actor, object, target⟩

/-- Anything with an id and an actor. -/
def decodePassthrough (value : Value) : Option (Passthrough Url) := do
  let id ← (value.getStr "id").bind parse
  let actor ← (value.getStr "actor").bind parse
  pure ⟨id, actor, value⟩

/-- The variant of the type, or the raw value where the type is lenient. -/
def ApActivities.decode (value : Value) : Option (ApActivities Url) :=
  match (value.getStr "type").getD "" with
  | "Follow" => (decodeFollow value).map .follow
  | "Accept" => (decodeAccept value).map .accept
  | "Reject" => (decodeReject value).map .reject
  | "Undo" => ((decodeUndo value).map .undo).or ((decodePassthrough value).map .passthrough)
  | "Delete" => (decodeDelete value).map .delete
  | "Create" => ((decodeCreate value).map .create).or ((decodePassthrough value).map .passthrough)
  | "Update" => ((decodeUpdate value).map .update).or ((decodePassthrough value).map .passthrough)
  | "Move" => (decodeMove value).map .move
  | _ => (decodePassthrough value).map .passthrough

/-! ## Fields of what was read -/

/-- The fields of an object that has been read. -/
theorem fields_of_decodeTyped {Object : Type}
    {name : String} {decodeObject : Value → Option Object}
    {members : List (String × Value)} {id actor : Url} {object : Object}
    (decoded : decodeTyped name decodeObject (.object members) = some (id, actor, object)) :
    ((Value.object members).get "id").bind decodeUrl = some id ∧
      ((Value.object members).get "actor").bind decodeUrl = some actor ∧
      ((Value.object members).get "object").bind decodeObject = some object := by
  unfold decodeTyped at decoded
  split at decoded
  next fields =>
    simp only [structFields, List.mapM_cons, List.mapM_nil, Option.pure_def, Option.bind_eq_bind,
      Option.bind_eq_some_iff, Option.some.injEq, List.cons.injEq] at fields
    obtain ⟨_, -, _, ⟨readId, hasId, _, ⟨readActor, hasActor, _, ⟨_, hasObject, _, -, rfl⟩, rfl⟩,
      rfl⟩, rfl, rfl, rfl, rfl, -⟩ := fields
    split at decoded
    next =>
      simp only [Option.pure_def, Option.bind_eq_bind, Option.bind_eq_some_iff,
        Option.some.injEq] at decoded
      obtain ⟨_, isId, _, isActor, _, isObject, same⟩ := decoded
      cases same
      simp [hasId, hasActor, hasObject, isId, isActor, isObject]
    next => cases decoded
  next => cases decoded

theorem getStr_bind_parse (value : Value) (key : String) :
    (value.getStr key).bind parse = ((value.get key).bind decodeUrl : Option Url) := by
  unfold Value.getStr
  cases value.get key with
  | none => rfl
  | some member => cases member <;> rfl

/-! ## Reading what was written -/

@[simp] theorem decodeUrl_ofUrl (url : Url) : decodeUrl (.ofUrl url) = some url :=
  parse_asStr url

theorem decodeTyped_activityValue {Object : Type}
    (name : String) (decodeObject : Value → Option Object) (id actor : Url) (object : Value) :
    decodeTyped name decodeObject (activityValue name id actor object) =
      (decodeObject object).map fun object => (id, actor, object) := by
  have fields : structFields ["type", "id", "actor", "object"] (activityValue name id actor object) =
      some [.string name, .ofUrl id, .ofUrl actor, object] := by
    simp [structFields, activityValue, Value.get_object_cons]
  unfold decodeTyped
  rw [fields]
  cases read : decodeObject object <;> simp [isKind, read]

@[simp] theorem getStr_type_activityValue (name : String) (id actor : Url) (object : Value) :
    (activityValue name id actor object).getStr "type" = some name := by
  simp [activityValue, Value.getStr, Value.get_object_cons, Value.asStr]

@[simp] theorem decodeFollow_toValue (activity : Follow Url) :
    decodeFollow activity.toValue = some activity := by
  simp [decodeFollow, Follow.toValue, decodeTyped_activityValue]

/-- Each shape of a followed object is read as itself. -/
@[simp] theorem decodeFollowObject_toValue (object : FollowObject Url) :
    decodeFollowObject object.toValue = some object := by
  cases object with
  | follow embedded => simp [decodeFollowObject, FollowObject.toValue]
  | ref id =>
      have noFollow : (decodeFollow (FollowObject.ref id).toValue : Option (Follow Url)) = none := by
        simp [decodeFollow, decodeTyped, FollowObject.toValue, structFields,
          Value.get_object_cons]
      have isRef : decodeFollowRef (FollowObject.ref id).toValue = some id := by
        simp [decodeFollowRef, FollowObject.toValue, structFields, Value.get_object_cons, isKind]
      simp [decodeFollowObject, noFollow, isRef]
  | url id =>
      have noStructure (names : List String) : structFields names (.ofUrl id) = none := rfl
      have noFollow : (decodeFollow (.ofUrl id) : Option (Follow Url)) = none := by
        simp [decodeFollow, decodeTyped, noStructure]
      have noRef : (decodeFollowRef (.ofUrl id) : Option Url) = none := by
        simp [decodeFollowRef, noStructure]
      simp [decodeFollowObject, FollowObject.toValue, noFollow, noRef]

@[simp] theorem decodeDeleteObject_toValue (object : DeleteObject Url) :
    decodeDeleteObject object.toValue = some object := by
  cases object with
  | tombstone id =>
      simp [decodeDeleteObject, decodeTombstone, DeleteObject.toValue, structFields,
        Value.get_object_cons, isKind]
  | url id =>
      have noTombstone : (decodeTombstone (.ofUrl id) : Option Url) = none := rfl
      simp [decodeDeleteObject, DeleteObject.toValue, noTombstone]

theorem decodeMove_toValue (activity : Move Url) :
    decodeMove activity.toValue = some activity := by
  have typed : decodeTyped "Move" decodeUrl activity.toValue =
      some (activity.id, activity.actor, activity.object) := by
    have fields : structFields ["type", "id", "actor", "object"] activity.toValue =
        some [.string "Move", .ofUrl activity.id, .ofUrl activity.actor,
          .ofUrl activity.object] := by
      simp [structFields, Move.toValue, Value.get_object_cons]
    unfold decodeTyped
    rw [fields]
    simp [isKind]
  have target : decodeTarget (activity.toValue.get "target") = some activity.target := by
    cases written : activity.target with
    | none => simp [Move.toValue, Value.get_object_cons, written, decodeTarget]
    | some url =>
        simp [Move.toValue, Value.get_object_cons, written, decodeTarget, Json.Value.ofUrl,
          decodeUrl, parse_asStr]
  unfold decodeMove
  rw [typed, target]
  rfl

namespace ApActivities

/-- The variant by which a value is read: by its type, or raw. -/
def ReadFrom (value : Value) : ApActivities Url → Prop
  | .follow activity => value.getStr "type" = some "Follow" ∧ decodeFollow value = some activity
  | .accept activity => value.getStr "type" = some "Accept" ∧ decodeAccept value = some activity
  | .reject activity => value.getStr "type" = some "Reject" ∧ decodeReject value = some activity
  | .undo activity => value.getStr "type" = some "Undo" ∧ decodeUndo value = some activity
  | .delete activity => value.getStr "type" = some "Delete" ∧ decodeDelete value = some activity
  | .create activity => value.getStr "type" = some "Create" ∧ decodeCreate value = some activity
  | .update activity => value.getStr "type" = some "Update" ∧ decodeUpdate value = some activity
  | .move activity => value.getStr "type" = some "Move" ∧ decodeMove value = some activity
  | .passthrough activity => activity.raw = value

theorem raw_of_decodePassthrough
    {value : Value} {activity : Passthrough Url}
    (passed : decodePassthrough value = some activity) : activity.raw = value := by
  simp only [decodePassthrough, Option.bind_eq_bind, Option.pure_def] at passed
  obtain ⟨id, -, found⟩ := Option.bind_eq_some_iff.mp passed
  obtain ⟨actor, -, isRead⟩ := Option.bind_eq_some_iff.mp found
  cases isRead
  rfl

theorem readFrom_of_decode
    {value : Value} {activity : ApActivities Url} (decoded : decode value = some activity) :
    activity.ReadFrom value := by
  have named {type : String} (isType : (value.getStr "type").getD "" = type)
      (nonempty : type ≠ "") : value.getStr "type" = some type := by
    cases written : value.getStr "type" with
    | none =>
        rw [written] at isType
        exact (nonempty isType.symm).elim
    | some other =>
        rw [written] at isType
        exact congrArg some isType
  have raw {activity : ApActivities Url}
      (passed : (decodePassthrough value).map .passthrough = some activity) :
      activity.ReadFrom value := by
    obtain ⟨read, isRead, rfl⟩ := Option.map_eq_some_iff.mp passed
    exact raw_of_decodePassthrough isRead
  unfold decode at decoded
  split at decoded
  next isType =>
    obtain ⟨read, isRead, rfl⟩ := Option.map_eq_some_iff.mp decoded
    exact ⟨named isType (by decide), isRead⟩
  next isType =>
    obtain ⟨read, isRead, rfl⟩ := Option.map_eq_some_iff.mp decoded
    exact ⟨named isType (by decide), isRead⟩
  next isType =>
    obtain ⟨read, isRead, rfl⟩ := Option.map_eq_some_iff.mp decoded
    exact ⟨named isType (by decide), isRead⟩
  next isType =>
    rcases Option.or_eq_some_iff.mp decoded with typed | ⟨-, fallback⟩
    · obtain ⟨read, isRead, rfl⟩ := Option.map_eq_some_iff.mp typed
      exact ⟨named isType (by decide), isRead⟩
    · exact raw fallback
  next isType =>
    obtain ⟨read, isRead, rfl⟩ := Option.map_eq_some_iff.mp decoded
    exact ⟨named isType (by decide), isRead⟩
  next isType =>
    rcases Option.or_eq_some_iff.mp decoded with typed | ⟨-, fallback⟩
    · obtain ⟨read, isRead, rfl⟩ := Option.map_eq_some_iff.mp typed
      exact ⟨named isType (by decide), isRead⟩
    · exact raw fallback
  next isType =>
    rcases Option.or_eq_some_iff.mp decoded with typed | ⟨-, fallback⟩
    · obtain ⟨read, isRead, rfl⟩ := Option.map_eq_some_iff.mp typed
      exact ⟨named isType (by decide), isRead⟩
    · exact raw fallback
  next isType =>
    obtain ⟨read, isRead, rfl⟩ := Option.map_eq_some_iff.mp decoded
    exact ⟨named isType (by decide), isRead⟩
  next => exact raw decoded

/-- A typed activity is read back, whatever it is. -/
theorem decode_toValue_of_typed
    {activity : ApActivities Url} (typed : ∀ raw, activity ≠ .passthrough raw) :
    decode activity.toValue = some activity := by
  cases activity with
  | follow activity => simp [decode, toValue, Follow.toValue, decodeFollow, decodeTyped_activityValue]
  | accept activity =>
      simp [decode, toValue, Accept.toValue, decodeAccept, decodeTyped_activityValue]
  | reject activity =>
      simp [decode, toValue, Reject.toValue, decodeReject, decodeTyped_activityValue]
  | undo activity => simp [decode, toValue, Undo.toValue, decodeUndo, decodeTyped_activityValue]
  | delete activity =>
      simp [decode, toValue, Delete.toValue, decodeDelete, decodeTyped_activityValue]
  | create activity =>
      simp [decode, toValue, Create.toValue, decodeCreate, decodeTyped_activityValue]
  | update activity =>
      simp [decode, toValue, Update.toValue, decodeUpdate, decodeTyped_activityValue]
  | move activity =>
      have isMove : activity.toValue.getStr "type" = some "Move" := by
        simp [Move.toValue, Value.getStr, Value.get_object_cons, Value.asStr]
      simp [decode, toValue, isMove, decodeMove_toValue]
  | passthrough activity => exact (typed activity rfl).elim

/-! ## Lenient types -/

section Lenient

variable {members : List (String × Value)} {id actor : Url}
  (isId : ((Value.object members).getStr "id").bind parse = some id)
  (isActor : ((Value.object members).getStr "actor").bind parse = some actor)

include isId isActor

theorem decodePassthrough_eq :
    decodePassthrough (.object members) = some ⟨id, actor, .object members⟩ := by
  simp [decodePassthrough, isId, isActor]

/-- A typed reading that falls back on the raw value. -/
theorem ids_of_fallback
    (name : String) {make : Url × Url × Value → ApActivities Url}
    (keepsIds : ∀ id actor object,
      (make (id, actor, object)).id = id ∧ (make (id, actor, object)).actor = actor) :
    ∃ activity, ((decodeTyped name some (.object members)).map make).or
        ((decodePassthrough (.object members)).map .passthrough) = some activity ∧
      activity.id = id ∧ activity.actor = actor := by
  cases decoded : (decodeTyped name some (.object members) : Option (Url × Url × Value)) with
  | none =>
      rw [decodePassthrough_eq isId isActor]
      exact ⟨_, rfl, rfl, rfl⟩
  | some read =>
      obtain ⟨readId, readActor, object⟩ := read
      obtain ⟨sameId, sameActor, -⟩ := fields_of_decodeTyped decoded
      rw [← getStr_bind_parse, isId] at sameId
      rw [← getStr_bind_parse, isActor] at sameActor
      cases sameId
      cases sameActor
      exact ⟨_, rfl, keepsIds _ _ _⟩

/-- An object with an id and an actor is read, where its type is lenient. -/
theorem decode_of_lenient
    (lenient : ∀ type ∈ (Value.object members).getStr "type",
      type ∉ ["Follow", "Accept", "Reject", "Delete", "Move"]) :
    ∃ activity, decode (.object members) = some activity ∧
      activity.id = id ∧ activity.actor = actor := by
  have strict {type : String} (isType : ((Value.object members).getStr "type").getD "" = type)
      (named : type ≠ "") : type ∉ ["Follow", "Accept", "Reject", "Delete", "Move"] := by
    refine lenient type ?_
    cases written : (Value.object members).getStr "type" with
    | none =>
        rw [written] at isType
        exact (named isType.symm).elim
    | some other =>
        rw [written] at isType
        rw [← isType]
        rfl
  unfold decode
  split
  next isType => exact absurd (strict isType (by decide)) (by decide)
  next isType => exact absurd (strict isType (by decide)) (by decide)
  next isType => exact absurd (strict isType (by decide)) (by decide)
  next =>
    simp only [decodeUndo, Option.map_map]
    exact ids_of_fallback isId isActor "Undo" fun _ _ _ => ⟨rfl, rfl⟩
  next isType => exact absurd (strict isType (by decide)) (by decide)
  next =>
    simp only [decodeCreate, Option.map_map]
    exact ids_of_fallback isId isActor "Create" fun _ _ _ => ⟨rfl, rfl⟩
  next =>
    simp only [decodeUpdate, Option.map_map]
    exact ids_of_fallback isId isActor "Update" fun _ _ _ => ⟨rfl, rfl⟩
  next isType => exact absurd (strict isType (by decide)) (by decide)
  next =>
    rw [decodePassthrough_eq isId isActor]
    exact ⟨_, rfl, rfl, rfl⟩

end Lenient

/-- The wire format. An object with an id and an actor, whose type is `Create`,
`Update`, `Undo`, absent, no string or unknown, is read with that id and actor.
And whatever has been read is read back from what it is written as. -/
theorem wire_format :
    (∀ (members : List (String × Value)) (id actor : Url),
      ((Value.object members).getStr "id").bind parse = some id →
      ((Value.object members).getStr "actor").bind parse = some actor →
      (∀ type ∈ (Value.object members).getStr "type",
        type ∉ ["Follow", "Accept", "Reject", "Delete", "Move"]) →
      ∃ activity, decode (.object members) = some activity ∧
        activity.id = id ∧ activity.actor = actor) ∧
    (∀ (value : Value) (activity : ApActivities Url), decode value = some activity →
      decode activity.toValue = some activity) := by
  refine ⟨fun members id actor isId isActor => decode_of_lenient isId isActor, fun value activity decoded => ?_⟩
  cases activity with
  | passthrough activity =>
      rw [toValue, show activity.raw = value from readFrom_of_decode decoded]
      exact decoded
  | _ => exact decode_toValue_of_typed (by simp)

end ApActivities

open Sample in
/-- A `Create` without an object is kept raw, and read back. -/
theorem bare_create_read_back :
    ∃ activity : ApActivities NormalUrl,
      ApActivities.decode (.object [("type", .string "Create"), ("id", .string "https://b/1"),
        ("actor", .string "https://b/1")]) = some activity ∧
      ApActivities.decode activity.toValue = some activity := by
  obtain ⟨activity, decoded, -⟩ := ApActivities.wire_format.1
    [("type", .string "Create"), ("id", .string "https://b/1"), ("actor", .string "https://b/1")]
    (NormalUrl.ofText "https://b/1" (by decide))
    (NormalUrl.ofText "https://b/1" (by decide))
    (Option.some_get _).symm (Option.some_get _).symm (by
      rintro type ⟨rfl⟩
      decide)
  exact ⟨activity, decoded, ApActivities.wire_format.2 _ _ decoded⟩

end TootTok
