import TootTok.Handler

/-!
# The inbox

How each type of activity is processed, once the signature of its request has
been verified. Every handler starts at the idempotency gate: it logs the
activity and goes on only if the log had no row with its id.
-/

namespace TootTok

open Effects
open Json (Value)
open UrlCrate

variable {Url : Type} [UrlCrate Url]

/-- What the handlers know of their instance. -/
structure FederationData where
  domain : String
  baseUrl : String
deriving DecidableEq

def Config.federationData (config : Config) : FederationData where
  domain := config.federationDomain
  baseUrl := config.publicBaseUrl

/-! ## Pipeline -/

/-- The idempotency gate: false for a duplicate delivery. -/
def inboundBegin
    (activityId : Url) (actorApId : String) (objectApId : Option String) (raw : Value) :
    Handler Url Bool := do
  let inserted ← query (.tryCreateInbound ⟨asStr activityId, actorApId, objectApId, raw⟩)
  pure inserted.isSome

/-- Stamp the activity as processed. -/
def inboundFinish (activityId : Url) : Handler Url Unit := do
  let _ ← query (.stampProcessed (asStr activityId))
  pure ()

/-- The pipeline of every handler: the gate, its own work, the stamp. Each of
its branches that ends without an error ends with the stamp. -/
def pipeline
    (activityId : Url) (actorApId : String) (objectApId : Option String) (raw : Value)
    (work : Handler Url Unit) : Handler Url Unit := do
  if ← inboundBegin activityId actorApId objectApId raw then do
    work
    inboundFinish activityId
  else
    pure ()

def tombstoned (objectApId : String) : Handler Url Bool :=
  query (.tombstoneExists objectApId)

/-- Queue a signed delivery. -/
def enqueueDelivery (actorId : Nat) (inboxUrl : String) (activity : Value) :
    Handler Url Unit := do
  let _ ← query (.createJob .deliver (.object [
    ("actor_id", .number (.ofInt actorId)),
    ("inbox_url", .string inboxUrl),
    ("activity", activity)]))
  pure ()

/-- Queue a fetch of the recent posts of an actor. -/
def enqueueBackfill (actorId max : Nat) : Handler Url Unit := do
  let _ ← query (.createJob .backfillActor (.object [
    ("actor_id", .number (.ofInt actorId)),
    ("max", .number (.ofInt max))]))
  pure ()

/-! ## Follow -/

/-- Accept a follow and queue the reply. -/
def Follow.autoAccept
    (data : FederationData) (activity : Follow Url) (follower target : DbActor Url) :
    Handler Url Unit := do
  let _ ← query (.setFollowState follower.row.id target.row.id .accepted)
  let uuid ← query .newUuid
  let acceptJson :=
    acceptActivity data.baseUrl uuid target.apId (asStr activity.id)
      (asStr activity.actor) (asStr activity.object)
  Handler.discarded (query (.createOutbound {
    activityId := activityIdFromJson acceptJson
    actorApId := asStr target.apId
    objectApId := some (asStr activity.id)
    raw := acceptJson }))
  let inbox ← follower.sharedInboxOrInbox
  enqueueDelivery target.row.id (asStr inbox) acceptJson

/-- Record a follow of a local actor. -/
def Follow.record (data : FederationData) (activity : Follow Url) :
    Handler Url Unit := do
  let target ← dereferenceLocal activity.object
  if !isLocalUrl target.apId data.domain then pure ()
  else do
    let follower ← dereferenceLocal activity.actor
    let _ ← query (.upsertFollow follower.row.id target.row.id
      (some (asStr activity.id)) .requested)
    if target.row.isLocked then pure ()
    else activity.autoAccept data follower target

def Follow.receiveInbound (data : FederationData) (activity : Follow Url) :
    Handler Url Unit :=
  pipeline activity.id (asStr activity.actor) (some (asStr activity.object))
      activity.toValue do
    if ← tombstoned (asStr activity.object) then pure ()
    else activity.record data

/-! ## Accept, Reject, Undo -/

/-- Confirm the follow with an activity id, if there is one. -/
def acceptFollow (followId : String) : Handler Url Unit := do
  match ← query (.fetchFollowByActivityId followId) with
  | none => pure ()
  | some follow => do
      let _ ← query (.setFollowState follow.followerActorId follow.targetActorId .accepted)
      Handler.discarded (enqueueBackfill follow.targetActorId 20)

def Accept.receiveInbound (activity : Accept Url) : Handler Url Unit :=
  pipeline activity.id (asStr activity.actor) (some (asStr activity.object.id))
    activity.toValue (acceptFollow (asStr activity.object.id))

/-- Refuse the follow with an activity id, if there is one. -/
def rejectFollow (followId : String) : Handler Url Unit := do
  match ← query (.fetchFollowByActivityId followId) with
  | none => pure ()
  | some follow => do
      let _ ← query (.setFollowState follow.followerActorId follow.targetActorId .rejected)
      pure ()

def Reject.receiveInbound (activity : Reject Url) : Handler Url Unit :=
  pipeline activity.id (asStr activity.actor) (some (asStr activity.object.id))
    activity.toValue (rejectFollow (asStr activity.object.id))

/-- Remove the follow with an activity id, if there is one. -/
def undoFollow (followId : String) : Handler Url Unit := do
  match ← query (.fetchFollowByActivityId followId) with
  | none => pure ()
  | some follow => do
      let _ ← query (.deleteFollow follow.followerActorId follow.targetActorId)
      pure ()

/-- Only an object in the shape of a follow drives state. -/
def Undo.receiveInbound (activity : Undo Url) : Handler Url Unit :=
  match undoFollowTarget activity.object with
  | none =>
      pipeline activity.id (asStr activity.actor) (rawObjectId activity.toValue)
        activity.toValue (pure ())
  | some followId =>
      pipeline activity.id (asStr activity.actor) (some followId) activity.toValue
        (undoFollow followId)

/-! ## Delete -/

/-- The ap id of the author of a clip is the given one. -/
def ownsClip (clip : ClipRow) (actorApId : String) : Handler Url Bool := do
  let author ← query (.fetchActorById clip.actorId)
  pure (author.any fun author => author.apId = actorApId)

/-- Tombstone a clip and mark it deleted. -/
def deleteClip (objectId : String) (clip : ClipRow) : Handler Url Unit := do
  let _ ← query (.upsertTombstone objectId .note)
  let _ ← query (.markClipDeleted clip.id)
  pure ()

/-- The branch for an object that is no known clip: taken for an actor. -/
def deleteActor (objectId : String) : Handler Url Unit := do
  let _ ← query (.upsertTombstone objectId .person)
  Handler.discarded (query (.markRemoteDeletedByApId objectId))

/-- What a `Delete` of an object by an actor does. -/
def applyDelete (objectId actorApId : String) : Handler Url Unit := do
  match ← query (.fetchClipByApId objectId) with
  | some clip => do
      if ← ownsClip clip actorApId then deleteClip objectId clip
      else pure ()
  | none => deleteActor objectId

def Delete.receiveInbound (activity : Delete Url) : Handler Url Unit :=
  pipeline activity.id (asStr activity.actor) (some (asStr activity.object.id))
    activity.toValue (applyDelete (asStr activity.object.id) (asStr activity.actor))

/-! ## Create -/

omit [UrlCrate Url] in
/-- The columns of the clip made from a note. -/
def ParsedNote.newClip (note : ParsedNote) (actorId : Nat) : NewRemoteClip where
  actorId := actorId
  apId := note.id
  captionHtml := cleanCaption note.contentHtml
  durationS := note.attachment.durationS
  width := note.attachment.width
  height := note.attachment.height
  remoteMediaUrl := note.attachment.mediaUrl
  isSensitive := note.sensitive
  cwText := note.summary
  publishedAt := note.published

/-- Insert the clip. A taken id is no error. -/
def storeClip (note : ParsedNote) (actorId : Nat) : Handler Url Bool := do
  match ← Handler.caught (query (.createRemote (note.newClip actorId))) with
  | .ok _ => pure true
  | .error (.db .uniqueViolation) => pure false
  | .error error => .fail error

/-- Resolve the author of an accepted note and insert the clip. An author who
cannot be resolved leaves the activity unprocessed, which is no error. -/
def storeNote (data : FederationData) (actor : Url) (note : ParsedNote) :
    Handler Url Unit := do
  match ← Handler.caught (dereference data.domain actor) with
  | .error _ => pure ()
  | .ok author => do
      let _ ← storeClip note author.row.id
      pure ()

/-- The author named by a note is remote and is the signer. -/
def attributedToSigner (data : FederationData) (actor : Url) (note : ParsedNote) :
    Bool :=
  match (parse note.attributedTo : Option Url) with
  | none => false
  | some attributed =>
      !(isLocalUrl attributed data.domain || asStr attributed != asStr actor)

/-- What a `Create` of an object with an id does. -/
def ingestNote [ChronoCrate] (data : FederationData) (actor : Url) (objectId : String) (object : Value) :
    Handler Url Unit := do
  if ← tombstoned objectId then pure ()
  else
    match ← Handler.ofPanicking (Note.parseInboundNote object) with
    | .error _ => pure ()
    | .ok note =>
        if attributedToSigner data actor note then storeNote data actor note
        else pure ()

def Create.receiveInbound [ChronoCrate] (data : FederationData) (activity : Create Url) :
    Handler Url Unit :=
  pipeline activity.id (asStr activity.actor) (Note.embeddedObjectId activity.object)
    activity.toValue
    (match Note.embeddedObjectId activity.object with
      | none => pure ()
      | some objectId => ingestNote data activity.actor objectId activity.object)

/-! ## Update, Move and everything else -/

/-- What an `Update` of an object with an id does: refresh a known clip of the
signer that is not deleted. -/
def applyUpdate (objectId actorApId : String) (object : Value) : Handler Url Unit := do
  match ← query (.fetchClipByApId objectId) with
  | none => pure ()
  | some clip => do
      let owner ← ownsClip clip actorApId
      let fields := Note.extractNoteFields object
      if owner && clip.deletedAt.isNone then do
        let _ ← query (.updateNoteFields clip.id (cleanCaption fields.contentHtml)
          fields.sensitive fields.summary)
        pure ()
      else pure ()

def Update.receiveInbound (activity : Update Url) : Handler Url Unit :=
  pipeline activity.id (asStr activity.actor) (Note.embeddedObjectId activity.object)
    activity.toValue
    (match Note.embeddedObjectId activity.object with
      | none => pure ()
      | some objectId => applyUpdate objectId (asStr activity.actor) activity.object)

def Move.receiveInbound (activity : Move Url) : Handler Url Unit :=
  pipeline activity.id (asStr activity.actor) (some (asStr activity.object))
    activity.toValue (pure ())

def Passthrough.receiveInbound (activity : Passthrough Url) : Handler Url Unit :=
  pipeline activity.id (asStr activity.actor) (rawObjectId activity.raw)
    activity.raw (pure ())

/-- Dispatch on the type of the activity. -/
def ApActivities.receive [ChronoCrate] (data : FederationData) :
    ApActivities Url → Handler Url Unit
  | .follow activity => activity.receiveInbound data
  | .accept activity => activity.receiveInbound
  | .reject activity => activity.receiveInbound
  | .undo activity => activity.receiveInbound
  | .delete activity => activity.receiveInbound
  | .create activity => activity.receiveInbound data
  | .update activity => activity.receiveInbound
  | .move activity => activity.receiveInbound
  | .passthrough activity => activity.receiveInbound

end TootTok
