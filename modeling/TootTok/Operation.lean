import TootTok.Queries
import TootTok.Duration
import TootTok.Effects.Gate

/-!
# Operations

Everything a handler does to the world outside its own memory: one operation
for each query of the database crate, and the requests to other servers. A
handler is a program over these operations, and every operation is atomic.
-/

namespace TootTok

open Json (Value textStorable)
open Relational (Table SerialTable)

/-! ## Errors -/

/-- Why a request to another server brought no document. -/
inductive FetchError
  /-- The server answers that the object is gone. -/
  | gone
  | failed
deriving DecidableEq

/-- Errors of the federation code. -/
inductive Error
  | db (error : DbError)
  | notFound
  | fetch (error : FetchError)
  | url
  | other (message : String)
  /-- The task was aborted; no caller can handle this. -/
  | panicked (panic : Panic)
deriving DecidableEq

/-! ## Remote documents -/

/-- An actor document as the federation crate deserialises it. -/
structure ApActor (Url : Type) where
  kind : ActorType
  id : Url
  preferredUsername : String
  name : Option String
  summary : Option String
  inbox : Url
  outbox : Option Url
  followers : Option Url
  sharedInbox : Option Url
  publicKeyPem : String

/-- What the outside world contributes to one operation. -/
structure Env (Url : Type) where
  /-- The operation fails with this error and has no effect. -/
  fault : Option Error
  now : DateTime
  uuid : String
  /-- The crate takes a cached actor for outdated. -/
  outdated : Bool
  /-- The crate's fetch of an actor. It makes sure that the document names the
  URL it was finally fetched from. -/
  fetchActor : Url → Except FetchError (ApActor Url)
  getJson : Url → Except FetchError Value
  getText : Url → Except FetchError String

/-- A world without faults in which no other server answers. -/
def Env.offline {Url : Type} : Env Url where
  fault := none
  now := ⟨0⟩
  uuid := "u-0"
  outdated := false
  fetchActor _ := .error .failed
  getJson _ := .error .failed
  getText _ := .error .failed

instance {Url : Type} : Nonempty (Env Url) := ⟨.offline⟩

/-! ## The operations -/

inductive Operation (Url : Type)
  -- actors
  | fetchActorById (id : Nat)
  | fetchActorByApId (apId : String)
  | fetchActorByUsernameLocal (username : String)
  | searchActors (pattern : String)
  | createActor (new : NewActor)
  | insertInstanceActor (new : NewActor)
  | upsertRemote (parts : RemoteActorParts)
  | markActorDeleted (id : Nat)
  | markRemoteDeletedByApId (apId : String)
  -- clips
  | fetchClipById (id : Nat)
  | fetchClipByApId (apId : String)
  | createRemote (new : NewRemoteClip)
  | createPendingUpload (new : NewUpload)
  | updateNoteFields
      (id : Nat) (captionHtml : Option String) (isSensitive : Bool) (cwText : Option String)
  | setApId (id : Nat) (apId : String)
  | markClipDeleted (id : Nat)
  | markClipsOfActorDeleted (actorId : Nat)
  | largestVideoFilename (clipId : Nat)
  -- follows
  | fetchFollowByPair (followerId targetId : Nat)
  | fetchFollowByActivityId (activityId : String)
  | upsertFollow
      (followerId targetId : Nat) (activityId : Option String) (state : FollowState)
  | setFollowState (followerId targetId : Nat) (state : FollowState)
  | deleteFollow (followerId targetId : Nat)
  -- activities
  | tryCreateInbound (new : NewActivity)
  | createOutbound (new : NewActivity)
  | stampProcessed (activityId : String)
  -- tombstones
  | upsertTombstone (apId : String) (type : TombstoneType)
  | insertTombstone (apId : String) (type : TombstoneType)
  | tombstoneExists (apId : String)
  -- jobs
  | createJob (kind : JobKind) (payload : Value)
  -- outside the database
  | newUuid
  | actorOutdated
  | fetchActor (url : Url)
  | getJson (url : Url)
  | getText (url : Url)

namespace Operation

variable {Url : Type}

/-- What an operation returns when it succeeds. -/
@[reducible] def Result : Operation Url → Type
  | .fetchActorById _ | .fetchActorByApId _ | .fetchActorByUsernameLocal _
  | .insertInstanceActor _ | .markActorDeleted _
  | .markRemoteDeletedByApId _ => Option ActorRow
  | .searchActors _ => List ActorRow
  | .createActor _ | .upsertRemote _ => ActorRow
  | .fetchClipById _ | .fetchClipByApId _ | .updateNoteFields _ _ _ _
  | .markClipDeleted _ => Option ClipRow
  | .createRemote _ | .createPendingUpload _ => ClipRow
  | .setApId _ _ | .markClipsOfActorDeleted _ | .insertTombstone _ _ => Unit
  | .largestVideoFilename _ => Option String
  | .fetchFollowByPair _ _ | .fetchFollowByActivityId _
  | .setFollowState _ _ _ => Option FollowRow
  | .upsertFollow _ _ _ _ => FollowRow
  | .deleteFollow _ _ => Bool
  | .tryCreateInbound _ | .stampProcessed _ => Option ActivityRow
  | .createOutbound _ => ActivityRow
  | .upsertTombstone _ _ => TombstoneRow
  | .tombstoneExists _ => Bool
  | .createJob _ _ => JobRow
  | .newUuid => String
  | .actorOutdated => Bool
  | .fetchActor _ => ApActor Url
  | .getJson _ => Value
  | .getText _ => String

/-- The texts an operation sends to the database. -/
def texts : Operation Url → List String
  | .fetchActorByApId apId | .markRemoteDeletedByApId apId | .fetchClipByApId apId
  | .upsertTombstone apId _ | .insertTombstone apId _ | .tombstoneExists apId
  | .setApId _ apId => [apId]
  | .fetchActorByUsernameLocal username => [username]
  | .searchActors pattern => [pattern]
  | .createActor new | .insertInstanceActor new =>
      [new.username, new.publicKeyPem, new.privateKeyPem, new.inboxUrl,
        new.sharedInboxUrl, new.outboxUrl, new.followersUrl, new.apId]
  | .upsertRemote parts =>
      [parts.id, parts.domain, parts.username, parts.publicKeyPem, parts.inbox,
        parts.outbox, parts.followers] ++
      parts.sharedInbox.toList ++ parts.displayName.toList ++ parts.summary.toList ++
      parts.avatarUrl.toList
  | .createRemote new =>
      [new.apId, new.remoteMediaUrl] ++ new.captionHtml.toList ++ new.cwText.toList
  | .createPendingUpload new =>
      [new.apId, new.sha256Hash] ++ new.captionHtml.toList
  | .updateNoteFields _ captionHtml _ cwText => captionHtml.toList ++ cwText.toList
  | .fetchFollowByActivityId activityId | .stampProcessed activityId => [activityId]
  | .upsertFollow _ _ activityId _ => activityId.toList
  | .tryCreateInbound new | .createOutbound new =>
      [new.activityId, new.actorApId] ++ new.objectApId.toList
  | _ => []

/-- The documents an operation sends to the database. -/
def documents : Operation Url → List Value
  | .tryCreateInbound new | .createOutbound new => [new.raw]
  | .createJob _ payload => [payload]
  | _ => []

/-- The database can store every parameter. -/
def storable (op : Operation Url) : Bool :=
  op.texts.all textStorable && op.documents.all Value.storable

end Operation

/-! ## Effects on the database -/

namespace Db

def onActors {α : Type} (query : ActorTable → α × ActorTable) (db : Db) : α × Db :=
  ((query db.actors).1, { db with actors := (query db.actors).2 })

def onClips {α : Type} (query : ClipTable → α × ClipTable) (db : Db) : α × Db :=
  ((query db.clips).1, { db with clips := (query db.clips).2 })

def onFollows {α : Type} (query : FollowTable → α × FollowTable) (db : Db) : α × Db :=
  ((query db.follows).1, { db with follows := (query db.follows).2 })

def onActivities {α : Type} (query : ActivityTable → α × ActivityTable) (db : Db) :
    α × Db :=
  ((query db.activities).1, { db with activities := (query db.activities).2 })

def onTombstones {α : Type} (query : TombstoneTable → α × TombstoneTable) (db : Db) :
    α × Db :=
  ((query db.tombstones).1, { db with tombstones := (query db.tombstones).2 })

def onJobs {α : Type} (query : JobTable → α × JobTable) (db : Db) : α × Db :=
  ((query db.jobs).1, { db with jobs := (query db.jobs).2 })

end Db

namespace Operation

variable {Url : Type}

/-- A query that always answers. -/
def answered {α : Type} (outcome : α × Db) : Except Error α × Db :=
  (.ok outcome.1, outcome.2)

/-- A query that may violate a constraint. -/
def checked {α : Type} (outcome : Except DbError α × Db) : Except Error α × Db :=
  (outcome.1.mapError .db, outcome.2)

/-- A request to another server. -/
def requested {α : Type} (response : Except FetchError α) (db : Db) :
    Except Error α × Db :=
  (response.mapError .fetch, db)

/-- The effect of an operation that reaches the database or the network. -/
def perform (env : Env Url) :
    (op : Operation Url) → Db → Except Error op.Result × Db
  | .fetchActorById id, db => (.ok (db.actorById id), db)
  | .fetchActorByApId apId, db => (.ok (db.actorByApId apId), db)
  | .fetchActorByUsernameLocal username, db =>
      (.ok (db.localActorByUsername username), db)
  | .searchActors pattern, db => (.ok (Actors.search pattern db.actors), db)
  | .createActor new, db => checked (db.onActors (Actors.create new))
  | .insertInstanceActor new, db => checked (db.onActors (Actors.insertInstanceActor new))
  | .upsertRemote parts, db => checked (db.onActors (Actors.upsertRemote parts))
  | .markActorDeleted id, db => answered (db.onActors (Actors.markDeleted id env.now))
  | .markRemoteDeletedByApId apId, db =>
      answered (db.onActors (Actors.markRemoteDeletedByApId apId env.now))
  | .fetchClipById id, db => (.ok (db.clipById id), db)
  | .fetchClipByApId apId, db => (.ok (db.clipByApId apId), db)
  | .createRemote new, db => checked (db.onClips (Clips.createRemote new env.now))
  | .createPendingUpload new, db =>
      checked (db.onClips (Clips.createPendingUpload new env.now))
  | .updateNoteFields id captionHtml isSensitive cwText, db =>
      answered (db.onClips (Clips.updateNoteFields id captionHtml isSensitive cwText))
  | .setApId id apId, db => checked (db.onClips (Clips.setApId id apId))
  | .markClipDeleted id, db => answered (db.onClips (Clips.markDeleted id env.now))
  | .markClipsOfActorDeleted actorId, db =>
      answered (db.onClips fun table =>
        ((), Clips.markDeletedOfActor actorId env.now table))
  | .largestVideoFilename clipId, db =>
      (.ok (MediaAssets.largestVideoFilename clipId db.mediaAssets), db)
  | .fetchFollowByPair followerId targetId, db =>
      (.ok (db.followByPair followerId targetId), db)
  | .fetchFollowByActivityId activityId, db =>
      (.ok (db.followByActivityId activityId), db)
  | .upsertFollow followerId targetId activityId state, db =>
      checked (db.onFollows (Follows.upsert followerId targetId activityId state))
  | .setFollowState followerId targetId state, db =>
      answered (db.onFollows (Follows.setState followerId targetId state))
  | .deleteFollow followerId targetId, db =>
      answered (db.onFollows (Follows.delete followerId targetId))
  | .tryCreateInbound new, db => answered (db.onActivities (Activities.tryCreateInbound new))
  | .createOutbound new, db => checked (db.onActivities (Activities.createOutbound new))
  | .stampProcessed activityId, db =>
      answered (db.onActivities (Activities.stampProcessed activityId env.now))
  | .upsertTombstone apId type, db =>
      checked (db.onTombstones (Tombstones.upsert apId type env.now))
  | .insertTombstone apId type, db =>
      answered (db.onTombstones fun table =>
        ((), Tombstones.insert apId type env.now table))
  | .tombstoneExists apId, db => (.ok (db.tombstoned apId), db)
  | .createJob kind payload, db => checked (db.onJobs (Jobs.create kind payload env.now))
  | .newUuid, db => (.ok env.uuid, db)
  | .actorOutdated, db => (.ok env.outdated, db)
  | .fetchActor url, db => requested (env.fetchActor url) db
  | .getJson url, db => requested (env.getJson url) db
  | .getText url, db => requested (env.getText url) db

/-- Operations that are computed in the process and cannot fail. -/
def infallible : Operation Url → Bool
  | .newUuid | .actorOutdated => true
  | _ => false

/-- The error with which an operation fails, if it does: the environment makes
it fail, or the database refuses a parameter. -/
def failure (env : Env Url) (op : Operation Url) : Option Error :=
  if op.infallible then none
  else env.fault.or (if op.storable then none else some (.db .unstorable))

/-- A failed operation has no effect. -/
def exec : Effects.Program.Executor (@Operation.Result Url) Error Db (Env Url) :=
  fun env op db =>
    match failure env op with
    | some error => (.error error, db)
    | none => perform env op db

theorem exec_of_failure
    {env : Env Url} {op : Operation Url} {error : Error}
    (failed : failure env op = some error) (db : Db) :
    exec env op db = (.error error, db) := by
  unfold exec
  rw [failed]

theorem exec_of_success
    {env : Env Url} {op : Operation Url}
    (succeeded : failure env op = none) (db : Db) :
    exec env op db = perform env op db := by
  unfold exec
  rw [succeeded]

theorem exec_cases (env : Env Url) (op : Operation Url) (db : Db) :
    (∃ error, exec env op db = (.error error, db)) ∨
      exec env op db = perform env op db := by
  cases failed : failure env op with
  | some error => exact .inl ⟨error, exec_of_failure failed db⟩
  | none => exact .inr (exec_of_success failed db)

/-! ## Which table an operation writes -/

inductive TableName
  | actors
  | clips
  | follows
  | activities
  | tombstones
  | jobs
deriving DecidableEq

/-- The table an operation may change, if any. -/
def writes : Operation Url → Option TableName
  | .createActor _ | .insertInstanceActor _ | .upsertRemote _ | .markActorDeleted _
  | .markRemoteDeletedByApId _ => some .actors
  | .createRemote _ | .createPendingUpload _ | .updateNoteFields _ _ _ _ | .setApId _ _
  | .markClipDeleted _ | .markClipsOfActorDeleted _ => some .clips
  | .upsertFollow _ _ _ _ | .setFollowState _ _ _ | .deleteFollow _ _ => some .follows
  | .tryCreateInbound _ | .createOutbound _ | .stampProcessed _ => some .activities
  | .upsertTombstone _ _ | .insertTombstone _ _ => some .tombstones
  | .createJob _ _ => some .jobs
  | _ => none

end Operation

/-- The two states agree on a table. -/
def Db.SameTable (left right : Db) : Operation.TableName → Prop
  | .actors => left.actors = right.actors
  | .clips => left.clips = right.clips
  | .follows => left.follows = right.follows
  | .activities => left.activities = right.activities
  | .tombstones => left.tombstones = right.tombstones
  | .jobs => left.jobs = right.jobs

/-- The frame of an operation: every table but the one it writes. -/
theorem Operation.exec_frame {Url : Type}
    (name : TableName) {op : Operation Url}
    (frame : op.writes ≠ some name) (env : Env Url) (db : Db) :
    (exec env op db).2.SameTable db name := by
  rcases exec_cases env op db with ⟨error, failed⟩ | performed
  · rw [failed]
    cases name <;> rfl
  · rw [performed]
    cases op <;> cases name <;> first | rfl | exact (frame rfl).elim

end TootTok
