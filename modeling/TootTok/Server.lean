import TootTok.Effects.Service
import TootTok.Handler
import TootTok.JobQueue
import TootTok.Media
import TootTok.Relational.Join

/-!
# The server

What the background tasks of the server work on: the database and the media
directory. Their operations are those of the handlers, the statements of the job
queue and of the media pipeline, and the calls of the file system, of ffmpeg and
of other servers.
-/

namespace TootTok

open Effects
open Json (Value)
open Relational (Table SerialTable join orderBy)

/-- The database, and which absolute paths are files. -/
structure Server extends Db where
  files : String → Bool

/-- Outcome of one delivery attempt. -/
inductive DeliverOutcome
  | delivered
  /-- A permanent refusal by the other server. -/
  | rejected (reason : String)
  | failed (reason : String)
deriving DecidableEq

/-- What the outside world contributes to one operation. -/
structure WorkerEnv (Url : Type) extends Env Url where
  /-- The rows that other statements have locked at this moment. -/
  locked : Nat → Bool
  /-- The time limit of the job has passed. -/
  late : Bool
  setting : String → Option Value
  /-- What ffprobe says of a file that it can decode. -/
  probed : ProbeInfo
  deliver : ActorRow → Url → Value → Except Error DeliverOutcome

/-! ## The operations -/

inductive WorkerOp (Url : Type)
  | base (op : Operation Url)
  -- jobs
  | claimNextDue (worker : String)
  | markDone (id : Nat)
  | deadLetter (id : Nat)
  | handBack (id : Nat)
  | postpone (id : Nat) (backoffSecs : Nat)
  | bump (id : Nat) (lockedBy : Option String)
  | reapStale (timeoutSecs : Nat)
  -- clips and assets
  | updateProbeInfo (id : Int) (durationS : Option F64) (width height : Option Int32)
  | markFailed (id : Int)
  | markReady (id : Int)
  | createAsset (new : NewAsset)
  | upsertAsset (new : NewAsset)
  | markAssetsReady (clipId : Int)
  | deleteAssets (clipId : Int)
  | assetPathsOfActor (actorId : Nat)
  -- follows and settings
  | remoteFollowers (targetActorId : Nat)
  | fetchSetting (key : String)
  -- files
  | writeFile (path : String)
  | removeFile (path : String)
  | statFile (path : String)
  | tempdir
  | readScratch (path : String)
  | ffprobe (path : String)
  | ffmpeg (input output : String)
  -- other servers
  | deliver (signer : ActorRow) (inbox : Url) (activity : Value)
  -- the clock
  | deadlinePassed

namespace WorkerOp

variable {Url : Type}

/-- What an operation returns when it succeeds. -/
@[reducible] def Result : WorkerOp Url → Type
  | .base op => op.Result
  | .claimNextDue _ | .markDone _ | .deadLetter _ => Option JobRow
  | .handBack _ | .postpone _ _ => Unit
  | .bump _ _ => Bool
  | .reapStale _ => List JobRow
  | .updateProbeInfo _ _ _ _ | .markFailed _ | .markReady _ => Option ClipRow
  | .createAsset _ | .upsertAsset _ => MediaAssetRow
  | .markAssetsReady _ | .deleteAssets _ => Unit
  | .assetPathsOfActor _ => List String
  | .remoteFollowers _ => List ActorRow
  | .fetchSetting _ => Option Value
  | .writeFile _ | .removeFile _ | .statFile _ => Unit
  | .tempdir => String
  | .readScratch _ => Unit
  | .ffprobe _ => ProbeInfo
  | .ffmpeg _ _ => Unit
  | .deliver _ _ _ => DeliverOutcome
  | .deadlinePassed => Bool

end WorkerOp

/-! ## Their effects -/

namespace Server

def onJobs {α : Type} (query : JobTable → α × JobTable) (server : Server) : α × Server :=
  ((query server.jobs).1, { server with jobs := (query server.jobs).2 })

def onClips {α : Type} (query : ClipTable → α × ClipTable) (server : Server) : α × Server :=
  ((query server.clips).1, { server with clips := (query server.clips).2 })

def onAssets {α : Type} (query : MediaAssetTable → α × MediaAssetTable) (server : Server) :
    α × Server :=
  ((query server.mediaAssets).1,
    { server with mediaAssets := (query server.mediaAssets).2 })

def setFile (path : String) (present : Bool) (server : Server) : Server :=
  { server with files := Function.update server.files path present }

/-- The clip that an asset row refers to. -/
def clipOf (server : Server) (clipId : Int) : Option ClipRow :=
  server.clips.find? (ClipRow.hasId clipId)

/-- A statement on assets, under the foreign key to their clip. -/
def onAssetsOf (clipId : Int)
    (query : ClipRow → MediaAssetTable → Except DbError MediaAssetRow × MediaAssetTable)
    (server : Server) : Except DbError MediaAssetRow × Server :=
  match server.clipOf clipId with
  | some clip => server.onAssets (query clip)
  | none => (.error .failed, server)

/-- `Follow::remote_follower_actors`. -/
def remoteFollowers (targetActorId : Nat) (db : Db) : List ActorRow :=
  orderBy ActorRow.id
    (((join db.follows.rows db.actors.rows fun follow actor =>
      actor.id = follow.followerActorId).filter fun row =>
        decide (row.1.targetActorId = targetActorId ∧ row.1.state = .accepted) &&
          row.2.domain.isSome).map Prod.snd)

/-- The files of the clips of an actor. -/
def assetPathsOfActor (actorId : Nat) (db : Db) : List String :=
  ((join db.mediaAssets.rows db.clips.rows fun asset clip => clip.id = asset.clipId).filter
    fun row => decide (row.2.actorId = actorId)).map fun row => row.1.path

end Server

namespace WorkerOp

variable {Url : Type}

/-- A statement that always answers. -/
def answered {α : Type} (outcome : α × Server) : Except Error α × Server :=
  (.ok outcome.1, outcome.2)

/-- A statement that may violate a constraint. -/
def checked {α : Type} (outcome : Except DbError α × Server) : Except Error α × Server :=
  (outcome.1.mapError .db, outcome.2)

/-- An operation on a file that has to exist. -/
def onFile {α : Type} (path : String) (value : α) (server : Server) :
    Except Error α × Server :=
  (if server.files path then .ok value else .error (.other "no such file"), server)

/-- The effect of an operation that does not fail for an outside reason. -/
def perform (env : WorkerEnv Url) :
    (op : WorkerOp Url) → Server → Except Error op.Result × Server
  | .base op, server =>
      ((Operation.exec env.toEnv op server.toDb).1,
        { server with toDb := (Operation.exec env.toEnv op server.toDb).2 })
  | .claimNextDue worker, server =>
      answered (server.onJobs (Jobs.claimNextDue worker env.now env.locked))
  | .markDone id, server => answered (server.onJobs (Jobs.markDone id))
  | .deadLetter id, server => answered (server.onJobs (Jobs.deadLetter id))
  | .handBack id, server => answered (server.onJobs fun table => ((), Jobs.handBack id table))
  | .postpone id backoffSecs, server =>
      answered (server.onJobs fun table => ((), Jobs.postpone id env.now backoffSecs table))
  | .bump id lockedBy, server => answered (server.onJobs (Jobs.bump id lockedBy))
  | .reapStale timeoutSecs, server =>
      answered (server.onJobs (Jobs.reapStale env.now timeoutSecs))
  | .updateProbeInfo id durationS width height, server =>
      checked (server.onClips (Clips.updateProbeInfo id durationS width height))
  | .markFailed id, server => answered (server.onClips (Clips.markFailed id))
  | .markReady id, server => checked (server.onClips (Clips.markReady id env.now))
  | .createAsset new, server =>
      checked (server.onAssetsOf new.clipId (MediaAssets.create new))
  | .upsertAsset new, server =>
      checked (server.onAssetsOf new.clipId (MediaAssets.upsert new))
  | .markAssetsReady clipId, server =>
      answered (server.onAssets fun table =>
        ((), MediaAssets.markReadyForClip clipId env.now table))
  | .deleteAssets clipId, server =>
      answered (server.onAssets fun table => ((), MediaAssets.deleteForClip clipId table))
  | .assetPathsOfActor actorId, server =>
      (.ok (Server.assetPathsOfActor actorId server.toDb), server)
  | .remoteFollowers targetActorId, server =>
      (.ok (Server.remoteFollowers targetActorId server.toDb), server)
  | .fetchSetting key, server => (.ok (env.setting key), server)
  | .writeFile path, server => (.ok (), server.setFile path true)
  | .removeFile path, server => (.ok (), server.setFile path false)
  | .statFile path, server => onFile path () server
  | .tempdir, server => (.ok env.uuid, server)
  | .readScratch _, server => (.ok (), server)
  | .ffprobe path, server => onFile path env.probed server
  | .ffmpeg input _, server => onFile input () server
  | .deliver signer inbox activity, server => (env.deliver signer inbox activity, server)
  | .deadlinePassed, server => (.ok env.late, server)

/-- The error with which an operation fails for an outside reason. -/
def failure (env : WorkerEnv Url) : WorkerOp Url → Option Error
  | .base _ | .deadlinePassed => none
  | _ => env.fault

/-- A failed operation has no effect. -/
def exec : Program.Executor (@Result Url) Error Server (WorkerEnv Url) :=
  fun env op server =>
    match failure env op with
    | some error => (.error error, server)
    | none => perform env op server

theorem exec_cases (env : WorkerEnv Url) (op : WorkerOp Url) (server : Server) :
    (∃ error, exec env op server = (.error error, server)) ∨
      exec env op server = perform env op server := by
  unfold exec
  cases failure env op with
  | some error => exact .inl ⟨error, rfl⟩
  | none => exact .inr rfl

/-! ## What an operation writes -/

inductive Part
  | jobs
  | clips
  | actors
  | assets
  | files
deriving DecidableEq

/-- An operation may change this part of the server. -/
def Writes : WorkerOp Url → Part → Prop
  | .base op, .jobs => op.writes = some .jobs
  | .base op, .clips => op.writes = some .clips
  | .base op, .actors => op.writes = some .actors
  | .claimNextDue _, .jobs | .markDone _, .jobs | .deadLetter _, .jobs | .handBack _, .jobs
  | .postpone _ _, .jobs | .bump _ _, .jobs | .reapStale _, .jobs => True
  | .updateProbeInfo _ _ _ _, .clips | .markFailed _, .clips | .markReady _, .clips => True
  | .createAsset _, .assets | .upsertAsset _, .assets | .markAssetsReady _, .assets
  | .deleteAssets _, .assets => True
  | .writeFile _, .files | .removeFile _, .files => True
  | _, _ => False

end WorkerOp

/-- The two states agree on a part. -/
def Server.SamePart (left right : Server) : WorkerOp.Part → Prop
  | .jobs => left.jobs = right.jobs
  | .clips => left.clips = right.clips
  | .actors => left.actors = right.actors
  | .assets => left.mediaAssets = right.mediaAssets
  | .files => left.files = right.files

namespace WorkerOp

variable {Url : Type}

/-- No handler writes the assets. -/
theorem base_mediaAssets (env : Env Url) (op : Operation Url) (db : Db) :
    (Operation.exec env op db).2.mediaAssets = db.mediaAssets := by
  rcases Operation.exec_cases env op db with ⟨error, failed⟩ | performed
  · rw [failed]
  · rw [performed]
    cases op <;> rfl

/-- The frame of an operation: every part but those it writes. -/
theorem exec_frame (part : Part) {op : WorkerOp Url} (frame : ¬op.Writes part)
    (env : WorkerEnv Url) (server : Server) :
    (exec env op server).2.SamePart server part := by
  rcases exec_cases env op server with ⟨error, failed⟩ | performed
  · rw [failed]
    cases part <;> rfl
  · rw [performed]
    cases op with
    | base op =>
        cases part with
        | jobs => exact Operation.exec_frame .jobs frame env.toEnv server.toDb
        | clips => exact Operation.exec_frame .clips frame env.toEnv server.toDb
        | actors => exact Operation.exec_frame .actors frame env.toEnv server.toDb
        | assets => exact base_mediaAssets env.toEnv op server.toDb
        | files => rfl
    | createAsset new =>
        cases part with
        | assets => exact (frame trivial).elim
        | _ =>
            simp only [perform, checked, Server.onAssetsOf]
            split <;> rfl
    | upsertAsset new =>
        cases part with
        | assets => exact (frame trivial).elim
        | _ =>
            simp only [perform, checked, Server.onAssetsOf]
            split <;> rfl
    | _ => cases part <;> first | rfl | exact (frame trivial).elim

end WorkerOp
end TootTok
