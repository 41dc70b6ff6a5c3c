import TootTok.Api
import TootTok.Backfill
import TootTok.LocalObjects
import TootTok.Server

/-!
# The workers

The background tasks of the server: the media workers and the delivery worker,
which take jobs off the queue, and the maintenance task, which gives stale jobs
back to it. A worker is described turn by turn: what it does with one job, from
its claim on.
-/

namespace TootTok

open Effects
open Json (Value)
open UrlCrate

variable {Url : Type}

/-- A function of the source that runs in the background. -/
abbrev Routine (Url α : Type) : Type :=
  Program (@WorkerOp.Result Url) Error α

/-- One operation, whose failure is passed on. -/
abbrev ask (op : WorkerOp Url) : Routine Url op.Result :=
  Program.perform op

namespace Routine

variable {α : Type}

/-- Continue with the outcome of a part, unless it panicked. -/
def caught (part : Routine Url α) : Routine Url (Except Error α) :=
  part.attempt >>= fun outcome =>
    match Handler.panicOf outcome with
    | some panic => .fail (.panicked panic)
    | none => .done outcome

/-- A part whose failure is at most logged. -/
def discarded (part : Routine Url α) : Routine Url Unit :=
  part.caught >>= fun _ => .done ()

/-- A handler that a background task runs. -/
def ofHandler (handler : Handler Url α) : Routine Url α :=
  handler.embed .base fun _ outcome => outcome

end Routine

open Routine

/-- What the workers are started with. -/
structure WorkerConfig where
  baseUrl : String
  mediaDir : String
  jobTimeoutSecs : Nat

/-! ## Rows -/

namespace JobKind

/-- The kind starts with `deliver`. -/
def isDeliver : JobKind → Bool
  | .deliver | .deliverFollow | .deliverCreate => true
  | .other name => "deliver".toList.isPrefixOf name.toList
  | _ => false

/-- The stages of the media pipeline. -/
def isMedia : JobKind → Bool
  | .probe | .transcode | .finalize => true
  | _ => false

end JobKind

/-- `as_u64`. -/
def Json.Value.asU64 : Value → Option Nat
  | .number (.posInt value) => some value.toNat
  | _ => none

/-- `Clip::fetch_by_id` for an id of a payload. -/
def fetchClip : Int → Routine Url (Option ClipRow)
  | .ofNat id => ask (.base (.fetchClipById id))
  | .negSucc _ => pure none

/-- `Actor::fetch_by_id` for an id of a payload. -/
def fetchActorOf : Int → Routine Url (Option ActorRow)
  | .ofNat id => ask (.base (.fetchActorById id))
  | .negSucc _ => pure none

/-- `Job::create`. -/
def enqueue (kind : JobKind) (payload : Value) : Routine Url JobRow :=
  ask (.base (.createJob kind payload))

/-! ## The store -/

def invalidKey (key : String) : Error := .other ("invalid storage key: " ++ key)

/-- Call the file system with the path of a key. -/
def onKey (mediaDir key : String) (op : String → Routine Url Unit) : Routine Url Unit :=
  match Store.abs mediaDir key with
  | some path => op path
  | none => .fail (invalidKey key)

def saveBytes (mediaDir key : String) : Routine Url Unit :=
  onKey mediaDir key fun path => ask (.writeFile path)

/-- A missing file is not an error. -/
def deleteKey (mediaDir key : String) : Routine Url Unit :=
  onKey mediaDir key fun path => ask (.removeFile path)

def openKey (mediaDir key : String) : Routine Url Unit :=
  onKey mediaDir key fun path => ask (.statFile path)

/-- Delete one key after the other, whatever becomes of each. -/
def deleteKeys (mediaDir : String) : List String → Routine Url Unit
  | [] => pure ()
  | key :: keys => do
      discarded (deleteKey mediaDir key)
      deleteKeys mediaDir keys

/-! ## Failures -/

/-- The failure path of a job that ran out of time. Only the worker that still
holds the lock counts the attempt and fails the clip. -/
def bumpJobAfterFailure (job : JobRow) (clipId : Option Int) : Routine Url Unit := do
  match ← caught (ask (.bump job.id job.lockedBy)) with
  | .ok true =>
      match clipId with
      | some clipId => discarded (ask (.markFailed clipId))
      | none => pure ()
  | _ => pure ()

/-- Fail the clips of the jobs that the reaper has given up. -/
def failClipsOfDead : List JobRow → Routine Url Unit
  | [] => pure ()
  | job :: jobs => do
      if job.state = .dead then
        match job.clipId with
        | some clipId => discarded (ask (.markFailed clipId))
        | none => pure ()
      failClipsOfDead jobs

/-- The reaper. -/
def reapStaleJobs (jobTimeoutSecs : Nat) : Routine Url Unit := do
  match ← caught (ask (.reapStale jobTimeoutSecs)) with
  | .ok jobs => failClipsOfDead jobs
  | .error _ => pure ()

/-- End a job that cannot be processed, and fail its clip if it names one. -/
def deadLetterAndFail (job : JobRow) : Routine Url Unit := do
  match job.clipId with
  | some clipId => discarded (ask (.markFailed clipId))
  | none => pure ()
  discarded (ask (.deadLetter job.id))

/-! ## Probe -/

/-- A stored number, with a default for an absent or negative one. -/
def numericSetting (key : String) (default : F64) : Routine Url F64 := do
  match ← ask (.fetchSetting key) with
  | none => pure default
  | some value =>
      let number := (match value with
        | .number number => number.asF64
        | _ => none).getD default
      if F64.zero.gt number then pure default else pure number

/-- The clip cannot be played: fail it and delete its file. -/
def rejectClip (mediaDir : String) (job : JobRow) (clipId : Int) (key : Option String) :
    Routine Url Unit := do
  discarded (ask (.markFailed clipId))
  match key with
  | some key => discarded (deleteKey mediaDir key)
  | none => pure ()
  discarded (ask (.markDone job.id))

/-- Stamp the probe results and queue the transcode. -/
def acceptClip
    (mediaDir : String) (job : JobRow) (clipId : Int) (path : String) (key : Option String)
    (mime : String) (info : ProbeInfo) : Routine Url Unit := do
  match ← caught (ask (.updateProbeInfo clipId info.durationS info.width info.height)) with
  | .error _ => discarded (ask (.deadLetter job.id))
  | .ok _ =>
      match key with
      | none => do
          discarded (ask (.markFailed clipId))
          discarded (ask (.markDone job.id))
      | some key =>
          match ← caught (enqueue .transcode (.object [
              ("clip_id", .number (.ofInt clipId)), ("path", .string path),
              ("key", .string key), ("mime", .string mime)])) with
          | .ok _ => discarded (ask (.markDone job.id))
          | .error _ => rejectClip mediaDir job clipId (some key)

def processProbe (mediaDir : String) (job : JobRow) : Routine Url Unit :=
  let key := job.payload.getStr "key"
  let mime := (job.payload.getStr "mime").getD "video/mp4"
  match job.clipId, job.payload.getStr "path" with
  | some clipId, some path => do
      match ← caught (numericSetting "clip_max_seconds" clipMaxSecondsDefault) with
      | .error _ => rejectClip mediaDir job clipId key
      | .ok capSeconds =>
          match ← caught (ask (.ffprobe path)) with
          | .error _ => rejectClip mediaDir job clipId key
          | .ok info =>
              match ProbeInfo.decide info capSeconds with
              | .accept => acceptClip mediaDir job clipId path key mime info
              | .reject _ => rejectClip mediaDir job clipId key
  | _, _ => deadLetterAndFail job

/-! ## Transcode -/

/-- Everything `transcode` wrote into the scratch directory. -/
structure TranscodeOutputs where
  videos : List String
  workdir : String

/-- Produce one rendition after the other. -/
def transcodeRungs (original workdir : String) : List String → Routine Url Unit
  | [] => pure ()
  | rendition :: renditions => do
      ask (.ffmpeg original (workdir ++ "/" ++ rendition ++ ".mp4"))
      ask (.readScratch (workdir ++ "/" ++ rendition ++ ".mp4"))
      transcodeRungs original workdir renditions

/-- Transcode a file into the renditions of its height and a poster. -/
def transcode (original workdir : String) : Routine Url TranscodeOutputs := do
  let info ← ask (.ffprobe original)
  let videos := rungs ((ProbeInfo.height info).getD 0)
  transcodeRungs original workdir videos
  ask (.ffmpeg original (workdir ++ "/poster.jpg"))
  pure ⟨videos, workdir⟩

/-- Save a produced file and register its row. -/
def persistAsset
    (mediaDir : String) (clipId : Int) (kind : MediaKind) (rendition filename workdir : String) :
    Routine Url Unit := do
  ask (.readScratch (workdir ++ "/" ++ filename))
  saveBytes mediaDir (renditionKey clipId filename)
  let _ ← ask (.createAsset ⟨clipId, kind, rendition, renditionKey clipId filename⟩)
  pure ()

/-- Persist the renditions, up to the first that fails. -/
def persistVideos (mediaDir : String) (clipId : Int) (workdir : String) :
    List String → Routine Url Unit
  | [] => pure ()
  | rendition :: renditions => do
      persistAsset mediaDir clipId .videoMp4 rendition (rendition ++ ".mp4") workdir
      persistVideos mediaDir clipId workdir renditions

/-- Persist everything, and register the original. -/
def persistOutputs (mediaDir : String) (clipId : Int) (key : String)
    (outputs : TranscodeOutputs) : Routine Url Unit := do
  persistVideos mediaDir clipId outputs.workdir outputs.videos
  persistAsset mediaDir clipId .poster "orig" "poster.jpg" outputs.workdir
  discarded (openKey mediaDir key)
  let _ ← ask (.upsertAsset ⟨clipId, .videoMp4, "orig", key⟩)
  pure ()

/-- The failure path of a transcode: the clip fails, and every asset row and
stored file of it is removed. -/
def failTranscode (mediaDir : String) (job : JobRow) (clipId : Int) (originalKey : String) :
    Routine Url Unit := do
  discarded (ask (.deleteAssets clipId))
  deleteKeys mediaDir (partialFiles.map (renditionKey clipId))
  discarded (deleteKey mediaDir originalKey)
  discarded (ask (.markFailed clipId))
  discarded (ask (.markDone job.id))

def processTranscode (mediaDir : String) (job : JobRow) : Routine Url Unit :=
  match job.clipId, job.payload.getStr "path", job.payload.getStr "key" with
  | some clipId, some path, some key => do
      match ← caught (ask .tempdir) with
      | .error _ => failTranscode mediaDir job clipId key
      | .ok workdir =>
          match ← caught (transcode path workdir) with
          | .error _ => failTranscode mediaDir job clipId key
          | .ok outputs =>
              match ← caught (persistOutputs mediaDir clipId key outputs) with
              | .error _ => failTranscode mediaDir job clipId key
              | .ok _ =>
                  match ← caught (enqueue .finalize (.object [
                      ("clip_id", .number (.ofInt clipId))])) with
                  | .ok _ => discarded (ask (.markDone job.id))
                  | .error _ => failTranscode mediaDir job clipId key
  | _, _, _ => deadLetterAndFail job

/-! ## Finalize -/

section Finalize

variable [ChronoCrate]

/-- Announce a finalized clip. -/
def announce (baseUrl : String) : Int → Routine Url Unit
  | .ofNat clipId => ofHandler (enqueueClipCreate baseUrl clipId)
  | .negSucc _ => .fail (.other "clip vanished before finalize federation")

def processFinalize (baseUrl : String) (job : JobRow) : Routine Url Unit :=
  match job.clipId with
  | none => discarded (ask (.deadLetter job.id))
  | some clipId => do
      match ← caught (ask (.markAssetsReady clipId)) with
      | .error _ => do
          discarded (ask (.markFailed clipId))
          discarded (ask (.markDone job.id))
      | .ok _ =>
          match ← caught (ask (.markReady clipId)) with
          | .ok _ => do
              -- An announcement that fails is recorded on the job, which is done.
              discarded (announce baseUrl clipId)
              discarded (ask (.markDone job.id))
          | .error _ => do
              discarded (ask (.markFailed clipId))
              discarded (ask (.markDone job.id))

end Finalize

/-! ## Delivery -/

/-- Seconds until the next try. -/
def backoffSecs (attempts : Int) : Nat :=
  if attempts = 0 then 30 else if attempts = 1 then 120 else 900

/-- Try again later, unless this was the last attempt. The row is found by its
number alone. -/
def scheduleDeliverRetry (job : JobRow) : Routine Url Unit :=
  if job.LastAttempt then discarded (ask (.deadLetter job.id))
  else discarded (ask (.postpone job.id (backoffSecs job.attempts)))

/-- Queue a delivery to each follower. A failure is counted and passed over. -/
def enqueueDeliveries (authorId : Nat) (activity : Value) : List ActorRow → Routine Url Unit
  | [] => pure ()
  | follower :: followers => do
      discarded (ofHandler (enqueueDelivery authorId follower.deliveryInbox activity))
      enqueueDeliveries authorId activity followers

/-- Fan the announcement of a clip out to every remote follower. -/
def processDeliverCreate (job : JobRow) : Routine Url Unit :=
  match job.clipId, job.payload.get "activity" with
  | some clipId, some activity => do
      match ← caught (fetchClip clipId) with
      | .ok (some clip) =>
          match ← caught (ask (.base (.fetchActorById (ClipRow.actorId clip)))) with
          | .ok (some author) =>
              match ← caught (ask (.remoteFollowers (ActorRow.id author))) with
              | .error _ => scheduleDeliverRetry job
              | .ok followers => do
                  enqueueDeliveries (ActorRow.id author) activity followers
                  discarded (ask (.markDone job.id))
          | _ => discarded (ask (.deadLetter job.id))
      | _ => discarded (ask (.deadLetter job.id))
  | _, _ => discarded (ask (.deadLetter job.id))

/-- `?` on a fallible computation in memory. -/
def orFail {α : Type} (message : String) : Option α → Routine Url α
  | some value => .done value
  | none => .fail (.other message)

section Deliver

variable [UrlCrate Url]

/-- Parse the inbox, and send. -/
def deliverActivity (signer : ActorRow) (inboxUrl : String) (activity : Value) :
    Routine Url DeliverOutcome :=
  match (parse inboxUrl : Option Url) with
  | some inbox => ask (.deliver signer inbox activity)
  | none => .fail .url

/-- Process one `deliver` or `deliver_follow` job. -/
def deliverJob (job : JobRow) : Routine Url DeliverOutcome :=
  match job.kind with
  | .deliverFollow => do
      let followerId ← orFail "deliver_follow payload missing follower_actor_id"
        ((job.payload.get "follower_actor_id").bind Value.asI64)
      let targetId ← orFail "deliver_follow payload missing target_actor_id"
        ((job.payload.get "target_actor_id").bind Value.asI64)
      let activity ← orFail "deliver_follow payload missing activity"
        (job.payload.get "activity")
      let target ← fetchActorOf targetId
      let target ← orFail "target actor not found" target
      let signer ← fetchActorOf followerId
      let signer ← orFail "follower actor not found" signer
      deliverActivity signer (ActorRow.deliveryInbox target) activity
  | .deliver => do
      let actorId ← orFail "deliver payload missing actor_id"
        ((job.payload.get "actor_id").bind Value.asI64)
      let inboxUrl ← orFail "deliver payload missing inbox_url" (job.payload.getStr "inbox_url")
      let activity ← orFail "deliver payload missing activity" (job.payload.get "activity")
      let signer ← fetchActorOf actorId
      let signer ← orFail "signer actor not found" signer
      deliverActivity signer inboxUrl activity
  | _ => .fail (.other "unknown deliver kind")

def processDeliver (job : JobRow) : Routine Url Unit :=
  if job.kind = .deliverCreate then processDeliverCreate job
  else do
    match ← caught (deliverJob job) with
    | .ok (.delivered) | .ok (.rejected _) => discarded (ask (.markDone job.id))
    | .ok (.failed _) | .error _ => scheduleDeliverRetry job

/-- One turn of the delivery worker. It has no time limit, and gives back a job
that is not for it. -/
def deliveryTurn : Routine Url Unit := do
  match ← caught (ask (.claimNextDue "delivery")) with
  | .ok (some job) =>
      if (JobRow.kind job).isDeliver then processDeliver job
      else discarded (ask (.handBack (JobRow.id job)))
  | _ => pure ()

end Deliver

/-! ## The media workers -/

/-- The answer of the clock. -/
def isLate : Except Error Bool → Bool
  | .ok late => late
  | .error _ => false

section Media

variable [UrlCrate Url] [ChronoCrate]

/-- Backfill the actor of a job. -/
def backfillOf (max : Nat) : Int → Routine Url Nat
  | .ofNat actorId => ofHandler (backfillActorPosts actorId max)
  | .negSucc _ => .fail (.other "backfill: actor not found")

def processBackfillJob (job : JobRow) : Routine Url Unit := do
  match (job.payload.get "actor_id").bind Value.asI64 with
  | none => discarded (ask (.deadLetter job.id))
  | some actorId =>
      let max := ((job.payload.get "max").bind Value.asU64).getD 20
      match ← caught (backfillOf max actorId) with
      | .ok _ => discarded (ask (.markDone job.id))
      | .error _ => discarded (ask (.deadLetter job.id))

/-- Process a job according to its kind. -/
def handleJob (config : WorkerConfig) (job : JobRow) : Routine Url Unit :=
  if job.kind.isDeliver then processDeliver job
  else
    match job.kind with
    | .probe => processProbe config.mediaDir job
    | .transcode => processTranscode config.mediaDir job
    | .finalize => processFinalize config.baseUrl job
    | .backfillActor => processBackfillJob job
    | _ => deadLetterAndFail job

/-- Process a claimed job within its time limit. -/
def processJobWithEgress (config : WorkerConfig) (job : JobRow) : Routine Url Unit :=
  Program.withDeadline .deadlinePassed isLate (bumpJobAfterFailure job job.clipId)
    (handleJob config job)

/-- One turn of a media worker. -/
def workerTurn (config : WorkerConfig) (worker : String) : Routine Url Unit := do
  match ← caught (ask (.claimNextDue worker)) with
  | .ok (some job) => processJobWithEgress config job
  | _ => pure ()

end Media

/-! ## Account deletion -/

/-- `DELETE /api/v1/me`: what it does to clips, files, tombstones and actors. -/
def deleteAccount (mediaDir : String) (authId : Nat) : Routine Url Unit := do
  match ← ask (.base (.fetchActorById authId)) with
  | none => pure ()
  | some auth => do
      ask (.base (.markClipsOfActorDeleted (ActorRow.id auth)))
      let keys ← ask (.assetPathsOfActor (ActorRow.id auth))
      deleteKeys mediaDir keys
      ask (.base (.insertTombstone (ActorRow.apId auth) .person))
      let _ ← ask (.base (.markActorDeleted (ActorRow.id auth)))
      pure ()

end TootTok
