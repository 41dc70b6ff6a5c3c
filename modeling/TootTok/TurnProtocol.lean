import TootTok.Background
import TootTok.Frames
import TootTok.Turns

/-!
# What a turn may do

The calls that each thread may make after the calls of its turn so far: which job
a worker writes, on whose behalf it fails a clip, in which order the stages of a
transcode come, and what is announced. Every task keeps to this.
-/

namespace TootTok

open Effects
open Json (Value)

variable {Url : Type}

/-! ## The turn so far -/

namespace Calls

/-- The turn has made this call, with this result. -/
def Returned (op : WorkerOp Url) (result : op.Result) (calls : Calls Url) : Prop :=
  ⟨op, .ok result⟩ ∈ calls

/-- The turn has made this call with success. -/
def Did (op : WorkerOp Url) (calls : Calls Url) : Prop :=
  ∃ result, calls.Returned op result

/-- The turn has claimed the job. -/
def Claimed (job : JobRow) (calls : Calls Url) : Prop :=
  ∃ worker, ⟨.claimNextDue worker, .ok (some job)⟩ ∈ calls

/-- The call has taken the lock off the job. -/
def Releases : (Σ op : WorkerOp Url, Except Error op.Result) → Prop
  | ⟨.markDone _, .ok _⟩ | ⟨.deadLetter _, .ok _⟩ | ⟨.handBack _, .ok _⟩
  | ⟨.postpone _ _, .ok _⟩ | ⟨.bump _ _, .ok true⟩ => True
  | _ => False

/-- The turn has claimed the job and not released it. -/
structure Working (job : JobRow) (calls : Calls Url) : Prop where
  claimed : calls.Claimed job
  held : ∀ call ∈ calls, ¬Releases call

/-- The turn has counted a failure of the job. -/
def Bumped (job : JobRow) (calls : Calls Url) : Prop :=
  ⟨.bump job.id job.lockedBy, .ok true⟩ ∈ calls

/-- The call removes something. -/
def Removes : WorkerOp Url → Prop
  | .deleteAssets _ | .removeFile _ => True
  | _ => False

/-- The turn has begun to remove what there is of a clip. -/
def Cleaning (calls : Calls Url) : Prop :=
  ∃ call ∈ calls, Removes call.1

/-- The turn works on the transcode of a clip. -/
structure Transcoding (job : JobRow) (clipId : Int) (calls : Calls Url) : Prop where
  working : calls.Working job
  kind : job.kind = .transcode
  named : job.clipId = some clipId
  building : ¬calls.Cleaning

/-- Moreover, ffmpeg has read the source of the job. -/
structure Encoding (job : JobRow) (clipId : Int) (calls : Calls Url) : Prop
    extends calls.Transcoding job clipId where
  source : ∃ path output, job.payload.getStr "path" = some path ∧ calls.Did (.ffmpeg path output)

/-- The turn has found a finished clip alive, and not yet queued its fan-out. -/
structure Announcing (job : JobRow) (clipId : Nat) (calls : Calls Url) : Prop where
  working : calls.Working job
  kind : job.kind = .finalize
  named : job.clipId = some (clipId : Int)
  found : ∃ clip, calls.Returned (.base (.fetchClipById clipId)) (some clip) ∧
    clip.origin = .localUpload ∧ clip.deletedAt = none
  unqueued : ∀ payload, ¬calls.Did (.base (.createJob .deliverCreate payload))

variable {calls : Calls Url} {job : JobRow}
  {call : Σ op : WorkerOp Url, Except Error op.Result}

theorem Returned.append {op : WorkerOp Url} {result : op.Result}
    (returned : calls.Returned op result) : Returned op result (calls ++ [call]) :=
  List.mem_append_left _ returned

theorem returned_append_self (op : WorkerOp Url) (result : op.Result) :
    Returned op result (calls ++ [⟨op, .ok result⟩]) :=
  List.mem_append_right _ (List.mem_singleton_self _)

theorem Did.append {op : WorkerOp Url} (did : calls.Did op) : Did op (calls ++ [call]) := by
  obtain ⟨result, returned⟩ := did
  exact ⟨result, returned.append⟩

theorem Did.of_extended {op : WorkerOp Url} {later : Calls Url} (did : calls.Did op)
    (extended : calls <+: later) : later.Did op := by
  obtain ⟨result, member⟩ := did
  exact ⟨result, extended.mem member⟩

theorem did_append_self (op : WorkerOp Url) (result : op.Result) :
    Did op (calls ++ [⟨op, .ok result⟩]) :=
  ⟨result, returned_append_self op result⟩

theorem Claimed.append (claimed : calls.Claimed job) : Claimed job (calls ++ [call]) := by
  obtain ⟨worker, member⟩ := claimed
  exact ⟨worker, List.mem_append_left _ member⟩

theorem Working.append (working : calls.Working job) (neutral : ¬Releases call) :
    Working job (calls ++ [call]) where
  claimed := working.claimed.append
  held := by
    intro other member
    rcases List.mem_append.mp member with earlier | last
    · exact working.held other earlier
    · rw [List.mem_singleton.mp last]
      exact neutral

theorem not_did_append {op : WorkerOp Url} (undone : ¬calls.Did op) (other : call.1 ≠ op) :
    ¬Did op (calls ++ [call]) := by
  rintro ⟨result, member⟩
  rcases List.mem_append.mp member with earlier | last
  · exact undone ⟨result, earlier⟩
  · rw [← List.mem_singleton.mp last] at other
    exact other rfl

/-! ### The start of a turn -/

theorem JustClaimed.working (claimed : calls.JustClaimed job) : calls.Working job := by
  obtain ⟨worker, rfl⟩ := claimed
  refine ⟨⟨worker, List.mem_singleton_self _⟩, fun call member => ?_⟩
  rw [List.mem_singleton.mp member]
  exact id

theorem JustClaimed.building (claimed : calls.JustClaimed job) : ¬calls.Cleaning := by
  obtain ⟨worker, rfl⟩ := claimed
  rintro ⟨call, member, removes⟩
  rw [List.mem_singleton.mp member] at removes
  exact removes

theorem JustClaimed.unqueued (claimed : calls.JustClaimed job) (kind : JobKind)
    (payload : Value) : ¬calls.Did (.base (.createJob kind payload)) := by
  obtain ⟨worker, rfl⟩ := claimed
  rintro ⟨result, member⟩
  cases List.mem_singleton.mp member

/-! ### Further calls -/

theorem not_cleaning_append (building : ¬calls.Cleaning) (keeps : ¬Removes call.1) :
    ¬Cleaning (calls ++ [call]) := by
  rintro ⟨other, member, removes⟩
  rcases List.mem_append.mp member with earlier | last
  · exact building ⟨other, earlier, removes⟩
  · rw [List.mem_singleton.mp last] at removes
    exact keeps removes

theorem Transcoding.append {clipId : Int} (transcoding : calls.Transcoding job clipId)
    (neutral : ¬Releases call) (keeps : ¬Removes call.1) :
    Transcoding job clipId (calls ++ [call]) where
  working := transcoding.working.append neutral
  kind := transcoding.kind
  named := transcoding.named
  building := not_cleaning_append transcoding.building keeps

/-- The first pass of ffmpeg over the source. -/
theorem Transcoding.encoding {clipId : Int} {path : String}
    (transcoding : calls.Transcoding job clipId)
    (sourced : job.payload.getStr "path" = some path) (output : String) :
    Encoding job clipId (calls ++ [⟨.ffmpeg path output, .ok ()⟩]) where
  toTranscoding := transcoding.append id id
  source := ⟨path, output, sourced, did_append_self (.ffmpeg path output) ()⟩

theorem Encoding.append {clipId : Int} (encoding : calls.Encoding job clipId)
    (neutral : ¬Releases call) (keeps : ¬Removes call.1) :
    Encoding job clipId (calls ++ [call]) where
  toTranscoding := encoding.toTranscoding.append neutral keeps
  source := by
    obtain ⟨path, output, named, did⟩ := encoding.source
    exact ⟨path, output, named, did.append⟩

theorem Announcing.append {clipId : Nat} (announcing : calls.Announcing job clipId)
    (neutral : ¬Releases call)
    (other : ∀ payload, call.1 ≠ .base (.createJob .deliverCreate payload)) :
    Announcing job clipId (calls ++ [call]) where
  working := announcing.working.append neutral
  kind := announcing.kind
  named := announcing.named
  found := by
    obtain ⟨clip, returned, live⟩ := announcing.found
    exact ⟨clip, returned.append, live⟩
  unqueued payload := not_did_append (announcing.unqueued payload) (other payload)

end Calls

/-! ## What a worker may call -/

namespace JobKind

/-- Processing a job of this kind may fail the clip that it names. -/
def failsClip (kind : JobKind) : Bool :=
  kind.isMedia || !(kind.isDeliver || kind = .backfillActor)

end JobKind

/-- The row of a rung. -/
def rungAsset (clipId : Int) (rendition : String) : NewAsset :=
  ⟨clipId, .videoMp4, rendition, renditionKey clipId (rendition ++ ".mp4")⟩

def posterAsset (clipId : Int) : NewAsset :=
  ⟨clipId, .poster, "orig", renditionKey clipId "poster.jpg"⟩

/-- The row of the original file. -/
def originalAsset (clipId : Int) (key : String) : NewAsset :=
  ⟨clipId, .videoMp4, "orig", key⟩

/-- The renditions that a transcode produces. -/
def IsRung (rendition : String) : Prop :=
  rendition = "720" ∨ rendition = "480"

/-- The payload of a finalize job. -/
def finalizePayload (clipId : Int) : Value :=
  .object [("clip_id", .number (.ofInt clipId))]

/-- The payload of a transcode job. -/
def transcodePayload (clipId : Int) (path key mime : String) : Value :=
  .object [("clip_id", .number (.ofInt clipId)), ("path", .string path),
    ("key", .string key), ("mime", .string mime)]

/-- The payload of a delivery. -/
def deliveryPayload (actorId : Nat) (inboxUrl : String) (activity : Value) : Value :=
  .object [("actor_id", .number (.ofInt actorId)), ("inbox_url", .string inboxUrl),
    ("activity", activity)]

/-- The payload of a fan-out. -/
def deliverCreatePayload (clipId : Nat) (activity : Value) : Value :=
  .object [("clip_id", .number (.ofInt clipId)), ("activity", activity)]

/-- A job names the clip that its payload was made for. -/
theorem clipId_queued {kind : JobKind} {members : List (String × Value)} {now : DateTime}
    {id : Nat} {job : JobRow} {clipId : Int} (named : job.clipId = some clipId) :
    (Jobs.queued kind (.object (("clip_id", .number (.ofInt clipId)) :: members)) now
      id).clipId = some clipId := by
  obtain ⟨value, -, read⟩ := Option.bind_eq_some_iff.mp named
  cases value with
  | number number =>
      obtain ⟨least, most⟩ := Json.Number.asI64_bounds read
      exact Json.Number.asI64_ofInt least most
  | _ => cases read

/-- What the handlers of the workers call, but for the jobs that they queue: they
read, store remote clips, and announce local ones. -/
def Operation.ofWorker : Operation Url → Bool
  | .setApId _ _ | .createOutbound _ => true
  | op => op.storesRemote

/-- What may be queued: each stage queues the next. -/
def QueueAllowed (calls : Calls Url) (kind : JobKind) (payload : Value) : Prop :=
  ∃ job, calls.Working job ∧
    match kind with
    | .transcode =>
        job.kind = .probe ∧ ∃ clipId path key mime,
          job.clipId = some clipId ∧ job.payload.getStr "path" = some path ∧
          job.payload.getStr "key" = some key ∧ payload = transcodePayload clipId path key mime
    | .finalize =>
        ∃ clipId key rendition, calls.Encoding job clipId ∧
          job.payload.getStr "key" = some key ∧ IsRung rendition ∧
          calls.Did (.createAsset (rungAsset clipId rendition)) ∧
          calls.Did (.upsertAsset (originalAsset clipId key)) ∧
          payload = finalizePayload clipId
    | .deliverCreate =>
        ∃ clipId activity, calls.Announcing job clipId ∧
          payload = deliverCreatePayload clipId activity
    | .deliver =>
        job.kind = .deliverCreate ∧
          ∃ (clipId : Nat) (clip : ClipRow) (author : ActorRow) (inbox : String)
            (activity : Value),
          job.clipId = some (clipId : Int) ∧ job.payload.get "activity" = some activity ∧
          calls.Returned (.base (.fetchClipById clipId)) (some clip) ∧
          calls.Returned (.base (.fetchActorById clip.actorId)) (some author) ∧
          payload = deliveryPayload author.id inbox activity
    | _ => False

/-- What a worker may call after the calls of its turn. -/
def WorkerAllowed (workers : WorkerConfig) (name : String) (calls : Calls Url) :
    WorkerOp Url → Prop
  | .claimNextDue worker => calls = [] ∧ worker = name
  | .markDone id | .deadLetter id | .postpone id _ => ∃ job, calls.Working job ∧ id = job.id
  | .handBack id => ∃ job, calls.Working job ∧ id = job.id ∧ job.kind.isDeliver = false
  | .bump id lockedBy => ∃ job, calls.Claimed job ∧ id = job.id ∧ lockedBy = job.lockedBy
  | .markFailed clipId =>
      ∃ job, calls.Claimed job ∧ job.clipId = some clipId ∧
        (job.kind.failsClip = true ∨ calls.Bumped job)
  | .updateProbeInfo clipId _ _ _ =>
      ∃ job, calls.Working job ∧ job.kind = .probe ∧ job.clipId = some clipId
  | .writeFile target =>
      ∃ job clipId filename, calls.Encoding job clipId ∧
        Store.abs workers.mediaDir (renditionKey clipId filename) = some target
  | .createAsset new =>
      ∃ job, calls.Encoding job new.clipId ∧
        ((∃ rendition, IsRung rendition ∧ new = rungAsset new.clipId rendition) ∨
          new = posterAsset new.clipId) ∧
        ∃ target, Store.abs workers.mediaDir new.path = some target ∧
          calls.Did (.writeFile target)
  | .upsertAsset new =>
      ∃ job key, calls.Encoding job new.clipId ∧ job.payload.getStr "key" = some key ∧
        new = originalAsset new.clipId key ∧
        ∃ rendition, IsRung rendition ∧
          calls.Did (.createAsset (rungAsset new.clipId rendition))
  | .deleteAssets clipId =>
      ∃ job, calls.Working job ∧ job.kind = .transcode ∧ job.clipId = some clipId
  | .removeFile target =>
      ∃ job clipId key, calls.Working job ∧ job.clipId = some clipId ∧
        Store.abs workers.mediaDir key = some target ∧
        ((job.kind = .probe ∨ job.kind = .transcode) ∧ job.payload.getStr "key" = some key ∨
          job.kind = .transcode ∧ ∃ filename ∈ partialFiles, key = renditionKey clipId filename)
  | .markAssetsReady clipId =>
      ∃ job, calls.Working job ∧ job.kind = .finalize ∧ job.clipId = some clipId
  | .markReady clipId =>
      ∃ job, calls.Working job ∧ job.kind = .finalize ∧ job.clipId = some clipId ∧
        calls.Did (.markAssetsReady clipId)
  | .base (.createJob kind payload) => QueueAllowed calls kind payload
  | .base op => op.ofWorker = true
  | .reapStale _ | .assetPathsOfActor _ => False
  | _ => True

/-- What the reaper may call. -/
def ReaperAllowed (calls : Calls Url) : WorkerOp Url → Prop
  | .reapStale _ => True
  | .markFailed clipId =>
      ∃ timeoutSecs jobs, calls.Returned (.reapStale timeoutSecs) jobs ∧
        ∃ job ∈ jobs, job.state = .dead ∧ job.clipId = some clipId
  | _ => False

/-- What a request may call: it takes no job off the queue. -/
def RequestAllowed (_ : Calls Url) : WorkerOp Url → Prop
  | .base _ | .assetPathsOfActor _ | .removeFile _ => True
  | _ => False

/-- What an account deletion may call: the actor is marked after its clips. -/
def DeletionAllowed (calls : Calls Url) : WorkerOp Url → Prop
  | .base (.markActorDeleted id) => calls.Did (.base (.markClipsOfActorDeleted id))
  | .base (.fetchActorById _) | .base (.markClipsOfActorDeleted _)
  | .base (.insertTombstone _ _) | .assetPathsOfActor _ | .removeFile _ => True
  | _ => False

theorem requestAllowed_of_deletionAllowed {calls : Calls Url} {op : WorkerOp Url}
    (allowed : DeletionAllowed calls op) : RequestAllowed calls op := by
  cases op <;> trivial

/-- What a thread may call after the calls of its turn, given what requests may. -/
def TurnAllowed (workers : WorkerConfig) (requestAllowed : Calls Url → WorkerOp Url → Prop) :
    Thread → Calls Url → WorkerOp Url → Prop
  | .media index => WorkerAllowed workers ("worker-" ++ toString index)
  | .delivery => WorkerAllowed workers "delivery"
  | .maintenance => ReaperAllowed
  | .request _ => requestAllowed

theorem TurnAllowed.mono
    {workers : WorkerConfig} {requestAllowed wider : Calls Url → WorkerOp Url → Prop}
    {thread : Thread} {calls : Calls Url} {op : WorkerOp Url}
    (allowed : TurnAllowed workers requestAllowed thread calls op)
    (widen : requestAllowed calls op → wider calls op) :
    TurnAllowed workers wider thread calls op := by
  cases thread with
  | request index => exact widen allowed
  | _ => exact allowed

/-- A thread claims jobs under its own name, and at the start of its turn. -/
theorem lockName_of_claim
    {workers : WorkerConfig} {thread : Thread} {calls : Calls Url} {worker : String}
    (allowed : TurnAllowed workers RequestAllowed thread calls (.claimNextDue worker)) :
    calls = [] ∧ thread.lockName = some worker := by
  cases thread with
  | media index => exact ⟨allowed.1, congrArg some allowed.2.symm⟩
  | delivery => exact ⟨allowed.1, congrArg some allowed.2.symm⟩
  | maintenance => exact allowed.elim
  | request index => exact allowed.elim

end TootTok
