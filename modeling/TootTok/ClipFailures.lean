import TootTok.Deletion
import TootTok.TurnInvariants

/-!
# Failures of published clips

A clip is failed when a job that names it runs out of time or attempts, whatever
the job is for. A published clip is failed for the jobs of the media pipeline
only, as long as no other job that names a clip comes to this.
-/

namespace TootTok

open Effects
open Relational (SerialTable)

variable {Url : Type}

/-- The job may fail the clip that it names: it belongs to the media pipeline. -/
def JobRow.FailsRightly (row : JobRow) : Prop :=
  row.kind.isMedia = true ∨ row.clipId = none

instance : DecidablePred JobRow.FailsRightly := fun row => by
  unfold JobRow.FailsRightly
  infer_instance

/-- No job outside the media pipeline that names a clip runs out of time or
attempts, and none of an unknown kind is taken up. -/
def FailsMediaOnly : Background.Condition Url := fun _ server _ op env =>
  match op with
  | .claimNextDue _ =>
      ∀ job, Jobs.nextDue env.now env.locked server.jobs = some job →
        job.kind.failsClip = true → job.FailsRightly
  | .bump id lockedBy =>
      ∀ row ∈ server.jobs, Jobs.bumpable id lockedBy row = true → row.FailsRightly
  | .reapStale timeoutSecs =>
      ∀ row ∈ server.jobs, row.Stale env.now timeoutSecs → row.LastAttempt → row.FailsRightly
  | _ => True

/-- The turn processes a media job that names the clip, or reaps one for good. -/
def Calls.FailsForMedia (clip : ClipRow) (calls : Calls Url) : Prop :=
  ∃ job, job.kind.isMedia = true ∧ job.clipId = some (clip.id : Int) ∧
    (calls.Claimed job ∨ ∃ timeoutSecs jobs,
      calls.Returned (.reapStale timeoutSecs) jobs ∧ job ∈ jobs ∧ job.state = .dead)

/-! ## The invariant -/

/-- Every job that may fail its clip does so rightly. -/
structure FailuresRight
    (events : List (Effects.Event Thread (@WorkerOp.Result Url) Error (WorkerEnv Url)))
    (server : Server) : Prop where
  stored : ClaimsStored events server
  claimed : ∀ thread job, Calls.Claimed job (callsOfTask WorkerOp.noted events thread) →
    job.kind.failsClip = true → job.FailsRightly
  bumped : ∀ thread job, Calls.Claimed job (callsOfTask WorkerOp.noted events thread) →
    Calls.Bumped job (callsOfTask WorkerOp.noted events thread) → job.FailsRightly
  reaped : ∀ thread timeoutSecs jobs,
    Calls.Returned (.reapStale timeoutSecs) jobs (callsOfTask WorkerOp.noted events thread) →
    ∀ job ∈ jobs, job.state = .dead → job.FailsRightly

theorem JobRow.FailsRightly.of_same {row job : JobRow} (right : row.FailsRightly)
    (kind : row.kind = job.kind) (payload : row.payload = job.payload) : job.FailsRightly := by
  unfold JobRow.FailsRightly JobRow.clipId at right ⊢
  rwa [← kind, ← payload]

section Step

variable {server : Server} {workers : WorkerConfig} {thread : Thread} {env : WorkerEnv Url}

/-- The job that a claim brings. -/
theorem failsRightly_of_claim {worker : String} {job : JobRow}
    {events : List (Effects.Event Thread (@WorkerOp.Result Url) Error (WorkerEnv Url))}
    (mediaOnly : FailsMediaOnly events server thread (.claimNextDue worker) env)
    (claimed : (WorkerOp.exec env (.claimNextDue worker) server).1 = .ok (some job))
    (fails : job.kind.failsClip = true) : job.FailsRightly := by
  rcases WorkerOp.exec_cases env (.claimNextDue worker) server with ⟨error, failed⟩ | performed
  · rw [failed] at claimed
    cases claimed
  · rw [performed] at claimed
    have found : (Jobs.claimNextDue worker env.now env.locked server.jobs).1 = some job :=
      Except.ok.inj claimed
    rw [Jobs.claimNextDue_fst, Option.map_eq_some_iff] at found
    obtain ⟨due, isDue, rfl⟩ := found
    exact mediaOnly due isDue fails

/-- The job whose failure a worker has counted. -/
theorem failsRightly_of_bump {job row : JobRow}
    {events : List (Effects.Event Thread (@WorkerOp.Result Url) Error (WorkerEnv Url))}
    (mediaOnly : FailsMediaOnly events server thread (.bump job.id job.lockedBy) env)
    (bumped : (WorkerOp.exec env (.bump job.id job.lockedBy) server).1 = .ok true)
    (stored : row ∈ server.jobs) (sameId : row.id = job.id) (kind : row.kind = job.kind)
    (payload : row.payload = job.payload) : job.FailsRightly := by
  rcases WorkerOp.exec_cases env (.bump job.id job.lockedBy) server with
    ⟨error, failed⟩ | performed
  · rw [failed] at bumped
    cases bumped
  · rw [performed] at bumped
    have matched : (Jobs.bump job.id job.lockedBy server.jobs).1 = true :=
      Except.ok.inj bumped
    obtain ⟨other, otherStored, isBumped⟩ := Jobs.bump_eq_true.mp matched
    have named : other.id = job.id := (of_decide_eq_true isBumped).1
    have equal : other = row :=
      SerialTable.eq_of_number_eq otherStored stored (named.trans sameId.symm)
    subst equal
    exact (mediaOnly other otherStored isBumped).of_same kind payload

/-- The jobs that the reaper has given up. -/
theorem failsRightly_of_reap {timeoutSecs : Nat} {jobs : List JobRow}
    {events : List (Effects.Event Thread (@WorkerOp.Result Url) Error (WorkerEnv Url))}
    (mediaOnly : FailsMediaOnly events server thread (.reapStale timeoutSecs) env)
    (reaped : (WorkerOp.exec env (.reapStale timeoutSecs) server).1 = .ok jobs)
    {job : JobRow} (member : job ∈ jobs) (dead : job.state = .dead) : job.FailsRightly := by
  rcases WorkerOp.exec_cases env (.reapStale timeoutSecs) server with
    ⟨error, failed⟩ | performed
  · rw [failed] at reaped
    cases reaped
  · rw [performed] at reaped
    have rows : (Jobs.reapStale env.now timeoutSecs server.jobs).1 = jobs :=
      Except.ok.inj reaped
    rw [← rows] at member
    obtain ⟨row, inside, rfl⟩ := List.mem_map.mp member
    obtain ⟨stored, isStale⟩ := List.mem_filter.mp inside
    have last : row.LastAttempt := by
      by_contra again
      unfold JobRow.countFailure JobRow.release at dead
      rw [if_neg again] at dead
      cases dead
    exact mediaOnly row stored (of_decide_eq_true isStale) last

variable {events : List (Effects.Event Thread (@WorkerOp.Result Url) Error (WorkerEnv Url))}
  {op : WorkerOp Url}

theorem FailuresRight.began (right : FailuresRight events server) (begun : Thread) :
    FailuresRight (events ++ [.began begun]) server where
  stored := right.stored.began begun
  claimed other job claimed := right.claimed other job claimed.of_began
  bumped other job claimed bumped :=
    right.bumped other job claimed.of_began (mem_callsOfTask_began bumped)
  reaped other timeoutSecs jobs reaped :=
    right.reaped other timeoutSecs jobs (mem_callsOfTask_began reaped)

/-- Every allowed call keeps the invariant. -/
theorem FailuresRight.called (right : FailuresRight events server)
    (allowed : TurnAllowed workers RequestAllowed thread
      (callsOfTask WorkerOp.noted events thread) op)
    (mediaOnly : FailsMediaOnly events server thread op env) :
    FailuresRight (events ++ [.called ⟨thread, op, env, (WorkerOp.exec env op server).1⟩])
      (WorkerOp.exec env op server).2 := by
  refine ⟨right.stored.called thread op env, fun other job claimed => ?_,
    fun other job claimed bumped => ?_, fun other timeoutSecs jobs reaped => ?_⟩
  · rcases claimed.of_called with earlier | ⟨rfl, worker, rfl, returned⟩
    · exact right.claimed other job earlier
    · exact failsRightly_of_claim mediaOnly returned
  · rcases claimed.of_called with earlier | ⟨rfl, worker, rfl, -⟩
    · rcases mem_callsOfTask_called bumped with before | ⟨rfl, isCall⟩
      · exact right.bumped other job earlier before
      · generalize returned : (WorkerOp.exec env op server).1 = outcome at isCall
        cases isCall
        obtain ⟨row, stored, sameId, kind, payload⟩ := right.stored other job earlier
        exact failsRightly_of_bump mediaOnly returned stored sameId kind payload
    · rcases mem_callsOfTask_called bumped with before | ⟨-, isBump⟩
      · rw [(lockName_of_claim allowed).1] at before
        cases before
      · cases isBump
  · rcases mem_callsOfTask_called reaped with earlier | ⟨rfl, isCall⟩
    · exact right.reaped other timeoutSecs jobs earlier
    · generalize returned : (WorkerOp.exec env op server).1 = outcome at isCall
      cases isCall
      exact fun job => failsRightly_of_reap mediaOnly returned

/-- A call that fails a clip is made for a media job. -/
theorem FailuresRight.failsForMedia (right : FailuresRight events server) {clip : ClipRow}
    (allowed : TurnAllowed workers RequestAllowed thread
      (callsOfTask WorkerOp.noted events thread) (.markFailed clip.id)) :
    Calls.FailsForMedia clip (callsOfTask WorkerOp.noted events thread) := by
  have isMedia {job : JobRow} (rightly : job.FailsRightly)
      (named : job.clipId = some (clip.id : Int)) : job.kind.isMedia = true := by
    rcases rightly with media | unnamed
    · exact media
    · cases named.symm.trans unnamed
  cases thread with
  | media index | delivery =>
      obtain ⟨job, claimed, named, fails | bumped⟩ := allowed
      · exact ⟨job, isMedia (right.claimed _ job claimed fails) named, named, .inl claimed⟩
      · exact ⟨job, isMedia (right.bumped _ job claimed bumped) named, named, .inl claimed⟩
  | maintenance =>
      obtain ⟨timeoutSecs, jobs, returned, job, member, dead, named⟩ := allowed
      have rightly := right.reaped _ timeoutSecs jobs returned job member dead
      exact ⟨job, isMedia rightly named, named, .inr ⟨timeoutSecs, jobs, returned, member, dead⟩⟩
  | request index => exact allowed.elim

end Step

/-! ## Runs -/

section Run

variable [UrlCrate Url] [ChronoCrate]

/-- In a run in which only media jobs that name clips run out of time or attempts,
the next call that makes a ready clip failed is made for a media job of it. -/
theorem ready_clip_failed_for_media
    {config : Config} {workers : WorkerConfig} {start : Server}
    {events : List (Effects.Event Thread (@WorkerOp.Result Url) Error (WorkerEnv Url))}
    {final : Effects.Config Thread (@WorkerOp.Result Url) Error Unit Server}
    (run : Background.Run workers (Background.Requests config workers) FailsMediaOnly start
      events final)
    {thread : Thread} {op : WorkerOp Url} {env : WorkerEnv Url}
    {next : Except Error op.Result → Routine Url Unit}
    (atCall : final.threads thread = .call op next)
    {old new : ClipRow} (stored : old ∈ final.state.clips) (ready : old.status = .ready)
    (member : new ∈ (WorkerOp.exec env op final.state).2.clips) (same : new.id = old.id)
    (failed : new.status = .failed) :
    Calls.FailsForMedia old (callsOfTask WorkerOp.noted events thread) := by
  have right : FailuresRight events final.state := by
    refine run.invariant (fun _ => keeps_request) FailuresRight ?_ ?_ ?_
    · refine ⟨.nil start, ?_, ?_, ?_⟩
      · rintro _ _ ⟨_, ⟨⟩⟩
      · rintro _ _ ⟨_, ⟨⟩⟩
      · rintro _ _ _ ⟨⟩
    · exact fun _ _ begun right => right.began begun
    · exact fun _ _ _ _ _ right allowed mediaOnly => right.called allowed mediaOnly
  have allowed := run.allowed (fun _ => keeps_request) atCall
  rcases WorkerOp.clip_after env op final.state member with
    ⟨other, otherStored, kept⟩ | ⟨other, -, -, rfl⟩ | ⟨fresh, -, -⟩ |
      ⟨-, other, otherStored, staged⟩
  · have equal : other = old :=
      SerialTable.eq_of_number_eq otherStored stored (kept.id.symm.trans same)
    rw [kept.status, equal, ready] at failed
    cases failed
  · cases failed
  · exact (SerialTable.number_ne_next stored (same.symm.trans fresh)).elim
  · have equal : other = old :=
      SerialTable.eq_of_number_eq otherStored stored (staged.id.symm.trans same)
    subst equal
    have writes := staged.writes
    rw [failed] at writes
    cases op with
    | markFailed id =>
        cases writes
        exact right.failsForMedia allowed
    | updateProbeInfo | markReady => cases writes
    | _ => cases writes

end Run

namespace Sample

/-- A published clip, and a media job about it without a path. -/
def reprobing : Server := serverWith .ready .probe []

/-- A media worker takes the job up, and is about to fail the clip. -/
def failing : List Action :=
  .begin (.media 0) (workerTurn workers "worker-0") :: calls (.media 0) 2 0

/-- The jobs that a call may give up belong to the media pipeline. -/
def failsMediaOnly (server : Server) (_ : Thread) (_ : WorkerOp NormalUrl)
    (_ : WorkerEnv NormalUrl) : Bool :=
  server.jobs.rows.all fun job => job.FailsRightly

theorem sound_failsMediaOnly
    (events : List (Effects.Event Thread (@WorkerOp.Result NormalUrl) Error
      (WorkerEnv NormalUrl)))
    (server : Server) (thread : Thread) (op : WorkerOp NormalUrl) (env : WorkerEnv NormalUrl)
    (passed : failsMediaOnly server thread op env = true) :
    FailsMediaOnly events server thread op env := by
  have rightly (job : JobRow) (stored : job ∈ server.jobs) : job.FailsRightly :=
    of_decide_eq_true (List.all_eq_true.mp passed job stored)
  cases op with
  | claimNextDue worker => exact fun job due _ => rightly job (Jobs.nextDue_eq_some due).1
  | bump id lockedBy => exact fun job stored _ => rightly job stored
  | reapStale timeoutSecs => exact fun job stored _ _ => rightly job stored
  | _ => trivial

/-- The media worker before it fails the clip. -/
def beforeFailure :
    List (Effects.Event Thread (@WorkerOp.Result NormalUrl) Error (WorkerEnv NormalUrl)) ×
      Effects.Config Thread (@WorkerOp.Result NormalUrl) Error Unit Server :=
  serve failsMediaOnly reprobing failing

theorem beforeFailure_run :
    Background.Run workers (Background.Requests config workers) FailsMediaOnly reprobing
      beforeFailure.1 beforeFailure.2 := by
  refine serve_run sound_failsMediaOnly reprobing failing fun thread task begun => ?_
  simp [failing] at begun
  obtain ⟨rfl, rfl⟩ := begun
  rfl

/-- A published clip, and its fan-out. -/
def fanningOut : Server := serverWith .ready .deliverCreate []

/-- A media worker takes the fan-out up, runs out of time, and counts the failure. -/
def timingOut : List Action :=
  .begin (.media 0) (workerTurn workers "worker-0") :: calls (.media 0) 1 0 ++
    [.call (.media 0) { atSecond 301 with late := true }] ++ calls (.media 0) 1 301

/-- The media worker before it fails the published clip. -/
def afterTimeout :
    List (Effects.Event Thread (@WorkerOp.Result NormalUrl) Error (WorkerEnv NormalUrl)) ×
      Effects.Config Thread (@WorkerOp.Result NormalUrl) Error Unit Server :=
  serveFreely fanningOut timingOut

theorem afterTimeout_run :
    Background.Run workers (Background.Requests config workers) (fun _ _ _ _ _ => True)
      fanningOut afterTimeout.1 afterTimeout.2 := by
  refine serveFreely_run fanningOut timingOut fun thread task begun => ?_
  simp [timingOut] at begun
  obtain ⟨rfl, rfl⟩ := begun
  rfl

/-- The call brings no media job. -/
def bringsNoMedia :
    (Σ op : WorkerOp NormalUrl, Except Error op.Result) → Bool
  | ⟨.claimNextDue _, .ok (some job)⟩ => !job.kind.isMedia
  | ⟨.reapStale _, .ok jobs⟩ => jobs.all fun job => !job.kind.isMedia
  | _ => true

theorem not_failsForMedia {clip : ClipRow} {calls : Calls NormalUrl}
    (noMedia : calls.all bringsNoMedia = true) : ¬calls.FailsForMedia clip := by
  rintro ⟨job, isMedia, -, ⟨worker, claimed⟩ | ⟨timeoutSecs, jobs, reaped, member, -⟩⟩
  · have brings : !job.kind.isMedia := List.all_eq_true.mp noMedia _ claimed
    rw [isMedia] at brings
    cases brings
  · have brings : jobs.all (fun job => !job.kind.isMedia) = true :=
      List.all_eq_true.mp noMedia _ reaped
    have spared := List.all_eq_true.mp brings job member
    rw [isMedia] at spared
    cases spared

end Sample

open Sample in
theorem reprobed_clip_fails :
    Calls.FailsForMedia (Sample.uploadedClip .ready)
      (callsOfTask WorkerOp.noted Sample.beforeFailure.1 (.media 0)) :=
  @ready_clip_failed_for_media _ _ _ _ _ _ _ _ Sample.beforeFailure_run (.media 0)
    (.markFailed 1) (Sample.atSecond 1) _ rfl (Sample.uploadedClip .ready)
    (Sample.uploadedClip .ready).fail List.mem_cons_self rfl List.mem_cons_self rfl rfl

open Sample in
/-- A media worker runs out of time with the fan-out of a published clip, and fails
the clip. -/
theorem published_clip_failed_by_fanout :
    ¬∀ (start : Server)
        (events : List (Effects.Event Thread (@WorkerOp.Result NormalUrl) Error
          (WorkerEnv NormalUrl)))
        (final : Effects.Config Thread (@WorkerOp.Result NormalUrl) Error Unit Server),
      Background.Run Sample.workers (Background.Requests Sample.config Sample.workers)
        (fun _ _ _ _ _ => True) start events final →
      ∀ thread (op : WorkerOp NormalUrl) env next, final.threads thread = .call op next →
      ∀ old ∈ final.state.clips, old.status = .ready →
      ∀ new ∈ (WorkerOp.exec env op final.state).2.clips, new.id = old.id →
        new.status = .failed →
        Calls.FailsForMedia old (callsOfTask WorkerOp.noted events thread) := by
  intro forMedia
  have noMedia : (callsOfTask WorkerOp.noted Sample.afterTimeout.1 (.media 0)).all
      Sample.bringsNoMedia = true := by
    decide
  refine @Sample.not_failsForMedia (Sample.uploadedClip .ready) _ noMedia ?_
  exact forMedia Sample.fanningOut _ _ Sample.afterTimeout_run (.media 0) (.markFailed 1)
    (Sample.atSecond 302) _ rfl (Sample.uploadedClip .ready) List.mem_cons_self rfl
    (Sample.uploadedClip .ready).fail List.mem_cons_self rfl rfl

end TootTok
