import TootTok.Background
import TootTok.Turns

/-!
# Attempts

Workers claim jobs and give up on them while the reaper takes stale jobs away.
Both count the failed attempt, under guards that let only one of them count it:
the attempts of a job, with the one under way, are as many as its claims.
-/

namespace TootTok

open Effects

variable {Url : Type} {ι : Type} [DecidableEq ι]

/-! ## The system -/

/-- A worker claims a job and fails it, at some later time. -/
def failingTurn (worker : String) : Routine Url Unit := do
  match ← Routine.caught (ask (.claimNextDue worker)) with
  | .ok (some job) => bumpJobAfterFailure job (JobRow.clipId job)
  | _ => pure ()

/-- Workers that fail their jobs, and the reaper. -/
def FailingTasks (names : ι → String) : Option ι → Routine Url Unit → Prop
  | some worker, task => task = failingTurn (names worker)
  | none, task => ∃ timeoutSecs, task = reapStaleJobs timeoutSecs

/-- The turn has claimed the job, and its failure was counted. -/
def Calls.JustBumped (job : JobRow) (calls : Calls Url) : Prop :=
  ∃ worker,
    calls = [⟨.claimNextDue worker, .ok (some job)⟩, ⟨.bump job.id job.lockedBy, .ok true⟩]

/-- What a thread may call after the calls it has made. -/
def FailingAllowed : Option ι → Calls Url → WorkerOp Url → Prop
  | some _, calls, .claimNextDue _ => calls = []
  | some _, calls, .bump id lockedBy =>
      ∃ job, calls.JustClaimed job ∧ id = job.id ∧ lockedBy = job.lockedBy
  | some _, calls, .markFailed clipId =>
      ∃ job, calls.JustBumped job ∧ job.clipId = some clipId
  | none, _, .reapStale _ => True
  | none, _, .markFailed _ => True
  | _, _, _ => False

omit [DecidableEq ι] in
theorem failing_follow {names : ι → String} {thread : Option ι} {task : Routine Url Unit}
    (isTask : FailingTasks names thread task) :
    task.Keeps (FailingAllowed thread) [] := by
  cases thread with
  | some worker =>
      subst isTask
      refine Routine.keeps_ask_then _ rfl rfl fun claimed => ?_
      rcases claimed with _ | (_ | job)
      · trivial
      · trivial
      refine Routine.keeps_ask_then _ rfl ⟨job, ⟨_, rfl⟩, rfl, rfl⟩ fun bumped => ?_
      rcases bumped with _ | (_ | _)
      · trivial
      · trivial
      dsimp only
      split
      next clipId named =>
        exact Routine.keeps_discarded _ rfl ⟨job, ⟨_, rfl⟩, named⟩
      next => trivial
  | none =>
      obtain ⟨timeoutSecs, rfl⟩ := isTask
      have failed (jobs : List JobRow) (calls : Calls Url) :
          (failClipsOfDead jobs : Routine Url Unit).Keeps (FailingAllowed (none : Option ι))
            calls := by
        induction jobs generalizing calls with
        | nil => trivial
        | cons job jobs inductionHypothesis =>
            unfold failClipsOfDead
            split
            · cases job.clipId with
              | some clipId =>
                  exact Routine.keeps_discarded_ask_then _ rfl trivial fun _ => inductionHypothesis _
              | none => exact inductionHypothesis calls
            · exact inductionHypothesis calls
      refine Routine.keeps_ask_then _ rfl trivial fun reaped => ?_
      cases reaped with
      | ok jobs => exact failed jobs _
      | error _ => trivial

/-! ## What a call does to a job -/

omit [DecidableEq ι] in
theorem failing_calls {thread : Option ι} {calls : Calls Url} {op : WorkerOp Url}
    (allowed : FailingAllowed thread calls op) :
    (∃ worker, op = .claimNextDue worker) ∨ (∃ id lockedBy, op = .bump id lockedBy) ∨
      (∃ clipId, op = .markFailed clipId) ∨ ∃ timeoutSecs, op = .reapStale timeoutSecs := by
  cases thread <;> cases op <;> first | exact allowed.elim | simp

/-- The event is a claim that brings the job. -/
def claimsJob (id : Nat) :
    Effects.Event (Option ι) (@WorkerOp.Result Url) Error (WorkerEnv Url) → Bool
  | .called ⟨_, .claimNextDue _, _, .ok (some job)⟩ => job.id = id
  | _ => false

/-- How often the job has been claimed. -/
def claims (events : List (Effects.Event (Option ι) (@WorkerOp.Result Url) Error (WorkerEnv Url)))
    (id : Nat) : Nat :=
  events.countP (claimsJob id)

/-- The attempts of a job that have begun: the failed ones, and the one under
way. -/
def JobRow.begun (row : JobRow) : Int :=
  row.attempts + if row.state = .running then 1 else 0

/-- A job stays as it is, is claimed, or fails while it is running. -/
inductive AttemptStep (old : JobRow) : (claimed : Bool) → (new : JobRow) → Prop
  | unchanged : AttemptStep old false old
  | locked (worker : String) (now : DateTime) (queued : old.state = .queued) :
      AttemptStep old true (old.lock worker now)
  | failed (running : old.state = .running) : AttemptStep old false old.countFailure

omit [DecidableEq ι] in
theorem attemptStep_exec {thread : Option ι} {calls : Calls Url} {op : WorkerOp Url}
    (allowed : FailingAllowed thread calls op) (env : WorkerEnv Url) (server : Server)
    {new : JobRow} (member : new ∈ (WorkerOp.exec env op server).2.jobs) :
    ∃ old ∈ server.jobs,
      AttemptStep old
        (claimsJob old.id (.called ⟨thread, op, env, (WorkerOp.exec env op server).1⟩)) new := by
  rcases WorkerOp.exec_cases env op server with ⟨error, failed⟩ | performed
  · rw [failed] at member ⊢
    refine ⟨new, member, ?_⟩
    rcases failing_calls allowed with ⟨_, rfl⟩ | ⟨_, _, rfl⟩ | ⟨_, rfl⟩ | ⟨_, rfl⟩ <;>
      exact .unchanged
  rw [performed] at member ⊢
  rcases failing_calls allowed with
    ⟨worker, rfl⟩ | ⟨id, lockedBy, rfl⟩ | ⟨clipId, rfl⟩ | ⟨timeoutSecs, rfl⟩
  · rcases Jobs.of_mem_claimNextDue member with
      ⟨stored, others⟩ | ⟨old, stored, queued, rfl, claimed⟩
    · refine ⟨new, stored, ?_⟩
      simp only [WorkerOp.perform, WorkerOp.answered, Server.onJobs]
      cases claimed : (Jobs.claimNextDue worker env.now env.locked server.jobs).1 with
      | none => exact .unchanged
      | some job =>
          have other : claimsJob new.id (.called ⟨thread, .claimNextDue worker, env,
              .ok (some job)⟩) = false := decide_eq_false (others job claimed)
          rw [other]
          exact .unchanged
    · refine ⟨old, stored, ?_⟩
      simp only [WorkerOp.perform, WorkerOp.answered, Server.onJobs]
      rw [claimed]
      have this : claimsJob old.id (.called ⟨thread, .claimNextDue worker, env,
          .ok (some (old.lock worker env.now))⟩) = true := decide_eq_true rfl
      rw [this]
      exact .locked worker env.now queued
  · rcases Jobs.of_mem_bump member with stored | ⟨old, stored, -, -, -, running, rfl⟩
    · exact ⟨new, stored, .unchanged⟩
    · exact ⟨old, stored, .failed running⟩
  · exact ⟨new, member, .unchanged⟩
  · rcases Jobs.of_mem_reapStale member with ⟨stored, -⟩ | ⟨old, stored, stale, rfl⟩
    · exact ⟨new, stored, .unchanged⟩
    · exact ⟨old, stored, .failed stale.1⟩

/-! ## The account of a job -/

/-- A job that can still be tried has an attempt left. -/
def JobRow.Accountable (row : JobRow) : Prop :=
  row.attempts ≤ row.maxAttempts ∧ (¬row.Over → row.attempts < row.maxAttempts)

instance : DecidablePred JobRow.Accountable := fun row => by
  unfold JobRow.Accountable
  infer_instance

/-- The account of a job since it was first seen. -/
structure Accounted
    (events : List (Effects.Event (Option ι) (@WorkerOp.Result Url) Error (WorkerEnv Url)))
    (old new : JobRow) : Prop where
  id : new.id = old.id
  ended : old.Over → new = old
  /-- Every claim has begun one attempt, and nothing else has. -/
  begun : new.begun = old.begun + claims events old.id
  bounded : new.attempts ≤ new.maxAttempts
  undone : ¬old.Over → new.state ≠ .done
  dead : ¬old.Over → (new.state = .dead ↔ new.attempts = new.maxAttempts)

omit [DecidableEq ι] in
theorem Accounted.initially {row : JobRow} (accountable : row.Accountable) :
    Accounted ([] : List (Effects.Event (Option ι) (@WorkerOp.Result Url) Error
      (WorkerEnv Url))) row row where
  id := rfl
  ended _ := rfl
  begun := by simp [claims]
  bounded := accountable.1
  undone live isDone := live (.inl isDone)
  dead live := by
    have left := accountable.2 live
    constructor
    · exact fun isDead => (live (.inr isDead)).elim
    · intro spent
      omega

theorem JobRow.not_over_of_live {row : JobRow}
    (live : row.state = .queued ∨ row.state = .running) : ¬row.Over := by
  rintro (isDone | isDead)
  · rcases live with state | state <;> exact JobState.noConfusion (isDone.symm.trans state)
  · rcases live with state | state <;> exact JobState.noConfusion (isDead.symm.trans state)

omit [DecidableEq ι] in
/-- The account is kept by every step of a job. -/
theorem Accounted.step
    {events : List (Effects.Event (Option ι) (@WorkerOp.Result Url) Error (WorkerEnv Url))}
    {event : Effects.Event (Option ι) (@WorkerOp.Result Url) Error (WorkerEnv Url)}
    {first old new : JobRow} (accounted : Accounted events first old)
    (step : AttemptStep old (claimsJob first.id event) new) :
    Accounted (events ++ [event]) first new := by
  have counted : claims (events ++ [event]) first.id =
      claims events first.id + if claimsJob first.id event then 1 else 0 := by
    unfold claims
    rw [List.countP_append, List.countP_singleton]
  have begun := accounted.begun
  have live (state : old.state = .queued ∨ old.state = .running) : ¬first.Over :=
    fun isOver => JobRow.not_over_of_live state (accounted.ended isOver ▸ isOver)
  generalize claimsJob first.id event = claimed at step counted
  cases step with
  | unchanged =>
      refine { accounted with begun := ?_ }
      rw [counted]
      simpa using begun
  | locked worker now queued =>
      have notOver := live (.inl queued)
      refine ⟨accounted.id, fun isOver => (notOver isOver).elim, ?_, accounted.bounded,
        fun _ => JobState.noConfusion, fun _ => ?_⟩
      · rw [counted]
        simp only [JobRow.begun, JobRow.lock, queued] at begun ⊢
        simp at begun ⊢
        omega
      · have alive := accounted.dead notOver
        rw [queued] at alive
        simpa [JobRow.lock] using alive
  | failed running =>
      have notOver := live (.inr running)
      have left : old.attempts < old.maxAttempts := by
        have bounded := accounted.bounded
        have alive := accounted.dead notOver
        rw [running] at alive
        have unspent : old.attempts ≠ old.maxAttempts :=
          fun spent => JobState.noConfusion (alive.mpr spent)
        omega
      refine ⟨accounted.id, fun isOver => (notOver isOver).elim, ?_, ?_, fun _ => ?_, fun _ => ?_⟩
      · rw [counted]
        simp only [JobRow.begun, running] at begun
        simp only [JobRow.begun, JobRow.countFailure, JobRow.release]
        split <;> simp at begun ⊢ <;> omega
      · simp only [JobRow.countFailure, JobRow.release]
        omega
      · simp only [JobRow.countFailure, JobRow.release]
        split <;> exact JobState.noConfusion
      · by_cases last : old.LastAttempt
        · have spent : old.maxAttempts ≤ old.attempts + 1 := last
          simp only [JobRow.countFailure, JobRow.release, if_pos last, true_iff]
          omega
        · have unspent : ¬old.maxAttempts ≤ old.attempts + 1 := last
          simp only [JobRow.countFailure, JobRow.release, if_neg last]
          exact ⟨fun isDead => JobState.noConfusion isDead, fun spent => by omega⟩

/-! ## Runs -/

namespace Sample

/-- A worker has claimed a job when the reaper takes it away; then the worker
fails it. -/
def reapedInFailure :
    List (Effects.Action (Option Unit) (@WorkerOp.Result NormalUrl) Error Unit
      (WorkerEnv NormalUrl)) :=
  [.begin (some ()) (failingTurn "worker-0"), .call (some ()) (atSecond 0),
    .begin none (reapStaleJobs 300), .call none (atSecond 1000),
    .call (some ()) (atSecond 1001)]

/-- The run of that schedule on one probe job. -/
def afterReap :
    List (Effects.Event (Option Unit) (@WorkerOp.Result NormalUrl) Error
        (WorkerEnv NormalUrl)) ×
      Effects.Config (Option Unit) (@WorkerOp.Result NormalUrl) Error Unit Server :=
  Config.serve WorkerOp.exec (fun _ _ _ _ _ => true) []
    (Config.idle (serverWith .pending .probe []) ()) reapedInFailure

theorem afterReap_serves :
    Serves WorkerOp.exec (FailingTasks fun _ : Unit => "worker-0") (fun _ _ _ _ _ => True)
      (Config.idle (serverWith .pending .probe []) ()) afterReap.1 afterReap.2 := by
  refine Config.serve_serves (fun _ _ _ _ _ _ => trivial) reapedInFailure ?_ .start
  intro thread task begun
  simp [reapedInFailure] at begun
  rcases begun with ⟨rfl, rfl⟩ | ⟨rfl, rfl⟩
  · rfl
  · exact ⟨300, rfl⟩

end Sample

end TootTok
