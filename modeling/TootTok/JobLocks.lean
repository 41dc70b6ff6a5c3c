import TootTok.TurnInvariants

/-!
# Locks of jobs

A worker that holds the lock of a job keeps it until it settles the job or the
reaper takes the job away. A worker notices neither: it settles the job by its
number. As long as a worker that has lost its job to the reaper settles the job
only while it waits in the queue again, a job that is over stays as it is, and a
running job is changed by the reaper and by the worker that holds its lock only.
-/

namespace TootTok

open Effects
open Relational (SerialTable)

variable {Url : Type}

/-! ## Jobs that the reaper takes away -/

/-- Whether the reaper has taken the job from the thread, after an event. -/
def reapedAfter (thread : Thread) (id : Nat) (reaped : Bool) :
    Effects.Event Thread (@WorkerOp.Result Url) Error (WorkerEnv Url) → Bool
  | .called ⟨caller, .claimNextDue _, _, .ok (some job)⟩ =>
      if caller = thread ∧ job.id = id then false else reaped
  | .called ⟨_, .reapStale _, _, .ok jobs⟩ => reaped || jobs.any fun job => job.id = id
  | _ => reaped

/-- The reaper has taken the job away since the thread has claimed it. -/
def reapedSinceClaim
    (events : List (Effects.Event Thread (@WorkerOp.Result Url) Error (WorkerEnv Url)))
    (thread : Thread) (id : Nat) : Bool :=
  events.foldl (reapedAfter thread id) false

/-- A job that the reaper has taken from a thread is settled by the thread only
while it is queued again. -/
def SettlesOwn : Background.Condition Url := fun events server thread op _ =>
  ∀ id, op.settles = some id → reapedSinceClaim events thread id = true →
    ∀ row ∈ server.jobs, row.id = id → row.state = .queued

/-- What a call may do to the jobs: one that is over stays as it is, and a running
one is changed by the reaper and by the holder of its lock only. -/
def RespectsLocks (thread : Thread) (op : WorkerOp Url) (before after : Server) : Prop :=
  ∀ old ∈ before.jobs, ∃ new ∈ after.jobs, new.id = old.id ∧
    (old.Over → new = old) ∧
    (old.state = .running →
      new = old ∨ (∃ timeoutSecs, op = .reapStale timeoutSecs) ∨
        thread.lockName ≠ none ∧ thread.lockName = old.lockedBy)

section Events

variable {events : List (Effects.Event Thread (@WorkerOp.Result Url) Error (WorkerEnv Url))}
  {thread : Thread} {id : Nat}

@[simp] theorem reapedSinceClaim_append
    (event : Effects.Event Thread (@WorkerOp.Result Url) Error (WorkerEnv Url)) :
    reapedSinceClaim (events ++ [event]) thread id =
      reapedAfter thread id (reapedSinceClaim events thread id) event := by
  unfold reapedSinceClaim
  rw [List.foldl_append]
  rfl

/-- Only a claim of the thread itself makes good that the job was reaped. -/
theorem reapedSinceClaim_called
    {caller : Thread} {op : WorkerOp Url} {env : WorkerEnv Url}
    {outcome : Except Error op.Result}
    (unreaped : reapedSinceClaim (events ++ [.called ⟨caller, op, env, outcome⟩]) thread id =
      false)
    (noClaim : ∀ worker job, (⟨op, outcome⟩ : Σ op : WorkerOp Url, Except Error op.Result) =
      ⟨.claimNextDue worker, .ok (some job)⟩ → caller = thread → job.id ≠ id) :
    reapedSinceClaim events thread id = false := by
  rw [reapedSinceClaim_append] at unreaped
  unfold reapedAfter at unreaped
  split at unreaped
  next same =>
    cases same
    split at unreaped
    next own => exact (noClaim _ _ rfl own.1 own.2).elim
    next => exact unreaped
  next same =>
    cases same
    exact (Bool.or_eq_false_iff.mp unreaped).1
  next => exact unreaped

/-- What the reaper has returned, is reaped. -/
theorem not_mem_of_unreaped
    {caller : Thread} {timeoutSecs : Nat} {env : WorkerEnv Url} {rows : List JobRow}
    (unreaped : reapedSinceClaim
      (events ++ [.called ⟨caller, .reapStale timeoutSecs, env, .ok rows⟩]) thread id = false)
    {row : JobRow} (returned : row ∈ rows) : row.id ≠ id := by
  intro same
  rw [reapedSinceClaim_append] at unreaped
  have spared := (Bool.or_eq_false_iff.mp unreaped).2
  exact List.any_eq_false.mp spared row returned (decide_eq_true same)

end Events

/-! ## Who may do what -/

section Allowed

variable {workers : WorkerConfig} {thread : Thread} {calls : Calls Url}

/-- Who counts a failure has claimed the job. -/
theorem claimed_of_bump {id : Nat} {lockedBy : Option String}
    (allowed : TurnAllowed workers RequestAllowed thread calls (.bump id lockedBy)) :
    ∃ job, calls.Claimed job ∧ job.id = id ∧ job.lockedBy = lockedBy := by
  cases thread with
  | media index | delivery =>
      obtain ⟨job, claimed, rfl, rfl⟩ := allowed
      exact ⟨job, claimed, rfl, rfl⟩
  | maintenance => exact allowed.elim
  | request index => exact allowed.elim

end Allowed

/-! ## The invariant -/

/-- A thread that works on a job holds its lock, unless the reaper has taken it. -/
structure LocksHeld
    (events : List (Effects.Event Thread (@WorkerOp.Result Url) Error (WorkerEnv Url)))
    (server : Server) : Prop where
  named : ∀ thread job, Calls.Claimed job (callsOfTask WorkerOp.noted events thread) →
    thread.lockName ≠ none ∧ job.lockedBy = thread.lockName
  held : ∀ thread job, Calls.Working job (callsOfTask WorkerOp.noted events thread) →
    reapedSinceClaim events thread job.id = false →
    ∃ row ∈ server.jobs, row.id = job.id ∧ row.state = .running ∧
      row.lockedBy = thread.lockName

section Step

variable {events : List (Effects.Event Thread (@WorkerOp.Result Url) Error (WorkerEnv Url))}
  {server : Server} {workers : WorkerConfig} {thread : Thread} {op : WorkerOp Url}
  {env : WorkerEnv Url}

/-- The job that a call settles is queued, or locked by its thread. -/
theorem LocksHeld.of_settles
    (held : LocksHeld events server)
    (allowed : TurnAllowed workers RequestAllowed thread
      (callsOfTask WorkerOp.noted events thread) op)
    (own : SettlesOwn events server thread op env)
    {row : JobRow} (stored : row ∈ server.jobs) (settles : op.settles = some row.id) :
    row.state = .queued ∨
      row.state = .running ∧ thread.lockName ≠ none ∧ row.lockedBy = thread.lockName := by
  obtain ⟨job, working, sameId⟩ := working_of_settles allowed settles
  cases reaped : reapedSinceClaim events thread row.id with
  | true => exact .inl (own row.id settles reaped row stored rfl)
  | false =>
      rw [← sameId] at reaped
      obtain ⟨other, otherStored, otherId, running, locked⟩ :=
        held.held thread job working reaped
      have equal : other = row :=
        SerialTable.eq_of_number_eq otherStored stored (otherId.trans sameId)
      subst equal
      exact .inr ⟨running, (held.named thread job working.claimed).1, locked⟩

/-- The job whose failure a call counts is locked by its thread. -/
theorem LocksHeld.of_bump
    (held : LocksHeld events server) {id : Nat} {lockedBy : Option String}
    (allowed : TurnAllowed workers RequestAllowed thread
      (callsOfTask WorkerOp.noted events thread) (.bump id lockedBy)) :
    thread.lockName ≠ none ∧ lockedBy = thread.lockName := by
  obtain ⟨job, claimed, -, rfl⟩ := claimed_of_bump allowed
  exact held.named thread job claimed

/-- What a call may do to the jobs. -/
theorem LocksHeld.respects
    (held : LocksHeld events server)
    (allowed : TurnAllowed workers RequestAllowed thread
      (callsOfTask WorkerOp.noted events thread) op)
    (own : SettlesOwn events server thread op env) :
    RespectsLocks thread op server (WorkerOp.exec env op server).2 := by
  intro old stored
  obtain ⟨new, member, change⟩ := WorkerOp.job_changes env op server stored
  generalize (WorkerOp.exec env op server).1 = outcome at change
  refine ⟨new, member, change.about.1, fun isOver => ?_, fun running => ?_⟩
  · have notQueued : old.state ≠ .queued := by
      rcases isOver with state | state <;> simp [state]
    have notRunning : old.state ≠ .running := by
      rcases isOver with state | state <;> simp [state]
    have unsettled (settles : op.settles = some old.id) : new = old := by
      rcases held.of_settles allowed own stored settles with queued | ⟨running, -⟩
      · exact (notQueued queued).elim
      · exact (notRunning running).elim
    cases change with
    | kept => rfl
    | locked worker now queued => exact (notQueued queued).elim
    | released state settles same =>
        cases same
        exact unsettled settles
    | postponed now backoffSecs same =>
        cases same
        exact unsettled rfl
    | bumped running => exact (notRunning running).elim
    | reaped _ _ running => exact (notRunning running).elim
  · have notQueued : old.state ≠ .queued := by simp [running]
    have settled (settles : op.settles = some old.id) :
        thread.lockName ≠ none ∧ thread.lockName = old.lockedBy := by
      rcases held.of_settles allowed own stored settles with queued | ⟨-, isWorker, locked⟩
      · exact (notQueued queued).elim
      · exact ⟨isWorker, locked.symm⟩
    cases change with
    | kept => exact .inl rfl
    | locked worker now queued => exact (notQueued queued).elim
    | released state settles same =>
        cases same
        exact .inr (.inr (settled settles))
    | postponed now backoffSecs same =>
        cases same
        exact .inr (.inr (settled rfl))
    | bumped _ _ same =>
        cases same
        have holder := held.of_bump allowed
        exact .inr (.inr ⟨holder.1, holder.2.symm⟩)
    | reaped timeoutSecs _ _ _ same =>
        cases same
        exact .inr (.inl ⟨timeoutSecs, rfl⟩)

/-- The lock of a thread that goes on working survives every call. -/
theorem LocksHeld.survives
    (held : LocksHeld events server)
    (allowed : TurnAllowed workers RequestAllowed thread
      (callsOfTask WorkerOp.noted events thread) op)
    (own : SettlesOwn events server thread op env)
    {holder : Thread} (isWorker : holder.lockName ≠ none)
    (works : holder = thread → ¬Calls.Releases ⟨op, (WorkerOp.exec env op server).1⟩)
    {row : JobRow} (stored : row ∈ server.jobs) (running : row.state = .running)
    (locked : row.lockedBy = holder.lockName)
    (unreaped : reapedSinceClaim
      (events ++ [.called ⟨thread, op, env, (WorkerOp.exec env op server).1⟩]) holder row.id =
        false) :
    ∃ new ∈ (WorkerOp.exec env op server).2.jobs, new.id = row.id ∧ new.state = .running ∧
      new.lockedBy = holder.lockName := by
  have sameHolder (lockName : row.lockedBy = thread.lockName) : holder = thread := by
    obtain ⟨name, isName⟩ := Option.ne_none_iff_exists'.mp isWorker
    exact Thread.lockName_injective isName (lockName.symm.trans (locked.trans isName))
  have settler (settles : op.settles = some row.id) : holder = thread := by
    rcases held.of_settles allowed own stored settles with queued | ⟨-, -, lockName⟩
    · exact JobState.noConfusion (queued.symm.trans running)
    · exact sameHolder lockName
  obtain ⟨new, member, change⟩ := WorkerOp.job_changes env op server stored
  generalize (WorkerOp.exec env op server).1 = outcome at works unreaped change
  cases change with
  | kept => exact ⟨row, member, rfl, running, locked⟩
  | locked worker now queued => exact JobState.noConfusion (queued.symm.trans running)
  | @released op result state settles same =>
      cases same
      have releases : Calls.Releases ⟨op, .ok result⟩ := by
        cases op <;> trivial
      exact (works (settler settles) releases).elim
  | postponed now backoffSecs same =>
      cases same
      exact (works (settler rfl) trivial).elim
  | bumped _ _ same =>
      cases same
      exact (works (sameHolder (held.of_bump allowed).2) trivial).elim
  | reaped timeoutSecs rows _ returned same =>
      cases same
      exact (not_mem_of_unreaped unreaped returned rfl).elim

/-- Every allowed call keeps the invariant. -/
theorem LocksHeld.called
    (held : LocksHeld events server)
    (allowed : TurnAllowed workers RequestAllowed thread
      (callsOfTask WorkerOp.noted events thread) op)
    (own : SettlesOwn events server thread op env) :
    LocksHeld (events ++ [.called ⟨thread, op, env, (WorkerOp.exec env op server).1⟩])
      (WorkerOp.exec env op server).2 := by
  have claimedBefore (other : Thread) (job : JobRow)
      (claimed : Calls.Claimed job (callsOfTask WorkerOp.noted
        (events ++ [.called ⟨thread, op, env, (WorkerOp.exec env op server).1⟩]) other)) :
      Calls.Claimed job (callsOfTask WorkerOp.noted events other) ∨
        other = thread ∧ ∃ worker, thread.lockName = some worker ∧
          job ∈ (WorkerOp.exec env op server).2.jobs ∧ job.state = .running ∧
          job.lockedBy = some worker := by
    rcases claimed.of_called with earlier | ⟨rfl, worker, rfl, returned⟩
    · exact .inl earlier
    · exact .inr ⟨rfl, worker, (lockName_of_claim allowed).2, WorkerOp.of_claim returned⟩
  refine ⟨fun other job claimed => ?_, fun other job working unreaped => ?_⟩
  · rcases claimedBefore other job claimed with earlier | ⟨rfl, worker, name, -, -, locked⟩
    · exact held.named other job earlier
    · rw [name]
      exact ⟨Option.some_ne_none worker, locked⟩
  rcases claimedBefore other job working.claimed with
    earlier | ⟨rfl, worker, name, member, running, locked⟩
  case inr => exact ⟨job, member, rfl, running, locked.trans name.symm⟩
  have workingBefore := working.of_called earlier
  have unreapedBefore : reapedSinceClaim events other job.id = false := by
    refine reapedSinceClaim_called unreaped ?_
    generalize (WorkerOp.exec env op server).1 = outcome
    rintro worker claimed isClaim rfl -
    cases isClaim
    obtain ⟨_, member⟩ := earlier
    rw [(lockName_of_claim allowed).1] at member
    cases member
  obtain ⟨row, stored, sameId, running, locked⟩ :=
    held.held other job workingBefore.1 unreapedBefore
  rw [← sameId] at unreaped ⊢
  exact held.survives allowed own (held.named other job earlier).1 workingBefore.2 stored
    running locked unreaped

end Step

/-! ## Runs -/

section Run

variable [UrlCrate Url] [ChronoCrate]

/-- In a run whose threads settle the jobs that the reaper has taken from them only
while these are queued, the next such call respects the locks of all jobs. -/
theorem locks_respected
    {config : Config} {workers : WorkerConfig} {start : Server}
    {events : List (Effects.Event Thread (@WorkerOp.Result Url) Error (WorkerEnv Url))}
    {final : Effects.Config Thread (@WorkerOp.Result Url) Error Unit Server}
    (run : Background.Run workers (Background.Requests config workers) SettlesOwn start
      events final)
    {thread : Thread} {op : WorkerOp Url} {env : WorkerEnv Url}
    {next : Except Error op.Result → Routine Url Unit}
    (atCall : final.threads thread = .call op next)
    (own : SettlesOwn events final.state thread op env) :
    RespectsLocks thread op final.state (WorkerOp.exec env op final.state).2 := by
  have held : LocksHeld events final.state := by
    refine run.invariant (fun _ => keeps_request) LocksHeld ?_ ?_ ?_
    · refine ⟨fun _ _ claimed => ?_, fun _ _ working => ?_⟩
      · obtain ⟨_, member⟩ := claimed
        cases member
      · obtain ⟨_, member⟩ := working.claimed
        cases member
    · intro events server begun held
      refine ⟨fun thread job claimed => ?_, fun thread job working unreaped => ?_⟩
      · exact held.named thread job claimed.of_began
      · rw [reapedSinceClaim_append] at unreaped
        exact held.held thread job working.of_began unreaped
    · intro events server thread op env held allowed own
      exact held.called allowed own
  exact held.respects (run.allowed (fun _ => keeps_request) atCall) own

end Run

namespace Sample

/-- A fan-out job without an activity. -/
def misdirected : Server := serverWith .pending .deliverCreate []

/-- The delivery worker claims the job. -/
def claiming : List Action :=
  .begin .delivery deliveryTurn :: calls .delivery 1 0

/-- The reaper takes the job away, and a media worker claims it. -/
def reclaiming : List Action :=
  .begin .maintenance (reapStaleJobs 300) :: calls .maintenance 1 1000 ++
    .begin (.media 0) (workerTurn workers "worker-0") :: calls (.media 0) 1 1001

theorem tasks_reclaiming {requests : Routine NormalUrl Unit → Prop}
    (thread : Thread) (task : Routine NormalUrl Unit)
    (begun : Effects.Action.begin thread task ∈ claiming ++ reclaiming) :
    Background.Tasks workers requests thread task := by
  simp [claiming, reclaiming] at begun
  rcases begun with ⟨rfl, rfl⟩ | ⟨rfl, rfl⟩ | ⟨rfl, rfl⟩ <;> rfl

/-- The delivery worker after its claim. -/
def afterClaim :
    List (Effects.Event Thread (@WorkerOp.Result NormalUrl) Error (WorkerEnv NormalUrl)) ×
      Effects.Config Thread (@WorkerOp.Result NormalUrl) Error Unit Server :=
  serve (fun _ _ op _ => op.settles.isNone) misdirected claiming

theorem afterClaim_run :
    Background.Run workers (Background.Requests config workers) SettlesOwn misdirected
      afterClaim.1 afterClaim.2 := by
  refine serve_run ?_ misdirected claiming fun thread task begun =>
    tasks_reclaiming thread task (List.mem_append_left _ begun)
  intro events server thread op env passed id settles
  rw [settles] at passed
  cases passed

/-- The media worker is processing the job that the delivery worker has claimed. -/
def afterReclaim :
    List (Effects.Event Thread (@WorkerOp.Result NormalUrl) Error (WorkerEnv NormalUrl)) ×
      Effects.Config Thread (@WorkerOp.Result NormalUrl) Error Unit Server :=
  serveFreely misdirected (claiming ++ reclaiming)

theorem afterReclaim_run :
    Background.Run workers (Background.Requests config workers) (fun _ _ _ _ _ => True)
      misdirected afterReclaim.1 afterReclaim.2 :=
  serveFreely_run misdirected _ tasks_reclaiming

end Sample

open Sample in
theorem holder_ends_its_job :
    RespectsLocks .delivery (.deadLetter 1 : WorkerOp NormalUrl) Sample.afterClaim.2.state
        (WorkerOp.exec (Sample.atSecond 1) (.deadLetter 1) Sample.afterClaim.2.state).2 ∧
      (WorkerOp.exec (Sample.atSecond 1) (.deadLetter 1)
        Sample.afterClaim.2.state).2.jobs.rows.map JobRow.state = [.dead] :=
  ⟨locks_respected Sample.afterClaim_run rfl (by
      rintro id ⟨⟩ reaped
      have unreaped : reapedSinceClaim Sample.afterClaim.1 .delivery 1 = false := by
        decide
      rw [unreaped] at reaped
      cases reaped),
    by decide⟩

open Sample in
/-- The delivery worker kills a job that the reaper has taken from it, while a
media worker holds the lock of the job. -/
theorem reclaimed_job_killed :
    ¬∀ (start : Server)
        (events : List (Effects.Event Thread (@WorkerOp.Result NormalUrl) Error
          (WorkerEnv NormalUrl)))
        (final : Effects.Config Thread (@WorkerOp.Result NormalUrl) Error Unit Server),
      Background.Run Sample.workers (Background.Requests Sample.config Sample.workers)
        (fun _ _ _ _ _ => True) start events final →
      ∀ thread (op : WorkerOp NormalUrl) env next, final.threads thread = .call op next →
        RespectsLocks thread op final.state (WorkerOp.exec env op final.state).2 := by
  intro respects
  have killed := respects Sample.misdirected _ _ Sample.afterReclaim_run
    .delivery (.deadLetter 1) (Sample.atSecond 1002) _ rfl
  have locked : Sample.afterReclaim.2.state.jobs.rows.map
      (fun row => (row.id, row.state, row.lockedBy)) = [(1, .running, some "worker-0")] := by
    decide
  have ended : (WorkerOp.exec (Sample.atSecond 1002) (.deadLetter 1)
      Sample.afterReclaim.2.state).2.jobs.rows.map JobRow.state = [.dead] := by
    decide
  obtain ⟨old, stored, isOld⟩ : ∃ old ∈ Sample.afterReclaim.2.state.jobs.rows,
      (old.id, old.state, old.lockedBy) = (1, .running, some "worker-0") := by
    rw [← List.mem_map, locked]
    exact List.mem_singleton_self _
  obtain ⟨new, member, -, -, changed⟩ := killed old stored
  have running : old.state = .running := congrArg (fun triple => triple.2.1) isOld
  have holder : old.lockedBy = some "worker-0" := congrArg (fun triple => triple.2.2) isOld
  have dead : new.state = .dead := by
    have inside : new.state ∈ (WorkerOp.exec (Sample.atSecond 1002) (.deadLetter 1)
        Sample.afterReclaim.2.state).2.jobs.rows.map JobRow.state :=
      List.mem_map_of_mem member
    rw [ended] at inside
    exact List.mem_singleton.mp inside
  rcases changed running with same | ⟨_, isReap⟩ | ⟨-, isHolder⟩
  · rw [same, running] at dead
    cases dead
  · cases isReap
  · rw [holder] at isHolder
    exact absurd isHolder (by decide)

end TootTok
