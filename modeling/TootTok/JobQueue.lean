import TootTok.Queries
import TootTok.Relational.Keyset

/-!
# The job queue

The statements that move a job through the queue. Some of them are guarded by
the lock of the worker, the others by the number of the job alone. Each is
described by what it does to every row.
-/

namespace TootTok

open Json (Value)
open Relational (Table SerialTable orderBy)
open Relational.Table (changeWhere)

/-! ## Rows -/

namespace JobRow

def isQueued (row : JobRow) : Bool := row.state = .queued

def isRunning (row : JobRow) : Bool := row.state = .running

/-- The job is done or dead. -/
def Over (row : JobRow) : Prop :=
  row.state = .done ∨ row.state = .dead

/-- The worker holds the lock of the job. -/
def LockedBy (row : JobRow) (worker : String) : Prop :=
  row.state = .running ∧ row.lockedBy = some worker

instance : DecidablePred Over := fun row => by
  unfold Over
  infer_instance

instance (row : JobRow) (worker : String) : Decidable (row.LockedBy worker) := by
  unfold LockedBy
  infer_instance

/-- A running job whose lock is older than the timeout. -/
def Stale (now : DateTime) (timeoutSecs : Nat) (row : JobRow) : Prop :=
  row.state = .running ∧
    row.lockedAt.any fun lockedAt => lockedAt.micros < now.micros - timeoutSecs * 1000000

instance (now : DateTime) (timeoutSecs : Nat) : DecidablePred (Stale now timeoutSecs) :=
  fun row => by
    unfold Stale
    infer_instance

/-- Its next failed attempt is the last one. -/
def LastAttempt (row : JobRow) : Prop :=
  row.maxAttempts ≤ row.attempts + 1

instance : DecidablePred LastAttempt := fun row => by
  unfold LastAttempt
  infer_instance

/-- The clip that the payload names. -/
def clipId (row : JobRow) : Option Int :=
  (row.payload.get "clip_id").bind Value.asI64

/-- `SET state = 'running', locked_by = worker, locked_at = now()`. -/
def lock (worker : String) (now : DateTime) (row : JobRow) : JobRow :=
  { row with state := .running, lockedBy := some worker, lockedAt := some now }

/-- `SET state = state, locked_by = NULL, locked_at = NULL`. -/
def release (state : JobState) (row : JobRow) : JobRow :=
  { row with state := state, lockedBy := none, lockedAt := none }

/-- Count a failed attempt, and queue the job again unless it was the last. -/
def countFailure (row : JobRow) : JobRow :=
  { row.release (if row.LastAttempt then .dead else .queued) with
    attempts := row.attempts + 1 }

/-- Count a failed attempt and try again later. -/
def postpone (now : DateTime) (backoffSecs : Nat) (row : JobRow) : JobRow :=
  { row.release .queued with
    attempts := row.attempts + 1
    runAfter := ⟨now.micros + backoffSecs * 1000000⟩ }

end JobRow

/-! ## Statements -/

namespace Jobs

/-- `UPDATE jobs SET … WHERE condition`. -/
def update (condition : JobRow → Bool) (change : JobRow → JobRow)
    (sameId : ∀ row, (change row).id = row.id) (table : JobTable) : JobTable :=
  SerialTable.update table condition change sameId fun _ _ => ⟨False.elim, False.elim⟩

theorem mem_update
    {condition : JobRow → Bool} {change : JobRow → JobRow}
    {sameId : ∀ row, (change row).id = row.id} {table : JobTable} {row : JobRow} :
    row ∈ update condition change sameId table ↔
      ∃ old ∈ table, changeWhere condition change old = row :=
  List.mem_map

def byId (id : Nat) (row : JobRow) : Bool := row.id = id

/-- The oldest due job among those that no other statement has locked. -/
def nextDue (now : DateTime) (skipped : Nat → Bool) (table : JobTable) : Option JobRow :=
  (orderBy (fun row => row.runAfter.micros) (table.rows.filter fun row =>
    row.isQueued && decide (row.runAfter.micros ≤ now.micros) && !skipped row.id)).head?

/-- `Job::claim_next_due`. -/
def claimNextDue (worker : String) (now : DateTime) (skipped : Nat → Bool) (table : JobTable) :
    Option JobRow × JobTable :=
  match nextDue now skipped table with
  | none => (none, table)
  | some job =>
      (some (job.lock worker now),
        update (byId job.id) (JobRow.lock worker now) (fun _ => rfl) table)

/-- `UPDATE jobs SET … WHERE id = id RETURNING *`, releasing the lock. -/
def settle (state : JobState) (id : Nat) (table : JobTable) : Option JobRow × JobTable :=
  let table := update (byId id) (JobRow.release state) (fun _ => rfl) table
  (table.find? (byId id), table)

/-- `Job::mark_done`. -/
def markDone : Nat → JobTable → Option JobRow × JobTable :=
  settle .done

/-- `Job::dead_letter`. -/
def deadLetter : Nat → JobTable → Option JobRow × JobTable :=
  settle .dead

/-- The delivery worker gives back a job that is not for it. -/
def handBack (id : Nat) (table : JobTable) : JobTable :=
  (settle .queued id table).2

/-- The statement of the reaper, which returns the rows it has changed. -/
def reapStale (now : DateTime) (timeoutSecs : Nat) (table : JobTable) :
    List JobRow × JobTable :=
  ((table.rows.filter fun row => row.Stale now timeoutSecs).map JobRow.countFailure,
    update (fun row => row.Stale now timeoutSecs) JobRow.countFailure (fun _ => rfl) table)

/-- The row that a worker may bump: the job it has claimed, under its lock. -/
def bumpable (id : Nat) (lockedBy : Option String) (row : JobRow) : Bool :=
  row.id = id ∧ lockedBy ≠ none ∧ row.lockedBy = lockedBy ∧ row.state = .running

/-- The statement of `bump_job_after_failure`: whether it changed a row. -/
def bump (id : Nat) (lockedBy : Option String) (table : JobTable) : Bool × JobTable :=
  (table.rows.any (bumpable id lockedBy),
    update (bumpable id lockedBy) JobRow.countFailure (fun _ => rfl) table)

/-- The statement of `schedule_deliver_retry`. -/
def postpone (id : Nat) (now : DateTime) (backoffSecs : Nat) (table : JobTable) : JobTable :=
  update (byId id) (JobRow.postpone now backoffSecs) (fun _ => rfl) table

/-! ### What they return -/

theorem nextDue_eq_some
    {now : DateTime} {skipped : Nat → Bool} {table : JobTable} {job : JobRow}
    (found : nextDue now skipped table = some job) : job ∈ table ∧ job.state = .queued := by
  have member := List.mem_of_mem_head? found
  rw [Relational.mem_orderBy, List.mem_filter] at member
  refine ⟨member.1, ?_⟩
  have due := member.2
  simp only [Bool.and_eq_true] at due
  exact of_decide_eq_true due.1.1

/-- A claim that brings a job has locked it. -/
theorem claimNextDue_eq_some
    {worker : String} {now : DateTime} {skipped : Nat → Bool} {table : JobTable} {job : JobRow}
    (claimed : (claimNextDue worker now skipped table).1 = some job) :
    ∃ old ∈ table, old.state = .queued ∧ job = old.lock worker now ∧
      (claimNextDue worker now skipped table).2 =
        update (byId old.id) (JobRow.lock worker now) (fun _ => rfl) table := by
  unfold claimNextDue at claimed ⊢
  cases found : nextDue now skipped table with
  | none =>
      rw [found] at claimed
      cases claimed
  | some old =>
      rw [found] at claimed
      cases claimed
      have due := nextDue_eq_some found
      exact ⟨old, due.1, due.2, rfl, rfl⟩

theorem claimNextDue_eq_none
    {worker : String} {now : DateTime} {skipped : Nat → Bool} {table : JobTable}
    (idle : (claimNextDue worker now skipped table).1 = none) :
    (claimNextDue worker now skipped table).2 = table := by
  unfold claimNextDue at idle ⊢
  cases found : nextDue now skipped table with
  | none => rfl
  | some old =>
      rw [found] at idle
      cases idle

/-- A claim brings the due job, locked. -/
theorem claimNextDue_fst
    (worker : String) (now : DateTime) (skipped : Nat → Bool) (table : JobTable) :
    (claimNextDue worker now skipped table).1 =
      (nextDue now skipped table).map (JobRow.lock worker now) := by
  unfold claimNextDue
  cases nextDue now skipped table <;> rfl

/-! ### What they do to a row -/

theorem of_mem_update
    {condition : JobRow → Bool} {change : JobRow → JobRow}
    (sameId : ∀ row, (change row).id = row.id) {table : JobTable} {row : JobRow}
    (member : row ∈ update condition change sameId table) :
    (row ∈ table ∧ condition row = false) ∨
      ∃ old ∈ table, condition old = true ∧ row = change old := by
  obtain ⟨old, stored, changed⟩ := mem_update.mp member
  unfold changeWhere at changed
  split at changed
  next holds => exact .inr ⟨old, stored, holds, changed.symm⟩
  next other =>
      subst changed
      exact .inl ⟨stored, Bool.eq_false_iff.mpr other⟩

/-- A claim locks the row that it returns. -/
theorem of_mem_claimNextDue
    {worker : String} {now : DateTime} {skipped : Nat → Bool} {table : JobTable} {row : JobRow}
    (member : row ∈ (claimNextDue worker now skipped table).2) :
    (row ∈ table ∧
        ∀ job, (claimNextDue worker now skipped table).1 = some job → job.id ≠ row.id) ∨
      ∃ old ∈ table, old.state = .queued ∧ row = old.lock worker now ∧
        (claimNextDue worker now skipped table).1 = some row := by
  cases claimed : (claimNextDue worker now skipped table).1 with
  | none =>
      rw [claimNextDue_eq_none claimed] at member
      refine .inl ⟨member, ?_⟩
      rintro _ ⟨⟩
  | some job =>
      obtain ⟨due, dueStored, queued, rfl, table'⟩ := claimNextDue_eq_some claimed
      rw [table'] at member
      rcases @of_mem_update _ (JobRow.lock worker now) (fun _ => rfl) _ _ member with
        ⟨stored, other⟩ | ⟨old, stored, named, rfl⟩
      · have different : row.id ≠ due.id := of_decide_eq_false other
        refine .inl ⟨stored, ?_⟩
        rintro _ ⟨⟩
        exact different.symm
      · have sameId : old.id = due.id := of_decide_eq_true named
        have equal : old = due := SerialTable.eq_of_number_eq stored dueStored sameId
        subst equal
        exact .inr ⟨old, stored, queued, rfl, rfl⟩

theorem of_mem_reapStale
    {now : DateTime} {timeoutSecs : Nat} {table : JobTable} {row : JobRow}
    (member : row ∈ (reapStale now timeoutSecs table).2) :
    (row ∈ table ∧ ¬row.Stale now timeoutSecs) ∨
      ∃ old ∈ table, old.Stale now timeoutSecs ∧ row = old.countFailure := by
  rcases @of_mem_update _ JobRow.countFailure (fun _ => rfl) _ _ member with
    ⟨stored, fresh⟩ | ⟨old, stored, stale, same⟩
  · exact .inl ⟨stored, of_decide_eq_false fresh⟩
  · exact .inr ⟨old, stored, of_decide_eq_true stale, same⟩

/-- A bump changes no job but one that is running under the lock. -/
theorem of_mem_bump
    {id : Nat} {lockedBy : Option String} {table : JobTable} {row : JobRow}
    (member : row ∈ (bump id lockedBy table).2) :
    row ∈ table ∨
      ∃ old ∈ table, old.id = id ∧ lockedBy ≠ none ∧ old.lockedBy = lockedBy ∧
        old.state = .running ∧ row = old.countFailure := by
  rcases @of_mem_update _ JobRow.countFailure (fun _ => rfl) _ _ member with
    ⟨stored, -⟩ | ⟨old, stored, holds, same⟩
  · exact .inl stored
  · have bumped : old.id = id ∧ lockedBy ≠ none ∧ old.lockedBy = lockedBy ∧
        old.state = .running := of_decide_eq_true holds
    exact .inr ⟨old, stored, bumped.1, bumped.2.1, bumped.2.2.1, bumped.2.2.2, same⟩

theorem of_mem_settle
    {state : JobState} {id : Nat} {table : JobTable} {row : JobRow}
    (member : row ∈ (settle state id table).2) :
    (row ∈ table ∧ row.id ≠ id) ∨
      ∃ old ∈ table, old.id = id ∧ row = old.release state := by
  rcases @of_mem_update _ (JobRow.release state) (fun _ => rfl) _ _ member with
    ⟨stored, other⟩ | ⟨old, stored, named, same⟩
  · exact .inl ⟨stored, of_decide_eq_false other⟩
  · exact .inr ⟨old, stored, of_decide_eq_true named, same⟩

theorem of_mem_postpone
    {id : Nat} {now : DateTime} {backoffSecs : Nat} {table : JobTable} {row : JobRow}
    (member : row ∈ postpone id now backoffSecs table) :
    (row ∈ table ∧ row.id ≠ id) ∨
      ∃ old ∈ table, old.id = id ∧ row = old.postpone now backoffSecs := by
  rcases @of_mem_update _ (JobRow.postpone now backoffSecs) (fun _ => rfl) _ _ member with
    ⟨stored, other⟩ | ⟨old, stored, named, same⟩
  · exact .inl ⟨stored, of_decide_eq_false other⟩
  · exact .inr ⟨old, stored, of_decide_eq_true named, same⟩

theorem bump_eq_true
    {id : Nat} {lockedBy : Option String} {table : JobTable} :
    (bump id lockedBy table).1 = true ↔ ∃ row ∈ table, bumpable id lockedBy row = true :=
  List.any_eq_true

end Jobs
end TootTok
