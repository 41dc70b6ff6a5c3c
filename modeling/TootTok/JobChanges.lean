import TootTok.Server

/-!
# What becomes of a job

What a call of a background task makes of a stored job, and which jobs it adds.
-/

namespace TootTok

open Effects
open Json (Value)
open Relational (SerialTable)

variable {Url : Type}

namespace WorkerOp

/-- The job that an update without a guard finds by its number alone. -/
def settles : WorkerOp Url → Option Nat
  | .markDone id | .deadLetter id | .handBack id | .postpone id _ => some id
  | _ => none

/-- What a call makes of a stored job. -/
inductive JobChange (call : Σ op : WorkerOp Url, Except Error op.Result) (old : JobRow) :
    JobRow → Prop
  | kept : JobChange call old old
  | locked (worker : String) (now : DateTime) (queued : old.state = .queued)
      (same : call = ⟨.claimNextDue worker, .ok (some (old.lock worker now))⟩) :
      JobChange call old (old.lock worker now)
  | released {op : WorkerOp Url} {result : op.Result} (state : JobState)
      (settles : op.settles = some old.id) (same : call = ⟨op, .ok result⟩) :
      JobChange call old (old.release state)
  | postponed (now : DateTime) (backoffSecs : Nat)
      (same : call = ⟨.postpone old.id backoffSecs, .ok ()⟩) :
      JobChange call old (old.postpone now backoffSecs)
  | bumped (running : old.state = .running) (locked : old.lockedBy ≠ none)
      (same : call = ⟨.bump old.id old.lockedBy, .ok true⟩) :
      JobChange call old old.countFailure
  | reaped (timeoutSecs : Nat) (rows : List JobRow) (running : old.state = .running)
      (returned : old.countFailure ∈ rows)
      (same : call = ⟨.reapStale timeoutSecs, .ok rows⟩) :
      JobChange call old old.countFailure

/-- No call changes what a job is about. -/
theorem JobChange.about
    {call : Σ op : WorkerOp Url, Except Error op.Result} {old new : JobRow}
    (change : JobChange call old new) :
    new.id = old.id ∧ new.kind = old.kind ∧ new.payload = old.payload := by
  cases change <;> exact ⟨rfl, rfl, rfl⟩

/-- A queued job that a call has added. -/
def AddsJob (env : WorkerEnv Url) (op : WorkerOp Url) (server : Server) (new : JobRow) : Prop :=
  ∃ kind payload, op = .base (.createJob kind payload) ∧
    new = Jobs.queued kind payload env.now server.jobs.next

/-- The jobs after a call: those before it, and the one that it adds. -/
theorem job_after (env : WorkerEnv Url) (op : WorkerOp Url) (server : Server)
    {new : JobRow} (member : new ∈ (exec env op server).2.jobs) :
    (∃ old ∈ server.jobs, JobChange ⟨op, (exec env op server).1⟩ old new) ∨
      AddsJob env op server new := by
  by_cases writes : op.Writes .jobs
  case neg =>
    have same : (exec env op server).2.jobs = server.jobs := exec_frame .jobs writes env server
    exact .inl ⟨new, same ▸ member, .kept⟩
  rcases exec_cases env op server with ⟨error, failed⟩ | performed
  · rw [failed] at member
    exact .inl ⟨new, member, .kept⟩
  rw [performed] at member ⊢
  cases op with
  | base op =>
      cases op with
      | createJob kind payload =>
          have created : new ∈ (Operation.exec env.toEnv (.createJob kind payload)
            server.toDb).2.jobs := member
          rcases Operation.exec_cases env.toEnv (.createJob kind payload) server.toDb with
            ⟨error, failed⟩ | performed
          · rw [failed] at created
            exact .inl ⟨new, created, .kept⟩
          · rw [performed] at created
            rcases SerialTable.mem_of_mem_insert created with stored | added
            · exact .inl ⟨new, stored, .kept⟩
            · exact .inr ⟨kind, payload, rfl, added⟩
      | _ => cases writes
  | claimNextDue worker =>
      rcases Jobs.of_mem_claimNextDue member with ⟨stored, -⟩ | ⟨old, stored, queued, rfl, claimed⟩
      · exact .inl ⟨new, stored, .kept⟩
      · refine .inl ⟨old, stored, .locked worker env.now queued ?_⟩
        simp only [perform, answered, Server.onJobs, claimed]
  | markDone id =>
      rcases Jobs.of_mem_settle member with ⟨stored, -⟩ | ⟨old, stored, rfl, rfl⟩
      · exact .inl ⟨new, stored, .kept⟩
      · exact .inl ⟨old, stored, .released .done rfl rfl⟩
  | deadLetter id =>
      rcases Jobs.of_mem_settle member with ⟨stored, -⟩ | ⟨old, stored, rfl, rfl⟩
      · exact .inl ⟨new, stored, .kept⟩
      · exact .inl ⟨old, stored, .released .dead rfl rfl⟩
  | handBack id =>
      rcases Jobs.of_mem_settle member with ⟨stored, -⟩ | ⟨old, stored, rfl, rfl⟩
      · exact .inl ⟨new, stored, .kept⟩
      · exact .inl ⟨old, stored, .released .queued rfl rfl⟩
  | postpone id backoffSecs =>
      rcases Jobs.of_mem_postpone member with ⟨stored, -⟩ | ⟨old, stored, rfl, rfl⟩
      · exact .inl ⟨new, stored, .kept⟩
      · exact .inl ⟨old, stored, .postponed env.now backoffSecs rfl⟩
  | bump id lockedBy =>
      rcases Jobs.of_mem_bump member with stored | ⟨old, stored, rfl, locked, rfl, running, rfl⟩
      · exact .inl ⟨new, stored, .kept⟩
      · have matched : (Jobs.bump old.id old.lockedBy server.jobs).1 = true :=
          Jobs.bump_eq_true.mpr ⟨old, stored, by simp [Jobs.bumpable, locked, running]⟩
        refine .inl ⟨old, stored, .bumped running locked ?_⟩
        simp only [perform, answered, Server.onJobs, matched]
  | reapStale timeoutSecs =>
      rcases Jobs.of_mem_reapStale member with ⟨stored, -⟩ | ⟨old, stored, stale, rfl⟩
      · exact .inl ⟨new, stored, .kept⟩
      · refine .inl ⟨old, stored, .reaped timeoutSecs _ stale.1 ?_ rfl⟩
        have fits : decide (old.Stale env.now timeoutSecs) = true := decide_eq_true stale
        exact List.mem_map_of_mem (List.mem_filter.mpr ⟨stored, fits⟩)
  | _ => exact writes.elim

/-- No call deletes a job. -/
theorem job_survives (env : WorkerEnv Url) (op : WorkerOp Url) (server : Server)
    {old : JobRow} (stored : old ∈ server.jobs) :
    ∃ new ∈ (exec env op server).2.jobs, new.id = old.id := by
  have updated (condition : JobRow → Bool) (change : JobRow → JobRow)
      (sameId : ∀ row, (change row).id = row.id) :
      ∃ new ∈ Jobs.update condition change sameId server.jobs, new.id = old.id :=
    SerialTable.survives_update condition change sameId _ stored
  by_cases writes : op.Writes .jobs
  case neg =>
    have same : (exec env op server).2.jobs = server.jobs := exec_frame .jobs writes env server
    exact ⟨old, same ▸ stored, rfl⟩
  rcases exec_cases env op server with ⟨error, failed⟩ | performed
  · exact ⟨old, by rwa [failed], rfl⟩
  rw [performed]
  cases op with
  | base op =>
      cases op with
      | createJob kind payload =>
          refine ⟨old, ?_, rfl⟩
          show old ∈ (Operation.exec env.toEnv (.createJob kind payload) server.toDb).2.jobs
          rcases Operation.exec_cases env.toEnv (.createJob kind payload) server.toDb with
            ⟨error, failed⟩ | performed
          · rwa [failed]
          · rw [performed]
            exact SerialTable.mem_insert_of_mem _ _ stored
      | _ => cases writes
  | claimNextDue worker =>
      show ∃ new ∈ (Jobs.claimNextDue worker env.now env.locked server.jobs).2, new.id = old.id
      cases claimed : (Jobs.claimNextDue worker env.now env.locked server.jobs).1 with
      | none =>
          rw [Jobs.claimNextDue_eq_none claimed]
          exact ⟨old, stored, rfl⟩
      | some job =>
          obtain ⟨_, -, -, -, table⟩ := Jobs.claimNextDue_eq_some claimed
          rw [table]
          exact updated _ (JobRow.lock worker env.now) fun _ => rfl
  | markDone id => exact updated (Jobs.byId id) (JobRow.release .done) fun _ => rfl
  | deadLetter id => exact updated (Jobs.byId id) (JobRow.release .dead) fun _ => rfl
  | handBack id => exact updated (Jobs.byId id) (JobRow.release .queued) fun _ => rfl
  | postpone id backoffSecs =>
      exact updated (Jobs.byId id) (JobRow.postpone env.now backoffSecs) fun _ => rfl
  | bump id lockedBy =>
      exact updated (Jobs.bumpable id lockedBy) JobRow.countFailure fun _ => rfl
  | reapStale timeoutSecs =>
      exact updated (fun row => row.Stale env.now timeoutSecs) JobRow.countFailure fun _ => rfl
  | _ => exact writes.elim

/-- What becomes of a stored job. -/
theorem job_changes (env : WorkerEnv Url) (op : WorkerOp Url) (server : Server)
    {old : JobRow} (stored : old ∈ server.jobs) :
    ∃ new ∈ (exec env op server).2.jobs, JobChange ⟨op, (exec env op server).1⟩ old new := by
  obtain ⟨new, member, same⟩ := job_survives env op server stored
  rcases job_after env op server member with ⟨other, otherStored, change⟩ | ⟨_, _, -, rfl⟩
  · have equal : other = old :=
      SerialTable.eq_of_number_eq otherStored stored (change.about.1.symm.trans same)
    exact ⟨new, member, equal ▸ change⟩
  · exact (SerialTable.number_ne_next stored same.symm).elim

/-- A claim that brings a job has locked it. -/
theorem of_claim {worker : String} {env : WorkerEnv Url} {server : Server} {job : JobRow}
    (claimed : (exec env (.claimNextDue worker) server).1 = .ok (some job)) :
    job ∈ (exec env (.claimNextDue worker) server).2.jobs ∧ job.state = .running ∧
      job.lockedBy = some worker := by
  rcases exec_cases env (.claimNextDue worker) server with ⟨error, failed⟩ | performed
  · rw [failed] at claimed
    cases claimed
  · rw [performed] at claimed ⊢
    have found : (Jobs.claimNextDue worker env.now env.locked server.jobs).1 = some job :=
      Except.ok.inj claimed
    obtain ⟨old, stored, -, rfl, table⟩ := Jobs.claimNextDue_eq_some found
    refine ⟨?_, rfl, rfl⟩
    show old.lock worker env.now ∈
      (Jobs.claimNextDue worker env.now env.locked server.jobs).2
    rw [table]
    exact Jobs.mem_update.mpr ⟨old, stored, if_pos (decide_eq_true rfl)⟩

end WorkerOp
end TootTok
