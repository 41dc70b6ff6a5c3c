import TootTok.JobChanges
import TootTok.TurnProofs

/-!
# Invariants of a running server

The invariant rule for the runs of a server, whose calls keep to the protocol of
turns, and what holds of the jobs that its threads have claimed.
-/

namespace TootTok

open Effects

variable {Url : Type}

/-! ## Runs -/

namespace Background

variable [UrlCrate Url] [ChronoCrate]
variable {workers : WorkerConfig} {requests : Routine Url Unit → Prop}
  {condition : Condition Url} {start : Server}
  {events : List (Effects.Event Thread (@WorkerOp.Result Url) Error (WorkerEnv Url))}
  {final : Effects.Config Thread (@WorkerOp.Result Url) Error Unit Server}
  {requestAllowed : Calls Url → WorkerOp Url → Prop}

/-- The next call of a thread is one that its turn allows. -/
theorem Run.allowed (run : Run workers requests condition start events final)
    (requestsKeep : ∀ task, requests task → task.Keeps requestAllowed [])
    {thread : Thread} {op : WorkerOp Url} {next : Except Error op.Result → Routine Url Unit}
    (atCall : final.threads thread = .call op next) :
    TurnAllowed workers requestAllowed thread (callsOfTask WorkerOp.noted events thread) op := by
  have starts (thread : Thread) :
      ((Config.idle start () : Effects.Config Thread (@WorkerOp.Result Url) Error Unit
        Server).threads thread).Follows (turnProtocol (TurnAllowed workers requestAllowed thread))
          (fun _ _ => True) [] := trivial
  have allowed := Serves.allowed run starts
    (fun _ _ isTask => turn_follows requestsKeep isTask) atCall
  rwa [memories_recording] at allowed

/-- What holds at the start and is kept by every call that its turn allows, holds
throughout. -/
theorem Run.invariant (run : Run workers requests condition start events final)
    (requestsKeep : ∀ task, requests task → task.Keeps requestAllowed [])
    (holds : List (Effects.Event Thread (@WorkerOp.Result Url) Error (WorkerEnv Url)) →
      Server → Prop)
    (initially : holds [] start)
    (begins : ∀ events server thread, holds events server →
      holds (events ++ [.began thread]) server)
    (calls : ∀ events server thread op env, holds events server →
      TurnAllowed workers requestAllowed thread (callsOfTask WorkerOp.noted events thread) op →
      condition events server thread op env →
      holds (events ++ [.called ⟨thread, op, env, (WorkerOp.exec env op server).1⟩])
        (WorkerOp.exec env op server).2) :
    holds events final.state := by
  have starts (thread : Thread) :
      ((Config.idle start () : Effects.Config Thread (@WorkerOp.Result Url) Error Unit
        Server).threads thread).Follows (turnProtocol (TurnAllowed workers requestAllowed thread))
          (fun _ _ => True) [] := trivial
  refine Serves.invariant run starts (fun _ _ isTask => turn_follows requestsKeep isTask)
    holds initially begins ?_
  intro events server thread op env held allowed admitted
  rw [memories_recording] at allowed
  exact calls events server thread op env held allowed admitted

end Background

/-! ## Claimed jobs -/

/-- Who settles a job is working on it. -/
theorem working_of_settles
    {workers : WorkerConfig} {thread : Thread} {calls : Calls Url}
    {op : WorkerOp Url} {id : Nat}
    (allowed : TurnAllowed workers RequestAllowed thread calls op)
    (settles : op.settles = some id) :
    ∃ job, calls.Working job ∧ job.id = id := by
  have ofWorker {name : String} (allowed : WorkerAllowed workers name calls op) :
      ∃ job, calls.Working job ∧ job.id = id := by
    cases op with
    | markDone | deadLetter | postpone =>
        cases settles
        obtain ⟨job, working, rfl⟩ := allowed
        exact ⟨job, working, rfl⟩
    | handBack =>
        cases settles
        obtain ⟨job, working, rfl, -⟩ := allowed
        exact ⟨job, working, rfl⟩
    | _ => cases settles
  cases thread with
  | media index => exact ofWorker allowed
  | delivery => exact ofWorker allowed
  | maintenance => cases op <;> first | exact allowed.elim | cases settles
  | request index => cases op <;> first | exact allowed.elim | cases settles

/-- The jobs that the threads have claimed are stored, and about the same. -/
def ClaimsStored
    (events : List (Effects.Event Thread (@WorkerOp.Result Url) Error (WorkerEnv Url)))
    (server : Server) : Prop :=
  ∀ thread job, Calls.Claimed job (callsOfTask WorkerOp.noted events thread) →
    ∃ row ∈ server.jobs, row.id = job.id ∧ row.kind = job.kind ∧ row.payload = job.payload

section Step

variable
  {events : List (Effects.Event Thread (@WorkerOp.Result Url) Error (WorkerEnv Url))}
  {server : Server} {thread other : Thread} {op : WorkerOp Url} {env : WorkerEnv Url}
  {job : JobRow}

theorem Calls.Claimed.of_began
    (claimed : Calls.Claimed job
      (callsOfTask WorkerOp.noted (events ++ [.began thread]) other)) :
    Calls.Claimed job (callsOfTask WorkerOp.noted events other) := by
  obtain ⟨worker, member⟩ := claimed
  exact ⟨worker, mem_callsOfTask_began member⟩

/-- A job was claimed before a call, or with it. -/
theorem Calls.Claimed.of_called
    (claimed : Calls.Claimed job (callsOfTask WorkerOp.noted
      (events ++ [.called ⟨thread, op, env, (WorkerOp.exec env op server).1⟩]) other)) :
    Calls.Claimed job (callsOfTask WorkerOp.noted events other) ∨
      other = thread ∧ ∃ worker, op = .claimNextDue worker ∧
        (WorkerOp.exec env (.claimNextDue worker) server).1 = .ok (some job) := by
  obtain ⟨worker, member⟩ := claimed
  rcases mem_callsOfTask_called member with earlier | ⟨rfl, isCall⟩
  · exact .inl ⟨worker, earlier⟩
  · generalize returned : (WorkerOp.exec env op server).1 = outcome at isCall
    cases isCall
    exact .inr ⟨rfl, worker, rfl, returned⟩

theorem Calls.Working.of_began
    (working : Calls.Working job
      (callsOfTask WorkerOp.noted (events ++ [.began thread]) other)) :
    Calls.Working job (callsOfTask WorkerOp.noted events other) := by
  rcases callsOfTask_began_cases WorkerOp.noted events thread other with empty | same
  · rw [empty] at working
    obtain ⟨_, ⟨⟩⟩ := working.claimed
  · rwa [same] at working

/-- Who works on a job it has claimed before, has not released it with this call. -/
theorem Calls.Working.of_called {outcome : Except Error op.Result}
    (working : Calls.Working job (callsOfTask WorkerOp.noted
      (events ++ [.called ⟨thread, op, env, outcome⟩]) other))
    (earlier : Calls.Claimed job (callsOfTask WorkerOp.noted events other)) :
    Calls.Working job (callsOfTask WorkerOp.noted events other) ∧
      (other = thread → ¬Calls.Releases ⟨op, outcome⟩) := by
  rcases callsOfTask_called_cases WorkerOp.noted events thread other op env outcome with
    ⟨same, silent⟩ | ⟨rfl, extended⟩
  · rw [same] at working
    refine ⟨working, fun isThread releases => ?_⟩
    have noted : op.noted = true := by
      cases op <;> first | rfl | exact releases.elim
    rw [silent isThread] at noted
    cases noted
  · rw [extended] at working
    refine ⟨⟨earlier, fun call member => ?_⟩, fun _ => ?_⟩
    · exact working.held call (List.mem_append_left _ member)
    · exact working.held _ (List.mem_append_right _ (List.mem_singleton_self _))

theorem ClaimsStored.nil (server : Server) :
    ClaimsStored
      ([] : List (Effects.Event Thread (@WorkerOp.Result Url) Error (WorkerEnv Url)))
      server := by
  rintro _ _ ⟨_, ⟨⟩⟩

theorem ClaimsStored.began (stored : ClaimsStored events server) (thread : Thread) :
    ClaimsStored (events ++ [.began thread]) server :=
  fun other job claimed => stored other job claimed.of_began

theorem ClaimsStored.called (stored : ClaimsStored events server) (thread : Thread)
    (op : WorkerOp Url) (env : WorkerEnv Url) :
    ClaimsStored (events ++ [.called ⟨thread, op, env, (WorkerOp.exec env op server).1⟩])
      (WorkerOp.exec env op server).2 := by
  intro other job claimed
  rcases claimed.of_called with earlier | ⟨rfl, worker, rfl, returned⟩
  · obtain ⟨row, member, sameId, kind, payload⟩ := stored other job earlier
    obtain ⟨new, newMember, change⟩ := WorkerOp.job_changes env op server member
    obtain ⟨newId, newKind, newPayload⟩ := change.about
    exact ⟨new, newMember, newId.trans sameId, newKind.trans kind, newPayload.trans payload⟩
  · exact ⟨job, (WorkerOp.of_claim returned).1, rfl, rfl, rfl⟩

end Step
end TootTok
