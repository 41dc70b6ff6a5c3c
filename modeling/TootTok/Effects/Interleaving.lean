import Mathlib.Data.List.Basic
import Mathlib.Logic.Function.Basic
import TootTok.Effects.Program

/-!
# Interleaved runs of several programs

A configuration is a shared state and one program for each thread. One step
lets any thread make its next call, under any environment. Calls are atomic
and nothing else is: between two calls of one thread every other thread may
make any number of its own.
-/

namespace TootTok
namespace Effects

variable {Op : Type} {Result : Op → Type} {ε α σ Env ι : Type}

/-- A shared state and the remaining program of each thread. -/
structure Config
    (ι : Type) {Op : Type} (Result : Op → Type) (ε α σ : Type) where
  state : σ
  threads : ι → Program Result ε α

/-- One atomic call: who made it, under which environment, and its outcome. -/
structure Call
    (ι : Type) {Op : Type} (Result : Op → Type) (ε Env : Type) where
  thread : ι
  op : Op
  env : Env
  outcome : Except ε (Result op)

/-- A program with no call left. -/
def Program.Finished : Program Result ε α → Prop
  | .done _ => True
  | .fail _ => True
  | .call _ _ => False

@[simp] theorem Program.finished_done (value : α) :
    (Program.done value : Program Result ε α).Finished := trivial

@[simp] theorem Program.finished_fail (error : ε) :
    (Program.fail error : Program Result ε α).Finished := trivial

@[simp] theorem Program.not_finished_call
    (op : Op) (next : Except ε (Result op) → Program Result ε α) :
    ¬(Program.call op next).Finished := id

variable [DecidableEq ι]

/-- The configuration after `thread` calls `op`. -/
def Config.afterCall
    (exec : Program.Executor Result ε σ Env)
    (config : Config ι Result ε α σ)
    (thread : ι) (op : Op) (env : Env)
    (next : Except ε (Result op) → Program Result ε α) :
    Config ι Result ε α σ where
  state := (exec env op config.state).2
  threads := Function.update config.threads thread
    (next (exec env op config.state).1)

/-- One thread makes its next call. -/
inductive Step (exec : Program.Executor Result ε σ Env) :
    Config ι Result ε α σ → Call ι Result ε Env → Config ι Result ε α σ → Prop
  | call
      {config : Config ι Result ε α σ}
      (thread : ι) (op : Op) (env : Env)
      (next : Except ε (Result op) → Program Result ε α)
      (atCall : config.threads thread = .call op next) :
      Step exec config
        ⟨thread, op, env, (exec env op config.state).1⟩
        (config.afterCall exec thread op env next)

/-- The calls made so far lead from the first configuration to the second. -/
inductive Interleaved (exec : Program.Executor Result ε σ Env)
    (start : Config ι Result ε α σ) :
    List (Call ι Result ε Env) → Config ι Result ε α σ → Prop
  | start : Interleaved exec start [] start
  | step
      {calls : List (Call ι Result ε Env)}
      {config final : Config ι Result ε α σ}
      {call : Call ι Result ε Env}
      (earlier : Interleaved exec start calls config)
      (last : Step exec config call final) :
      Interleaved exec start (calls ++ [call]) final

section Rules

variable {exec : Program.Executor Result ε σ Env} {start : Config ι Result ε α σ}

/-- The invariant rule: what holds of the start and is kept by every call holds
of every interleaved run. -/
theorem Interleaved.invariant
    {calls : List (Call ι Result ε Env)}
    {config : Config ι Result ε α σ}
    (run : Interleaved exec start calls config)
    (invariant : List (Call ι Result ε Env) → Config ι Result ε α σ → Prop)
    (initially : invariant [] start)
    (kept : ∀ calls config thread op env next,
      Interleaved exec start calls config →
      invariant calls config →
      config.threads thread = .call op next →
      invariant (calls ++ [⟨thread, op, env, (exec env op config.state).1⟩])
        (config.afterCall exec thread op env next)) :
    invariant calls config := by
  induction run with
  | start => exact initially
  | step earlier last inductionHypothesis =>
      cases last with
      | call thread op env next atCall =>
          exact kept _ _ thread op env next earlier inductionHypothesis atCall

@[simp] theorem Config.afterCall_threads_same
    (config : Config ι Result ε α σ)
    (thread : ι) (op : Op) (env : Env)
    (next : Except ε (Result op) → Program Result ε α) :
    (config.afterCall exec thread op env next).threads thread =
      next (exec env op config.state).1 := by
  simp [afterCall]

theorem Config.afterCall_threads_other
    (config : Config ι Result ε α σ)
    (thread : ι) (op : Op) (env : Env)
    (next : Except ε (Result op) → Program Result ε α)
    {other : ι}
    (different : other ≠ thread) :
    (config.afterCall exec thread op env next).threads other =
      config.threads other := by
  simp [afterCall, different]

@[simp] theorem Config.afterCall_state
    (config : Config ι Result ε α σ)
    (thread : ι) (op : Op) (env : Env)
    (next : Except ε (Result op) → Program Result ε α) :
    (config.afterCall exec thread op env next).state =
      (exec env op config.state).2 := rfl

/-- A thread whose program has changed has made a call. -/
theorem Interleaved.called_of_moved
    {calls : List (Call ι Result ε Env)}
    {config : Config ι Result ε α σ}
    (run : Interleaved exec start calls config)
    {thread : ι}
    (moved : config.threads thread ≠ start.threads thread) :
    ∃ call ∈ calls, call.thread = thread := by
  induction run with
  | start => exact (moved rfl).elim
  | step earlier last inductionHypothesis =>
      cases last with
      | call caller op env next atCall =>
          by_cases same : thread = caller
          · exact ⟨_, List.mem_append_right _ (List.mem_singleton_self _), same.symm⟩
          · rw [Config.afterCall_threads_other _ caller op env next same] at moved
            obtain ⟨call, present, byThread⟩ := inductionHypothesis moved
            exact ⟨call, List.mem_append_left _ present, byThread⟩

end Rules

/-! ## Executable schedules -/

/-- Let the listed threads make one call each, in order. A thread that has
finished is passed over. -/
def Config.schedule
    (exec : Program.Executor Result ε σ Env)
    (config : Config ι Result ε α σ) :
    List (ι × Env) →
      List (Call ι Result ε Env) × Config ι Result ε α σ
  | [] => ([], config)
  | (thread, env) :: rest =>
      match config.threads thread with
      | .call op next =>
          let later := (config.afterCall exec thread op env next).schedule exec rest
          (⟨thread, op, env, (exec env op config.state).1⟩ :: later.1, later.2)
      | _ => config.schedule exec rest

theorem Interleaved.prepend
    {exec : Program.Executor Result ε σ Env}
    {start middle final : Config ι Result ε α σ}
    {call : Call ι Result ε Env}
    {calls : List (Call ι Result ε Env)}
    (first : Step exec start call middle)
    (rest : Interleaved exec middle calls final) :
    Interleaved exec start (call :: calls) final := by
  induction rest with
  | start => exact (.step .start first : Interleaved exec start ([] ++ [call]) middle)
  | step _ last inductionHypothesis => exact .step inductionHypothesis last

/-- A schedule is an interleaved run. -/
theorem Config.schedule_interleaved
    (exec : Program.Executor Result ε σ Env)
    (config : Config ι Result ε α σ)
    (schedule : List (ι × Env)) :
    Interleaved exec config
      (config.schedule exec schedule).1 (config.schedule exec schedule).2 := by
  induction schedule generalizing config with
  | nil => exact .start
  | cons entry rest inductionHypothesis =>
      obtain ⟨thread, env⟩ := entry
      rw [Config.schedule]
      split
      next op next atCall =>
        exact (inductionHypothesis _).prepend (.call thread op env next atCall)
      next => exact inductionHypothesis config

end Effects
end TootTok
