import TootTok.Effects.Program

/-!
# Recorded runs

An executor that writes down its calls with their outcomes. What a program ensures of
the state and of the record holds of the state of every run and of its history.
-/

namespace TootTok.Effects
namespace Program

variable {Op : Type} {Result : Op → Type} {ε α β σ Env : Type}

/-- Calls with their outcomes, in the order in which they were made. -/
abbrev Record {Op : Type} (Result : Op → Type) (ε : Type) : Type :=
  List (Σ op : Op, Except ε (Result op))

/-- The calls of a run. -/
def history (exec : Executor Result ε σ Env) :
    Program Result ε α → (Nat → Env) → σ → Record Result ε
  | .done _, _, _ => []
  | .fail _, _, _ => []
  | .call op next, envs, state =>
      ⟨op, (exec (envs 0) op state).1⟩ ::
        (next (exec (envs 0) op state).1).history exec
          (fun index => envs (index + 1)) (exec (envs 0) op state).2

/-- Execute, and write the call down. -/
def recording (exec : Executor Result ε σ Env) :
    Executor Result ε (σ × Record Result ε) Env :=
  fun env op recorded =>
    ((exec env op recorded.1).1,
      ((exec env op recorded.1).2, recorded.2 ++ [⟨op, (exec env op recorded.1).1⟩]))

theorem run_recording
    (exec : Executor Result ε σ Env) (program : Program Result ε α) (envs : Nat → Env)
    (state : σ) (calls : Record Result ε) :
    program.run (recording exec) envs (state, calls) =
      ((program.run exec envs state).1,
        ((program.run exec envs state).2, calls ++ program.history exec envs state)) := by
  induction program generalizing envs state calls with
  | done value => simp [history]
  | fail error => simp [history]
  | call op next inductionHypothesis =>
      simp only [run, recording, history]
      rw [inductionHypothesis]
      simp

/-- What a program ensures with a record holds of each of its runs. -/
theorem Ensures.recorded
    {exec : Executor Result ε σ Env} {allow : Env → Prop}
    {post : Except ε α → σ × Record Result ε → Prop} {program : Program Result ε α} {state : σ}
    (ensured : Ensures (recording exec) allow post program (state, []))
    (envs : Nat → Env) (allowed : ∀ index, allow (envs index)) :
    post (program.run exec envs state).1
      ((program.run exec envs state).2, program.history exec envs state) := by
  have ran := ensured.run envs allowed
  rw [run_recording] at ran
  exact ran

end Program
end TootTok.Effects
