import Mathlib.Data.List.Basic

/-!
# Programs over atomic operations

A program is a tree of calls to atomic operations. Each call either returns a
result or fails, and the program continues from the outcome it observes. The
operations themselves are interpreted by an executor over a shared state, which
also reads an environment that changes from one call to the next. One program
therefore has several meanings: a sequential run, a run with injected faults,
and (in the interleaving module) one thread among many.
-/

namespace TootTok
namespace Effects

/-- A program that calls operations of type `Op`, fails with `ε`, and returns
`α`. The result type of a call depends on the operation. -/
inductive Program {Op : Type} (Result : Op → Type) (ε α : Type) : Type
  | done (value : α)
  | fail (error : ε)
  | call
      (op : Op)
      (next : Except ε (Result op) → Program Result ε α)

namespace Program

variable {Op : Type} {Result : Op → Type} {ε α β γ σ Env : Type}

/-- Sequential composition; a failure of the first program is final. -/
def bind : Program Result ε α → (α → Program Result ε β) → Program Result ε β
  | .done value, rest => rest value
  | .fail error, _ => .fail error
  | .call op next, rest => .call op fun outcome => (next outcome).bind rest

instance : Monad (Program Result ε) where
  pure := .done
  bind := bind

@[simp] theorem pure_eq_done (value : α) :
    (pure value : Program Result ε α) = .done value := rfl

@[simp] theorem done_bind (value : α) (rest : α → Program Result ε β) :
    (Program.done value : Program Result ε α) >>= rest = rest value := rfl

@[simp] theorem fail_bind (error : ε) (rest : α → Program Result ε β) :
    (Program.fail error : Program Result ε α) >>= rest = .fail error := rfl

@[simp] theorem call_bind
    (op : Op)
    (next : Except ε (Result op) → Program Result ε α)
    (rest : α → Program Result ε β) :
    Program.call op next >>= rest =
      .call op fun outcome => next outcome >>= rest := rfl

theorem bind_assoc
    (first : Program Result ε α)
    (second : α → Program Result ε β)
    (third : β → Program Result ε γ) :
    first >>= second >>= third = first >>= fun value => second value >>= third := by
  induction first with
  | done value => rfl
  | fail error => rfl
  | call op next inductionHypothesis =>
      simp only [call_bind, inductionHypothesis]

/-- Call one operation and propagate its failure. -/
def perform (op : Op) : Program Result ε (Result op) :=
  .call op fun
    | .ok result => .done result
    | .error error => .fail error

/-- Turn a failure into an ordinary value. -/
def attempt : Program Result ε α → Program Result ε (Except ε α)
  | .done value => .done (.ok value)
  | .fail error => .done (.error error)
  | .call op next => .call op fun outcome => (next outcome).attempt

/-! ## Sequential runs -/

/-- An executor interprets each operation as a state change under the
environment current at the time of the call. -/
abbrev Executor (Result : Op → Type) (ε σ Env : Type) : Type :=
  Env → (op : Op) → σ → Except ε (Result op) × σ

/-- Run a program; the `n`-th call sees the `n`-th environment. -/
def run (exec : Executor Result ε σ Env) :
    Program Result ε α → (Nat → Env) → σ → Except ε α × σ
  | .done value, _, state => (.ok value, state)
  | .fail error, _, state => (.error error, state)
  | .call op next, envs, state =>
      (next (exec (envs 0) op state).1).run exec
        (fun index => envs (index + 1)) (exec (envs 0) op state).2

@[simp] theorem run_done
    (exec : Executor Result ε σ Env) (value : α) (envs : Nat → Env) (state : σ) :
    (Program.done value : Program Result ε α).run exec envs state =
      (.ok value, state) := rfl

@[simp] theorem run_fail
    (exec : Executor Result ε σ Env) (error : ε) (envs : Nat → Env) (state : σ) :
    (Program.fail error : Program Result ε α).run exec envs state =
      (.error error, state) := rfl

/-- Forgetting the value of a program does not change what it does. -/
theorem run_then_done
    (exec : Executor Result ε σ Env) (program : Program Result ε α) (value : β)
    (envs : Nat → Env) (state : σ) :
    ((program >>= fun _ => Program.done value).run exec envs state).2 =
      (program.run exec envs state).2 := by
  induction program generalizing envs state with
  | done _ => rfl
  | fail _ => rfl
  | call op next inductionHypothesis => exact inductionHypothesis _ _ _

/-- A reflexive and transitive relation kept by every operation relates the two
ends of a run. -/
theorem run_related
    {exec : Executor Result ε σ Env}
    (relation : σ → σ → Prop)
    (reflexive : ∀ state, relation state state)
    (transitive : ∀ first second third,
      relation first second → relation second third → relation first third)
    (kept : ∀ env op state, relation state (exec env op state).2)
    (program : Program Result ε α) (envs : Nat → Env) (state : σ) :
    relation state (program.run exec envs state).2 := by
  induction program generalizing envs state with
  | done _ => exact reflexive state
  | fail _ => exact reflexive state
  | call op next inductionHypothesis =>
      exact transitive _ _ _ (kept (envs 0) op state) (inductionHypothesis _ _ _)

/-- The calls of a run with the environment each of them saw. -/
def trace (exec : Executor Result ε σ Env) :
    Program Result ε α → (Nat → Env) → σ → List (Op × Env)
  | .done _, _, _ => []
  | .fail _, _, _ => []
  | .call op next, envs, state =>
      (op, envs 0) ::
        (next (exec (envs 0) op state).1).trace exec
          (fun index => envs (index + 1)) (exec (envs 0) op state).2

/-- A reflexive and transitive relation kept by every call of a run relates its two
ends. -/
theorem run_related_of_trace
    {exec : Executor Result ε σ Env}
    (relation : σ → σ → Prop)
    (reflexive : ∀ state, relation state state)
    (transitive : ∀ first second third,
      relation first second → relation second third → relation first third)
    (program : Program Result ε α) (envs : Nat → Env) (state : σ)
    (kept : ∀ call ∈ program.trace exec envs state, ∀ state,
      relation state (exec call.2 call.1 state).2) :
    relation state (program.run exec envs state).2 := by
  induction program generalizing envs state with
  | done _ => exact reflexive state
  | fail _ => exact reflexive state
  | call op next inductionHypothesis =>
      refine transitive _ _ _ (kept (op, envs 0) List.mem_cons_self state) ?_
      apply inductionHypothesis
      intro call member
      exact kept call (List.mem_cons_of_mem _ member)

/-! ## Weakest preconditions -/

/-- Every run from `state` whose environments are admitted by `allow` ends in
an outcome and a state related by `post`. -/
def Ensures (exec : Executor Result ε σ Env) (allow : Env → Prop) :
    (Except ε α → σ → Prop) → Program Result ε α → σ → Prop
  | post, .done value, state => post (.ok value) state
  | post, .fail error, state => post (.error error) state
  | post, .call op next, state =>
      ∀ env, allow env →
        Ensures exec allow post
          (next (exec env op state).1) (exec env op state).2

section Ensures

variable {exec : Executor Result ε σ Env} {allow : Env → Prop}

@[simp] theorem ensures_done
    (post : Except ε α → σ → Prop) (value : α) (state : σ) :
    Ensures exec allow post (.done value) state ↔ post (.ok value) state :=
  Iff.rfl

@[simp] theorem ensures_fail
    (post : Except ε α → σ → Prop) (error : ε) (state : σ) :
    Ensures exec allow post (.fail error) state ↔ post (.error error) state :=
  Iff.rfl

theorem ensures_call
    (post : Except ε α → σ → Prop)
    (op : Op)
    (next : Except ε (Result op) → Program Result ε α)
    (state : σ) :
    Ensures exec allow post (.call op next) state ↔
      ∀ env, allow env →
        Ensures exec allow post
          (next (exec env op state).1) (exec env op state).2 :=
  Iff.rfl

/-- Postcondition of the first half of a composition: what the second half
must ensure from the value and state it starts with. -/
def thenEnsures
    (exec : Executor Result ε σ Env) (allow : Env → Prop)
    (post : Except ε β → σ → Prop)
    (rest : α → Program Result ε β) : Except ε α → σ → Prop
  | .ok value, state => Ensures exec allow post (rest value) state
  | .error error, state => post (.error error) state

@[simp] theorem thenEnsures_ok
    (post : Except ε β → σ → Prop)
    (rest : α → Program Result ε β) (value : α) (state : σ) :
    thenEnsures exec allow post rest (.ok value) state =
      Ensures exec allow post (rest value) state := rfl

@[simp] theorem thenEnsures_error
    (post : Except ε β → σ → Prop)
    (rest : α → Program Result ε β) (error : ε) (state : σ) :
    thenEnsures exec allow post rest (.error error) state =
      post (.error error) state := rfl

/-- The sequencing rule. -/
theorem ensures_bind
    (post : Except ε β → σ → Prop)
    (program : Program Result ε α)
    (rest : α → Program Result ε β)
    (state : σ) :
    Ensures exec allow post (program >>= rest) state ↔
      Ensures exec allow (thenEnsures exec allow post rest) program state := by
  induction program generalizing state with
  | done value => rfl
  | fail error => rfl
  | call op next inductionHypothesis =>
      simp only [call_bind, ensures_call, inductionHypothesis]

/-- A single propagating call. -/
theorem ensures_perform
    (post : Except ε (Result op) → σ → Prop) (state : σ) :
    Ensures exec allow post (perform op) state ↔
      ∀ env, allow env → post (exec env op state).1 (exec env op state).2 := by
  unfold perform
  rw [ensures_call]
  apply forall_congr'
  intro env
  cases (exec env op state).1 <;> simp

/-- Attempting a program ensures whatever the program ensures of its outcome. -/
theorem ensures_attempt
    (post : Except ε (Except ε α) → σ → Prop)
    (program : Program Result ε α)
    (state : σ) :
    Ensures exec allow post program.attempt state ↔
      Ensures exec allow (fun outcome => post (.ok outcome)) program state := by
  induction program generalizing state with
  | done value => rfl
  | fail error => rfl
  | call op next inductionHypothesis =>
      simp only [attempt, ensures_call, inductionHypothesis]

/-- The consequence rule. -/
theorem Ensures.mono
    {post weaker : Except ε α → σ → Prop}
    {program : Program Result ε α}
    {state : σ}
    (ensured : Ensures exec allow post program state)
    (weaken : ∀ outcome final, post outcome final → weaker outcome final) :
    Ensures exec allow weaker program state := by
  induction program generalizing state with
  | done value => exact weaken _ _ ensured
  | fail error => exact weaken _ _ ensured
  | call op next inductionHypothesis =>
      intro env allowed
      exact inductionHypothesis _ (ensured env allowed)

/-- A postcondition that always holds. -/
theorem Ensures.of_forall
    {post : Except ε α → σ → Prop}
    (always : ∀ outcome final, post outcome final)
    (program : Program Result ε α)
    (state : σ) :
    Ensures exec allow post program state := by
  induction program generalizing state with
  | done value => exact always _ _
  | fail error => exact always _ _
  | call op next inductionHypothesis =>
      intro env _
      exact inductionHypothesis _ _

/-- Admitting fewer environments ensures no less. -/
theorem Ensures.restrict
    {narrower : Env → Prop}
    {post : Except ε α → σ → Prop}
    {program : Program Result ε α}
    {state : σ}
    (ensured : Ensures exec allow post program state)
    (narrow : ∀ env, narrower env → allow env) :
    Ensures exec narrower post program state := by
  induction program generalizing state with
  | done value => exact ensured
  | fail error => exact ensured
  | call op next inductionHypothesis =>
      intro env allowed
      exact inductionHypothesis _ (ensured env (narrow env allowed))

/-- Two ensured postconditions hold together. -/
theorem Ensures.and
    {left right : Except ε α → σ → Prop}
    {program : Program Result ε α}
    {state : σ}
    (leftEnsured : Ensures exec allow left program state)
    (rightEnsured : Ensures exec allow right program state) :
    Ensures exec allow (fun outcome final => left outcome final ∧ right outcome final)
      program state := by
  induction program generalizing state with
  | done value => exact ⟨leftEnsured, rightEnsured⟩
  | fail error => exact ⟨leftEnsured, rightEnsured⟩
  | call op next inductionHypothesis =>
      intro env allowed
      exact inductionHypothesis _ (leftEnsured env allowed) (rightEnsured env allowed)

/-- What a program ensures holds of each of its runs. -/
theorem Ensures.run
    {post : Except ε α → σ → Prop}
    {program : Program Result ε α}
    {state : σ}
    (ensured : Ensures exec allow post program state)
    (envs : Nat → Env)
    (allowed : ∀ index, allow (envs index)) :
    post (program.run exec envs state).1 (program.run exec envs state).2 := by
  induction program generalizing state envs with
  | done value => exact ensured
  | fail error => exact ensured
  | call op next inductionHypothesis =>
      exact inductionHypothesis _ (ensured (envs 0) (allowed 0))
        (fun index => envs (index + 1)) fun index => allowed (index + 1)

end Ensures

/-! ## Syntactic conditions on the calls of a program -/

/-- Every operation a program can call satisfies `allowed`. -/
def Calls (allowed : Op → Prop) : Program Result ε α → Prop
  | .done _ => True
  | .fail _ => True
  | .call op next => allowed op ∧ ∀ outcome, (next outcome).Calls allowed

section Calls

variable {allowed : Op → Prop}

@[simp] theorem calls_done (value : α) :
    (Program.done value : Program Result ε α).Calls allowed := trivial

@[simp] theorem calls_fail (error : ε) :
    (Program.fail error : Program Result ε α).Calls allowed := trivial

@[simp] theorem calls_perform :
    (perform op : Program Result ε (Result op)).Calls allowed ↔ allowed op := by
  constructor
  · exact And.left
  · intro holds
    refine ⟨holds, ?_⟩
    intro outcome
    cases outcome <;> trivial

theorem Calls.bind
    {program : Program Result ε α}
    {rest : α → Program Result ε β}
    (first : program.Calls allowed)
    (second : ∀ value, (rest value).Calls allowed) :
    (program >>= rest).Calls allowed := by
  induction program with
  | done value => exact second value
  | fail error => trivial
  | call op next inductionHypothesis =>
      exact ⟨first.1, fun outcome => inductionHypothesis outcome (first.2 outcome)⟩

theorem Calls.attempt
    {program : Program Result ε α}
    (calls : program.Calls allowed) :
    program.attempt.Calls allowed := by
  induction program with
  | done value => trivial
  | fail error => trivial
  | call op next inductionHypothesis =>
      exact ⟨calls.1, fun outcome => inductionHypothesis outcome (calls.2 outcome)⟩

theorem Calls.mono
    {wider : Op → Prop}
    {program : Program Result ε α}
    (calls : program.Calls allowed)
    (widen : ∀ op, allowed op → wider op) :
    program.Calls wider := by
  induction program with
  | done value => trivial
  | fail error => trivial
  | call op next inductionHypothesis =>
      exact ⟨widen op calls.1,
        fun outcome => inductionHypothesis outcome (calls.2 outcome)⟩

theorem Calls.of_forall
    (program : Program Result ε α) (all : ∀ op, allowed op) :
    program.Calls allowed := by
  induction program with
  | done value => trivial
  | fail error => trivial
  | call op next inductionHypothesis => exact ⟨all op, inductionHypothesis⟩

/-- The frame rule: a reflexive and transitive relation kept by every allowed
operation relates the two ends of a program. -/
theorem Calls.ensures
    {exec : Executor Result ε σ Env}
    {allow : Env → Prop}
    {program : Program Result ε α}
    (calls : program.Calls allowed)
    (relation : σ → σ → Prop)
    (reflexive : ∀ state, relation state state)
    (transitive : ∀ first second third,
      relation first second → relation second third → relation first third)
    (kept : ∀ env op state, allow env → allowed op →
      relation state (exec env op state).2)
    (state : σ) :
    Ensures exec allow (fun _ final => relation state final) program state := by
  induction program generalizing state with
  | done value => exact reflexive state
  | fail error => exact reflexive state
  | call op next inductionHypothesis =>
      intro env envAllowed
      have later := inductionHypothesis (exec env op state).1
        (calls.2 _) (exec env op state).2
      exact later.mono fun _ final related =>
        transitive _ _ _ (kept env op state envAllowed calls.1) related

end Calls

end Program
end Effects
end TootTok
