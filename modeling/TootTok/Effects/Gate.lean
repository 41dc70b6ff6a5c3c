import TootTok.Effects.Interleaving

/-!
# Insert-first gates

A gate operation succeeds at most once: the first success closes it, and a
closed gate refuses without a trace. A program that starts at a gate and does
nothing after a refusal can therefore be run any number of times, in sequence
or concurrently, with the effect of a single run.
-/

namespace TootTok
namespace Effects

variable {Op : Type} {Result : Op → Type} {ε α σ Env ι : Type}

/-- The laws of an insert-first gate. `passed` recognises the outcome of a call
that got through. -/
structure InsertFirstGate
    (exec : Program.Executor Result ε σ Env)
    (IsGate : Op → Prop)
    (closed : σ → Prop)
    (passed : (op : Op) → Except ε (Result op) → Prop) : Prop where
  closes : ∀ env op state, IsGate op →
    passed op (exec env op state).1 → closed (exec env op state).2
  refuses : ∀ env op state, IsGate op →
    closed state → ¬passed op (exec env op state).1
  quiet : ∀ env op state, IsGate op →
    ¬passed op (exec env op state).1 → (exec env op state).2 = state
  staysClosed : ∀ env op state, closed state → closed (exec env op state).2

/-- The program starts at a gate and stops when the gate refuses. -/
def Gated
    (IsGate : Op → Prop)
    (passed : (op : Op) → Except ε (Result op) → Prop)
    (program : Program Result ε α) : Prop :=
  ∃ op next, program = .call op next ∧ IsGate op ∧
    ∀ outcome, ¬passed op outcome → (next outcome).Finished

/-- Exactly one entry of a list satisfies a predicate. -/
def ExactlyOne {κ : Type} (holds : κ → Prop) (entries : List κ) : Prop :=
  ∃ before entry after, entries = before ++ entry :: after ∧ holds entry ∧
    (∀ other ∈ before, ¬holds other) ∧ ∀ other ∈ after, ¬holds other

section Laws

variable {exec : Program.Executor Result ε σ Env}
  {IsGate : Op → Prop} {closed : σ → Prop}
  {passed : (op : Op) → Except ε (Result op) → Prop}

theorem Program.Finished.run_state
    {program : Program Result ε α}
    (finished : program.Finished)
    (envs : Nat → Env) (state : σ) :
    (program.run exec envs state).2 = state := by
  cases program with
  | done value => rfl
  | fail error => rfl
  | call op next => exact finished.elim

/-- Behind a closed gate a gated program changes nothing. -/
theorem InsertFirstGate.run_of_closed
    (gate : InsertFirstGate exec IsGate closed passed)
    {program : Program Result ε α}
    (gated : Gated IsGate passed program)
    (envs : Nat → Env)
    {state : σ}
    (isClosed : closed state) :
    (program.run exec envs state).2 = state := by
  obtain ⟨op, next, rfl, isGate, stops⟩ := gated
  have refused := gate.refuses (envs 0) op state isGate isClosed
  rw [Program.run, (stops _ refused).run_state]
  exact gate.quiet (envs 0) op state isGate refused

/-- No run reopens a gate. -/
theorem InsertFirstGate.closed_run
    (gate : InsertFirstGate exec IsGate closed passed)
    (program : Program Result ε α)
    (envs : Nat → Env)
    {state : σ}
    (isClosed : closed state) :
    closed (program.run exec envs state).2 := by
  induction program generalizing envs state with
  | done value => exact isClosed
  | fail error => exact isClosed
  | call op next inductionHypothesis =>
      exact inductionHypothesis _ _ (gate.staysClosed (envs 0) op state isClosed)

end Laws

/-! ## Concurrent deliveries -/

section Concurrent

/-- A call that got through a gate. -/
def Call.Passed
    (IsGate : Op → Prop)
    (passed : (op : Op) → Except ε (Result op) → Prop)
    (call : Call ι Result ε Env) : Prop :=
  IsGate call.op ∧ passed call.op call.outcome

/-- Whatever a thread ensured at the start it still ensures: the other threads
have not disturbed it. -/
def Undisturbed
    (exec : Program.Executor Result ε σ Env)
    (start config : Config ι Result ε α σ)
    (thread : ι) : Prop :=
  ∀ post : Except ε α → σ → Prop,
    Program.Ensures exec (fun _ => True) post (start.threads thread) start.state →
      Program.Ensures exec (fun _ => True) post (config.threads thread) config.state

/-- What is true in the middle of a concurrent run of gated programs. Either
nobody has passed and the state is untouched, or one thread has passed and the
calls of all others have changed nothing. -/
inductive GateProgress
    (exec : Program.Executor Result ε σ Env)
    (IsGate : Op → Prop)
    (closed : σ → Prop)
    (passed : (op : Op) → Except ε (Result op) → Prop)
    (start : Config ι Result ε α σ)
    (calls : List (Call ι Result ε Env))
    (config : Config ι Result ε α σ) : Prop
  | waiting
      (untouched : config.state = start.state)
      (refused : ∀ call ∈ calls, IsGate call.op ∧
        call.outcome = (exec call.env call.op start.state).1 ∧
        ¬passed call.op call.outcome)
      (idle : ∀ thread, config.threads thread = start.threads thread ∨
        (config.threads thread).Finished)
  | settled
      (winner : ι)
      (once : ExactlyOne
        (fun call => call.Passed IsGate passed) calls)
      (byWinner : ∀ call ∈ calls, call.Passed IsGate passed → call.thread = winner)
      (isClosed : closed config.state)
      (idle : ∀ thread, thread ≠ winner →
        config.threads thread = start.threads thread ∨
          (config.threads thread).Finished)
      (undisturbed : Undisturbed exec start config winner)

theorem ExactlyOne.append_of_not
    {κ : Type} {holds : κ → Prop} {entries : List κ} {entry : κ}
    (one : ExactlyOne holds entries)
    (fails : ¬holds entry) :
    ExactlyOne holds (entries ++ [entry]) := by
  obtain ⟨before, chosen, after, rfl, chosenHolds, notBefore, notAfter⟩ := one
  refine ⟨before, chosen, after ++ [entry], by simp, chosenHolds, notBefore, ?_⟩
  intro other present
  rcases List.mem_append.mp present with inAfter | isLast
  · exact notAfter other inAfter
  · rw [List.mem_singleton.mp isLast]
    exact fails

theorem ExactlyOne.of_last
    {κ : Type} {holds : κ → Prop} {entries : List κ} {entry : κ}
    (none : ∀ other ∈ entries, ¬holds other)
    (lastHolds : holds entry) :
    ExactlyOne holds (entries ++ [entry]) :=
  ⟨entries, entry, [], by simp, lastHolds, none, by simp⟩

variable [DecidableEq ι]
  {exec : Program.Executor Result ε σ Env}
  {IsGate : Op → Prop} {closed : σ → Prop}
  {passed : (op : Op) → Except ε (Result op) → Prop}
  {start : Config ι Result ε α σ}

/-- A gated program that makes a call without having passed is at its gate. -/
theorem Gated.at_gate
    {program : Program Result ε α}
    (gated : Gated IsGate passed program)
    {op : Op} {next : Except ε (Result op) → Program Result ε α}
    (atCall : program = .call op next) :
    IsGate op ∧ ∀ outcome, ¬passed op outcome → (next outcome).Finished := by
  obtain ⟨gateOp, gateNext, rfl, isGate, stops⟩ := gated
  cases atCall
  exact ⟨isGate, stops⟩

/-- The step lemma of a concurrent run of gated programs. -/
theorem GateProgress.afterCall
    (gate : InsertFirstGate exec IsGate closed passed)
    (gated : ∀ thread, Gated IsGate passed (start.threads thread))
    {calls : List (Call ι Result ε Env)}
    {config : Config ι Result ε α σ}
    (progress : GateProgress exec IsGate closed passed start calls config)
    (thread : ι) (op : Op) (env : Env)
    (next : Except ε (Result op) → Program Result ε α)
    (atCall : config.threads thread = .call op next) :
    GateProgress exec IsGate closed passed start
      (calls ++ [⟨thread, op, env, (exec env op config.state).1⟩])
      (config.afterCall exec thread op env next) := by
  have notFinished : ¬(config.threads thread).Finished := by
    rw [atCall]
    exact id
  cases progress with
  | waiting untouched refused idle =>
      have atStart : start.threads thread = .call op next := by
        rcases idle thread with same | finished
        · rw [← same, atCall]
        · exact (notFinished finished).elim
      obtain ⟨isGate, stops⟩ := (gated thread).at_gate atStart
      by_cases gotThrough : passed op (exec env op config.state).1
      · refine .settled thread (.of_last ?_ ⟨isGate, gotThrough⟩) ?_
          (gate.closes env op config.state isGate gotThrough) ?_ ?_
        · intro other present holds
          exact (refused other present).2.2 holds.2
        · intro call present holds
          rcases List.mem_append.mp present with earlier | isLast
          · exact ((refused call earlier).2.2 holds.2).elim
          · rw [List.mem_singleton.mp isLast]
        · intro other different
          rw [Config.afterCall_threads_other config thread op env next different]
          exact idle other
        · intro post ensured
          rw [atStart, ← untouched] at ensured
          simpa using ensured env trivial
      · refine .waiting ?_ ?_ ?_
        · rw [Config.afterCall_state, gate.quiet env op config.state isGate gotThrough,
            untouched]
        · intro call present
          rcases List.mem_append.mp present with earlier | isLast
          · exact refused call earlier
          · rw [List.mem_singleton.mp isLast]
            exact ⟨isGate, by rw [untouched], gotThrough⟩
        · intro other
          by_cases same : other = thread
          · subst same
            exact .inr (by simpa using stops _ gotThrough)
          · rw [Config.afterCall_threads_other config thread op env next same]
            exact idle other
  | settled winner once byWinner isClosed idle undisturbed =>
      have staysClosed := gate.staysClosed env op config.state isClosed
      have notPassed : ¬(⟨thread, op, env, (exec env op config.state).1⟩ :
          Call ι Result ε Env).Passed IsGate passed :=
        fun holds => gate.refuses env op config.state holds.1 isClosed holds.2
      have stillByWinner : ∀ call ∈ calls ++ [(⟨thread, op, env,
          (exec env op config.state).1⟩ : Call ι Result ε Env)],
          call.Passed IsGate passed → call.thread = winner := by
        intro call present holds
        rcases List.mem_append.mp present with earlier | isLast
        · exact byWinner call earlier holds
        · rw [List.mem_singleton.mp isLast] at holds
          exact (notPassed holds).elim
      by_cases same : thread = winner
      · subst same
        refine .settled thread (once.append_of_not notPassed) stillByWinner staysClosed ?_ ?_
        · intro other different
          rw [Config.afterCall_threads_other config thread op env next different]
          exact idle other different
        · intro post ensured
          have remaining := undisturbed post ensured
          rw [atCall] at remaining
          simpa using remaining env trivial
      · have atStart : start.threads thread = .call op next := by
          rcases idle thread same with unmoved | finished
          · rw [← unmoved, atCall]
          · exact (notFinished finished).elim
        obtain ⟨isGate, stops⟩ := (gated thread).at_gate atStart
        have refused := gate.refuses env op config.state isGate isClosed
        refine .settled winner (once.append_of_not notPassed) stillByWinner staysClosed ?_ ?_
        · intro other different
          by_cases isThread : other = thread
          · subst isThread
            exact .inr (by simpa using stops _ refused)
          · rw [Config.afterCall_threads_other config thread op env next isThread]
            exact idle other different
        · intro post ensured
          rw [Config.afterCall_threads_other config thread op env next (Ne.symm same),
            Config.afterCall_state, gate.quiet env op config.state isGate refused]
          exact undisturbed post ensured

/-- The run lemma: every concurrent run of gated programs keeps the alternative
of `GateProgress`. -/
theorem Interleaved.gateProgress
    (gate : InsertFirstGate exec IsGate closed passed)
    (gated : ∀ thread, Gated IsGate passed (start.threads thread))
    {calls : List (Call ι Result ε Env)}
    {config : Config ι Result ε α σ}
    (run : Interleaved exec start calls config) :
    GateProgress exec IsGate closed passed start calls config :=
  run.invariant (GateProgress exec IsGate closed passed start)
    (.waiting rfl (by simp) fun _ => .inl rfl)
    fun _ _ thread op env next _ progress atCall =>
      progress.afterCall gate gated thread op env next atCall

omit [DecidableEq ι]

/-- Some environments make every run of a program end as `run` says. -/
theorem Program.ensures_exists_run [Nonempty Env]
    (exec : Program.Executor Result ε σ Env)
    (program : Program Result ε α) (state : σ) :
    Program.Ensures exec (fun _ => True)
      (fun outcome final => ∃ envs, program.run exec envs state = (outcome, final))
      program state := by
  induction program generalizing state with
  | done value => exact ⟨fun _ => Classical.arbitrary Env, rfl⟩
  | fail error => exact ⟨fun _ => Classical.arbitrary Env, rfl⟩
  | call op next inductionHypothesis =>
      intro env _
      refine (inductionHypothesis _ _).mono ?_
      rintro outcome final ⟨envs, rest⟩
      exact ⟨fun | 0 => env | index + 1 => envs index, rest⟩

/-- An open gate lets exactly one thread through as soon as some call is made
that the gate admits. When all threads have stopped, the state is the one that
this thread would have left running alone. -/
theorem GateProgress.outcome [Nonempty Env]
    {admitted : Env → Op → Prop}
    {calls : List (Call ι Result ε Env)}
    {config : Config ι Result ε α σ}
    (progress : GateProgress exec IsGate closed passed start calls config)
    (admits : ∀ env op state, admitted env op → IsGate op → ¬closed state →
      passed op (exec env op state).1)
    (startOpen : ¬closed start.state)
    (attempted : ∃ call ∈ calls, admitted call.env call.op) :
    ExactlyOne (fun call => call.Passed IsGate passed) calls ∧
      ∃ winner,
        (∀ call ∈ calls, call.Passed IsGate passed → call.thread = winner) ∧
        ((∀ thread, (config.threads thread).Finished) →
          ∃ envs, config.state =
            ((start.threads winner).run exec envs start.state).2) := by
  cases progress with
  | waiting _ refused _ =>
      obtain ⟨call, present, isAdmitted⟩ := attempted
      obtain ⟨isGate, outcome, notPassed⟩ := refused call present
      rw [outcome] at notPassed
      exact absurd (admits call.env call.op start.state isAdmitted isGate startOpen)
        notPassed
  | settled winner once byWinner _ _ undisturbed =>
      refine ⟨once, winner, byWinner, ?_⟩
      intro stopped
      have ended := undisturbed _
        (Program.ensures_exists_run exec (start.threads winner) start.state)
      have winnerStopped := stopped winner
      cases remaining : config.threads winner with
      | done value =>
          rw [remaining] at ended
          obtain ⟨envs, runs⟩ := ended
          exact ⟨envs, by rw [runs]⟩
      | fail error =>
          rw [remaining] at ended
          obtain ⟨envs, runs⟩ := ended
          exact ⟨envs, by rw [runs]⟩
      | call op next =>
          rw [remaining] at winnerStopped
          exact winnerStopped.elim

end Concurrent

end Effects
end TootTok
