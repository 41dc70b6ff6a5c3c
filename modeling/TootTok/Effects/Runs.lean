import Mathlib.Data.List.Basic

/-!
# Runs of events

A system is a state and a function that says what each event does to it. A run
is a list of events. This module relates what holds of one step to what holds
along a whole run.
-/

namespace TootTok
namespace Effects
namespace Runs

variable {σ Event : Type} (step : σ → Event → σ)

/-- The state after a list of events. -/
def after (state : σ) (events : List Event) : σ :=
  events.foldl step state

@[simp] theorem after_nil (state : σ) : after step state [] = state := rfl

@[simp] theorem after_cons (state : σ) (event : Event) (events : List Event) :
    after step state (event :: events) = after step (step state event) events := rfl

theorem after_append (state : σ) (earlier later : List Event) :
    after step state (earlier ++ later) =
      after step (after step state earlier) later :=
  List.foldl_append

/-- Every event of a run satisfies `holds` in the state it meets. -/
def EachStep (holds : σ → Event → Prop) : σ → List Event → Prop
  | _, [] => True
  | state, event :: events =>
      holds state event ∧ EachStep holds (step state event) events

variable {step}

@[simp] theorem eachStep_nil (holds : σ → Event → Prop) (state : σ) :
    EachStep step holds state [] := trivial

@[simp] theorem eachStep_cons
    (holds : σ → Event → Prop) (state : σ) (event : Event) (events : List Event) :
    EachStep step holds state (event :: events) ↔
      holds state event ∧ EachStep step holds (step state event) events :=
  Iff.rfl

theorem eachStep_append
    (holds : σ → Event → Prop) (state : σ) (earlier later : List Event) :
    EachStep step holds state (earlier ++ later) ↔
      EachStep step holds state earlier ∧
        EachStep step holds (after step state earlier) later := by
  induction earlier generalizing state with
  | nil => simp
  | cons event earlier inductionHypothesis =>
      simp [inductionHypothesis, and_assoc]

/-- The invariant rule: an invariant kept by every step that satisfies
`admitted` holds after every run of such steps. -/
theorem invariant_after
    {invariant : σ → Prop}
    {admitted : σ → Event → Prop}
    (kept : ∀ state event, invariant state → admitted state event →
      invariant (step state event))
    {state : σ} {events : List Event}
    (initially : invariant state)
    (each : EachStep step admitted state events) :
    invariant (after step state events) := by
  induction events generalizing state with
  | nil => exact initially
  | cons event events inductionHypothesis =>
      exact inductionHypothesis (kept state event initially each.1) each.2

/-- What every step establishes from an invariant holds along every run. -/
theorem EachStep.of_invariant
    {invariant : σ → Prop}
    {admitted holds : σ → Event → Prop}
    (kept : ∀ state event, invariant state → admitted state event →
      invariant (step state event))
    (establishes : ∀ state event, invariant state → admitted state event →
      holds state event)
    {state : σ} {events : List Event}
    (initially : invariant state)
    (each : EachStep step admitted state events) :
    EachStep step holds state events := by
  induction events generalizing state with
  | nil => trivial
  | cons event events inductionHypothesis =>
      exact ⟨establishes state event initially each.1,
        inductionHypothesis (kept state event initially each.1) each.2⟩

/-- Properties of single steps that agree step by step agree along runs. -/
theorem eachStep_congr
    {left right : σ → Event → Prop}
    (agree : ∀ state event, left state event ↔ right state event)
    (state : σ) (events : List Event) :
    EachStep step left state events ↔ EachStep step right state events := by
  induction events generalizing state with
  | nil => exact Iff.rfl
  | cons event events inductionHypothesis =>
      rw [eachStep_cons, eachStep_cons, agree, inductionHypothesis]

theorem EachStep.true (state : σ) (events : List Event) :
    EachStep step (fun _ _ => True) state events := by
  induction events generalizing state with
  | nil => trivial
  | cons event events inductionHypothesis => exact ⟨trivial, inductionHypothesis _⟩

/-- What holds of every event of a run holds at each of its steps. -/
theorem EachStep.and_of_mem
    {holds : σ → Event → Prop} {always : Event → Prop}
    {state : σ} {events : List Event}
    (each : EachStep step holds state events)
    (all : ∀ event ∈ events, always event) :
    EachStep step (fun state event => always event ∧ holds state event) state events := by
  induction events generalizing state with
  | nil => trivial
  | cons event events inductionHypothesis =>
      refine ⟨⟨all event List.mem_cons_self, each.1⟩, inductionHypothesis each.2 ?_⟩
      exact fun later member => all later (List.mem_cons_of_mem event member)

/-- A reflexive and transitive relation between the two ends of every step
relates the two ends of a run. -/
theorem related_after
    (relation : σ → σ → Prop)
    {admitted : σ → Event → Prop}
    (reflexive : ∀ state, relation state state)
    (transitive : ∀ first second third,
      relation first second → relation second third → relation first third)
    (kept : ∀ state event, admitted state event → relation state (step state event))
    {state : σ} {events : List Event}
    (each : EachStep step admitted state events) :
    relation state (after step state events) := by
  induction events generalizing state with
  | nil => exact reflexive state
  | cons event events inductionHypothesis =>
      exact transitive _ _ _ (kept state event each.1) (inductionHypothesis each.2)

end Runs
end Effects
end TootTok
