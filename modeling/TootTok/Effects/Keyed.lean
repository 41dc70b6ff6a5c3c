import Mathlib.Data.List.Count
import Mathlib.Logic.Function.Basic

/-!
# One machine for each key

A table of equal machines of which each input moves the one of its key. What a key is
answered does not depend on the inputs of the other keys.
-/

namespace TootTok
namespace Effects

/-- The answers of a machine to one input after the other. -/
def answers (machine : ι → σ → ρ × σ) : σ → List ι → List ρ
  | _, [] => []
  | state, input :: rest =>
      (machine input state).1 :: answers machine (machine input state).2 rest

/-- The state of a machine after its inputs. -/
def settled (machine : ι → σ → ρ × σ) : σ → List ι → σ
  | state, [] => state
  | state, input :: rest => settled machine (machine input state).2 rest

variable {ι σ ρ κ : Type} {machine : ι → σ → ρ × σ}

@[simp] theorem answers_nil (state : σ) : answers machine state [] = [] := rfl

@[simp] theorem answers_cons (state : σ) (input : ι) (rest : List ι) :
    answers machine state (input :: rest) =
      (machine input state).1 :: answers machine (machine input state).2 rest := rfl

@[simp] theorem settled_nil (state : σ) : settled machine state [] = state := rfl

@[simp] theorem settled_cons (state : σ) (input : ι) (rest : List ι) :
    settled machine state (input :: rest) = settled machine (machine input state).2 rest := rfl

theorem settled_append (state : σ) (front back : List ι) :
    settled machine state (front ++ back) = settled machine (settled machine state front) back := by
  induction front generalizing state with
  | nil => rfl
  | cons input front inductionHypothesis =>
      rw [List.cons_append, settled_cons, settled_cons, inductionHypothesis]

/-- What holds of the state at first and is kept by each input holds at the end. -/
theorem settled_induction {invariant : σ → Prop} {state : σ} (initially : invariant state)
    (kept : ∀ input state, invariant state → invariant (machine input state).2)
    (inputs : List ι) : invariant (settled machine state inputs) := by
  induction inputs generalizing state with
  | nil => exact initially
  | cons input inputs inductionHypothesis => exact inductionHypothesis (kept input state initially)

section Tables

variable [DecidableEq κ]

/-- Move the machine of a key. The answer is filed under the key. -/
def keyed (machine : ι → σ → ρ × σ) (input : κ × ι) (table : κ → σ) : (κ × ρ) × (κ → σ) :=
  ((input.1, (machine input.2 (table input.1)).1),
    Function.update table input.1 (machine input.2 (table input.1)).2)

/-- What is filed under a key. -/
def under (key : κ) (entries : List (κ × α)) : List (κ × α) :=
  entries.filter fun entry => entry.1 = key

variable {key : κ} {table : κ → σ}

@[simp] theorem keyed_fst (input : ι) :
    (keyed machine (key, input) table).1 = (key, (machine input (table key)).1) := rfl

@[simp] theorem keyed_snd_same (input : ι) :
    (keyed machine (key, input) table).2 key = (machine input (table key)).2 :=
  Function.update_self ..

theorem keyed_snd_other {other : κ} (different : other ≠ key) (input : ι) :
    (keyed machine (other, input) table).2 key = table key :=
  Function.update_of_ne (Ne.symm different) ..

@[simp] theorem under_nil : under key ([] : List (κ × ι)) = [] := rfl

@[simp] theorem under_cons_same (value : ι) (rest : List (κ × ι)) :
    under key ((key, value) :: rest) = (key, value) :: under key rest := by
  simp [under]

theorem under_cons_other {other : κ} (different : other ≠ key) (value : ι)
    (rest : List (κ × ι)) : under key ((other, value) :: rest) = under key rest := by
  simp [under, different]

theorem under_eq_nil {entries : List (κ × ι)} (others : ∀ entry ∈ entries, entry.1 ≠ key) :
    under key entries = [] := by
  rw [under, List.filter_eq_nil_iff]
  intro entry member
  simpa using others entry member

/-- The answers under a key are those of its own machine to its own inputs. -/
theorem under_answers_keyed (inputs : List (κ × ι)) :
    under key (answers (keyed machine) table inputs) =
      (answers machine (table key) ((under key inputs).map Prod.snd)).map (Prod.mk key) := by
  induction inputs generalizing table with
  | nil => rfl
  | cons input inputs inductionHypothesis =>
      obtain ⟨owner, input⟩ := input
      rw [answers_cons]
      by_cases own : owner = key
      · subst own
        rw [keyed_fst, under_cons_same, under_cons_same, List.map_cons, answers_cons, List.map_cons,
          inductionHypothesis, keyed_snd_same]
      · rw [keyed_fst, under_cons_other own, under_cons_other own, inductionHypothesis,
          keyed_snd_other own]

/-- A key is answered as if the other keys had sent nothing. -/
theorem under_answers_isolated (inputs : List (κ × ι)) :
    under key (answers (keyed machine) table inputs) =
      answers (keyed machine) table (under key inputs) := by
  have alone : under key (answers (keyed machine) table (under key inputs)) =
      answers (keyed machine) table (under key inputs) := by
    generalize own : under key inputs = sent
    have onlyKey : ∀ entry ∈ sent, entry.1 = key := by
      intro entry member
      rw [← own, under, List.mem_filter] at member
      simpa using member.2
    clear own
    induction sent generalizing table with
    | nil => rfl
    | cons input sent inductionHypothesis =>
        obtain ⟨owner, input⟩ := input
        obtain rfl : owner = key := onlyKey _ List.mem_cons_self
        rw [answers_cons, keyed_fst, under_cons_same, inductionHypothesis]
        exact fun entry member => onlyKey entry (List.mem_cons_of_mem _ member)
  have twice : under key (under key inputs) = under key inputs := by simp [under]
  rw [← alone, under_answers_keyed, under_answers_keyed, twice]

/-- The machine of a key has seen its own inputs only. -/
theorem settled_keyed (inputs : List (κ × ι)) :
    settled (keyed machine) table inputs key =
      settled machine (table key) ((under key inputs).map Prod.snd) := by
  induction inputs generalizing table with
  | nil => rfl
  | cons input inputs inductionHypothesis =>
      obtain ⟨owner, input⟩ := input
      rw [settled_cons, inductionHypothesis]
      by_cases own : owner = key
      · subst own
        rw [under_cons_same, List.map_cons, settled_cons, keyed_snd_same]
      · rw [under_cons_other own, keyed_snd_other own]

end Tables

/-! ## Counting answers -/

/-- Entries that agree on a label are at most as many as those of one label. -/
theorem countP_le_of_agree {entries : List α} {chosen : α → Bool} [DecidableEq β]
    {label : α → β} {most : Nat}
    (each : ∀ value, entries.countP (fun entry => chosen entry && label entry = value) ≤ most)
    (agree : ∀ first ∈ entries, ∀ second ∈ entries, chosen first = true → chosen second = true →
      label first = label second) :
    entries.countP chosen ≤ most := by
  by_cases any : ∃ entry ∈ entries, chosen entry = true
  · obtain ⟨first, member, isChosen⟩ := any
    refine Nat.le_trans (List.countP_mono_left fun second within also => ?_) (each (label first))
    have same := agree second within first member also isChosen
    simp [also, same]
  · have none : entries.countP chosen = 0 := by
      rw [List.countP_eq_zero]
      exact fun entry member isChosen => any ⟨entry, member, isChosen⟩
    rw [none]
    exact Nat.zero_le most

end Effects
end TootTok
