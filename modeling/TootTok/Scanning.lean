import Mathlib.Data.List.Infix
import Mathlib.Data.List.TakeWhile
import Mathlib.Data.Nat.Find

/-!
# Runs behind a marker

Scanning a text for a marker and collecting the longest run of certain symbols behind each of
its occurrences. The next occurrence is looked for right behind the run, so that occurrences
do not overlap with each other or with a run.
-/

namespace TootTok
namespace Scanning

variable {α : Type}

/-- The marker occurs behind this front, and not earlier. -/
structure FirstAt (marker front back text : List α) : Prop where
  split : text = front ++ marker ++ back
  leftmost : ∀ other rest, text = other ++ marker ++ rest → front.length ≤ other.length

/-- The runs behind the leftmost occurrences of the marker. -/
inductive Scan (marker : List α) (inRun : α → Bool) : List α → List (List α) → Prop
  | done {text} (absent : ¬marker <:+: text) : Scan marker inRun text []
  | found {front run rest text runs}
      (first : FirstAt marker front (run ++ rest) text)
      (isRun : ∀ symbol ∈ run, inRun symbol = true)
      (ends : rest.takeWhile inRun = [])
      (scan : Scan marker inRun rest runs) : Scan marker inRun text (run :: runs)

section FirstAt

variable {marker front back text : List α}

theorem FirstAt.unique {otherFront otherBack : List α} (first : FirstAt marker front back text)
    (other : FirstAt marker otherFront otherBack text) :
    front = otherFront ∧ back = otherBack := by
  have sameLength : front.length = otherFront.length :=
    Nat.le_antisymm (first.leftmost _ _ other.split) (other.leftmost _ _ first.split)
  have same : front ++ (marker ++ back) = otherFront ++ (marker ++ otherBack) := by
    rw [← List.append_assoc, ← List.append_assoc, ← first.split, ← other.split]
  obtain ⟨sameFront, sameRest⟩ := List.append_inj same sameLength
  exact ⟨sameFront, List.append_cancel_left sameRest⟩

theorem FirstAt.isInfix (first : FirstAt marker front back text) : marker <:+: text :=
  ⟨front, back, first.split.symm⟩

/-- A search from the left tells where the marker occurs first. -/
theorem dropInfix?_eq_some_iff [DecidableEq α] :
    text.dropInfix? marker = some (front, back) ↔ FirstAt marker front back text := by
  rw [List.dropInfix?_eq_some_iff]
  constructor
  · rintro ⟨⟨same, split, equal⟩, leftmost⟩
    rw [eq_of_beq equal] at split
    exact ⟨split, fun other rest occurs => leftmost other marker rest occurs (beq_self_eq_true _)⟩
  · rintro ⟨split, leftmost⟩
    refine ⟨⟨marker, split, beq_self_eq_true _⟩, fun other same rest occurs equal => ?_⟩
    rw [eq_of_beq equal] at occurs
    exact leftmost other rest occurs

theorem dropInfix?_eq_none_iff [DecidableEq α] :
    text.dropInfix? marker = none ↔ ¬marker <:+: text := by
  constructor
  · rintro missed ⟨front, back, split⟩
    -- Among the fronts of the occurrences there is a shortest one.
    have occurs : ∃ length, ∃ front back, front.length = length ∧ text = front ++ marker ++ back :=
      ⟨_, front, back, rfl, split.symm⟩
    classical
    obtain ⟨shortest, others, isShortest, occursFirst⟩ := Nat.find_spec occurs
    have first : FirstAt marker shortest others text := by
      refine ⟨occursFirst, fun other rest occursLater => ?_⟩
      rw [isShortest]
      exact Nat.find_min' occurs ⟨other, rest, rfl, occursLater⟩
    rw [dropInfix?_eq_some_iff.mpr first] at missed
    exact Option.some_ne_none _ missed
  · intro absent
    cases searched : text.dropInfix? marker with
    | none => rfl
    | some split => exact (absent (dropInfix?_eq_some_iff.mp searched).isInfix).elim

end FirstAt

variable {marker : List α} {inRun : α → Bool}

/-- How a text splits into a run and what ends it. -/
theorem run_unique {run rest otherRun otherRest : List α}
    (isRun : ∀ symbol ∈ run, inRun symbol = true) (ends : rest.takeWhile inRun = [])
    (otherIsRun : ∀ symbol ∈ otherRun, inRun symbol = true)
    (otherEnds : otherRest.takeWhile inRun = []) (same : run ++ rest = otherRun ++ otherRest) :
    run = otherRun ∧ rest = otherRest := by
  have left : (run ++ rest).takeWhile inRun = run := by
    rw [List.takeWhile_append_of_pos isRun, ends, List.append_nil]
  have right : (otherRun ++ otherRest).takeWhile inRun = otherRun := by
    rw [List.takeWhile_append_of_pos otherIsRun, otherEnds, List.append_nil]
  have sameRun : run = otherRun := by rw [← left, same, right]
  subst sameRun
  exact ⟨rfl, List.append_cancel_left same⟩

theorem exists_run (inRun : α → Bool) (text : List α) :
    ∃ run rest, text = run ++ rest ∧ (∀ symbol ∈ run, inRun symbol = true) ∧
      rest.takeWhile inRun = [] := by
  refine ⟨text.takeWhile inRun, text.dropWhile inRun, (List.takeWhile_append_dropWhile).symm,
    fun symbol member => List.mem_takeWhile_imp member, ?_⟩
  cases left : text.dropWhile inRun with
  | nil => rfl
  | cons symbol rest =>
      have stops := List.head?_dropWhile_not inRun text
      rw [left] at stops
      exact List.takeWhile_cons_of_neg (by simpa using stops)

namespace Scan

/-- A text has only one scan. -/
theorem unique {text : List α} {runs others : List (List α)} (scan : Scan marker inRun text runs)
    (other : Scan marker inRun text others) : runs = others := by
  induction scan generalizing others with
  | done absent =>
      cases other with
      | done => rfl
      | found first => exact (absent first.isInfix).elim
  | found first isRun ends _ inductionHypothesis =>
      cases other with
      | done absent => exact (absent first.isInfix).elim
      | found otherFirst otherIsRun otherEnds otherScan =>
          have same := (first.unique otherFirst).2
          obtain ⟨rfl, rfl⟩ := run_unique isRun ends otherIsRun otherEnds same
          rw [inductionHypothesis otherScan]

/-- Every text has a scan, as each occurrence of the marker takes some of it. -/
theorem exists_scan (nonempty : marker ≠ []) (text : List α) :
    ∃ runs, Scan marker inRun text runs := by
  classical
  induction size : text.length using Nat.strongRecOn generalizing text with
  | _ length inductionHypothesis =>
      subst size
      cases searched : text.dropInfix? marker with
      | none => exact ⟨[], .done (dropInfix?_eq_none_iff.mp searched)⟩
      | some split =>
          obtain ⟨run, rest, behind, isRun, ends⟩ := exists_run inRun split.2
          have first : FirstAt marker split.1 (run ++ rest) text := by
            rw [← behind]
            exact dropInfix?_eq_some_iff.mp searched
          have shorter : rest.length < text.length := by
            have positive := List.length_pos_iff.mpr nonempty
            have lengths := congrArg List.length first.split
            simp only [List.length_append] at lengths
            omega
          obtain ⟨runs, scan⟩ := inductionHypothesis rest.length shorter rest rfl
          exact ⟨run :: runs, .found first isRun ends scan⟩

end Scan

end Scanning
end TootTok
