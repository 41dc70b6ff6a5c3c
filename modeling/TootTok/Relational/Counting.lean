import Mathlib.Data.List.Nodup
import TootTok.Relational.Table

/-!
# Counting rows

How the number of rows that satisfy a condition changes with an insertion, a deletion and
an update.
-/

namespace TootTok
namespace Relational

variable {Row : Type}

/-- What a filter takes away. -/
theorem countP_filter_add (counted removed : Row → Bool) (rows : List Row) :
    (rows.filter fun row => !removed row).countP counted +
        rows.countP (fun row => counted row && removed row) =
      rows.countP counted := by
  induction rows with
  | nil => rfl
  | cons row rows inductionHypothesis =>
      cases isRemoved : removed row <;> cases isCounted : counted row <;>
        simp [isRemoved, isCounted] <;> omega

/-- What an update takes away whose rows are not counted afterwards. -/
theorem countP_changeWhere_add {counted changed : Row → Bool} {change : Row → Row}
    (uncounted : ∀ row, changed row = true → counted (change row) = false) (rows : List Row) :
    (rows.map (Table.changeWhere changed change)).countP counted +
        rows.countP (fun row => counted row && changed row) =
      rows.countP counted := by
  induction rows with
  | nil => rfl
  | cons row rows inductionHypothesis =>
      unfold Table.changeWhere at inductionHypothesis ⊢
      rw [List.countP_map] at inductionHypothesis ⊢
      cases isChanged : changed row <;> cases isCounted : counted row <;>
        simp [isChanged, isCounted, uncounted row] <;> omega

/-- The count of a condition that one row alone can satisfy. -/
theorem countP_of_unique {rows : List Row} (nodup : rows.Nodup) {condition : Row → Bool}
    {row : Row} (stored : row ∈ rows)
    (unique : ∀ other ∈ rows, condition other = true → other = row) :
    rows.countP condition = if condition row then 1 else 0 := by
  classical
  split
  next holds =>
    have same : rows.countP condition = rows.countP (fun other => decide (other = row)) := by
      refine List.countP_congr fun other member => ?_
      rw [decide_eq_true_iff]
      constructor
      · exact unique other member
      · rintro rfl
        exact holds
    rw [same]
    have counted := List.count_eq_one_of_mem nodup stored
    rw [List.count_eq_countP] at counted
    rw [← counted]
    refine List.countP_congr fun other _ => ?_
    simp
  next fails =>
    rw [List.countP_eq_zero]
    intro other member holds
    rw [unique other member holds] at holds
    exact fails holds

namespace Table

variable {Clash : Row → Row → Prop} {table : Table Clash}

theorem nodup (reflexive : ∀ row, Clash row row) : table.rows.Nodup := by
  refine List.Pairwise.imp ?_ table.distinct
  rintro row _ apart rfl
  exact apart (reflexive row)

end Table

namespace SerialTable

variable {number : Row → Nat} {Clash : Row → Row → Prop} {table : SerialTable number Clash}

theorem nodup : table.rows.Nodup :=
  Table.nodup fun _ => .inl rfl

end SerialTable
end Relational
end TootTok
