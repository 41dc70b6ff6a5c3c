import TootTok.Relational.Join

/-!
# Sums over rows

The sum of a column, and how it changes with an insertion and an update. A join whose
rows cover those of one of its sides has at least their sum.
-/

namespace TootTok
namespace Relational

variable {Row Left Right : Type}

/-- `SUM(weight)`, zero where there are no rows. -/
def sumOf (weight : Row → Nat) : List Row → Nat
  | [] => 0
  | row :: rows => weight row + sumOf weight rows

section Sums

variable {weight : Row → Nat}

@[simp] theorem sumOf_nil : sumOf weight [] = 0 := rfl

@[simp] theorem sumOf_cons (row : Row) (rows : List Row) :
    sumOf weight (row :: rows) = weight row + sumOf weight rows := rfl

theorem sumOf_append (first rest : List Row) :
    sumOf weight (first ++ rest) = sumOf weight first + sumOf weight rest := by
  induction first with
  | nil => simp
  | cons row first inductionHypothesis =>
      simp only [List.cons_append, sumOf_cons, inductionHypothesis]
      omega

/-- No row weighs more than all of them. -/
theorem le_sumOf {row : Row} {rows : List Row} (member : row ∈ rows) :
    weight row ≤ sumOf weight rows := by
  induction member with
  | head rows =>
      rw [sumOf_cons]
      omega
  | tail other _ inductionHypothesis =>
      rw [sumOf_cons]
      omega

/-- The rows that are counted, or all rows at a weight of their own. -/
theorem sumOf_filter (counted : Row → Bool) (rows : List Row) :
    sumOf weight (rows.filter counted) =
      sumOf (fun row => if counted row then weight row else 0) rows := by
  induction rows with
  | nil => rfl
  | cons row rows inductionHypothesis =>
      cases isCounted : counted row <;> simp [isCounted, inductionHypothesis]

/-- A change by which no row weighs more. -/
theorem sumOf_map_le {change : Row → Row} (lighter : ∀ row, weight (change row) ≤ weight row)
    (rows : List Row) : sumOf weight (rows.map change) ≤ sumOf weight rows := by
  induction rows with
  | nil => simp
  | cons row rows inductionHypothesis =>
      have first := lighter row
      simp only [List.map_cons, sumOf_cons]
      omega

end Sums

/-- The counted rows weigh no more than the join in which each of them is covered. -/
theorem sumOf_le_sumOf_join
    {left : List Left} {right : List Right} {on : Left → Right → Bool} {counted : Left → Bool}
    {weight : Left → Nat} {size : Right → Nat}
    (covered : ∀ row ∈ left, counted row = true →
      ∃ other ∈ right, on row other = true ∧ weight row ≤ size other) :
    sumOf weight (left.filter counted) ≤
      sumOf (fun row => size row.2) ((join left right on).filter fun row => counted row.1) := by
  induction left with
  | nil => simp
  | cons row left inductionHypothesis =>
      have rest := inductionHypothesis fun other member => covered other (.tail _ member)
      have split : join (row :: left) right on =
          (right.filter (on row)).map (Prod.mk row) ++ join left right on := rfl
      rw [split, List.filter_append, sumOf_append]
      cases isCounted : counted row with
      | false =>
          rw [List.filter_cons_of_neg (by simp [isCounted])]
          omega
      | true =>
          rw [List.filter_cons_of_pos isCounted, sumOf_cons]
          obtain ⟨other, member, joined, heavy⟩ := covered row (.head _) isCounted
          have paired : (row, other) ∈
              ((right.filter (on row)).map (Prod.mk row)).filter fun row => counted row.1 := by
            simp [member, joined, isCounted]
          have within := @le_sumOf _ (fun row : Left × Right => size row.2) _ _ paired
          dsimp only at within
          omega

end Relational
end TootTok
