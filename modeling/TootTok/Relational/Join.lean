import TootTok.Relational.Table
import Mathlib.Data.List.Nodup

/-!
# Joins

The nested-loop join of two lists of rows. Rows of a table do not repeat, so
neither do the rows of a join.
-/

namespace TootTok
namespace Relational

variable {Left Right : Type}

/-- `FROM left JOIN right ON on`. -/
def join (left : List Left) (right : List Right) (on : Left → Right → Bool) :
    List (Left × Right) :=
  left.flatMap fun row => (right.filter (on row)).map (Prod.mk row)

@[simp] theorem mem_join
    {left : List Left} {right : List Right} {on : Left → Right → Bool} {row : Left × Right} :
    row ∈ join left right on ↔
      row.1 ∈ left ∧ row.2 ∈ right ∧ on row.1 row.2 = true := by
  obtain ⟨first, second⟩ := row
  simp [join]

theorem nodup_join
    {left : List Left} {right : List Right} (on : Left → Right → Bool)
    (leftNodup : left.Nodup) (rightNodup : right.Nodup) : (join left right on).Nodup := by
  refine List.nodup_flatMap.mpr ⟨fun row _ => ?_, ?_⟩
  · exact (rightNodup.filter _).map fun _ _ same => (Prod.mk.inj same).2
  · refine leftNodup.imp fun different => ?_
    intro shared inFirst inSecond
    obtain ⟨_, _, rfl⟩ := List.mem_map.mp inFirst
    obtain ⟨_, _, same⟩ := List.mem_map.mp inSecond
    exact different (Prod.mk.inj same).1.symm

/-- A selected column that determines the joined row has no value twice. -/
theorem nodup_selected
    {Joined Item Column : Type} {joined : List Joined} {condition : Joined → Bool}
    {select : Joined → Item} {column : Item → Column} (nodup : joined.Nodup)
    (determines : ∀ left ∈ joined, ∀ right ∈ joined,
      condition left = true → condition right = true →
      column (select left) = column (select right) → left = right) :
    (((joined.filter condition).map select).map column).Nodup := by
  rw [List.map_map]
  refine (nodup.filter condition).map_on ?_
  intro left leftMember right rightMember same
  rw [List.mem_filter] at leftMember rightMember
  exact determines left leftMember.1 right rightMember.1 leftMember.2 rightMember.2 same

/-- Rows of a table do not repeat when every row clashes with itself. -/
theorem Table.nodup_rows {Clash : Left → Left → Prop} (reflexive : ∀ row, Clash row row)
    (table : Table Clash) : table.rows.Nodup := by
  refine table.distinct.imp ?_
  rintro row _ notClash rfl
  exact notClash (reflexive row)

theorem SerialTable.nodup_rows {number : Left → Nat} {Clash : Left → Left → Prop}
    (table : SerialTable number Clash) : table.rows.Nodup := by
  refine table.distinct.imp ?_
  rintro row _ notClash rfl
  exact notClash (.inl rfl)

end Relational
end TootTok
