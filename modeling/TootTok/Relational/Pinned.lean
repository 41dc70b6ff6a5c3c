import TootTok.Relational.Table

/-!
# Numbers that have been given out

A number is given out once. What holds of its row and is kept by every change of a row holds
of it for good, also when the row is gone.
-/

namespace TootTok.Relational.SerialTable

variable {Row : Type} {number : Row → Nat} {Clash : Row → Row → Prop} [DecidableRel Clash]

/-- The number has been given out, and the row that has it, if any, satisfies the property. -/
structure Pinned (id : Nat) (holds : Row → Prop) (table : SerialTable number Clash) : Prop where
  given : id < table.next
  row : ∀ row ∈ table, number row = id → holds row

variable {id : Nat} {holds : Row → Prop} {table : SerialTable number Clash}

omit [DecidableRel Clash] in
theorem Pinned.spend (pinned : table.Pinned id holds) : table.spend.Pinned id holds where
  given := Nat.lt_succ_of_lt pinned.given
  row := pinned.row

theorem Pinned.insert (pinned : table.Pinned id holds) (make : Nat → Row)
    (numbered : ∀ index, number (make index) = index) :
    (table.insert make numbered).2.Pinned id holds where
  given := by
    unfold SerialTable.insert
    split <;> exact Nat.lt_succ_of_lt pinned.given
  row row stored isId := by
    rcases mem_of_mem_insert stored with old | rfl
    · exact pinned.row row old isId
    · rw [numbered] at isId
      exact absurd isId (Nat.ne_of_gt pinned.given)

omit [DecidableRel Clash] in
theorem Pinned.update (pinned : table.Pinned id holds) (condition : Row → Bool)
    (change : Row → Row) (sameNumber : ∀ row, number (change row) = number row)
    (keeps : Table.KeepsKeys Clash change) (kept : ∀ row, holds row → holds (change row)) :
    (table.update condition change sameNumber keeps).Pinned id holds where
  given := pinned.given
  row row stored isId := by
    obtain ⟨old, isOld, rfl⟩ := mem_update.mp stored
    unfold Table.changeWhere at isId ⊢
    split at isId
    next changes =>
      rw [if_pos changes]
      exact kept old (pinned.row old isOld ((sameNumber old).symm.trans isId))
    next changes =>
      rw [if_neg changes]
      exact pinned.row old isOld isId

omit [DecidableRel Clash] in
theorem Pinned.erase (pinned : table.Pinned id holds) (condition : Row → Bool) :
    (table.erase condition).Pinned id holds where
  given := pinned.given
  row row stored := pinned.row row (List.mem_of_mem_filter stored)

end TootTok.Relational.SerialTable
