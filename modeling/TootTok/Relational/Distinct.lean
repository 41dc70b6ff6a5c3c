import Mathlib.Data.List.Basic

/-!
# The first distinct values

The first so many distinct values of a list, in the order in which they occur first. When two
lists differ in one value only, and both give it, they give the same values.
-/

namespace TootTok
namespace Relational

variable {α : Type} [DecidableEq α]

/-- The first distinct values of a list, at most so many. -/
def firstDistinct (most : Nat) (values : List α) : List α := values.eraseDups.take most

theorem filter_eraseDups (keep : α → Bool) (values : List α) :
    (values.filter keep).eraseDups = values.eraseDups.filter keep := by
  induction size : values.length using Nat.strongRecOn generalizing values with
  | _ length inductionHypothesis =>
      subst size
      cases values with
      | nil => rfl
      | cons value values =>
          have shorter : (values.filter fun other => !other == value).length <
              (value :: values).length :=
            Nat.lt_succ_of_le (List.length_filter_le _ _)
          rw [List.eraseDups_cons]
          by_cases kept : keep value = true
          · rw [List.filter_cons_of_pos kept, List.filter_cons_of_pos kept, List.eraseDups_cons,
              List.filter_comm, inductionHypothesis _ shorter _ rfl]
          · have without : (values.filter keep) =
                (values.filter fun other => !other == value).filter keep := by
              rw [List.filter_filter]
              refine List.filter_congr fun other _ => ?_
              by_cases same : other = value
              · simp [same, kept]
              · simp [same]
            rw [List.filter_cons_of_neg kept, List.filter_cons_of_neg kept, without,
              inductionHypothesis _ shorter _ rfl]

theorem nodup_eraseDups (values : List α) : values.eraseDups.Nodup := by
  induction size : values.length using Nat.strongRecOn generalizing values with
  | _ length inductionHypothesis =>
      subst size
      cases values with
      | nil => exact List.nodup_nil
      | cons value values =>
          rw [List.eraseDups_cons, List.nodup_cons]
          refine ⟨fun member => ?_, inductionHypothesis _
            (Nat.lt_succ_of_le (List.length_filter_le _ _)) _ rfl⟩
          have kept := (List.mem_filter.mp (List.mem_eraseDups.mp member)).2
          simp at kept

/-- Append a value that is not known yet. -/
def addNew (known : List α) (value : α) : List α :=
  if value ∈ known then known else known ++ [value]

/-- To add values one by one is to append those that are new, each once. -/
theorem foldl_addNew (values known : List α) :
    values.foldl addNew known = known ++ (values.filter (· ∉ known)).eraseDups := by
  induction values generalizing known with
  | nil => simp
  | cons value values inductionHypothesis =>
      rw [List.foldl_cons, addNew, inductionHypothesis]
      by_cases isKnown : value ∈ known
      · rw [if_pos isKnown, List.filter_cons_of_neg (by simpa using isKnown)]
      · rw [if_neg isKnown, List.filter_cons_of_pos (by simpa using isKnown),
          List.eraseDups_cons, List.filter_filter, List.append_assoc, List.singleton_append]
        congr 4
        funext other
        by_cases same : other = value <;> simp [same]

theorem foldl_addNew_nil (values : List α) : values.foldl addNew [] = values.eraseDups := by
  rw [foldl_addNew]
  simp

/-- A value among the first ones takes one place of them. -/
theorem mem_take_iff_of_mem {values : List α} (distinct : values.Nodup) {value : α} {most : Nat}
    (among : value ∈ values.take (most + 1)) (other : α) :
    other ∈ values.take (most + 1) ↔
      other = value ∨ other ∈ (values.filter (· ≠ value)).take most := by
  induction values generalizing most with
  | nil => simp at among
  | cons first values inductionHypothesis =>
      obtain ⟨notLater, distinct⟩ := List.nodup_cons.mp distinct
      rw [List.take_succ_cons, List.mem_cons] at among ⊢
      by_cases here : first = value
      · subst here
        have same : (first :: values).filter (· ≠ first) = values := by
          rw [List.filter_cons_of_neg (by simp), List.filter_eq_self]
          intro later member
          refine decide_eq_true fun same => ?_
          exact notLater (same ▸ member)
        rw [same]
      · have later := among.resolve_left (Ne.symm here)
        cases most with
        | zero => simp at later
        | succ most =>
            rw [List.filter_cons_of_pos (by simpa using here), List.take_succ_cons, List.mem_cons,
              inductionHypothesis distinct later]
            exact or_left_comm

/-- Lists that agree but for one value, which is among the first distinct ones of both, have the
same first distinct values. -/
theorem mem_firstDistinct_congr {left right : List α} {value : α} {most : Nat}
    (same : left.filter (· ≠ value) = right.filter (· ≠ value))
    (inLeft : value ∈ firstDistinct most left) (inRight : value ∈ firstDistinct most right)
    (other : α) : other ∈ firstDistinct most left ↔ other ∈ firstDistinct most right := by
  cases most with
  | zero => simp [firstDistinct] at inLeft
  | succ most =>
      unfold firstDistinct at inLeft inRight ⊢
      rw [mem_take_iff_of_mem (nodup_eraseDups left) inLeft,
        mem_take_iff_of_mem (nodup_eraseDups right) inRight, ← filter_eraseDups,
        ← filter_eraseDups, same]

/-- Once there are enough values, what follows does not count. -/
theorem firstDistinct_append_of_full {front : List α} {most : Nat}
    (full : (firstDistinct most front).length = most) (back : List α) :
    firstDistinct most (front ++ back) = firstDistinct most front := by
  have long : most ≤ front.eraseDups.length := by
    rw [firstDistinct, List.length_take] at full
    omega
  rw [firstDistinct, List.eraseDups_append, List.take_append_of_le_length long]
  rfl

/-- As long as there are not, the next value is among them. -/
theorem mem_firstDistinct_of_room {front : List α} {most : Nat}
    (room : (firstDistinct most front).length ≠ most) (value : α) (back : List α) :
    value ∈ firstDistinct most (front ++ value :: back) := by
  have short : front.eraseDups.length < most := by
    rw [firstDistinct, List.length_take] at room
    omega
  rw [firstDistinct, List.eraseDups_append, List.take_append, List.mem_append]
  by_cases known : value ∈ front
  · left
    rw [List.take_of_length_le (Nat.le_of_lt short)]
    exact List.mem_eraseDups.mpr known
  · right
    obtain ⟨left, enough⟩ : ∃ left, most - front.eraseDups.length = left + 1 :=
      ⟨most - front.eraseDups.length - 1, by omega⟩
    have kept : ((value :: back).removeAll front) = value :: back.removeAll front := by
      simp [List.removeAll, known]
    rw [kept, List.eraseDups_cons, enough, List.take_succ_cons]
    exact List.mem_cons_self

end Relational
end TootTok
