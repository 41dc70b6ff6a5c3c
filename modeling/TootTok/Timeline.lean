import Mathlib.Algebra.Order.Group.Basic
import Mathlib.Algebra.BigOperators.Group.List.Basic
import Mathlib.Algebra.Order.BigOperators.Group.List
import Mathlib.Data.Prod.Lex

/-!
# Timelines

Parts of given lengths, laid one behind the other. Every time before the end lies in exactly
one part, and a later time lies in a later part or later in the same one. Empty parts hold no
time.
-/

namespace TootTok
namespace Timeline

variable {K : Type}

section Sums

variable [AddCommGroup K]

/-- The time at which a part starts. -/
def startOf (lengths : List K) (index : Nat) : K := (lengths.take index).sum

@[simp] theorem startOf_zero (lengths : List K) : startOf lengths 0 = 0 := by
  simp [startOf]

@[simp] theorem startOf_cons_succ (length : K) (lengths : List K) (index : Nat) :
    startOf (length :: lengths) (index + 1) = length + startOf lengths index := by
  simp [startOf]

/-- A part starts when the one before it ends. -/
theorem startOf_succ {lengths : List K} {index : Nat} {length : K}
    (isPart : lengths[index]? = some length) :
    startOf lengths (index + 1) = startOf lengths index + length := by
  rw [startOf, startOf, List.take_add_one, isPart, List.sum_append]
  simp

end Sums

variable [AddCommGroup K] [LinearOrder K]

/-- The time lies this far into the part. -/
structure Lies (lengths : List K) (time : K) (index : Nat) (offset : K) : Prop where
  time_eq : time = startOf lengths index + offset
  nonneg : 0 ≤ offset
  within : ∃ length, lengths[index]? = some length ∧ offset < length

theorem Lies.cons {lengths : List K} {time offset length : K} {index : Nat}
    (lies : Lies lengths time index offset) :
    Lies (length :: lengths) (length + time) (index + 1) offset where
  time_eq := by rw [startOf_cons_succ, lies.time_eq, add_assoc]
  nonneg := lies.nonneg
  within := lies.within

variable [IsOrderedAddMonoid K]

theorem startOf_le_sum {lengths : List K} (nonneg : ∀ length ∈ lengths, 0 ≤ length)
    (index : Nat) : startOf lengths index ≤ lengths.sum := by
  rw [← List.take_append_drop index lengths, List.sum_append, List.take_append_drop]
  exact le_add_of_nonneg_right
    (List.sum_nonneg fun length member => nonneg length (List.mem_of_mem_drop member))

theorem startOf_mono {lengths : List K} (nonneg : ∀ length ∈ lengths, 0 ≤ length)
    {earlier later : Nat} (before : earlier ≤ later) :
    startOf lengths earlier ≤ startOf lengths later := by
  have taken : lengths.take earlier = (lengths.take later).take earlier := by
    rw [List.take_take, Nat.min_eq_left before]
  rw [startOf, taken]
  exact startOf_le_sum (fun length member => nonneg length (List.mem_of_mem_take member)) earlier

namespace Lies

variable {lengths : List K} {time : K} {index : Nat} {offset : K}

/-- The time comes before the end of its part. -/
theorem lt_startOf_succ (lies : Lies lengths time index offset) :
    time < startOf lengths (index + 1) := by
  obtain ⟨length, isPart, inside⟩ := lies.within
  rw [startOf_succ isPart, lies.time_eq]
  exact add_lt_add_right inside _

theorem startOf_le (lies : Lies lengths time index offset) : startOf lengths index ≤ time := by
  rw [lies.time_eq]
  exact le_add_of_nonneg_right lies.nonneg

/-- Later times lie in later parts, or later in the same part. -/
theorem mono (nonneg : ∀ length ∈ lengths, 0 ≤ length) {later : K} {laterIndex : Nat}
    {laterOffset : K} (lies : Lies lengths time index offset)
    (other : Lies lengths later laterIndex laterOffset) (order : time ≤ later) :
    index < laterIndex ∨ index = laterIndex ∧ offset ≤ laterOffset := by
  rcases lt_trichotomy index laterIndex with before | rfl | behind
  · exact .inl before
  · refine .inr ⟨rfl, ?_⟩
    rw [lies.time_eq, other.time_eq] at order
    exact le_of_add_le_add_left order
  · exfalso
    have ends : later < time :=
      calc later < startOf lengths (laterIndex + 1) := other.lt_startOf_succ
        _ ≤ startOf lengths index := startOf_mono nonneg behind
        _ ≤ time := lies.startOf_le
    exact not_le_of_gt ends order

/-- A time lies in one place only. -/
theorem unique (nonneg : ∀ length ∈ lengths, 0 ≤ length) {otherIndex : Nat} {otherOffset : K}
    (lies : Lies lengths time index offset) (other : Lies lengths time otherIndex otherOffset) :
    index = otherIndex ∧ offset = otherOffset := by
  rcases lies.mono nonneg other le_rfl with before | ⟨same, less⟩
  · rcases other.mono nonneg lies le_rfl with behind | ⟨same, -⟩
    · exact absurd before (Nat.lt_asymm behind)
    · exact absurd same.symm (Nat.ne_of_lt before)
  · rcases other.mono nonneg lies le_rfl with behind | ⟨-, more⟩
    · exact absurd same.symm (Nat.ne_of_lt behind)
    · exact ⟨same, le_antisymm less more⟩

end Lies

/-- Every time before the end lies somewhere. -/
theorem exists_lies {lengths : List K} {time : K} (starts : 0 ≤ time)
    (ends : time < lengths.sum) : ∃ index offset, Lies lengths time index offset := by
  induction lengths generalizing time with
  | nil => exact absurd ends (not_lt_of_ge starts)
  | cons length lengths inductionHypothesis =>
      by_cases here : time < length
      · exact ⟨0, time, ⟨by simp, starts, length, rfl, here⟩⟩
      · have left : time - length < lengths.sum := by
          rw [List.sum_cons] at ends
          exact sub_left_lt_of_lt_add ends
        obtain ⟨index, offset, lies⟩ :=
          inductionHypothesis (sub_nonneg.mpr (le_of_not_gt here)) left
        have later : Lies (length :: lengths) (length + (time - length)) (index + 1) offset :=
          lies.cons
        rw [add_sub_cancel] at later
        exact ⟨index + 1, offset, later⟩

end Timeline
end TootTok
