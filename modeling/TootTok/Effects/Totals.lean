import Mathlib.Algebra.Order.BigOperators.Group.Finset
import Mathlib.Algebra.Order.Ring.Int

/-!
# Totals over threads

The sum of what all threads hold, of whom only finitely many hold anything. When one
thread changes what it holds, the total changes by the difference.
-/

namespace TootTok
namespace Effects

variable {ι : Type}

/-- Only finitely many weights are not zero, and they add up to the total. -/
def Total (weight : ι → Int) (total : Int) : Prop :=
  ∃ holders : Finset ι, (∀ thread ∉ holders, weight thread = 0) ∧
    ∑ thread ∈ holders, weight thread = total

namespace Total

variable {weight : ι → Int} {total : Int}

theorem zero (none : ∀ thread, weight thread = 0) : Total weight 0 :=
  ⟨∅, fun thread _ => none thread, Finset.sum_empty⟩

theorem eq_zero (holds : Total weight total) (none : ∀ thread, weight thread = 0) :
    total = 0 := by
  obtain ⟨holders, -, sum⟩ := holds
  rw [← sum]
  exact Finset.sum_eq_zero fun thread _ => none thread

theorem nonneg (holds : Total weight total) (each : ∀ thread, 0 ≤ weight thread) : 0 ≤ total := by
  obtain ⟨holders, -, sum⟩ := holds
  rw [← sum]
  exact Finset.sum_nonneg fun thread _ => each thread

variable [DecidableEq ι]

/-- One more thread may be counted in. -/
theorem insert (holds : Total weight total) (thread : ι) :
    ∃ holders : Finset ι, thread ∈ holders ∧ (∀ other ∉ holders, weight other = 0) ∧
      ∑ other ∈ holders, weight other = total := by
  obtain ⟨holders, outside, sum⟩ := holds
  refine ⟨Insert.insert thread holders, Finset.mem_insert_self thread holders, ?_, ?_⟩
  · intro other absent
    exact outside other fun member => absent (Finset.mem_insert_of_mem member)
  · by_cases member : thread ∈ holders
    · rw [Finset.insert_eq_of_mem member, sum]
    · rw [Finset.sum_insert member, outside thread member, sum, zero_add]

/-- One thread holds something else. -/
theorem update (holds : Total weight total) (thread : ι) (value : Int) :
    Total (Function.update weight thread value) (total - weight thread + value) := by
  obtain ⟨holders, member, outside, sum⟩ := holds.insert thread
  refine ⟨holders, fun other absent => ?_, ?_⟩
  · have different : other ≠ thread := by
      rintro rfl
      exact absent member
    rw [Function.update_of_ne different]
    exact outside other absent
  · have others : ∑ other ∈ holders.erase thread, Function.update weight thread value other =
        ∑ other ∈ holders.erase thread, weight other := by
      refine Finset.sum_congr rfl fun other inside => ?_
      rw [Function.update_of_ne (Finset.ne_of_mem_erase inside)]
    have before := Finset.add_sum_erase holders weight member
    have after := Finset.add_sum_erase holders (Function.update weight thread value) member
    rw [Function.update_self, others] at after
    omega

/-- One thread holds everything. -/
theorem eq_of_alone (holds : Total weight total) {thread : ι}
    (alone : ∀ other, other ≠ thread → weight other = 0) : total = weight thread := by
  have rest := (holds.update thread 0).eq_zero fun other => by
    by_cases same : other = thread
    · rw [same, Function.update_self]
    · rw [Function.update_of_ne same, alone other same]
  omega

end Total
end Effects
end TootTok
