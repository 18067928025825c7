/-
# VpsDashboard.Foundation.Mean — integer means of the groups of a sorted list

`mean` divides a sum by a length and drops the fraction, as integer division does in
Go.  A truncated mean still lies between the least and the greatest of its values, so
the means of consecutive groups of a sorted list are sorted (`means_sorted`).

`natAbs_sum_le` bounds a sum by the number of its terms and their size.
-/
import Mathlib.Algebra.Order.Ring.Int
import Mathlib.Data.List.Pairwise

namespace VpsDashboard.Foundation

set_option autoImplicit false

/-- The mean of a group, its fraction dropped. -/
def mean (values : List Int) : Int := values.sum.tdiv values.length

section Bounds

variable {values : List Int} {m : Int}

theorem sum_le_length_mul (below : ∀ v ∈ values, v ≤ m) : values.sum ≤ values.length * m := by
  induction values with
  | nil => simp
  | cons v values ih =>
      have first := below v List.mem_cons_self
      have rest := ih fun w member => below w (List.mem_cons_of_mem v member)
      rw [List.sum_cons, List.length_cons, Int.natCast_succ, Int.add_mul, Int.one_mul]
      omega

theorem length_mul_le_sum (above : ∀ v ∈ values, m ≤ v) : values.length * m ≤ values.sum := by
  induction values with
  | nil => simp
  | cons v values ih =>
      have first := above v List.mem_cons_self
      have rest := ih fun w member => above w (List.mem_cons_of_mem v member)
      rw [List.sum_cons, List.length_cons, Int.natCast_succ, Int.add_mul, Int.one_mul]
      omega

theorem mean_le (nonempty : values ≠ []) (below : ∀ v ∈ values, v ≤ m) : mean values ≤ m := by
  have filled := List.length_pos_iff.mpr nonempty
  have divided : mean values ≤ (values.length * m).tdiv values.length :=
    Int.tdiv_le_tdiv (by omega) (sum_le_length_mul below)
  rwa [Int.mul_tdiv_cancel_left m (by omega)] at divided

theorem le_mean (nonempty : values ≠ []) (above : ∀ v ∈ values, m ≤ v) : m ≤ mean values := by
  have filled := List.length_pos_iff.mpr nonempty
  have divided : (values.length * m).tdiv values.length ≤ mean values :=
    Int.tdiv_le_tdiv (by omega) (length_mul_le_sum above)
  rwa [Int.mul_tdiv_cancel_left m (by omega)] at divided

/-- A mean lies between two of its values. -/
theorem exists_mean_between (nonempty : values ≠ []) :
    (∃ a ∈ values, a ≤ mean values) ∧ ∃ b ∈ values, mean values ≤ b := by
  constructor
  · by_contra none
    push Not at none
    have above : mean values + 1 ≤ mean values :=
      le_mean nonempty fun v member => Int.add_one_le_of_lt (none v member)
    omega
  · by_contra none
    push Not at none
    have below : mean values ≤ mean values - 1 :=
      mean_le nonempty fun v member => Int.le_sub_one_of_lt (none v member)
    omega

theorem natAbs_sum_le {k : Nat} (small : ∀ v ∈ values, v.natAbs ≤ k) :
    values.sum.natAbs ≤ values.length * k := by
  induction values with
  | nil => simp
  | cons v values ih =>
      have first := small v List.mem_cons_self
      have rest := ih fun w member => small w (List.mem_cons_of_mem v member)
      rw [List.sum_cons, List.length_cons, Nat.succ_mul]
      omega

end Bounds

/-- The last entry of a sorted list is its greatest. -/
theorem exists_greatest {values : List Int} (nonempty : values ≠ [])
    (sorted : values.Pairwise (· ≤ ·)) : ∃ g ∈ values, ∀ v ∈ values, v ≤ g := by
  exact ⟨values.getLast nonempty, List.getLast_mem nonempty, fun v member => sorted.rel_getLast member⟩

/-- Consecutive groups of a sorted list have sorted means. -/
theorem means_sorted {groups : List (List Int)} (nonempty : ∀ g ∈ groups, g ≠ [])
    (sorted : groups.flatten.Pairwise (· ≤ ·)) : (groups.map mean).Pairwise (· ≤ ·) := by
  obtain ⟨inner, across⟩ := List.pairwise_flatten.mp sorted
  refine List.pairwise_map.mpr (List.Pairwise.imp_of_mem ?_ across)
  intro left right leftIn rightIn below
  obtain ⟨top, topIn, greatest⟩ := exists_greatest (nonempty left leftIn) (inner left leftIn)
  have upper : mean left ≤ top := mean_le (nonempty left leftIn) greatest
  have lower : top ≤ mean right := le_mean (nonempty right rightIn) (below top topIn)
  omega

end VpsDashboard.Foundation
