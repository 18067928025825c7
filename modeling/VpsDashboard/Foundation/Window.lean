/-
# VpsDashboard.Foundation.Window — the last entries that satisfy a rising predicate

A predicate is rising along a list when it holds of everything after an entry of
which it holds.  What satisfies it is then a suffix, so filtering, dropping the
leading failures and cutting to a length are all `drop`s, and they commute
(`Rising.rtake_filter_drop`).

`lastOf n p l` is the last `n` entries of `l` that satisfy `p`.  `lastOf_concat`
is the step of a bounded buffer: when `p` only gets stricter, what an earlier
`lastOf` left out is not needed by a later one.
-/
import Mathlib.Data.List.DropRight

namespace VpsDashboard.Foundation

set_option autoImplicit false

variable {α : Type} {p : α → Bool} {l : List α}

/-- Once `p` holds along the list, it goes on holding. -/
def Rising (p : α → Bool) (l : List α) : Prop :=
  l.Pairwise fun x y => p x = true → p y = true

theorem Rising.filter_eq_drop (rising : Rising p l) :
    l.filter p = l.drop (l.countP fun x => !p x) := by
  induction l with
  | nil => rfl
  | cons a l ih =>
      obtain ⟨later, rest⟩ := List.pairwise_cons.mp rising
      cases holds : p a with
      | false =>
          rw [List.filter_cons_of_neg (by simp [holds]), ih rest,
            List.countP_cons_of_pos (by simp [holds]), List.drop_succ_cons]
      | true =>
          have all : ∀ b ∈ a :: l, p b = true := by
            intro b member
            rcases List.mem_cons.mp member with rfl | inside
            · exact holds
            · exact later b inside holds
          have none : (a :: l).countP (fun x => !p x) = 0 := by
            rw [List.countP_eq_zero]
            intro b member
            simp [all b member]
          rw [List.filter_eq_self.mpr all, none, List.drop_zero]

theorem Rising.dropWhile_eq_filter (rising : Rising p l) :
    l.dropWhile (fun x => !p x) = l.filter p := by
  induction l with
  | nil => rfl
  | cons a l ih =>
      obtain ⟨later, rest⟩ := List.pairwise_cons.mp rising
      cases holds : p a with
      | false =>
          rw [List.dropWhile_cons_of_pos (by simp [holds]), ih rest,
            List.filter_cons_of_neg (by simp [holds])]
      | true =>
          have all : ∀ b ∈ l, p b = true := fun b inside => later b inside holds
          rw [List.dropWhile_cons_of_neg (by simp [holds]),
            List.filter_cons_of_pos holds, List.filter_eq_self.mpr all]

theorem Rising.drop (rising : Rising p l) (k : Nat) : Rising p (l.drop k) :=
  List.Pairwise.drop rising

theorem rtake_drop (n a : Nat) (l : List α) :
    (l.drop a).rtake n = l.drop (max a (l.length - n)) := by
  rw [List.rtake, List.drop_drop, List.length_drop]
  by_cases inside : a ≤ l.length
  · congr 1
    omega
  · rw [List.drop_of_length_le (by omega), List.drop_of_length_le (by omega)]

/-- A list cut to its last `n` entries at every step is cut as it would be at the end. -/
theorem rtake_rtake_concat (n : Nat) (l : List α) (x : α) :
    (l.rtake n ++ [x]).rtake n = (l ++ [x]).rtake n := by
  have cut : l.rtake n ++ [x] = (l ++ [x]).drop (l.length - n) := by
    rw [List.drop_append_of_le_length (Nat.sub_le _ _)]
    rfl
  rw [cut, rtake_drop, List.rtake, List.length_append, List.length_singleton]
  congr 1
  omega

/-- Entries that the length cuts off anyway may be dropped before the filter. -/
theorem Rising.rtake_filter_drop (rising : Rising p l) {n k : Nat} (cut : k ≤ l.length - n) :
    ((l.drop k).filter p).rtake n = (l.filter p).rtake n := by
  rw [(rising.drop k).filter_eq_drop, rising.filter_eq_drop, List.drop_drop, rtake_drop,
    rtake_drop]
  have failures : (l.take k).countP (fun x => !p x) + (l.drop k).countP (fun x => !p x) =
      l.countP fun x => !p x := by
    rw [← List.countP_append, List.take_append_drop]
  have taken : (l.take k).countP (fun x => !p x) ≤ k :=
    Nat.le_trans List.countP_le_length (List.length_take_le k l)
  by_cases reached : (l.drop k).countP (fun x => !p x) = 0
  · congr 1
    omega
  · have across := rising
    rw [Rising, ← List.take_append_drop k l, List.pairwise_append] at across
    obtain ⟨b, late, fails⟩ := List.countP_pos_iff.mp (Nat.pos_of_ne_zero reached)
    have all : (l.take k).countP (fun x => !p x) = (l.take k).length := by
      rw [List.countP_eq_length]
      intro a early
      cases holds : p a with
      | false => rfl
      | true => simp [across.2.2 a early b late holds] at fails
    congr 1
    rw [List.length_take] at all
    omega

/-- The last `n` entries of `l` that satisfy `p`. -/
def lastOf (n : Nat) (p : α → Bool) (l : List α) : List α := (l.filter p).rtake n

@[simp] theorem lastOf_nil (n : Nat) : lastOf n p [] = [] := by simp [lastOf]

theorem lastOf_sublist (n : Nat) (p : α → Bool) (l : List α) : (lastOf n p l).Sublist l :=
  (List.drop_sublist _ _).trans List.filter_sublist

/-- A buffer that is cut to `n` entries at every step loses nothing that a stricter
predicate would still select. -/
theorem lastOf_concat {q : α → Bool} {n : Nat} {x : α} (stricter : ∀ a, q a = true → p a = true)
    (rising : Rising q (l ++ [x])) :
    lastOf n q (lastOf n p l ++ [x]) = lastOf n q (l ++ [x]) := by
  have selected : (l ++ [x]).filter q = (l.filter p ++ [x]).filter q := by
    have both : (l.filter p).filter q = l.filter q := by
      rw [List.filter_filter]
      apply List.filter_congr
      intro a _
      cases holds : q a with
      | false => simp
      | true => simp [stricter a holds]
    rw [List.filter_append, List.filter_append, both]
  have sub : (l.filter p ++ [x]).Sublist (l ++ [x]) :=
    List.filter_sublist.append (List.Sublist.refl [x])
  have still : Rising q (l.filter p ++ [x]) := rising.sublist sub
  have cut : lastOf n p l ++ [x] = (l.filter p ++ [x]).drop ((l.filter p).length - n) := by
    rw [List.drop_append_of_le_length (Nat.sub_le _ _)]
    rfl
  rw [cut, lastOf, lastOf, selected]
  apply still.rtake_filter_drop
  rw [List.length_append, List.length_singleton]
  omega

end VpsDashboard.Foundation
