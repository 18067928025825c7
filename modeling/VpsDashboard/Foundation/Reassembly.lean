/-
# VpsDashboard.Foundation.Reassembly — pieces of a stream that arrives in parts

`cut sep l` splits `l` at every double separator, from left to right: the pieces that
end with one, and the rest.  Cutting what has arrived and carrying the rest over gives
the pieces of the whole, wherever the parts were joined (`cut_append`).

`arrived encode items l` are the items whose encodings `l` has in full; when `l` is a
beginning of the stream of all of them, what else it has is a beginning of the encoding of
the next (`arrived_rest`).
-/
import Mathlib.Data.List.Basic

namespace VpsDashboard.Foundation

set_option autoImplicit false

section Cut

variable {α : Type} [DecidableEq α] {sep : α}

/-- The pieces before the double separators, and what follows the last of them. -/
def cut (sep : α) : List α → List (List α) × List α
  | [] => ([], [])
  | [a] => ([], [a])
  | a :: b :: rest =>
      if a = sep ∧ b = sep then ([] :: (cut sep rest).1, (cut sep rest).2)
      else
        match cut sep (b :: rest) with
        | ([], carry) => ([], a :: carry)
        | (piece :: pieces, carry) => ((a :: piece) :: pieces, carry)

@[simp] theorem cut_nil : cut sep ([] : List α) = ([], []) := rfl

/-- Without a piece there is nothing but the rest. -/
theorem cut_none {l carry : List α} (none : cut sep l = ([], carry)) : carry = l := by
  induction l using cut.induct sep generalizing carry with
  | case1 => exact (congrArg Prod.snd none).symm
  | case2 a => exact (congrArg Prod.snd none).symm
  | case3 a b rest both ih =>
      rw [cut, if_pos both] at none
      cases none
  | case4 a b rest differ carry' whole ih =>
      rw [cut, if_neg differ, whole] at none
      have same : carry' = b :: rest := ih whole
      rw [← same]
      exact (congrArg Prod.snd none).symm
  | case5 a b rest differ piece pieces carry' whole ih =>
      rw [cut, if_neg differ, whole] at none
      cases none

/-- **It does not matter where the parts are joined.** -/
theorem cut_append (left right : List α) :
    cut sep (left ++ right) =
      ((cut sep left).1 ++ (cut sep ((cut sep left).2 ++ right)).1,
        (cut sep ((cut sep left).2 ++ right)).2) := by
  induction left using cut.induct sep with
  | case1 => rfl
  | case2 a => rfl
  | case3 a b rest both ih =>
      simp only [List.cons_append, cut, if_pos both, ih]
  | case4 a b rest differ carry whole ih =>
      have same := cut_none whole
      rw [cut, if_neg differ, whole, same]
      rfl
  | case5 a b rest differ piece pieces carry whole ih =>
      rw [whole] at ih
      have later : cut sep (b :: (rest ++ right)) =
          (piece :: (pieces ++ (cut sep (carry ++ right)).1), (cut sep (carry ++ right)).2) := ih
      rw [List.cons_append, List.cons_append, cut, if_neg differ, later, cut, if_neg differ, whole]
      rfl

/-- A piece that has no separator in it. -/
theorem cut_piece {piece : List α} (clean : sep ∉ piece) (rest : List α) :
    cut sep (piece ++ sep :: sep :: rest) = (piece :: (cut sep rest).1, (cut sep rest).2) := by
  induction piece with
  | nil => rw [List.nil_append, cut, if_pos ⟨rfl, rfl⟩]
  | cons a piece ih =>
      have first : a ≠ sep := fun same => clean (same ▸ List.mem_cons_self)
      have later := ih fun inside => clean (List.mem_cons_of_mem a inside)
      cases piece with
      | nil =>
          rw [List.nil_append] at later
          rw [List.singleton_append, cut, if_neg fun both => first both.1, later]
      | cons b piece =>
          rw [List.cons_append] at later
          rw [List.cons_append, List.cons_append, cut, if_neg fun both => first both.1, later]

/-- The pieces of a stream of pieces, each ended by a double separator. -/
theorem cut_pieces {pieces : List (List α)} (clean : ∀ piece ∈ pieces, sep ∉ piece) :
    cut sep (pieces.flatMap fun piece => piece ++ [sep, sep]) = (pieces, []) := by
  induction pieces with
  | nil => rfl
  | cons piece pieces ih =>
      have rest := ih fun other member => clean other (List.mem_cons_of_mem piece member)
      rw [List.flatMap_cons, List.append_assoc, List.cons_append, List.singleton_append,
        cut_piece (clean piece List.mem_cons_self), rest]

/-- What has at most one separator, at its end, has no pieces. -/
theorem cut_short {piece l : List α} (clean : sep ∉ piece) (short : l <+: piece ++ [sep]) :
    cut sep l = ([], l) := by
  induction piece generalizing l with
  | nil =>
      cases l with
      | nil => rfl
      | cons a l =>
          obtain ⟨rfl, rest⟩ := List.cons_prefix_cons.mp short
          obtain rfl := List.prefix_nil.mp rest
          rfl
  | cons a piece ih =>
      cases l with
      | nil => rfl
      | cons a' l =>
          obtain ⟨rfl, rest⟩ := List.cons_prefix_cons.mp short
          have later := ih (fun inside => clean (List.mem_cons_of_mem _ inside)) rest
          have first : a' ≠ sep := fun same => clean (same ▸ List.mem_cons_self)
          cases l with
          | nil => rfl
          | cons b l => rw [cut, if_neg fun both => first both.1, later]

end Cut

section Arrived

variable {α β : Type} [DecidableEq α] (encode : β → List α)

def arrived : List β → List α → List β
  | [], _ => []
  | b :: later, l =>
      if (encode b).isPrefixOf l then b :: arrived later (l.drop (encode b).length) else []

theorem arrived_all (items : List β) : arrived encode items (items.flatMap encode) = items := by
  induction items with
  | nil => rfl
  | cons b items ih =>
      rw [arrived, List.flatMap_cons, List.drop_left, ih]
      simp

/-- What has arrived is some of the items and a beginning of the next one. -/
theorem arrived_rest {items : List β} {l : List α} (received : l <+: items.flatMap encode) :
    ∃ rest, l = (arrived encode items l).flatMap encode ++ rest ∧
      (items = arrived encode items l ∧ rest = [] ∨
        ∃ b later, items = arrived encode items l ++ b :: later ∧ rest <+: encode b ∧
          rest ≠ encode b) := by
  induction items generalizing l with
  | nil => exact ⟨[], List.prefix_nil.mp received, .inl ⟨rfl, rfl⟩⟩
  | cons b items ih =>
      rw [arrived]
      split
      · rename_i whole
        obtain ⟨more, rfl⟩ := List.isPrefixOf_iff_prefix.mp whole
        rw [List.flatMap_cons, List.prefix_append_right_inj] at received
        obtain ⟨rest, split, next⟩ := ih received
        rw [List.drop_left]
        refine ⟨rest, ?_, ?_⟩
        · rw [List.flatMap_cons, List.append_assoc, ← split]
        · rcases next with ⟨all, none⟩ | ⟨b', later, all, short, partly⟩
          · exact .inl ⟨congrArg (b :: ·) all, none⟩
          · exact .inr ⟨b', later, congrArg (b :: ·) all, short, partly⟩
      · rename_i partly
        rw [List.isPrefixOf_iff_prefix] at partly
        rw [List.flatMap_cons] at received
        refine ⟨l, rfl, .inr ⟨b, items, rfl, ?_, ?_⟩⟩
        · exact (List.prefix_or_prefix_of_prefix received (List.prefix_append _ _)).resolve_right
            partly
        · rintro rfl
          exact partly (List.prefix_refl _)

end Arrived

end VpsDashboard.Foundation
