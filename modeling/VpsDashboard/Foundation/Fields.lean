/-
# VpsDashboard.Foundation.Fields — the non-empty pieces between separators

`fields sep l` splits `l` at every `sep` and drops the empty pieces.  Cutting `l`
in two adds up fields exactly when the cut does not fall inside a field, that is
when the two parts meet at a separator (`MeetAt`):

* `fields_append` — parts that meet at a separator contribute their own fields;
* `length_fields_append` — a cut inside a field makes one field into two;
* `flatMap_fields`, `length_flatMap_fields_iff` — the fields of the parts are the
  fields of the whole if and only if every two neighbouring parts meet at a
  separator; otherwise there are more of them.
-/
import Mathlib.Data.List.Basic

namespace VpsDashboard.Foundation

set_option autoImplicit false

section Fields

variable {α : Type} {sep : α}

/-- The first part ends with the separator, or the second one begins with it. -/
def MeetAt (sep : α) (left right : List α) : Prop :=
  left.getLast? = some sep ∨ right.head? = some sep

theorem meetAt_flatten {part next : List α} (parts : List (List α)) (nonempty : next ≠ []) :
    MeetAt sep part (next :: parts).flatten ↔ MeetAt sep part next := by
  obtain ⟨y, tail, rfl⟩ := List.exists_cons_of_ne_nil nonempty
  rfl

variable [DecidableEq α]

/-- The non-empty pieces of a list between occurrences of `sep`. -/
def fields (sep : α) (l : List α) : List (List α) :=
  (l.splitOn sep).filter fun piece => !piece.isEmpty

@[simp] theorem fields_nil : fields sep [] = [] := by
  rw [fields, List.splitOn_nil]
  rfl

theorem fields_append_cons (left right : List α) :
    fields sep (left ++ sep :: right) = fields sep left ++ fields sep right := by
  rw [fields, List.splitOn_append_cons_self, List.filter_append]
  rfl

theorem fields_sep_cons (l : List α) : fields sep (sep :: l) = fields sep l := by
  have split : fields sep ([] ++ sep :: l) = fields sep [] ++ fields sep l :=
    fields_append_cons [] l
  rwa [List.nil_append, fields_nil, List.nil_append] at split

theorem fields_concat_sep (l : List α) : fields sep (l ++ [sep]) = fields sep l := by
  rw [fields_append_cons, fields_nil, List.append_nil]

/-- A piece without separator is one field. -/
theorem fields_of_not_mem {l : List α} (none : sep ∉ l) (nonempty : l ≠ []) :
    fields sep l = [l] := by
  rw [fields, List.splitOn_eq_singleton none]
  simp [nonempty]

theorem ne_nil_of_mem_fields {l piece : List α} (member : piece ∈ fields sep l) : piece ≠ [] := by
  simpa using (List.mem_filter.mp member).2

theorem not_mem_of_mem_splitOn {l piece : List α} (member : piece ∈ l.splitOn sep) :
    sep ∉ piece := by
  induction l generalizing piece with
  | nil =>
      rw [List.splitOn_nil, List.mem_singleton] at member
      rw [member]
      exact List.not_mem_nil
  | cons x l ih =>
      rw [List.splitOn_cons_eq_if_modifyHead] at member
      split at member
      · rcases List.mem_cons.mp member with rfl | later
        · exact List.not_mem_nil
        · exact ih later
      · rename_i other
        cases pieces : l.splitOn sep with
        | nil => exact absurd pieces (List.splitOn_ne_nil sep l)
        | cons first rest =>
            rw [pieces, List.modifyHead_cons] at member
            rcases List.mem_cons.mp member with rfl | later
            · have clean : sep ∉ first := ih (by rw [pieces]; exact List.mem_cons_self)
              intro found
              rcases List.mem_cons.mp found with rfl | found
              · exact other (BEq.refl _)
              · exact clean found
            · exact ih (by rw [pieces]; exact List.mem_cons_of_mem _ later)

theorem not_mem_of_mem_fields {l piece : List α} (member : piece ∈ fields sep l) : sep ∉ piece :=
  not_mem_of_mem_splitOn (List.mem_filter.mp member).1

/-- An element that is not a separator opens a field unless it continues one. -/
theorem length_fields_cons {x : α} (other : x ≠ sep) (l : List α) :
    (fields sep (x :: l)).length =
      (fields sep l).length + if l.head?.all (· == sep) then 1 else 0 := by
  have notSep : (x == sep) = false := by simpa using other
  cases l with
  | nil => simp [fields, List.splitOn_cons_eq_if_modifyHead, notSep]
  | cons y l =>
      rw [fields, fields, List.splitOn_cons_eq_if_modifyHead x, notSep,
        List.splitOn_cons_eq_if_modifyHead y]
      by_cases same : y = sep
      · simp [same]
      · cases pieces : l.splitOn sep with
        | nil => exact absurd pieces (List.splitOn_ne_nil sep l)
        | cons first rest => simp [same]

theorem fields_ne_nil {x : α} {l : List α} (member : x ∈ l) (other : x ≠ sep) :
    fields sep l ≠ [] := by
  induction l with
  | nil => cases member
  | cons y l ih =>
      by_cases same : y = sep
      · rw [same, fields_sep_cons]
        rcases List.mem_cons.mp member with rfl | later
        · exact absurd same other
        · exact ih later
      · have notSep : (y == sep) = false := by simpa using same
        rw [fields, List.splitOn_cons_eq_if_modifyHead, notSep]
        cases pieces : l.splitOn sep with
        | nil => exact absurd pieces (List.splitOn_ne_nil sep l)
        | cons first rest => simp

/-! ## Cutting a list -/

theorem fields_append {left right : List α} (meet : MeetAt sep left right) :
    fields sep (left ++ right) = fields sep left ++ fields sep right := by
  rcases meet with last | first
  · obtain ⟨init, rfl⟩ := List.getLast?_eq_some_iff.mp last
    rw [List.append_assoc, List.singleton_append, fields_append_cons, fields_concat_sep]
  · obtain ⟨tail, rfl⟩ := List.head?_eq_some_iff.mp first
    rw [fields_append_cons, fields_sep_cons]

/-- A cut inside a field makes one field into two. -/
theorem length_fields_append {left right : List α} (nonempty : left ≠ []) (rest : right ≠ [])
    (inside : ¬ MeetAt sep left right) :
    (fields sep (left ++ right)).length + 1 =
      (fields sep left).length + (fields sep right).length := by
  induction left with
  | nil => exact absurd rfl nonempty
  | cons x left ih =>
      by_cases single : left = []
      · subst single
        have other : x ≠ sep := fun same => inside (.inl (by simp [same]))
        obtain ⟨y, tail, rfl⟩ := List.exists_cons_of_ne_nil rest
        have continued : (y == sep) = false := by
          rw [beq_eq_false_iff_ne]
          exact fun same => inside (.inr (by simp [same]))
        have alone : fields sep [x] = [[x]] := fields_of_not_mem (by simpa using other.symm) (by simp)
        rw [List.singleton_append, length_fields_cons other, alone]
        simp [continued, Nat.add_comm]
      · have last : (x :: left).getLast? = left.getLast? := by
          obtain ⟨z, tail, rfl⟩ := List.exists_cons_of_ne_nil single
          rfl
        have counted := ih single fun meet => inside (meet.imp (last.trans ·) id)
        rw [List.cons_append]
        by_cases same : x = sep
        · rw [same, fields_sep_cons, fields_sep_cons]
          exact counted
        · have head : (left ++ right).head? = left.head? := by
            obtain ⟨z, tail, rfl⟩ := List.exists_cons_of_ne_nil single
            rfl
          rw [length_fields_cons same, length_fields_cons same, head]
          omega

/-- Cutting a list into parts never loses fields. -/
theorem length_fields_flatten_le (parts : List (List α)) :
    (fields sep parts.flatten).length ≤ (parts.flatMap (fields sep)).length := by
  induction parts with
  | nil => simp
  | cons part parts ih =>
      rw [List.flatten_cons, List.flatMap_cons, List.length_append]
      by_cases meet : MeetAt sep part parts.flatten
      · rw [fields_append meet, List.length_append]
        omega
      · by_cases none : part = []
        · simpa [none] using ih
        · by_cases end_ : parts.flatten = []
          · rw [end_, List.append_nil]
            omega
          · have counted := length_fields_append none end_ meet
            omega

/-- The fields of non-empty parts are, by their number alone, the fields of the whole
if and only if every two neighbouring parts meet at a separator. -/
theorem length_flatMap_fields_iff {parts : List (List α)} (nonempty : ∀ part ∈ parts, part ≠ []) :
    (parts.flatMap (fields sep)).length = (fields sep parts.flatten).length ↔
      parts.IsChain (MeetAt sep) := by
  induction parts with
  | nil => simp
  | cons part parts ih =>
      have counted := ih fun other member => nonempty other (List.mem_cons_of_mem _ member)
      cases parts with
      | nil => simp
      | cons next parts =>
          have first : part ≠ [] := nonempty part (by simp)
          have second : next ≠ [] := nonempty next (by simp)
          rw [List.isChain_cons_cons, ← meetAt_flatten parts second, ← counted,
            List.flatten_cons, List.flatMap_cons, List.length_append]
          by_cases meet : MeetAt sep part (next :: parts).flatten
          · rw [fields_append meet, List.length_append]
            simp only [meet, true_and]
            omega
          · have cut := length_fields_append first (by simp [second]) meet
            have kept : (fields sep (next :: parts).flatten).length ≤
                ((next :: parts).flatMap (fields sep)).length := length_fields_flatten_le _
            simp only [meet, false_and, iff_false]
            omega

theorem flatMap_fields {parts : List (List α)} (nonempty : ∀ part ∈ parts, part ≠ [])
    (chain : parts.IsChain (MeetAt sep)) :
    parts.flatMap (fields sep) = fields sep parts.flatten := by
  induction parts with
  | nil => simp
  | cons part parts ih =>
      cases parts with
      | nil => simp
      | cons next parts =>
          obtain ⟨meet, rest⟩ := List.isChain_cons_cons.mp chain
          have second : next ≠ [] := nonempty next (by simp)
          rw [List.flatMap_cons, List.flatten_cons,
            ih (fun other member => nonempty other (List.mem_cons_of_mem _ member)) rest,
            fields_append ((meetAt_flatten parts second).mpr meet)]

end Fields

end VpsDashboard.Foundation
