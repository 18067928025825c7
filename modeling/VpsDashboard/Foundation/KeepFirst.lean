/-
# VpsDashboard.Foundation.KeepFirst — the first element of each key

`keepFirst key seen l` goes through `l` and leaves out every element whose key has been seen.

* `keepFirst_sublist`, `keepFirst_nodup`, `mem_map_keepFirst_iff` — what is left: elements of
  `l` in their order, no key twice, and every key that had not been seen;
* `keepFirst_ordered` — the keys stand in the order of their first occurrence in `l`;
* `keepFirst_congr` — it only matters which keys have been seen.

A loop that tests a set, or a map, before it adds an element is an instance.
-/
import Mathlib.Data.List.Basic
import Mathlib.Data.List.Nodup

namespace VpsDashboard.Foundation

set_option autoImplicit false

variable {α κ : Type} [DecidableEq κ] (key : α → κ)

def keepFirst : List κ → List α → List α
  | _, [] => []
  | seen, a :: rest =>
      if key a ∈ seen then keepFirst seen rest else a :: keepFirst (key a :: seen) rest

variable {seen : List κ} {l : List α}

@[simp] theorem keepFirst_nil : keepFirst key seen [] = [] := rfl

theorem keepFirst_cons_seen {a : α} (known : key a ∈ seen) (l : List α) :
    keepFirst key seen (a :: l) = keepFirst key seen l := if_pos known

theorem keepFirst_cons_new {a : α} (fresh : key a ∉ seen) (l : List α) :
    keepFirst key seen (a :: l) = a :: keepFirst key (key a :: seen) l := if_neg fresh

theorem keepFirst_congr {seen' : List κ} (same : ∀ k, k ∈ seen ↔ k ∈ seen') (l : List α) :
    keepFirst key seen l = keepFirst key seen' l := by
  induction l generalizing seen seen' with
  | nil => rfl
  | cons a l ih =>
      by_cases known : key a ∈ seen
      · rw [keepFirst_cons_seen key known, keepFirst_cons_seen key ((same _).mp known), ih same]
      · rw [keepFirst_cons_new key known, keepFirst_cons_new key fun old => known ((same _).mpr old)]
        have same' : ∀ k, k ∈ key a :: seen ↔ k ∈ key a :: seen' := fun k => by simp [same k]
        rw [ih same']

theorem keepFirst_sublist : (keepFirst key seen l).Sublist l := by
  induction l generalizing seen with
  | nil => exact List.Sublist.refl _
  | cons a l ih =>
      rw [keepFirst]
      split
      · exact ih.cons a
      · exact ih.cons_cons a

theorem mem_map_keepFirst_iff {k : κ} :
    k ∈ (keepFirst key seen l).map key ↔ k ∈ l.map key ∧ k ∉ seen := by
  induction l generalizing seen with
  | nil => simp
  | cons a l ih =>
      by_cases known : key a ∈ seen
      · rw [keepFirst_cons_seen key known, ih, List.map_cons, List.mem_cons]
        constructor
        · exact fun ⟨member, fresh⟩ => ⟨.inr member, fresh⟩
        · rintro ⟨rfl | member, fresh⟩
          · exact absurd known fresh
          · exact ⟨member, fresh⟩
      · rw [keepFirst_cons_new key known, List.map_cons, List.mem_cons, ih, List.map_cons, List.mem_cons]
        by_cases same : k = key a
        · subst same
          simp [known]
        · simp [same]

/-- The keys in the order of their first occurrence. -/
theorem keepFirst_ordered :
    ((keepFirst key seen l).map key).Pairwise fun j k =>
      (l.map key).idxOf j < (l.map key).idxOf k := by
  induction l generalizing seen with
  | nil => exact List.Pairwise.nil
  | cons a l ih =>
      -- behind `a` stand only keys other than its own
      have later : ∀ {seen}, key a ∈ seen →
          ((keepFirst key seen l).map key).Pairwise fun j k =>
            ((a :: l).map key).idxOf j < ((a :: l).map key).idxOf k := by
        intro seen known
        refine (@ih seen).imp_of_mem ?_
        intro j k inJ inK before
        have apart : ∀ {k}, k ∈ (keepFirst key seen l).map key → key a ≠ k := by
          rintro k member rfl
          exact ((mem_map_keepFirst_iff key).mp member).2 known
        rw [List.map_cons, List.idxOf_cons_ne _ (apart inJ), List.idxOf_cons_ne _ (apart inK)]
        exact Nat.succ_lt_succ before
      by_cases known : key a ∈ seen
      · rw [keepFirst_cons_seen key known]
        exact later known
      · rw [keepFirst_cons_new key known]
        refine List.pairwise_cons.mpr ?_
        refine ⟨fun k member => ?_, later List.mem_cons_self⟩
        have apart : key a ≠ k := by
          rintro rfl
          exact ((mem_map_keepFirst_iff key).mp member).2 List.mem_cons_self
        rw [List.map_cons, List.idxOf_cons_self, List.idxOf_cons_ne _ apart]
        exact Nat.succ_pos _

theorem keepFirst_nodup : ((keepFirst key seen l).map key).Nodup :=
  (keepFirst_ordered key).imp fun before same => by
    subst same
    exact absurd before (Nat.lt_irrefl _)

theorem head?_keepFirst : (keepFirst key [] l).head? = l.head? := by
  cases l with
  | nil => rfl
  | cons a l => rfl

end VpsDashboard.Foundation
