/-
# VpsDashboard.Foundation.Regex — regular expressions with groups, matched from the left

A pattern is searched for from the left; at one position its alternatives are tried in
order and its repetitions take as much as they can.  `run` lists the ways in which a
pattern matches a beginning of a text, the preferred one first, and `find` takes the first
way at the leftmost position that has one.

`Matches r u k` says without any order that `r` matches all of `u` and captures `k`.

* `mem_run_iff` — the ways of `run` are those of `Matches`;
* `find_of_unique` — where every match at a position captures the same, `find` captures it;
* `Quiet.find` — a beginning of the text in which no match begins can be skipped.

A turn of a repetition consumes something: a repeated pattern that matches nothing ends
the repetition.
-/
import Mathlib.Data.List.Basic

namespace VpsDashboard.Foundation

set_option autoImplicit false

inductive Regex (α : Type) where
  | empty
  | one (p : α → Bool)
  | seq (a b : Regex α)
  | alt (a b : Regex α)
  | star (a : Regex α)
  | group (n : Nat) (a : Regex α)

namespace Regex

variable {α : Type}

/-- What the groups have captured, the latest first. -/
abbrev Groups (α : Type) := List (Nat × List α)

/-- A way to match a beginning of a text. -/
structure Parse (α : Type) where
  text : List α
  rest : List α
  groups : Groups α

namespace Parse

def nothing (s : List α) : Parse α := ⟨[], s, []⟩

/-- One match and then another one. -/
def append (p q : Parse α) : Parse α := ⟨p.text ++ q.text, q.rest, q.groups ++ p.groups⟩

/-- What a group has captured, the empty text if it took no part in the match. -/
def submatch (p : Parse α) (n : Nat) : List α := (p.groups.lookup n).getD []

end Parse

/-! ## Matching -/

def repeats (f : List α → List (Parse α)) : Nat → List α → List (Parse α)
  | 0, s => [.nothing s]
  | fuel + 1, s =>
      (((f s).filter fun p => !p.text.isEmpty).flatMap fun p =>
        (repeats f fuel p.rest).map p.append) ++ [.nothing s]

/-- The ways to match a beginning of a text, in the order in which they are tried. -/
def run : Regex α → List α → List (Parse α)
  | .empty, s => [.nothing s]
  | .one _, [] => []
  | .one p, a :: s => if p a then [⟨[a], s, []⟩] else []
  | .seq a b, s => (a.run s).flatMap fun p => (b.run p.rest).map p.append
  | .alt a b, s => a.run s ++ b.run s
  | .star a, s => repeats a.run s.length s
  | .group n a, s => (a.run s).map fun p => { p with groups := (n, p.text) :: p.groups }

/-- The leftmost match, and of several ones the first. -/
def find (r : Regex α) : List α → Option (Parse α)
  | [] => (r.run []).head?
  | a :: s => (r.run (a :: s)).head?.or (find r s)

/-- The patterns of a list, one after the other. -/
def chain (patterns : List (Regex α)) : Regex α := patterns.foldr .seq .empty

/-- A character of a class, any number of times. -/
def many (p : α → Bool) : Regex α := .star (.one p)

/-- A character of a class, at least once. -/
def many1 (p : α → Bool) : Regex α := .seq (.one p) (many p)

inductive Matches : Regex α → List α → Groups α → Prop where
  | empty : Matches .empty [] []
  | one {p : α → Bool} {a : α} (holds : p a = true) : Matches (.one p) [a] []
  | seq {a b : Regex α} {u v : List α} {k l : Groups α} (first : Matches a u k)
      (second : Matches b v l) : Matches (.seq a b) (u ++ v) (l ++ k)
  | left {a b : Regex α} {u : List α} {k : Groups α} (first : Matches a u k) :
      Matches (.alt a b) u k
  | right {a b : Regex α} {u : List α} {k : Groups α} (second : Matches b u k) :
      Matches (.alt a b) u k
  | stop {a : Regex α} : Matches (.star a) [] []
  | again {a : Regex α} {u v : List α} {k l : Groups α} (filled : u ≠ []) (first : Matches a u k)
      (others : Matches (.star a) v l) : Matches (.star a) (u ++ v) (l ++ k)
  | group {n : Nat} {a : Regex α} {u : List α} {k : Groups α} (inner : Matches a u k) :
      Matches (.group n a) u ((n, u) :: k)

/-! ## What a pattern matches -/

section Inversion

variable {p : α → Bool} {a b : Regex α} {u : List α} {k : Groups α}

@[simp] theorem matches_empty_iff : Matches .empty u k ↔ u = [] ∧ k = [] := by
  constructor
  · rintro ⟨⟩
    exact ⟨rfl, rfl⟩
  · rintro ⟨rfl, rfl⟩
    exact .empty

@[simp] theorem matches_one_iff : Matches (.one p) u k ↔ ∃ c, p c = true ∧ u = [c] ∧ k = [] := by
  constructor
  · rintro ⟨⟩
    exact ⟨_, ‹_›, rfl, rfl⟩
  · rintro ⟨c, holds, rfl, rfl⟩
    exact .one holds

theorem matches_seq_iff : Matches (.seq a b) u k ↔
    ∃ v w l m, Matches a v l ∧ Matches b w m ∧ u = v ++ w ∧ k = m ++ l := by
  constructor
  · rintro ⟨⟩
    exact ⟨_, _, _, _, ‹_›, ‹_›, rfl, rfl⟩
  · rintro ⟨v, w, l, m, first, second, rfl, rfl⟩
    exact .seq first second

theorem matches_alt_iff : Matches (.alt a b) u k ↔ Matches a u k ∨ Matches b u k := by
  constructor
  · rintro (⟨⟩ | ⟨⟩)
    · exact .inl ‹_›
    · exact .inr ‹_›
  · rintro (first | second)
    · exact .left first
    · exact .right second

theorem matches_group_iff {n : Nat} :
    Matches (.group n a) u k ↔ ∃ l, Matches a u l ∧ k = (n, u) :: l := by
  constructor
  · rintro ⟨⟩
    exact ⟨_, ‹_›, rfl⟩
  · rintro ⟨l, inner, rfl⟩
    exact .group inner

theorem matches_star_iff : Matches (.star a) u k ↔
    (u = [] ∧ k = []) ∨ ∃ v w l m, v ≠ [] ∧ Matches a v l ∧ Matches (.star a) w m ∧
      u = v ++ w ∧ k = m ++ l := by
  constructor
  · rintro (⟨⟩ | ⟨⟩)
    · exact .inl ⟨rfl, rfl⟩
    · exact .inr ⟨_, _, _, _, ‹_›, ‹_›, ‹_›, rfl, rfl⟩
  · rintro (⟨rfl, rfl⟩ | ⟨v, w, l, m, filled, first, others, rfl, rfl⟩)
    · exact .stop
    · exact .again filled first others

/-- A repeated class matches the texts of its characters. -/
@[simp] theorem matches_many_iff : Matches (many p) u k ↔ (∀ c ∈ u, p c = true) ∧ k = [] := by
  constructor
  · intro matched
    generalize whole : many p = r at matched
    induction matched with
    | stop => exact ⟨nofun, rfl⟩
    | again filled first others _ ih =>
        obtain ⟨rest, rfl⟩ := ih whole
        obtain rfl := Regex.star.inj whole
        obtain ⟨c, holds, rfl, rfl⟩ := matches_one_iff.mp first
        exact ⟨by simpa using ⟨holds, rest⟩, rfl⟩
    | _ => cases whole
  · rintro ⟨all, rfl⟩
    induction u with
    | nil => exact .stop
    | cons c u ih =>
        have first : Matches (.one p) [c] [] := .one (all c List.mem_cons_self)
        exact .again (List.cons_ne_nil c []) first
          (ih fun d member => all d (List.mem_cons_of_mem c member))

@[simp] theorem matches_many1_iff :
    Matches (many1 p) u k ↔ u ≠ [] ∧ (∀ c ∈ u, p c = true) ∧ k = [] := by
  rw [many1, matches_seq_iff]
  constructor
  · rintro ⟨v, w, l, m, first, others, rfl, rfl⟩
    obtain ⟨c, holds, rfl, rfl⟩ := matches_one_iff.mp first
    obtain ⟨all, rfl⟩ := matches_many_iff.mp others
    exact ⟨List.cons_ne_nil c w, by simpa using ⟨holds, all⟩, rfl⟩
  · rintro ⟨filled, all, rfl⟩
    obtain ⟨c, w, rfl⟩ := List.exists_cons_of_ne_nil filled
    obtain ⟨holds, others⟩ := List.forall_mem_cons.mp all
    exact ⟨[c], w, [], [], .one holds, matches_many_iff.mpr ⟨others, rfl⟩, rfl, rfl⟩

@[simp] theorem matches_chain_nil_iff : Matches (chain []) u k ↔ u = [] ∧ k = [] :=
  matches_empty_iff

theorem matches_chain_cons_iff {patterns : List (Regex α)} :
    Matches (chain (a :: patterns)) u k ↔
      ∃ v w l m, Matches a v l ∧ Matches (chain patterns) w m ∧ u = v ++ w ∧ k = m ++ l :=
  matches_seq_iff

theorem matches_chain_one_iff {patterns : List (Regex α)} :
    Matches (chain (.one p :: patterns)) u k ↔
      ∃ c w, p c = true ∧ u = c :: w ∧ Matches (chain patterns) w k := by
  rw [matches_chain_cons_iff]
  constructor
  · rintro ⟨v, w, l, m, first, others, rfl, rfl⟩
    obtain ⟨c, holds, rfl, rfl⟩ := matches_one_iff.mp first
    exact ⟨c, w, holds, rfl, by rwa [List.append_nil]⟩
  · rintro ⟨c, w, holds, rfl, others⟩
    exact ⟨[c], w, [], k, .one holds, others, rfl, (List.append_nil k).symm⟩

theorem matches_chain_many_iff {patterns : List (Regex α)} :
    Matches (chain (many p :: patterns)) u k ↔
      ∃ v w, (∀ c ∈ v, p c = true) ∧ u = v ++ w ∧ Matches (chain patterns) w k := by
  rw [matches_chain_cons_iff]
  constructor
  · rintro ⟨v, w, l, m, first, others, rfl, rfl⟩
    obtain ⟨all, rfl⟩ := matches_many_iff.mp first
    exact ⟨v, w, all, rfl, by rwa [List.append_nil]⟩
  · rintro ⟨v, w, all, rfl, others⟩
    exact ⟨v, w, [], k, matches_many_iff.mpr ⟨all, rfl⟩, others, rfl, (List.append_nil k).symm⟩

/-- A group around a repeated class captures what the class matches. -/
theorem matches_chain_group_iff {n : Nat} {patterns : List (Regex α)} :
    Matches (chain (.group n (many1 p) :: patterns)) u k ↔
      ∃ v w m, v ≠ [] ∧ (∀ c ∈ v, p c = true) ∧ u = v ++ w ∧ Matches (chain patterns) w m ∧
        k = m ++ [(n, v)] := by
  rw [matches_chain_cons_iff]
  constructor
  · rintro ⟨v, w, l, m, first, others, rfl, rfl⟩
    obtain ⟨l, inner, rfl⟩ := matches_group_iff.mp first
    obtain ⟨filled, all, rfl⟩ := matches_many1_iff.mp inner
    exact ⟨v, w, m, filled, all, rfl, others, rfl⟩
  · rintro ⟨v, w, m, filled, all, rfl, others, rfl⟩
    exact ⟨v, w, [(n, v)], m, .group (matches_many1_iff.mpr ⟨filled, all, rfl⟩), others, rfl, rfl⟩

end Inversion

/-! ## The ways of `run` are the matches -/

section Run

variable {r : Regex α} {s : List α} {p : Parse α}

theorem mem_run_nothing_iff : p = Parse.nothing s ↔
    p.text ++ p.rest = s ∧ p.text = [] ∧ p.groups = [] := by
  obtain ⟨text, rest, groups⟩ := p
  simp only [Parse.nothing, Parse.mk.injEq]
  constructor
  · rintro ⟨rfl, rfl, rfl⟩
    exact ⟨rfl, rfl, rfl⟩
  · rintro ⟨rfl, rfl, rfl⟩
    exact ⟨rfl, rfl, rfl⟩

theorem mem_repeats_iff {a : Regex α}
    (turn : ∀ {s p}, p ∈ a.run s ↔ p.text ++ p.rest = s ∧ Matches a p.text p.groups) {fuel : Nat}
    (enough : s.length ≤ fuel) :
    p ∈ repeats a.run fuel s ↔ p.text ++ p.rest = s ∧ Matches (.star a) p.text p.groups := by
  induction fuel generalizing s p with
  | zero =>
      obtain rfl := List.length_eq_zero_iff.mp (Nat.le_zero.mp enough)
      rw [repeats, List.mem_singleton, mem_run_nothing_iff, matches_star_iff]
      refine and_congr_right fun whole => ⟨.inl, ?_⟩
      rintro (stopped | ⟨v, w, l, m, filled, -, -, text, -⟩)
      · exact stopped
      · rw [text] at whole
        simp [filled] at whole
  | succ fuel ih =>
      rw [repeats, List.mem_append, List.mem_singleton, mem_run_nothing_iff, matches_star_iff,
        and_or_left, or_comm]
      refine or_congr Iff.rfl ?_
      simp only [List.mem_flatMap, List.mem_filter, List.mem_map, turn]
      obtain ⟨text, rest, groups⟩ := p
      constructor
      · rintro ⟨q, ⟨⟨rfl, first⟩, filled⟩, q', others, same⟩
        cases same
        have filled : q.text ≠ [] := by simpa using filled
        have shorter : q.rest.length ≤ fuel := by
          have some := List.length_pos_iff.mpr filled
          rw [List.length_append] at enough
          omega
        obtain ⟨whole, others⟩ := (ih shorter).mp others
        refine ⟨?_, _, _, _, _, filled, first, others, rfl, rfl⟩
        rw [List.append_assoc, whole]
      · rintro ⟨rfl, v, w, l, m, filled, first, others, rfl, rfl⟩
        have shorter : (w ++ rest).length ≤ fuel := by
          have some := List.length_pos_iff.mpr filled
          simp only [List.length_append] at enough ⊢
          omega
        refine ⟨⟨v, w ++ rest, l⟩, ⟨⟨(List.append_assoc _ _ _).symm, first⟩, by simpa using filled⟩,
          ⟨w, rest, m⟩, (ih shorter).mpr ⟨rfl, others⟩, rfl⟩

/-- **The matcher enumerates the matches.** -/
theorem mem_run_iff : p ∈ r.run s ↔ p.text ++ p.rest = s ∧ Matches r p.text p.groups := by
  induction r generalizing s p with
  | empty =>
      rw [run, List.mem_singleton, mem_run_nothing_iff, matches_empty_iff]
  | one f =>
      obtain ⟨text, rest, groups⟩ := p
      rw [matches_one_iff]
      cases s with
      | nil =>
          simp only [run, List.not_mem_nil, false_iff, not_and]
          rintro whole ⟨c, -, rfl, -⟩
          cases whole
      | cons c s =>
          simp only [run]
          split
          · rename_i holds
            simp only [List.mem_singleton, Parse.mk.injEq]
            constructor
            · rintro ⟨rfl, rfl, rfl⟩
              exact ⟨rfl, c, holds, rfl, rfl⟩
            · rintro ⟨whole, d, -, rfl, rfl⟩
              cases whole
              exact ⟨rfl, rfl, rfl⟩
          · rename_i fails
            simp only [List.not_mem_nil, false_iff, not_and]
            rintro whole ⟨d, holds, rfl, -⟩
            cases whole
            exact fails holds
  | seq a b iha ihb =>
      obtain ⟨text, rest, groups⟩ := p
      simp only [run, List.mem_flatMap, List.mem_map, iha, ihb, matches_seq_iff]
      constructor
      · rintro ⟨q, ⟨rfl, first⟩, q', ⟨whole, second⟩, same⟩
        cases same
        refine ⟨?_, _, _, _, _, first, second, rfl, rfl⟩
        rw [List.append_assoc, whole]
      · rintro ⟨rfl, v, w, l, m, first, second, rfl, rfl⟩
        exact ⟨⟨v, w ++ rest, l⟩, ⟨(List.append_assoc _ _ _).symm, first⟩, ⟨w, rest, m⟩,
          ⟨rfl, second⟩, rfl⟩
  | alt a b iha ihb => rw [run, List.mem_append, iha, ihb, matches_alt_iff, and_or_left]
  | star a ih => exact mem_repeats_iff ih (Nat.le_refl _)
  | group n a ih =>
      obtain ⟨text, rest, groups⟩ := p
      simp only [run, List.mem_map, ih, matches_group_iff]
      constructor
      · rintro ⟨q, ⟨whole, inner⟩, same⟩
        cases same
        exact ⟨whole, _, inner, rfl⟩
      · rintro ⟨whole, l, inner, rfl⟩
        exact ⟨⟨text, rest, l⟩, ⟨whole, inner⟩, rfl⟩

end Run

/-! ## Searching -/

section Search

variable {r : Regex α} {u v s : List α}

/-- A match begins where the text begins. -/
def Begins (r : Regex α) (s : List α) : Prop := ∃ u rest k, s = u ++ rest ∧ Matches r u k

theorem run_eq_nil_iff : r.run s = [] ↔ ¬ r.Begins s := by
  rw [List.eq_nil_iff_forall_not_mem]
  constructor
  · rintro none ⟨u, rest, k, rfl, matched⟩
    exact none ⟨u, rest, k⟩ (mem_run_iff.mpr ⟨rfl, matched⟩)
  · rintro none p found
    obtain ⟨whole, matched⟩ := mem_run_iff.mp found
    exact none ⟨p.text, p.rest, p.groups, whole.symm, matched⟩

theorem find_eq (r : Regex α) (s : List α) :
    r.find s = (r.run s).head?.or (s.tail?.bind r.find) := by
  cases s <;> simp [find]

/-- Where every match at the beginning captures the same, it is found with these groups. -/
theorem find_of_unique {groups : Groups α} (begins : r.Begins s)
    (unique : ∀ {u rest k}, s = u ++ rest → Matches r u k → k = groups) :
    ∃ p, r.find s = some p ∧ p.groups = groups := by
  cases first : r.run s with
  | nil => exact absurd begins (run_eq_nil_iff.mp first)
  | cons p others =>
      have found : p ∈ r.run s := first ▸ List.mem_cons_self
      obtain ⟨whole, matched⟩ := mem_run_iff.mp found
      refine ⟨p, ?_, unique whole.symm matched⟩
      rw [find_eq, first]
      rfl

/-- No match begins in `u` where `s` follows it. -/
def Quiet (r : Regex α) : List α → List α → Prop
  | [], _ => True
  | a :: u, s => ¬ r.Begins (a :: u ++ s) ∧ Quiet r u s

theorem quiet_iff : r.Quiet u s ↔ ∀ w, w ≠ [] → w <:+ u → ¬ r.Begins (w ++ s) := by
  induction u with
  | nil =>
      refine iff_of_true trivial fun w filled suffix => ?_
      exact absurd (List.suffix_nil.mp suffix) filled
  | cons a u ih =>
      rw [Quiet, ih]
      constructor
      · rintro ⟨first, others⟩ w filled suffix
        rcases List.suffix_cons_iff.mp suffix with rfl | shorter
        · exact first
        · exact others w filled shorter
      · intro all
        exact ⟨all _ (List.cons_ne_nil a u) (List.suffix_refl _),
          fun w filled suffix => all w filled (suffix.trans (List.suffix_cons a u))⟩

theorem quiet_append_iff : r.Quiet (u ++ v) s ↔ r.Quiet u (v ++ s) ∧ r.Quiet v s := by
  induction u with
  | nil => simp [Quiet]
  | cons a u ih => simp only [List.cons_append, Quiet, List.append_assoc, ih, and_assoc]

theorem quiet_flatMap {β : Type} {f : β → List α} {l : List β}
    (each : ∀ b ∈ l, ∀ s, r.Quiet (f b) s) : r.Quiet (l.flatMap f) s := by
  induction l with
  | nil => trivial
  | cons b l ih =>
      rw [List.flatMap_cons, quiet_append_iff]
      exact ⟨each b List.mem_cons_self _, ih fun c member => each c (List.mem_cons_of_mem b member)⟩

theorem Quiet.find (quiet : r.Quiet u s) : r.find (u ++ s) = r.find s := by
  induction u with
  | nil => rfl
  | cons a u ih =>
      have none := run_eq_nil_iff.mpr quiet.1
      rw [find_eq, none]
      exact ih quiet.2

end Search

end Regex

end VpsDashboard.Foundation
