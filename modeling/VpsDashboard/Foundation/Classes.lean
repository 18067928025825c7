/-
# VpsDashboard.Foundation.Classes — the classes of a list that is sorted by a key

`Classes key l groups` says that `groups` are consecutive non-empty groups which
together are `l`, that the items of one group have one key, and that the keys rise from
group to group: the groups are the classes of equal keys.

* `Classes.concat_new`, `Classes.concat_same` — one more item opens a group or joins the
  last one;
* `Classes.card` — there are as many groups as keys;
* `exists_average_between` — the average of a non-empty list lies between two items.
-/
import Mathlib.Algebra.Order.BigOperators.Group.List
import Mathlib.Algebra.Order.Field.Basic
import Mathlib.Data.Finset.Dedup
import Mathlib.Data.Finset.Card

namespace VpsDashboard.Foundation

set_option autoImplicit false

structure Classes {α κ : Type} [LinearOrder κ] (key : α → κ) (l : List α)
    (groups : List (List α)) : Prop where
  whole : groups.flatten = l
  filled : ∀ g ∈ groups, g ≠ []
  same : ∀ g ∈ groups, ∀ a ∈ g, ∀ b ∈ g, key a = key b
  rising : groups.Pairwise fun g g' => ∀ a ∈ g, ∀ b ∈ g', key a < key b

section Classes

variable {α κ : Type} [LinearOrder κ] {key : α → κ} {l : List α} {groups : List (List α)}

theorem classes_nil : Classes key [] [] := ⟨rfl, nofun, nofun, List.Pairwise.nil⟩

theorem classes_singleton (a : α) : Classes key [a] [[a]] := by
  refine ⟨rfl, by simp, ?_, List.pairwise_singleton _ _⟩
  intro g member b first c second
  obtain rfl := List.mem_singleton.mp member
  rw [List.mem_singleton.mp first, List.mem_singleton.mp second]

/-- An item whose key is greater than all others opens a group. -/
theorem Classes.concat_new (classes : Classes key l groups) {a : α}
    (greater : ∀ b ∈ l, key b < key a) : Classes key (l ++ [a]) (groups ++ [[a]]) where
  whole := by simp [classes.whole]
  filled g member := by
    rcases List.mem_append.mp member with old | new
    · exact classes.filled g old
    · rw [List.mem_singleton.mp new]
      exact List.cons_ne_nil a []
  same g member := by
    rcases List.mem_append.mp member with old | new
    · exact classes.same g old
    · exact (classes_singleton a).same g new
  rising := by
    refine List.pairwise_append.mpr ⟨classes.rising, List.pairwise_singleton _ _, ?_⟩
    intro g member g' new b inside c single
    obtain rfl := List.mem_singleton.mp new
    obtain rfl := List.mem_singleton.mp single
    apply greater
    rw [← classes.whole]
    exact List.mem_flatten.mpr ⟨g, member, inside⟩

theorem Classes.last_filled {last : List α} (classes : Classes key l (groups ++ [last])) :
    last ≠ [] := classes.filled last (List.mem_append_right _ (List.mem_singleton_self last))

/-- An item with the key of the last group joins it. -/
theorem Classes.concat_same {last : List α} (classes : Classes key l (groups ++ [last])) {a : α}
    (joins : ∀ b ∈ last, key b = key a) :
    Classes key (l ++ [a]) (groups ++ [last ++ [a]]) where
  whole := by simp [← classes.whole]
  filled g member := by
    rcases List.mem_append.mp member with old | new
    · exact classes.filled g (List.mem_append_left _ old)
    · rw [List.mem_singleton.mp new]
      simp
  same g member := by
    rcases List.mem_append.mp member with old | new
    · exact classes.same g (List.mem_append_left _ old)
    · obtain rfl := List.mem_singleton.mp new
      have equal : ∀ b ∈ last ++ [a], key b = key a := by
        intro b inside
        rcases List.mem_append.mp inside with before | single
        · exact joins b before
        · rw [List.mem_singleton.mp single]
      intro b first c second
      rw [equal b first, equal c second]
  rising := by
    obtain ⟨before, -, across⟩ := List.pairwise_append.mp classes.rising
    refine List.pairwise_append.mpr ⟨before, List.pairwise_singleton _ _, ?_⟩
    intro g member g' new b inside c joined
    obtain rfl := List.mem_singleton.mp new
    have below := across g member last (List.mem_singleton_self last) b inside
    rcases List.mem_append.mp joined with old | single
    · exact below c old
    · obtain ⟨d, there⟩ := List.exists_mem_of_ne_nil last classes.last_filled
      rw [List.mem_singleton.mp single, ← joins d there]
      exact below d there

/-- The items of the last class have the greatest key. -/
theorem Classes.le_last {last : List α} (classes : Classes key l (groups ++ [last])) {a c : α}
    (inside : a ∈ l) (late : c ∈ last) : key a ≤ key c := by
  rw [← classes.whole] at inside
  obtain ⟨g, member, inG⟩ := List.mem_flatten.mp inside
  rcases List.mem_append.mp member with early | single
  · exact le_of_lt ((List.pairwise_append.mp classes.rising).2.2 g early last
      (List.mem_singleton_self last) a inG c late)
  · obtain rfl := List.mem_singleton.mp single
    exact le_of_eq (classes.same g (List.mem_append_right _ (List.mem_singleton_self g)) a inG c late)

/-- There are as many classes as keys. -/
theorem Classes.card (classes : Classes key l groups) :
    (l.map key).toFinset.card = groups.length := by
  induction groups generalizing l with
  | nil =>
      obtain rfl := classes.whole
      rfl
  | cons g groups ih =>
      obtain ⟨whole, filled, same, rising⟩ := classes
      obtain ⟨above, rising'⟩ := List.pairwise_cons.mp rising
      obtain rfl := whole
      have rest := ih ⟨rfl, fun g' member => filled g' (List.mem_cons_of_mem g member),
        fun g' member => same g' (List.mem_cons_of_mem g member), rising'⟩
      obtain ⟨a, inside⟩ := List.exists_mem_of_ne_nil g (filled g List.mem_cons_self)
      have keys : ((g :: groups).flatten.map key).toFinset =
          insert (key a) (groups.flatten.map key).toFinset := by
        ext k
        simp only [List.flatten_cons, List.map_append, List.toFinset_append, Finset.mem_union,
          List.mem_toFinset, List.mem_map, Finset.mem_insert]
        refine or_congr ⟨?_, fun first => ⟨a, inside, first.symm⟩⟩ Iff.rfl
        rintro ⟨b, there, rfl⟩
        exact same g List.mem_cons_self b there a inside
      have fresh : key a ∉ (groups.flatten.map key).toFinset := by
        rw [List.mem_toFinset, List.mem_map]
        rintro ⟨b, there, equal⟩
        obtain ⟨g', member, inG'⟩ := List.mem_flatten.mp there
        exact absurd equal (ne_of_gt (above g' member a inside b inG'))
      rw [keys, Finset.card_insert_of_notMem fresh, rest, List.length_cons]

end Classes

/-- The average of a non-empty list lies between two of its items. -/
theorem exists_average_between {F : Type} [Field F] [LinearOrder F] [IsStrictOrderedRing F]
    {values : List F} (nonempty : values ≠ []) :
    (∃ a ∈ values, a ≤ values.sum / values.length) ∧
      ∃ b ∈ values, values.sum / values.length ≤ b := by
  have filled : (values.length : F) ≠ 0 := by
    simpa using nonempty
  have total : (values.map fun _ => values.sum / values.length).sum = (values.map id).sum := by
    rw [List.map_const', List.sum_replicate, List.map_id, nsmul_eq_mul, mul_div_cancel₀ _ filled]
  exact ⟨List.exists_le_of_sum_le nonempty _ _ total.ge,
    List.exists_le_of_sum_le nonempty _ _ total.le⟩

end VpsDashboard.Foundation
