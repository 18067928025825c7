/-
# VpsDashboard.Host.RangeBound — how many points `Range` returns

The comment on `Range` announces at most `maxPoints` buckets.  The width of a slice is
`span / maxPoints` rounded down, and the last sample lies at the end of the span, so it
never falls into one of the first `maxPoints` slices of a span of at least `maxPoints`
milliseconds: from the first sample to the last there are
`maxPoints + 1 + (span % maxPoints) / (span / maxPoints)` slices.

* `range_exceeds_maxPoints` — one sample a second, three points where two were asked for;
* `range_length_le_iff` — the bound holds exactly where the samples leave enough of
  these slices empty, are few, or lie close together (`LeavesRoom`).
-/
import VpsDashboard.Host.Downsample
import Mathlib.Data.Finset.Card
import Mathlib.Data.Nat.Cast.Basic

namespace VpsDashboard.Host

open Foundation

set_option autoImplicit false

/-! ## The condition -/

/-- The time from the first sample to the last. -/
def timeSpan (src : List Sample) : Int :=
  match src.head?, src.getLast? with
  | some first, some last => last.timestamp - first.timestamp
  | _, _ => 0

/-- The slices from the first sample to the last that hold no sample. -/
def emptySlices (src : List Sample) (bucketDur : Int) : Finset Nat :=
  match src.head? with
  | some first => (Finset.range (timeSpan src / bucketDur + 1).toNat).filter fun k =>
      ∀ s ∈ src, slice first.timestamp bucketDur s ≠ k
  | none => ∅

/-- The samples are at most `maxPoints`, or within fewer milliseconds than that, or so far
apart that the span does not fit an `int64`, or enough slices hold none of them. -/
def LeavesRoom (src : List Sample) (maxPoints : Int) : Prop :=
  let span := timeSpan src
  src.length ≤ maxPoints ∨ span < maxPoints ∨ 2 ^ 63 ≤ span ∨
    span % maxPoints / (span / maxPoints) < (emptySlices src (span / maxPoints)).card

instance (src : List Sample) (maxPoints : Int) : Decidable (LeavesRoom src maxPoints) :=
  inferInstanceAs (Decidable (_ ∨ _ ∨ _ ∨ _))

/-! ## Counting slices -/

section Counting

variable {src : List Sample} {first last : Sample} {bucketDur : Int}

theorem timeSpan_eq (head : src.head? = some first) (tail : src.getLast? = some last) :
    timeSpan src = last.timestamp - first.timestamp := by
  simp only [timeSpan, head, tail]

/-- The slices are counted from zero, up to the end of the span. -/
theorem slice_bounds (sorted : src.Pairwise fun a b => a.timestamp ≤ b.timestamp)
    (head : src.head? = some first) (tail : src.getLast? = some last) (wide : 1 ≤ bucketDur)
    {s : Sample} (member : s ∈ src) :
    0 ≤ slice first.timestamp bucketDur s ∧
      slice first.timestamp bucketDur s ≤ timeSpan src / bucketDur := by
  have above := first_le sorted head member
  have below := le_last sorted tail member
  have floor : slice first.timestamp bucketDur s = (s.timestamp - first.timestamp) / bucketDur :=
    Int.tdiv_eq_ediv_of_nonneg (by omega)
  rw [floor, timeSpan_eq head tail]
  exact ⟨Int.ediv_nonneg (by omega) (by omega), Int.ediv_le_ediv (by omega) (by omega)⟩

/-- The slices that hold samples and the empty ones are all those of the span. -/
theorem card_slices (sorted : src.Pairwise fun a b => a.timestamp ≤ b.timestamp)
    (head : src.head? = some first) (tail : src.getLast? = some last) (wide : 1 ≤ bucketDur) :
    ((src.map (slice first.timestamp bucketDur)).toFinset.card : Int) +
      (emptySlices src bucketDur).card = timeSpan src / bucketDur + 1 := by
  have filled : (src.map (slice first.timestamp bucketDur)).toFinset =
      ((Finset.range (timeSpan src / bucketDur + 1).toNat).filter fun k : Nat =>
        ¬ ∀ s ∈ src, slice first.timestamp bucketDur s ≠ k).image Nat.cast := by
    ext k
    simp only [List.mem_toFinset, List.mem_map, Finset.mem_image, Finset.mem_filter,
      Finset.mem_range]
    push Not
    constructor
    · rintro ⟨s, member, rfl⟩
      have bounds := slice_bounds sorted head tail wide member
      exact ⟨(slice first.timestamp bucketDur s).toNat, ⟨by omega, s, member, by omega⟩, by omega⟩
    · rintro ⟨k, ⟨-, s, member, same⟩, rfl⟩
      exact ⟨s, member, same⟩
  have empty : emptySlices src bucketDur =
      (Finset.range (timeSpan src / bucketDur + 1).toNat).filter fun k : Nat =>
        ∀ s ∈ src, slice first.timestamp bucketDur s ≠ k := by
    simp only [emptySlices, head]
  have bounds := slice_bounds sorted head tail wide (List.mem_of_getLast? tail)
  have parts := Finset.card_filter_add_card_filter_not
    (s := Finset.range (timeSpan src / bucketDur + 1).toNat) fun k : Nat =>
      ∀ s ∈ src, slice first.timestamp bucketDur s ≠ k
  rw [← empty, Finset.card_range] at parts
  rw [filled, Finset.card_image_of_injective _ Nat.cast_injective]
  omega

/-- A span of at least `maxPoints` has more slices than that. -/
theorem slices_of_span {span maxPoints : Int} (positive : 1 ≤ maxPoints) (long : maxPoints ≤ span) :
    span / (span / maxPoints) = maxPoints + span % maxPoints / (span / maxPoints) := by
  have width : 1 ≤ span / maxPoints := (Int.le_ediv_iff_mul_le (by omega)).mpr (by omega)
  nth_rewrite 1 [← Int.emod_add_mul_ediv span maxPoints]
  rw [Int.add_mul_ediv_right _ _ (by omega), Int.add_comm]

theorem bucketWidth_of_short {span maxPoints : Int} (nonneg : 0 ≤ span) (short : span < maxPoints) :
    bucketWidth span maxPoints = 1 := by
  simp only [bucketWidth, Int.tdiv_eq_ediv_of_nonneg nonneg,
    Int.ediv_eq_zero_of_lt nonneg short]
  rfl

theorem bucketWidth_of_long {span maxPoints : Int} (positive : 1 ≤ maxPoints)
    (long : maxPoints ≤ span) : bucketWidth span maxPoints = span / maxPoints := by
  have width : 1 ≤ span / maxPoints := (Int.le_ediv_iff_mul_le (by omega)).mpr (by omega)
  simp only [bucketWidth, Int.tdiv_eq_ediv_of_nonneg (by omega : 0 ≤ span)]
  rw [if_neg (by omega)]

/-- How many slices hold samples, where `Range` cuts the span into `maxPoints` slices. -/
theorem card_slices_le_iff (sorted : src.Pairwise fun a b => a.timestamp ≤ b.timestamp)
    (head : src.head? = some first) (tail : src.getLast? = some last) {maxPoints : Int}
    (positive : 1 ≤ maxPoints) :
    (src.map (slice first.timestamp (bucketWidth (timeSpan src) maxPoints))).toFinset.card ≤
        maxPoints ↔
      timeSpan src < maxPoints ∨ timeSpan src % maxPoints / (timeSpan src / maxPoints) <
        (emptySlices src (timeSpan src / maxPoints)).card := by
  have nonneg : 0 ≤ timeSpan src := by
    have order := first_le sorted head (List.mem_of_getLast? tail)
    have span := timeSpan_eq head tail
    omega
  by_cases short : timeSpan src < maxPoints
  · have slices := card_slices sorted head tail (Int.le_refl 1)
    rw [Int.ediv_one] at slices
    rw [bucketWidth_of_short nonneg short]
    exact iff_of_true (by omega) (.inl short)
  · have long : maxPoints ≤ timeSpan src := by omega
    have width : 1 ≤ timeSpan src / maxPoints := (Int.le_ediv_iff_mul_le (by omega)).mpr (by omega)
    have slices := card_slices sorted head tail width
    rw [slices_of_span positive long] at slices
    rw [bucketWidth_of_long positive long]
    omega

end Counting

/-! ## The number of points -/

section Length

variable {h : History} {now : Time} {rangeDur : Duration} {maxPoints : Int} {first last : Sample}

/-- Where `Range` downsamples, there are as many points as slices that hold samples. -/
theorem range_length_eq (sorted : h.samples.Pairwise fun a b => a.timestamp ≤ b.timestamp)
    (head : (h.inRange now rangeDur).head? = some first)
    (tail : (h.inRange now rangeDur).getLast? = some last)
    (many : atLeastOne maxPoints < (h.inRange now rangeDur).length)
    (later : first.timestamp < last.timestamp)
    (fits : last.timestamp - first.timestamp < 2 ^ 63) :
    (h.range now rangeDur maxPoints).length =
      ((h.inRange now rangeDur).map (slice first.timestamp
        (bucketWidth (last.timestamp - first.timestamp) (atLeastOne maxPoints)))).toFinset.card := by
  obtain ⟨groups, classes, -, points⟩ := range_classes sorted head tail many later
  rw [points fits, List.length_map, classes.card]

/-- A difference of two `int64` that does not fit one wraps around to a negative one. -/
theorem wrap64_neg {span : Int} (large : 2 ^ 63 ≤ span) (bounded : span < 2 ^ 64) :
    Time.wrap64 span < 0 := by
  have fits : Time.wrap64 (span - 2 ^ 64) = span - 2 ^ 64 :=
    Int.bmod_eq_of_le (by omega) (by omega)
  have lowered : Time.wrap64 (span - 2 ^ 64) = Time.wrap64 span :=
    Int.sub_bmod_right span (2 ^ 64)
  rw [← lowered, fits]
  omega

/-- Where the span is nothing, or wraps around, the last sample is the only point. -/
theorem range_of_flat (head : (h.inRange now rangeDur).head? = some first)
    (tail : (h.inRange now rangeDur).getLast? = some last)
    (many : atLeastOne maxPoints < (h.inRange now rangeDur).length)
    (flat : Time.wrap64 (last.timestamp - first.timestamp) ≤ 0) :
    h.range now rangeDur maxPoints = [last] := by
  rw [range_eq_rangeWith]
  unfold History.rangeWith
  simp only [head, tail]
  rw [if_neg (by omega), if_pos flat]

end Length

/-- **`Range` returns at most `maxPoints` points exactly where the samples leave room.** -/
theorem range_length_le_iff {h : History}
    (sorted : h.samples.Pairwise fun a b => a.timestamp ≤ b.timestamp)
    (int64 : ∀ s ∈ h.samples, -2 ^ 63 ≤ s.timestamp ∧ s.timestamp < 2 ^ 63)
    (now : Time) (rangeDur : Duration) {maxPoints : Int} (positive : 1 ≤ maxPoints) :
    (h.range now rangeDur maxPoints).length ≤ maxPoints ↔
      LeavesRoom (h.samples.filter fun s =>
        Time.unixMilli (now + Time.wrap64 (-rangeDur)) ≤ s.timestamp) maxPoints := by
  change _ ↔ LeavesRoom (h.inRange now rangeDur) maxPoints
  have points : atLeastOne maxPoints = maxPoints := if_neg (by omega)
  by_cases few : (h.inRange now rangeDur).length ≤ maxPoints
  · have all : h.range now rangeDur maxPoints = h.inRange now rangeDur := by
      rw [range_eq_rangeWith, History.rangeWith, points]
      exact if_pos few
    rw [all]
    exact iff_of_true few (.inl few)
  have inOrder : (h.inRange now rangeDur).Pairwise fun a b => a.timestamp ≤ b.timestamp :=
    sorted.sublist List.filter_sublist
  have nonempty : h.inRange now rangeDur ≠ [] := by
    intro none
    rw [none, List.length_nil] at few
    omega
  have head := List.head?_eq_some_head nonempty
  have tail := List.getLast?_eq_some_getLast nonempty
  generalize (h.inRange now rangeDur).head nonempty = first at head
  generalize (h.inRange now rangeDur).getLast nonempty = last at tail
  have many : atLeastOne maxPoints < (h.inRange now rangeDur).length := by omega
  have span := timeSpan_eq head tail
  have low := int64 first (List.mem_of_mem_filter (List.mem_of_mem_head? head))
  have high := int64 last (List.mem_of_mem_filter (List.mem_of_getLast? tail))
  have order := first_le inOrder head (List.mem_of_getLast? tail)
  by_cases wide : 2 ^ 63 ≤ last.timestamp - first.timestamp
  · have negative := wrap64_neg wide (by omega)
    rw [range_of_flat head tail many (by omega)]
    exact iff_of_true positive (.inr (.inr (.inl (by omega))))
  by_cases same : first.timestamp = last.timestamp
  · have flat : last.timestamp - first.timestamp = 0 := by omega
    rw [range_of_flat head tail many (by rw [flat]; decide)]
    exact iff_of_true positive (.inr (.inl (by omega)))
  rw [range_length_eq sorted head tail many (by omega) (by omega), points, ← span,
    card_slices_le_iff inOrder head tail positive]
  have fits : ¬ 2 ^ 63 ≤ timeSpan (h.inRange now rangeDur) := by omega
  simp only [LeavesRoom, few, fits, false_or]

/-- Three samples, one a second. -/
def everySecond : History :=
  (newHistory (24 * Time.hour) 50000).records [(Time.second, sampled 1000),
    (2 * Time.second, sampled 2000), (3 * Time.second, sampled 3000)]

/-- The last sample is in a third slice. -/
theorem range_exceeds_maxPoints :
    (everySecond.samples.Pairwise fun a b => a.timestamp ≤ b.timestamp) ∧
      (everySecond.range (3 * Time.second) Time.hour 2).length = 3 := by
  decide +kernel

/-- The rule for the same samples. -/
theorem range_length_le_everySecond :
    (everySecond.range (3 * Time.second) Time.hour 2).length ≤ (2 : Int) ↔
      LeavesRoom (everySecond.samples.filter fun s =>
        Time.unixMilli (3 * Time.second + Time.wrap64 (-Time.hour)) ≤ s.timestamp) 2 :=
  range_length_le_iff (by decide +kernel) (by decide +kernel) (3 * Time.second) Time.hour (by decide)

end VpsDashboard.Host
