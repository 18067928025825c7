/-
# VpsDashboard.Host.Downsample — the bucketing loop of `Range` is a group-by

`Range` averages the samples of the window with one accumulator, a bucket index that
starts at a sentinel, a reset when the index changes and a last flush.  The result is
that of grouping the samples by their slice and averaging each group.

* `range_is_group_by` — in exact arithmetic, over every ordered history: one point for
  each class of equal `(timestamp - start) / bucketDur`, with the averages of its samples
  and the integer mean of their timestamps, in strictly increasing order; and with
  `int64` arithmetic the same points, as long as the buffer holds at most 50000 samples
  with timestamps up to 10^14 milliseconds.

`rangeWith wrap` is `Range` over any integer arithmetic: `Time.wrap64` reduces the
results of `int64` operations (`range_eq_rangeWith`), `id` leaves them exact.
-/
import VpsDashboard.Foundation.Classes
import VpsDashboard.Host.Range
import Mathlib.Algebra.Order.Ring.Rat

namespace VpsDashboard.Host

open Foundation

set_option autoImplicit false

/-! ## Range over an integer arithmetic -/

section Arithmetic

variable (wrap : Int → Int)

def Sample.addWith (acc s : Sample) : Sample :=
  { acc.add s with timestamp := wrap (acc.timestamp + s.timestamp) }

def totalWith (group : List Sample) : Sample := group.foldl (Sample.addWith wrap) .zero

def pointWith (group : List Sample) : Sample := (totalWith wrap group).average group.length

/-- The index of the bucket of a sample. -/
def bucketIndex (start bucketDur : Int) (s : Sample) : Int :=
  (wrap (s.timestamp - start)).tdiv bucketDur

def Buckets.addWith (start bucketDur : Int) (b : Buckets) (s : Sample) : Buckets :=
  let idx := bucketIndex wrap start bucketDur s
  let b := if idx ≠ b.curIndex then ⟨.zero, 0, idx, b.flush⟩ else b
  { b with acc := b.acc.addWith wrap s, count := b.count + 1 }

def downsampleWith (start bucketDur : Int) (src : List Sample) : List Sample :=
  (src.foldl (Buckets.addWith wrap start bucketDur) .empty).flush

/-- The width of the slices. -/
def bucketWidth (span maxPoints : Int) : Int :=
  let bucketDur := span.tdiv maxPoints
  if bucketDur < 1 then 1 else bucketDur

/-- `maxPoints`, at least one. -/
def atLeastOne (maxPoints : Int) : Int := if maxPoints < 1 then 1 else maxPoints

def History.rangeWith (h : History) (now : Time) (rangeDur : Duration) (maxPoints : Int) :
    List Sample :=
  let src := h.inRange now rangeDur
  if src.length ≤ atLeastOne maxPoints then src
  else
    match src.head?, src.getLast? with
    | some first, some last =>
        let span := wrap (last.timestamp - first.timestamp)
        if span ≤ 0 then [last]
        else downsampleWith wrap first.timestamp (bucketWidth span (atLeastOne maxPoints)) src
    | _, _ => []

end Arithmetic

theorem range_eq_rangeWith (h : History) (now : Time) (rangeDur : Duration) (maxPoints : Int) :
    h.range now rangeDur maxPoints = h.rangeWith Time.wrap64 now rangeDur maxPoints := rfl

/-! ## The loop groups by slice -/

section Loop

variable {start bucketDur : Int} {key : Sample → Int}

/-- The variables of the loop after it has read `seen`, in whichever arithmetic: the open
bucket is the last class of equal keys, the points are those of the others. -/
structure Buckets.Reads (wrap : Int → Int) (key : Sample → Int) (b : Buckets)
    (closed : List (List Sample)) (current : List Sample) : Prop where
  out : b.out = closed.map (pointWith wrap)
  acc : b.acc = totalWith wrap current
  count : b.count = current.length
  index : ∀ a ∈ current, key a = b.curIndex

theorem Buckets.Reads.flush {wrap : Int → Int} {b : Buckets} {closed : List (List Sample)}
    {current : List Sample} (reads : b.Reads wrap key closed current) (filled : current ≠ []) :
    b.flush = (closed ++ [current]).map (pointWith wrap) := by
  have some : b.count ≠ 0 := by
    rw [reads.count]
    simpa using filled
  rw [Buckets.flush, if_neg some, reads.out, reads.acc, reads.count, List.map_append]
  rfl

/-- The bucket that a sample opens. -/
theorem Buckets.Reads.opens {wrap : Int → Int} {closed : List (List Sample)} {out : List Sample}
    {s : Sample} {index : Int} (points : out = closed.map (pointWith wrap)) (same : index = key s) :
    Buckets.Reads wrap key ⟨Sample.zero.addWith wrap s, 0 + 1, index, out⟩ closed [s] where
  out := points
  acc := rfl
  count := rfl
  index a single := by rw [List.mem_singleton.mp single, same]

/-- A sample of the key of the open bucket joins it, a sample of a greater key opens the
next one. -/
theorem Buckets.Reads.add {wrap : Int → Int} {b : Buckets} {closed : List (List Sample)}
    {current : List Sample} {s : Sample} (reads : b.Reads wrap key closed current)
    (filled : current ≠ []) (keyed : bucketIndex wrap start bucketDur s = key s) :
    (key s = b.curIndex ∧
        (b.addWith wrap start bucketDur s).Reads wrap key closed (current ++ [s])) ∨
      (key s ≠ b.curIndex ∧
        (b.addWith wrap start bucketDur s).Reads wrap key (closed ++ [current]) [s]) := by
  unfold Buckets.addWith
  rw [keyed]
  by_cases joins : key s = b.curIndex
  · left
    refine ⟨joins, ?_⟩
    simp only [joins, ne_eq, not_true_eq_false, if_false]
    refine ⟨reads.out, ?_, ?_, ?_⟩
    · rw [reads.acc, totalWith, totalWith, List.foldl_append]
      rfl
    · rw [reads.count, List.length_append]
      rfl
    · intro a inside
      rcases List.mem_append.mp inside with old | single
      · exact reads.index a old
      · rw [List.mem_singleton.mp single, joins]
  · right
    refine ⟨joins, ?_⟩
    simp only [ne_eq, joins, not_false_eq_true, if_true]
    exact Buckets.Reads.opens (reads.flush filled) rfl

/-- The arithmetic computes the keys of these samples as indices. -/
def Keyed (wrap : Int → Int) (start bucketDur : Int) (key : Sample → Int) (seen : List Sample) : Prop :=
  ∀ s ∈ seen, bucketIndex wrap start bucketDur s = key s

/-- After the loop has read `seen`, in every arithmetic that computes the keys: the closed
buckets and the open one are the classes of equal keys. -/
structure LoopAt (start bucketDur : Int) (key : Sample → Int) (seen : List Sample)
    (closed : List (List Sample)) (current : List Sample) : Prop where
  classes : Classes key seen (closed ++ [current])
  reads : ∀ wrap : Int → Int, Keyed wrap start bucketDur key seen →
    (seen.foldl (Buckets.addWith wrap start bucketDur) .empty).Reads wrap key closed current

/-- The first sample opens a bucket, also when its index is the sentinel. -/
theorem loopAt_first (s : Sample) : LoopAt start bucketDur key [s] [] [s] where
  classes := classes_singleton s
  reads wrap keyed := by
    rw [List.foldl_cons, List.foldl_nil, Buckets.addWith, keyed s (List.mem_singleton_self s)]
    by_cases sentinel : key s = Buckets.empty.curIndex
    · simp only [sentinel, ne_eq, not_true_eq_false, if_false]
      exact Buckets.Reads.opens rfl sentinel.symm
    · simp only [ne_eq, sentinel, not_false_eq_true, if_true]
      exact Buckets.Reads.opens rfl rfl

/-- One turn of the loop, with a sample whose key is not below the earlier ones. -/
theorem LoopAt.next {seen : List Sample} {closed : List (List Sample)} {current : List Sample}
    (loop : LoopAt start bucketDur key seen closed current) {s : Sample}
    (below : ∀ a ∈ seen, key a ≤ key s) :
    ∃ closed' current', LoopAt start bucketDur key (seen ++ [s]) closed' current' := by
  obtain ⟨c, inside⟩ := List.exists_mem_of_ne_nil current loop.classes.last_filled
  have lastClass : current ∈ closed ++ [current] :=
    List.mem_append_right _ (List.mem_singleton_self current)
  have turn : ∀ wrap : Int → Int, Keyed wrap start bucketDur key (seen ++ [s]) →
      Keyed wrap start bucketDur key seen ∧ bucketIndex wrap start bucketDur s = key s :=
    fun wrap keyed => ⟨fun a there => keyed a (List.mem_append_left _ there),
      keyed s (List.mem_append_right _ (List.mem_singleton_self s))⟩
  by_cases joins : key c = key s
  · have all : ∀ a ∈ current, key a = key s := fun a there =>
      (loop.classes.same current lastClass a there c inside).trans joins
    refine ⟨closed, current ++ [s], loop.classes.concat_same all, fun wrap keyed => ?_⟩
    obtain ⟨earlier, index⟩ := turn wrap keyed
    have reads := loop.reads wrap earlier
    rw [List.foldl_append]
    rcases reads.add loop.classes.last_filled index with ⟨-, done⟩ | ⟨other, -⟩
    · exact done
    · exact absurd (joins.symm.trans (reads.index c inside)) other
  · have inSeen : c ∈ seen := by
      rw [← loop.classes.whole]
      exact List.mem_flatten.mpr ⟨current, lastClass, inside⟩
    have last : key c < key s := lt_of_le_of_ne (below c inSeen) joins
    have greater : ∀ a ∈ seen, key a < key s := fun a there =>
      lt_of_le_of_lt (loop.classes.le_last there inside) last
    refine ⟨closed ++ [current], [s], loop.classes.concat_new greater, fun wrap keyed => ?_⟩
    obtain ⟨earlier, index⟩ := turn wrap keyed
    have reads := loop.reads wrap earlier
    rw [List.foldl_append]
    rcases reads.add loop.classes.last_filled index with ⟨same, -⟩ | ⟨-, done⟩
    · exact absurd ((reads.index c inside).trans same.symm) joins
    · exact done

/-- The whole loop, over samples whose keys do not fall. -/
theorem exists_loopAt (start bucketDur : Int) {src : List Sample}
    (sorted : src.Pairwise fun a b => key a ≤ key b) (filled : src ≠ []) :
    ∃ closed current, LoopAt start bucketDur key src closed current := by
  induction src using List.reverseRecOn with
  | nil => exact absurd rfl filled
  | append_singleton seen s ih =>
      obtain ⟨before, -, across⟩ := List.pairwise_append.mp sorted
      by_cases empty : seen = []
      · subst empty
        exact ⟨[], [s], loopAt_first s⟩
      · obtain ⟨closed, current, loop⟩ := ih before empty
        exact loop.next fun a inside => across a inside s (List.mem_singleton_self s)

/-- **The loop is a group-by**: one partition into the classes of equal keys is the one
whose points it computes, in every arithmetic in which the index of a sample is its key. -/
theorem downsampleWith_classes (start bucketDur : Int) {src : List Sample}
    (sorted : src.Pairwise fun a b => key a ≤ key b) :
    ∃ groups, Classes key src groups ∧ ∀ wrap : Int → Int,
      Keyed wrap start bucketDur key src →
        downsampleWith wrap start bucketDur src = groups.map (pointWith wrap) := by
  by_cases empty : src = []
  · subst empty
    exact ⟨[], classes_nil, fun _ _ => rfl⟩
  · obtain ⟨closed, current, loop⟩ := exists_loopAt start bucketDur sorted empty
    exact ⟨closed ++ [current], loop.classes, fun wrap keyed =>
      (loop.reads wrap keyed).flush loop.classes.last_filled⟩

end Loop

/-! ## Averages -/

/-- The measured values of a sample. -/
inductive Measured where
  | cpu
  | memory
  | disk
  | netUp
  | netDown

def Sample.measured (s : Sample) : Measured → ℚ
  | .cpu => s.cpu
  | .memory => s.memory
  | .disk => s.disk
  | .netUp => s.netUp
  | .netDown => s.netDown

theorem Sample.ext_measured {s t : Sample} (stamp : s.timestamp = t.timestamp)
    (values : ∀ f, s.measured f = t.measured f) : s = t := by
  cases s
  cases t
  simp only [Sample.mk.injEq]
  exact ⟨stamp, values .cpu, values .memory, values .disk, values .netUp, values .netDown⟩

section Averages

variable (wrap : Int → Int)

theorem totalWith_concat (group : List Sample) (s : Sample) :
    totalWith wrap (group ++ [s]) = (totalWith wrap group).addWith wrap s := by
  rw [totalWith, List.foldl_append]
  rfl

theorem totalWith_measured (group : List Sample) (f : Measured) :
    (totalWith wrap group).measured f = (group.map fun s => s.measured f).sum := by
  induction group using List.reverseRecOn with
  | nil => cases f <;> rfl
  | append_singleton group s ih =>
      have step : ((totalWith wrap group).addWith wrap s).measured f =
          (totalWith wrap group).measured f + s.measured f := by
        cases f <;> rfl
      rw [totalWith_concat, step, ih]
      simp

theorem pointWith_measured (group : List Sample) (f : Measured) :
    (pointWith wrap group).measured f =
      (group.map fun s => s.measured f).sum / group.length := by
  have average : (pointWith wrap group).measured f =
      (totalWith wrap group).measured f / group.length := by
    cases f <;> rfl
  rw [average, totalWith_measured]

theorem totalWith_id_timestamp (group : List Sample) :
    (totalWith id group).timestamp = (group.map Sample.timestamp).sum := by
  induction group using List.reverseRecOn with
  | nil => rfl
  | append_singleton group s ih =>
      have step : ((totalWith id group).addWith id s).timestamp =
          (totalWith id group).timestamp + s.timestamp := rfl
      rw [totalWith_concat, step, ih]
      simp

theorem pointWith_id_timestamp (group : List Sample) :
    (pointWith id group).timestamp = mean (group.map Sample.timestamp) := by
  rw [mean, List.length_map, ← totalWith_id_timestamp]
  rfl

/-- Only the timestamps of the points depend on the arithmetic. -/
theorem pointWith_eq {group : List Sample}
    (exact : (totalWith wrap group).timestamp = (group.map Sample.timestamp).sum) :
    pointWith wrap group = pointWith id group := by
  have same := exact.trans (totalWith_id_timestamp group).symm
  refine Sample.ext_measured (congrArg (fun t : Int => t.tdiv group.length) same) fun f => ?_
  rw [pointWith_measured, pointWith_measured]

/-- The point of a group: the averages of its samples at the integer mean of their
times, each of them between two of the samples. -/
structure Averages (group : List Sample) (p : Sample) : Prop where
  filled : group ≠ []
  value : ∀ f, p.measured f = (group.map fun s => s.measured f).sum / group.length
  stamp : p.timestamp = mean (group.map Sample.timestamp)
  within : ∀ f, (∃ a ∈ group, a.measured f ≤ p.measured f) ∧
    ∃ b ∈ group, p.measured f ≤ b.measured f
  during : (∃ a ∈ group, a.timestamp ≤ p.timestamp) ∧ ∃ b ∈ group, p.timestamp ≤ b.timestamp

theorem averages_pointWith {group : List Sample} (filled : group ≠ []) :
    Averages group (pointWith id group) where
  filled := filled
  value := pointWith_measured id group
  stamp := pointWith_id_timestamp group
  within f := by
    have values : group.map (fun s => s.measured f) ≠ [] := by simpa using filled
    have between := exists_average_between values
    rw [List.length_map, ← pointWith_measured id] at between
    simpa using between
  during := by
    have stamps : group.map Sample.timestamp ≠ [] := by simpa using filled
    have between := exists_mean_between stamps
    rw [← pointWith_id_timestamp] at between
    simpa using between

end Averages

/-! ## The slices of a window -/

section Slices

variable {src : List Sample} {first last : Sample}

/-- The slice of a sample, in the numbering that starts at `start`. -/
def slice (start bucketDur : Int) (s : Sample) : Int :=
  (s.timestamp - start).tdiv bucketDur

theorem bucketWidth_pos (span maxPoints : Int) : 1 ≤ bucketWidth span maxPoints := by
  simp only [bucketWidth]
  split <;> omega

theorem atLeastOne_pos (maxPoints : Int) : 1 ≤ atLeastOne maxPoints := by
  unfold atLeastOne
  split <;> omega

theorem slice_mono (start : Int) {bucketDur : Int} (wide : 1 ≤ bucketDur) {a b : Sample}
    (order : a.timestamp ≤ b.timestamp) : slice start bucketDur a ≤ slice start bucketDur b :=
  Int.tdiv_le_tdiv (by omega) (Int.sub_le_sub_right order start)

/-- A later slice holds later samples. -/
theorem earlier_of_slice {start bucketDur : Int} (wide : 1 ≤ bucketDur) {a b : Sample}
    (below : slice start bucketDur a < slice start bucketDur b) : a.timestamp < b.timestamp := by
  by_contra late
  have order := slice_mono start wide (Int.not_lt.mp late)
  omega

theorem slices_sorted {start bucketDur : Int} (wide : 1 ≤ bucketDur)
    (sorted : src.Pairwise fun a b => a.timestamp ≤ b.timestamp) :
    src.Pairwise fun a b => slice start bucketDur a ≤ slice start bucketDur b :=
  sorted.imp (slice_mono start wide)

theorem two_of_differ (head : src.head? = some first) (tail : src.getLast? = some last)
    (differ : first.timestamp ≠ last.timestamp) : 2 ≤ src.length := by
  obtain ⟨rest, rfl⟩ := List.head?_eq_some_iff.mp head
  cases rest with
  | nil =>
      obtain rfl : first = last := by simpa using tail
      exact absurd rfl differ
  | cons second rest => simp

/-- The index that `int64` arithmetic computes is the slice, as long as the span fits. -/
theorem bucketIndex_wrap64 (sorted : src.Pairwise fun a b => a.timestamp ≤ b.timestamp)
    (head : src.head? = some first) (tail : src.getLast? = some last)
    (fits : last.timestamp - first.timestamp < 2 ^ 63) (bucketDur : Int) {s : Sample}
    (member : s ∈ src) :
    bucketIndex Time.wrap64 first.timestamp bucketDur s = slice first.timestamp bucketDur s := by
  have low := first_le sorted head member
  have high := le_last sorted tail member
  rw [bucketIndex, slice, Time.wrap64_of_fits (by omega)]

/-- The points of later classes have later times. -/
theorem classes_points_rise {start bucketDur : Int} (wide : 1 ≤ bucketDur)
    {groups : List (List Sample)} (classes : Classes (slice start bucketDur) src groups) :
    (groups.map (pointWith id)).Pairwise fun a b => a.timestamp < b.timestamp := by
  refine List.pairwise_map.mpr (classes.rising.imp_of_mem ?_)
  intro g g' member member' rising
  obtain ⟨a, inside, above⟩ := (averages_pointWith (classes.filled g member)).during.2
  obtain ⟨b, inside', below⟩ := (averages_pointWith (classes.filled g' member')).during.1
  have order := earlier_of_slice wide (rising a inside b inside')
  omega

end Slices

/-- `Range` where it downsamples. -/
theorem History.rangeWith_downsamples {wrap : Int → Int} {h : History} {now : Time}
    {rangeDur : Duration} {maxPoints : Int} {first last : Sample}
    (head : (h.inRange now rangeDur).head? = some first)
    (tail : (h.inRange now rangeDur).getLast? = some last)
    (many : atLeastOne maxPoints < (h.inRange now rangeDur).length)
    (exact : wrap (last.timestamp - first.timestamp) = last.timestamp - first.timestamp)
    (later : first.timestamp < last.timestamp) :
    h.rangeWith wrap now rangeDur maxPoints =
      downsampleWith wrap first.timestamp
        (bucketWidth (last.timestamp - first.timestamp) (atLeastOne maxPoints))
        (h.inRange now rangeDur) := by
  unfold rangeWith
  simp only [head, tail, exact]
  rw [if_neg (by omega), if_neg (by omega)]

/-- Where `Range` downsamples, its points are those of the classes of equal slices, in exact
arithmetic and, as long as the span fits, in `int64`. -/
theorem range_classes {h : History} {now : Time} {rangeDur : Duration} {maxPoints : Int}
    {first last : Sample} (sorted : h.samples.Pairwise fun a b => a.timestamp ≤ b.timestamp)
    (head : (h.inRange now rangeDur).head? = some first)
    (tail : (h.inRange now rangeDur).getLast? = some last)
    (many : atLeastOne maxPoints < (h.inRange now rangeDur).length)
    (later : first.timestamp < last.timestamp) :
    ∃ groups, Classes (slice first.timestamp
        (bucketWidth (last.timestamp - first.timestamp) (atLeastOne maxPoints)))
          (h.inRange now rangeDur) groups ∧
      h.rangeWith id now rangeDur maxPoints = groups.map (pointWith id) ∧
      (last.timestamp - first.timestamp < 2 ^ 63 →
        h.range now rangeDur maxPoints = groups.map point) := by
  have inOrder : (h.inRange now rangeDur).Pairwise fun a b => a.timestamp ≤ b.timestamp :=
    sorted.sublist List.filter_sublist
  obtain ⟨groups, classes, loop⟩ := downsampleWith_classes first.timestamp _
    (slices_sorted (bucketWidth_pos (last.timestamp - first.timestamp) (atLeastOne maxPoints)) inOrder)
  refine ⟨groups, classes, ?_, fun fits => ?_⟩
  · rw [History.rangeWith_downsamples head tail many rfl later]
    exact loop id fun _ _ => rfl
  · rw [range_eq_rangeWith, History.rangeWith_downsamples head tail many
      (Time.wrap64_of_fits (by omega)) later]
    exact loop Time.wrap64 fun s member => bucketIndex_wrap64 inOrder head tail fits _ member

/-- Sums of at most 50000 timestamps up to 10^14 do not overflow. -/
theorem classes_totals {key : Sample → Int} {src : List Sample} {groups : List (List Sample)}
    (classes : Classes key src groups) (short : src.length ≤ 50000)
    (stamps : ∀ s ∈ src, 0 ≤ s.timestamp ∧ s.timestamp ≤ 10 ^ 14) :
    ∀ g ∈ groups, (total g).timestamp = (g.map Sample.timestamp).sum := by
  intro g member
  rw [← classes.whole] at short stamps
  have part := (List.sublist_flatten_of_mem member).length_le
  refine total_timestamp (k := 10 ^ 14) (fun s inside => ?_) (by omega)
  have bounds := stamps s (List.mem_flatten.mpr ⟨g, member, inside⟩)
  omega

/-- **Downsampling is a group-by.**  The points are those of the classes of equal slices. -/
theorem range_is_group_by {h : History}
    (sorted : h.samples.Pairwise fun a b => a.timestamp ≤ b.timestamp) (now : Time)
    (rangeDur : Duration) (maxPoints : Int) {src : List Sample} {first last : Sample}
    (window : src = h.samples.filter fun s =>
      Time.unixMilli (now + Time.wrap64 (-rangeDur)) ≤ s.timestamp)
    (head : src.head? = some first) (tail : src.getLast? = some last)
    (many : maxPoints < src.length) (differ : first.timestamp ≠ last.timestamp) :
    let points := atLeastOne maxPoints
    let bucketDur := bucketWidth (last.timestamp - first.timestamp) points
    let out := h.rangeWith id now rangeDur maxPoints
    points ≠ 0 ∧ bucketDur ≠ 0 ∧ ∃ groups,
      Classes (slice first.timestamp bucketDur) src groups ∧
        List.Forall₂ Averages groups out ∧
        out.Pairwise (fun a b => a.timestamp < b.timestamp) ∧
        (last.timestamp - first.timestamp < 2 ^ 63 →
          h.range now rangeDur maxPoints = groups.map point) ∧
        (src.length ≤ 50000 → (∀ s ∈ src, 0 ≤ s.timestamp ∧ s.timestamp ≤ 10 ^ 14) →
          (∀ g ∈ groups, (total g).timestamp = (g.map Sample.timestamp).sum) ∧
            h.range now rangeDur maxPoints = out) := by
  intro points bucketDur out
  obtain rfl : src = h.inRange now rangeDur := window
  have firstIn : first ∈ h.inRange now rangeDur := List.mem_of_mem_head? head
  have lastIn : last ∈ h.inRange now rangeDur := List.mem_of_getLast? tail
  have later : first.timestamp < last.timestamp :=
    lt_of_le_of_ne (first_le (sorted.sublist List.filter_sublist) head lastIn) differ
  have points_pos : 1 ≤ points := atLeastOne_pos maxPoints
  have wide : 1 ≤ bucketDur := bucketWidth_pos _ _
  have enough : points < (h.inRange now rangeDur).length := by
    have two : 2 ≤ (h.inRange now rangeDur).length := two_of_differ head tail differ
    simp only [points, atLeastOne]
    split <;> omega
  refine ⟨by omega, by omega, ?_⟩
  obtain ⟨groups, classes, exact, wrapped⟩ := range_classes sorted head tail enough later
  refine ⟨groups, classes, ?_, ?_, wrapped, ?_⟩
  · simp only [out, exact, List.forall₂_map_right_iff, List.forall₂_same]
    exact fun g member => averages_pointWith (classes.filled g member)
  · simp only [out, exact]
    exact classes_points_rise wide classes
  · intro short stamps
    have sums := classes_totals classes short stamps
    have low := stamps first firstIn
    have high := stamps last lastIn
    refine ⟨sums, ?_⟩
    simp only [out, wrapped (by omega), exact]
    exact List.map_congr_left fun g member => pointWith_eq Time.wrap64 (sums g member)

/-- Five samples in three slices of two milliseconds. -/
def gathered : History where
  samples := [⟨10, 1, 0, 0, 0, 0⟩, ⟨11, 2, 0, 0, 0, 0⟩, ⟨12, 4, 0, 0, 0, 0⟩, ⟨13, 5, 0, 0, 0, 0⟩,
    ⟨14, 6, 0, 0, 0, 0⟩]
  retain := Time.hour
  maxLen := 5
  retain_pos := by decide
  maxLen_pos := by decide

/-- The rule for these samples: every point is the average of a group. -/
theorem range_is_group_by_gathered :
    ∃ groups : List (List Sample), groups.flatten = gathered.samples ∧
      List.Forall₂ Averages groups (gathered.range 0 Time.second 2) := by
  have window : gathered.samples = gathered.samples.filter fun s =>
      Time.unixMilli (0 + Time.wrap64 (-Time.second)) ≤ s.timestamp := by decide +kernel
  have sorted : gathered.samples.Pairwise fun a b => a.timestamp ≤ b.timestamp := by
    decide +kernel
  obtain ⟨-, -, groups, classes, averages, -, -, bounded⟩ :=
    range_is_group_by sorted 0 Time.second 2 window rfl rfl (by decide) (by decide)
  have same := (bounded (by decide) (by decide +kernel)).2
  exact ⟨groups, classes.whole, same ▸ averages⟩

/-! ## The points stay within what was recorded -/

/-- The time and every measured value of the point lie between those of samples. -/
structure Within (src : List Sample) (p : Sample) : Prop where
  during : (∃ a ∈ src, a.timestamp ≤ p.timestamp) ∧ ∃ b ∈ src, p.timestamp ≤ b.timestamp
  value : ∀ f, (∃ a ∈ src, a.measured f ≤ p.measured f) ∧ ∃ b ∈ src, p.measured f ≤ b.measured f

theorem within_self {src : List Sample} {s : Sample} (member : s ∈ src) : Within src s :=
  ⟨⟨⟨s, member, Int.le_refl _⟩, s, member, Int.le_refl _⟩,
    fun _ => ⟨⟨s, member, le_refl _⟩, s, member, le_refl _⟩⟩

theorem Within.subset {group src : List Sample} {p : Sample} (within : Within group p)
    (part : ∀ s ∈ group, s ∈ src) : Within src p := by
  obtain ⟨⟨⟨a, inA, low⟩, b, inB, high⟩, value⟩ := within
  refine ⟨⟨⟨a, part a inA, low⟩, b, part b inB, high⟩, fun f => ?_⟩
  obtain ⟨⟨a, inA, low⟩, b, inB, high⟩ := value f
  exact ⟨⟨a, part a inA, low⟩, b, part b inB, high⟩

/-- The point of a group whose timestamps add up without overflow. -/
theorem within_point {group : List Sample} {k : Nat} (filled : group ≠ [])
    (fits : ∀ s ∈ group, s.timestamp.natAbs ≤ k) (short : group.length * k < 2 ^ 63) :
    Within group (point group) := by
  have exact : point group = pointWith id group :=
    pointWith_eq Time.wrap64 (total_timestamp fits short)
  rw [exact]
  exact ⟨(averages_pointWith filled).during, (averages_pointWith filled).within⟩

theorem Covers.within {src out : List Sample} {k : Nat} (covers : Covers src out)
    (fits : ∀ s ∈ src, s.timestamp.natAbs ≤ k) (short : src.length * k < 2 ^ 63) {p : Sample}
    (member : p ∈ out) : Within src p := by
  obtain ⟨groups, rfl, nonempty, rfl⟩ := covers
  obtain ⟨g, inside, rfl⟩ := List.mem_map.mp member
  have part : ∀ s ∈ g, s ∈ groups.flatten := fun s there => List.mem_flatten.mpr ⟨g, inside, there⟩
  have length := (List.sublist_flatten_of_mem inside).length_le
  apply Within.subset _ part
  apply within_point (nonempty g inside) (fun s there => fits s (part s there))
  exact Nat.lt_of_le_of_lt (Nat.mul_le_mul_right k length) short

theorem Covers.eq_nil_iff {src out : List Sample} (covers : Covers src out) :
    out = [] ↔ src = [] := by
  obtain ⟨groups, rfl, nonempty, rfl⟩ := covers
  constructor
  · intro none
    rw [List.map_eq_nil_iff.mp none, List.flatten_nil]
  · intro none
    cases groups with
    | nil => rfl
    | cons g groups =>
        rw [List.flatten_cons, List.append_eq_nil_iff] at none
        exact absurd none.1 (nonempty g List.mem_cons_self)

/-- The answer is empty only where the window is. -/
theorem History.range_eq_nil_iff (h : History) (now : Time) (rangeDur : Duration) (maxPoints : Int) :
    h.range now rangeDur maxPoints = [] ↔ h.inRange now rangeDur = [] := by
  rcases h.range_cases now rangeDur maxPoints with all | ⟨_, last, _, tail, _, _, one⟩ | ⟨_, _, cut⟩
  · rw [all]
  · rw [one]
    constructor
    · nofun
    · intro none
      rw [none] at tail
      cases tail
  · rw [cut]
    exact (covers_downsample _ _ _).eq_nil_iff

/-- An ordered buffer answers with points inside the samples of the window. -/
theorem History.Ordered.within {h : History} (held : h.Ordered) {now : Time} {rangeDur : Duration}
    {maxPoints : Int} {p : Sample} (member : p ∈ h.range now rangeDur maxPoints) :
    Within (h.inRange now rangeDur) p := by
  rcases h.range_cases now rangeDur maxPoints with all | ⟨_, last, _, tail, _, _, one⟩ | ⟨_, _, cut⟩
  · rw [all] at member
    exact within_self member
  · rw [one, List.mem_singleton] at member
    subst member
    exact within_self (List.mem_of_getLast? tail)
  · rw [cut] at member
    -- the largest timestamp whose `maxLen`-fold still fits
    let k := (2 ^ 63 - 1) / h.maxLen
    have bounded : h.maxLen * k < 2 ^ 63 :=
      Nat.lt_of_le_of_lt (Nat.mul_div_le _ _) (by decide)
    have small : ∀ s ∈ h.inRange now rangeDur, s.timestamp.natAbs ≤ k := by
      intro s inside
      have fits := held.fits s (List.mem_of_mem_filter inside)
      rw [Nat.le_div_iff_mul_le h.maxLen_pos, Nat.mul_comm]
      omega
    have part : (h.inRange now rangeDur).Sublist h.samples := List.filter_sublist
    have length := Nat.le_trans part.length_le held.short
    apply (covers_downsample _ _ _).within small _ member
    exact Nat.lt_of_le_of_lt (Nat.mul_le_mul_right k length) bounded

/-- **No point is invented.**  In every run in which no sample is older than the newest
one stored, `Range` answers with a point whenever a stored sample lies in the requested
window; every point lies in it, and its time and values lie between those of samples that
were recorded in that window. -/
theorem range_points_recorded (retain : Duration) (maxLen : Int) (calls : List (Time × Metrics))
    (forward : StepsForward (newHistory retain maxLen) calls) (now : Time) (rangeDur : Duration)
    (maxPoints : Int) :
    let h := (newHistory retain maxLen).records calls
    let recorded := calls.map fun call => call.2.sample
    let cutoff := Time.unixMilli (now + Time.wrap64 (-rangeDur))
    (h.range now rangeDur maxPoints = [] ↔ ∀ s ∈ h.samples, s.timestamp < cutoff) ∧
      ∀ p ∈ h.range now rangeDur maxPoints,
        cutoff ≤ p.timestamp ∧ Within (recorded.filter fun s => cutoff ≤ s.timestamp) p := by
  intro h recorded cutoff
  constructor
  · rw [h.range_eq_nil_iff, History.inRange, List.filter_eq_nil_iff]
    simp [cutoff]
  · intro p member
    have within :=
      (History.ordered_records (h := newHistory retain maxLen) rfl forward).within member
    constructor
    · obtain ⟨a, inside, low⟩ := within.during.1
      have young := of_decide_eq_true (List.mem_filter.mp inside).2
      omega
    · apply within.subset
      intro s inside
      have stored := (newHistory retain maxLen).records_sublist calls
      exact (stored.filter _).subset inside

/-- Three samples, two of them in one slice. -/
def threeSampled : List (Time × Metrics) :=
  [(Time.second, sampled 1000), (Time.second, sampled 1200), (2 * Time.second, sampled 1500)]

/-- The rule for them: an average and a sample, and nothing when all are too old. -/
theorem range_points_recorded_three :
    let h := (newHistory Time.hour 5).records threeSampled
    (h.range (2 * Time.second) Time.second 1).map Sample.timestamp = [1100, 1500] ∧
      ((h.range (2 * Time.second) Time.second 1).all fun p =>
        Time.unixMilli (2 * Time.second + Time.wrap64 (-Time.second)) ≤ p.timestamp) = true ∧
      h.range (9 * Time.second) Time.second 1 = [] := by
  have forward : StepsForward (newHistory Time.hour 5) threeSampled := by decide +kernel
  refine ⟨by decide +kernel, ?_, ?_⟩
  · rw [List.all_eq_true]
    intro p member
    have recorded := range_points_recorded Time.hour 5 threeSampled forward (2 * Time.second)
      Time.second 1
    exact decide_eq_true (recorded.2 p member).1
  · apply (range_points_recorded Time.hour 5 threeSampled forward (9 * Time.second)
      Time.second 1).1.mpr
    decide +kernel

end VpsDashboard.Host
