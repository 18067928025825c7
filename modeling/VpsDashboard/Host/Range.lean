/-
# VpsDashboard.Host.Range — reading the history, and what a clock that steps back does to it

`Range` selects the samples of the requested window and, when they are too many,
averages them in slices of equal duration.  It takes the slice width from the first
and the last sample, trusting the buffer to be in order; `Record` keeps it in order
only as long as no sample is older than the one before it.

* `stepped_back_breaks_history` — after the clock has stepped back, an expired sample
  stays, `Range` returns points out of order, and it leaves samples out;
* `forward_keeps_history` — in every run in which no sample is older than the newest
  one stored (`StepsForward`), whatever the clock that trims reads, all three hold.

`int64` sums and differences wrap around.  The averages of the measured values are
exact where the source has `float64`.
-/
import VpsDashboard.Host.History
import VpsDashboard.Foundation.Interleaving
import VpsDashboard.Foundation.Mean
import Mathlib.Algebra.Field.Rat

namespace VpsDashboard.Host

open Foundation

set_option autoImplicit false

/-! ## Averages of samples -/

namespace Sample

def zero : Sample := ⟨0, 0, 0, 0, 0, 0⟩

/-- The accumulator `acc` after one more sample. -/
def add (acc s : Sample) : Sample where
  timestamp := Time.wrap64 (acc.timestamp + s.timestamp)
  cpu := acc.cpu + s.cpu
  memory := acc.memory + s.memory
  disk := acc.disk + s.disk
  netUp := acc.netUp + s.netUp
  netDown := acc.netDown + s.netDown

/-- The accumulator divided by the number of samples in it. -/
def average (acc : Sample) (count : Nat) : Sample where
  timestamp := acc.timestamp.tdiv count
  cpu := acc.cpu / count
  memory := acc.memory / count
  disk := acc.disk / count
  netUp := acc.netUp / count
  netDown := acc.netDown / count

end Sample

def total (group : List Sample) : Sample := group.foldl Sample.add .zero

/-- The point that stands for a group of samples. -/
def point (group : List Sample) : Sample := (total group).average group.length

/-! ## Buckets -/

/-- The variables of the loop: the open bucket, and the points of the closed ones. -/
structure Buckets where
  acc : Sample
  count : Nat
  curIndex : Int
  out : List Sample

namespace Buckets

def empty : Buckets := ⟨.zero, 0, -1, []⟩

def flush (b : Buckets) : List Sample :=
  if b.count = 0 then b.out else b.out ++ [b.acc.average b.count]

/-- One turn of the loop. -/
def add (start bucketDur : Int) (b : Buckets) (s : Sample) : Buckets :=
  let idx := (Time.wrap64 (s.timestamp - start)).tdiv bucketDur
  let b := if idx ≠ b.curIndex then ⟨.zero, 0, idx, b.flush⟩ else b
  { b with acc := b.acc.add s, count := b.count + 1 }

end Buckets

def downsample (start bucketDur : Int) (src : List Sample) : List Sample :=
  (src.foldl (Buckets.add start bucketDur) .empty).flush

/-! ## Range -/

namespace History

/-- The samples of the requested window, in the order of the buffer.  The least duration
is its own negative. -/
def inRange (h : History) (now : Time) (rangeDur : Duration) : List Sample :=
  h.samples.filter fun s => Time.unixMilli (now + Time.wrap64 (-rangeDur)) ≤ s.timestamp

/-- `Range`, called when the clock reads `now`. -/
def range (h : History) (now : Time) (rangeDur : Duration) (maxPoints : Int) : List Sample :=
  let maxPoints := if maxPoints < 1 then 1 else maxPoints
  let src := h.inRange now rangeDur
  if src.length ≤ maxPoints then src
  else
    match src.head?, src.getLast? with
    | some first, some last =>
        let span := Time.wrap64 (last.timestamp - first.timestamp)
        if span ≤ 0 then [last]
        else
          let bucketDur := span.tdiv maxPoints
          downsample first.timestamp (if bucketDur < 1 then 1 else bucketDur) src
    | _, _ => []

end History

/-! ## What a reader of the history relies on -/

/-- The points are those of consecutive groups that together are all the samples. -/
def Covers (src out : List Sample) : Prop :=
  ∃ groups : List (List Sample),
    groups.flatten = src ∧ (∀ g ∈ groups, g ≠ []) ∧ out = groups.map point

/-- Every `Range` answers in chronological order, and no sample of its window is left
out unless all of them have one timestamp. -/
structure History.Chronological (h : History) : Prop where
  ordered : ∀ now rangeDur maxPoints,
    (h.range now rangeDur maxPoints).Pairwise fun a b => a.timestamp ≤ b.timestamp
  covered : ∀ now rangeDur maxPoints,
    Covers (h.inRange now rangeDur) (h.range now rangeDur maxPoints) ∨
      ∀ a ∈ h.inRange now rangeDur, ∀ b ∈ h.inRange now rangeDur, a.timestamp = b.timestamp

/-- No stored sample is older than the retention window. -/
def History.Trimmed (h : History) (now : Time) : Prop :=
  ∀ s ∈ h.samples, h.cutoff now ≤ s.timestamp

/-- No sample is older than the newest one stored, and none so large that a sum of as
many timestamps as the buffer holds overflows. -/
def StepsForward (h : History) (calls : List (Time × Metrics)) : Prop :=
  Everywhere (fun before call =>
    (∀ last ∈ (h.records before).samples.getLast?, last.timestamp ≤ call.2.timestamp) ∧
      h.maxLen * call.2.timestamp.natAbs < 2 ^ 63) calls

instance (h : History) (calls : List (Time × Metrics)) : Decidable (StepsForward h calls) :=
  inferInstanceAs (Decidable (Everywhere _ calls))

/-! ## Every sample is in a bucket -/

/-- The closed buckets and the open one are groups of what the loop has read. -/
def Buckets.Holds (b : Buckets) (seen : List Sample) : Prop :=
  ∃ (groups : List (List Sample)) (current : List Sample),
    groups.flatten ++ current = seen ∧ (∀ g ∈ groups, g ≠ []) ∧
      b.out = groups.map point ∧ b.acc = total current ∧ b.count = current.length

theorem Buckets.Holds.flush {b : Buckets} {seen : List Sample} (holds : b.Holds seen) :
    Covers seen b.flush := by
  obtain ⟨groups, current, whole, nonempty, out, acc, count⟩ := holds
  unfold Buckets.flush
  split
  · rename_i none
    obtain rfl := List.length_eq_zero_iff.mp (count.symm.trans none)
    exact ⟨groups, by simpa using whole, nonempty, out⟩
  · rename_i some
    have filled : current ≠ [] := by
      rintro rfl
      exact some count
    refine ⟨groups ++ [current], by simpa using whole, ?_, ?_⟩
    · intro g member
      rcases List.mem_append.mp member with closed | opened
      · exact nonempty g closed
      · exact List.mem_singleton.mp opened ▸ filled
    · rw [out, acc, count, List.map_append]
      rfl

theorem Buckets.Holds.add {b : Buckets} {seen : List Sample} (holds : b.Holds seen)
    (start bucketDur : Int) (s : Sample) : (b.add start bucketDur s).Holds (seen ++ [s]) := by
  have continues : ∀ {b' : Buckets}, b'.Holds seen →
      Buckets.Holds { b' with acc := b'.acc.add s, count := b'.count + 1 } (seen ++ [s]) := by
    rintro b' ⟨groups, current, whole, nonempty, out, acc, count⟩
    refine ⟨groups, current ++ [s], by rw [← List.append_assoc, whole], nonempty, out, ?_, ?_⟩
    · rw [acc, total, total, List.foldl_append]
      rfl
    · rw [List.length_append, count]
      rfl
  unfold Buckets.add
  apply continues
  split
  · obtain ⟨groups, whole, nonempty, out⟩ := holds.flush
    exact ⟨groups, [], by simpa using whole, nonempty, out, rfl, rfl⟩
  · exact holds

theorem covers_downsample (start bucketDur : Int) (src : List Sample) :
    Covers src (downsample start bucketDur src) := by
  apply Buckets.Holds.flush
  induction src using List.reverseRecOn with
  | nil => exact ⟨[], [], rfl, by simp, rfl, rfl, rfl⟩
  | append_singleton seen s ih =>
      rw [List.foldl_append]
      exact ih.add start bucketDur s

/-! ## Sums that do not overflow -/

section Fitting

variable {k : Nat}

theorem total_timestamp {group : List Sample}
    (fits : ∀ s ∈ group, s.timestamp.natAbs ≤ k) (short : group.length * k < 2 ^ 63) :
    (total group).timestamp = (group.map Sample.timestamp).sum := by
  induction group using List.reverseRecOn with
  | nil => rfl
  | append_singleton group s ih =>
      rw [List.length_append, List.length_singleton, Nat.succ_mul] at short
      have before := ih (fun a member => fits a (List.mem_append_left _ member)) (by omega)
      have small : ∀ t ∈ (group ++ [s]).map Sample.timestamp, t.natAbs ≤ k := by
        intro t member
        obtain ⟨a, inside, rfl⟩ := List.mem_map.mp member
        exact fits a inside
      have bound := natAbs_sum_le small
      have sum : ((group ++ [s]).map Sample.timestamp).sum =
          (group.map Sample.timestamp).sum + s.timestamp := by simp
      rw [List.length_map, List.length_append, List.length_singleton, Nat.succ_mul, sum] at bound
      rw [total, List.foldl_append, sum]
      change Time.wrap64 ((total group).timestamp + s.timestamp) = _
      rw [before, Time.wrap64_of_fits (by omega)]

theorem point_timestamp {group : List Sample}
    (fits : ∀ s ∈ group, s.timestamp.natAbs ≤ k) (short : group.length * k < 2 ^ 63) :
    (point group).timestamp = mean (group.map Sample.timestamp) := by
  rw [mean, List.length_map, ← total_timestamp fits short]
  rfl

/-- A sample alone is its own point. -/
theorem point_singleton {s : Sample} (fits : s.timestamp.natAbs < 2 ^ 63) : point [s] = s := by
  have stamp := Time.wrap64_of_fits fits
  simp only [point, total, List.foldl_cons, List.foldl_nil, Sample.add, Sample.zero, Sample.average,
    List.length_singleton, Nat.cast_one, zero_add, div_one, Int.tdiv_one, stamp]

theorem covers_self {src : List Sample} (fits : ∀ s ∈ src, s.timestamp.natAbs < 2 ^ 63) :
    Covers src src := by
  refine ⟨src.map fun s => [s], ?_, ?_, ?_⟩
  · rw [← List.flatMap_def, List.flatMap_singleton']
  · intro g member
    obtain ⟨s, -, rfl⟩ := List.mem_map.mp member
    exact List.cons_ne_nil s []
  · rw [List.map_map]
    refine (List.map_id src).symm.trans (List.map_congr_left fun s member => ?_)
    exact (point_singleton (fits s member)).symm

/-- The points that cover a sorted list are in order. -/
theorem covers_ordered {src out : List Sample} (covers : Covers src out)
    (sorted : src.Pairwise fun a b => a.timestamp ≤ b.timestamp)
    (fits : ∀ s ∈ src, s.timestamp.natAbs ≤ k) (short : src.length * k < 2 ^ 63) :
    out.Pairwise fun a b => a.timestamp ≤ b.timestamp := by
  obtain ⟨groups, rfl, nonempty, rfl⟩ := covers
  have stamps : (groups.map point).map Sample.timestamp =
      (groups.map fun g => g.map Sample.timestamp).map mean := by
    rw [List.map_map, List.map_map]
    apply List.map_congr_left
    intro g member
    refine point_timestamp (k := k)
      (fun s inside => fits s (List.mem_flatten.mpr ⟨g, member, inside⟩)) ?_
    have part := (List.sublist_flatten_of_mem member).length_le
    exact Nat.lt_of_le_of_lt (Nat.mul_le_mul_right k part) short
  have means : (groups.map fun g => g.map Sample.timestamp).flatten.Pairwise (· ≤ ·) := by
    rw [← List.map_flatten]
    exact List.pairwise_map.mpr sorted
  have filled : ∀ g ∈ groups.map fun g => g.map Sample.timestamp, g ≠ [] := by
    intro g member
    obtain ⟨group, inside, rfl⟩ := List.mem_map.mp member
    simpa using nonempty group inside
  have ordered := means_sorted filled means
  rw [← stamps] at ordered
  exact List.pairwise_map.mp ordered

end Fitting

/-! ## The ends of a sorted list -/

section Ends

variable {src : List Sample} {first last s : Sample}

theorem first_le (sorted : src.Pairwise fun a b => a.timestamp ≤ b.timestamp)
    (head : src.head? = some first) (member : s ∈ src) : first.timestamp ≤ s.timestamp := by
  obtain rfl := (List.head_eq_iff_head?_eq_some (List.ne_nil_of_mem member)).mpr head
  exact sorted.rel_head_of_rel_head_head member (Int.le_refl _)

theorem le_last (sorted : src.Pairwise fun a b => a.timestamp ≤ b.timestamp)
    (tail : src.getLast? = some last) (member : s ∈ src) : s.timestamp ≤ last.timestamp := by
  obtain rfl := (List.getLast_eq_iff_getLast?_eq_some (List.ne_nil_of_mem member)).mpr tail
  exact sorted.rel_getLast_of_rel_getLast_getLast member (Int.le_refl _)

end Ends

/-! ## What holds after every call -/

/-- The buffer is in order, within its length, and its sums fit. -/
structure History.Ordered (h : History) : Prop where
  sorted : h.samples.Pairwise fun a b => a.timestamp ≤ b.timestamp
  short : h.samples.length ≤ h.maxLen
  fits : ∀ s ∈ h.samples, h.maxLen * s.timestamp.natAbs < 2 ^ 63

namespace History

/-- `Record` keeps a suffix of what it was given. -/
theorem record_suffix (h : History) (now : Time) (m : Metrics) :
    (h.record now m).samples <:+ h.samples ++ [m.sample] := by
  simp only [record]
  split
  · exact (List.drop_suffix _ _).trans (List.drop_suffix _ _)
  · exact List.drop_suffix _ _

theorem record_short (h : History) (now : Time) (m : Metrics) :
    (h.record now m).samples.length ≤ h.maxLen := by
  simp only [record]
  split
  · rw [List.length_drop]
    omega
  · omega

/-- The buffer holds recorded samples only. -/
theorem records_sublist (h : History) (calls : List (Time × Metrics)) :
    (h.records calls).samples.Sublist (h.samples ++ calls.map fun call => call.2.sample) := by
  induction calls using List.reverseRecOn with
  | nil => simp [records]
  | append_singleton calls call ih =>
      obtain ⟨now, m⟩ := call
      rw [records_concat, List.map_append, ← List.append_assoc]
      exact ((h.records calls).record_suffix now m).sublist.trans (ih.append (List.Sublist.refl _))

/-- In a sorted buffer the expired samples are the leading ones. -/
theorem record_trimmed (h : History) (now : Time) (m : Metrics)
    (sorted : (h.samples ++ [m.sample]).Pairwise fun a b => a.timestamp ≤ b.timestamp) :
    (h.record now m).Trimmed now := by
  intro s member
  rw [h.record_samples now m sorted] at member
  have kept := (List.mem_filter.mp ((List.drop_sublist _ _).subset member)).2
  exact of_decide_eq_true kept

theorem Ordered.append {h : History} (held : h.Ordered) {m : Metrics}
    (forward : ∀ last ∈ h.samples.getLast?, last.timestamp ≤ m.timestamp) :
    (h.samples ++ [m.sample]).Pairwise fun a b => a.timestamp ≤ b.timestamp := by
  refine List.pairwise_append.mpr ⟨held.sorted, List.pairwise_singleton _ _, ?_⟩
  intro a member b single
  obtain rfl := List.mem_singleton.mp single
  have newest := List.getLast?_eq_some_getLast (List.ne_nil_of_mem member)
  exact Int.le_trans (le_last held.sorted newest member) (forward _ newest)

theorem Ordered.record {h : History} (held : h.Ordered) {m : Metrics} (now : Time)
    (forward : ∀ last ∈ h.samples.getLast?, last.timestamp ≤ m.timestamp)
    (fits : h.maxLen * m.timestamp.natAbs < 2 ^ 63) : (h.record now m).Ordered := by
  have kept := (h.record_suffix now m).sublist
  refine ⟨(held.append forward).sublist kept, h.record_short now m, fun s member => ?_⟩
  rcases List.mem_append.mp (kept.subset member) with old | new
  · exact held.fits s old
  · exact List.mem_singleton.mp new ▸ fits

theorem ordered_records {h : History} (fresh : h.samples = []) {calls : List (Time × Metrics)}
    (forward : StepsForward h calls) : (h.records calls).Ordered := by
  induction calls using List.reverseRecOn with
  | nil =>
      have empty : (h.records []).samples = [] := fresh
      exact ⟨by simp [empty], by simp [empty], by simp [empty]⟩
  | append_singleton calls call ih =>
      obtain ⟨now, m⟩ := call
      obtain ⟨newest, fits⟩ := Everywhere.at forward
      rw [records_concat]
      apply (ih forward.prefix).record now newest
      rwa [(h.records_settings calls).2]

/-- The three ways `Range` answers. -/
theorem range_cases (h : History) (now : Time) (rangeDur : Duration) (maxPoints : Int) :
    h.range now rangeDur maxPoints = h.inRange now rangeDur ∨
      (∃ first last, (h.inRange now rangeDur).head? = some first ∧
        (h.inRange now rangeDur).getLast? = some last ∧ 2 ≤ (h.inRange now rangeDur).length ∧
        Time.wrap64 (last.timestamp - first.timestamp) ≤ 0 ∧
        h.range now rangeDur maxPoints = [last]) ∨
      ∃ start bucketDur,
        h.range now rangeDur maxPoints = downsample start bucketDur (h.inRange now rangeDur) := by
  have atLeast : 1 ≤ if maxPoints < 1 then 1 else maxPoints := by
    split <;> omega
  unfold range
  generalize (if maxPoints < 1 then 1 else maxPoints) = points at atLeast
  generalize h.inRange now rangeDur = src
  dsimp only
  by_cases few : src.length ≤ points
  · exact .inl (if_pos few)
  · right
    rw [if_neg few]
    obtain ⟨first, rest, rfl⟩ := List.exists_cons_of_length_pos (l := src) (by omega)
    have tail : (first :: rest).getLast? = some ((first :: rest).getLast (List.cons_ne_nil _ _)) :=
      List.getLast?_eq_some_getLast _
    rw [List.head?_cons, tail]
    dsimp only
    split
    · rename_i flat
      exact .inl ⟨first, _, rfl, rfl, by omega, flat, rfl⟩
    · exact .inr ⟨_, _, rfl⟩

/-- Between a first and a last sample of equal time all samples have that time. -/
theorem same_of_flat {src : List Sample} {first last : Sample}
    (sorted : src.Pairwise fun a b => a.timestamp ≤ b.timestamp) (head : src.head? = some first)
    (tail : src.getLast? = some last) (flat : last.timestamp ≤ first.timestamp) {a : Sample}
    (member : a ∈ src) : a.timestamp = first.timestamp := by
  have lower := first_le sorted head member
  have upper := le_last sorted tail member
  omega

/-- An ordered buffer is read in order and without gaps. -/
theorem Ordered.chronological {h : History} (held : h.Ordered) : h.Chronological := by
  -- The largest timestamp whose `maxLen`-fold still fits.
  let k := (2 ^ 63 - 1) / h.maxLen
  have bounded : h.maxLen * k < 2 ^ 63 :=
    Nat.lt_of_le_of_lt (Nat.mul_div_le _ _) (by decide)
  have sorted : ∀ now rangeDur, (h.inRange now rangeDur).Pairwise fun a b =>
      a.timestamp ≤ b.timestamp := fun _ _ => held.sorted.sublist List.filter_sublist
  have short : ∀ now rangeDur, (h.inRange now rangeDur).length ≤ h.maxLen := fun _ _ =>
    Nat.le_trans List.filter_sublist.length_le held.short
  have small : ∀ now rangeDur, ∀ s ∈ h.inRange now rangeDur, s.timestamp.natAbs ≤ k := by
    intro now rangeDur s member
    have fits := held.fits s (List.mem_of_mem_filter member)
    rw [Nat.le_div_iff_mul_le h.maxLen_pos, Nat.mul_comm]
    omega
  have single : k < 2 ^ 63 :=
    Nat.lt_of_le_of_lt (Nat.le_mul_of_pos_left k h.maxLen_pos) bounded
  constructor
  · intro now rangeDur maxPoints
    rcases h.range_cases now rangeDur maxPoints with all | ⟨_, last, _, _, _, _, one⟩ | ⟨_, _, cut⟩
    · rw [all]
      exact sorted now rangeDur
    · rw [one]
      exact List.pairwise_singleton _ _
    · rw [cut]
      apply covers_ordered (covers_downsample _ _ _) (sorted now rangeDur) (small now rangeDur)
      exact Nat.lt_of_le_of_lt (Nat.mul_le_mul_right k (short now rangeDur)) bounded
  · intro now rangeDur maxPoints
    rcases h.range_cases now rangeDur maxPoints with
      all | ⟨first, last, head, tail, two, flat, one⟩ | ⟨_, _, cut⟩
    · left
      rw [all]
      exact covers_self fun s member => Nat.lt_of_le_of_lt (small now rangeDur s member) single
    · right
      have twice : 2 * k ≤ h.maxLen * k :=
        Nat.mul_le_mul_right k (Nat.le_trans two (short now rangeDur))
      have low := small now rangeDur first (List.mem_of_mem_head? head)
      have high := small now rangeDur last (List.mem_of_getLast? tail)
      rw [Time.wrap64_of_fits (by omega)] at flat
      intro a inA b inB
      have left := same_of_flat (sorted now rangeDur) head tail (by omega) inA
      have right := same_of_flat (sorted now rangeDur) head tail (by omega) inB
      omega
    · left
      rw [cut]
      exact covers_downsample _ _ _

end History

/-- **The history stays in order and trimmed** in every run in which no recorded
sample is older than the newest one stored, whatever the clock reads. -/
theorem forward_keeps_history (retain : Duration) (maxLen : Int) (calls : List (Time × Metrics))
    (now : Time) (m : Metrics)
    (forward : StepsForward (newHistory retain maxLen) (calls ++ [(now, m)])) :
    ((newHistory retain maxLen).records (calls ++ [(now, m)])).Trimmed now ∧
      ((newHistory retain maxLen).records (calls ++ [(now, m)])).Chronological := by
  have before := History.ordered_records (h := newHistory retain maxLen) rfl forward.prefix
  have after := History.ordered_records (h := newHistory retain maxLen) rfl forward
  refine ⟨?_, after.chronological⟩
  rw [History.records_concat]
  exact History.record_trimmed _ now m (before.append (Everywhere.at forward).1)

/-! ## A clock that steps back -/

/-- At hour 100 the clock is set back by an hour, and a day later the second sample
has expired and the first one has not. -/
def setBack : List (Time × Metrics) :=
  [(100 * Time.hour, sampled 360000000), (99 * Time.hour, sampled 356400000),
    (123 * Time.hour + 30 * Time.minute, sampled 444600000)]

/-- The expired sample stays behind the younger one; before that, `Range` returns the
two samples in the wrong order, and asked for one point it leaves the first out. -/
theorem stepped_back_breaks_history :
    let h := newHistory (24 * Time.hour) 50000
    let two := h.records (setBack.take 2)
    ¬ (h.records setBack).Trimmed (123 * Time.hour + 30 * Time.minute) ∧
      ¬ (two.range (99 * Time.hour) (2 * Time.hour) 5).Pairwise
        (fun a b => a.timestamp ≤ b.timestamp) ∧
      ¬ Covers (two.inRange (99 * Time.hour) (2 * Time.hour))
        (two.range (99 * Time.hour) (2 * Time.hour) 1) := by
  have stored : ((newHistory (24 * Time.hour) 50000).records setBack).samples =
      setBack.map fun call => call.2.sample := by decide +kernel
  have read : ((newHistory (24 * Time.hour) 50000).records (setBack.take 2)).inRange
      (99 * Time.hour) (2 * Time.hour) = (setBack.take 2).map fun call => call.2.sample := by
    decide +kernel
  have one : ((newHistory (24 * Time.hour) 50000).records (setBack.take 2)).range
      (99 * Time.hour) (2 * Time.hour) 1 = [(sampled 356400000).sample] := by decide +kernel
  refine ⟨fun trimmed => ?_, by decide +kernel, ?_⟩
  · have kept := trimmed (sampled 356400000).sample (by rw [stored]; decide +kernel)
    revert kept
    decide +kernel
  · rintro ⟨groups, whole, nonempty, out⟩
    rw [one] at out
    rw [read] at whole
    obtain ⟨group, rfl⟩ := List.length_eq_one_iff.mp (by simpa using (congrArg List.length out).symm)
    rw [List.flatten_singleton] at whole
    subst whole
    revert out
    decide +kernel

/-- The rule where the clock is set back without a sample being older than the one
before: a sample is recorded, the clock loses half an hour, the next one is taken. -/
theorem forward_keeps_history_sample :
    let h := newHistory (24 * Time.hour) 50000
    let calls := [(101 * Time.hour, sampled 360000000), (100 * Time.hour + 30 * Time.minute,
      sampled 361800000)]
    (h.records calls).Trimmed (100 * Time.hour + 30 * Time.minute) ∧
      (h.records calls).Chronological :=
  forward_keeps_history (24 * Time.hour) 50000 [(101 * Time.hour, sampled 360000000)]
    (100 * Time.hour + 30 * Time.minute) (sampled 361800000) (by decide +kernel)

end VpsDashboard.Host
