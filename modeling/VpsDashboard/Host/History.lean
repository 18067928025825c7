/-
# VpsDashboard.Host.History — the buffer of metric samples

`Record` appends a sample, drops the leading samples that are older than the
retention window and cuts the buffer to its maximal length.  It never looks past
the first sample that is young enough, and what it has dropped never comes back.

`record_keeps_window` — as long as neither the clock nor the timestamps step back,
the buffer is exactly the last `maxLen` of the recorded samples that lie inside
the window, in recording order, whatever earlier calls have trimmed.

Timestamps are milliseconds, and so is the cutoff they are compared with.  The
measured values are rationals where the source has `float64`.
-/
import VpsDashboard.Foundation.Go
import VpsDashboard.Foundation.Window
import Mathlib.Data.List.Induction
import Mathlib.Data.Rat.Defs

namespace VpsDashboard.Host

open Foundation

set_option autoImplicit false

/-! ## Samples -/

structure NetworkStats where
  bytesSentPerSec : Nat
  bytesRecvPerSec : Nat

structure DiskStats where
  usedPercent : ℚ

structure Metrics where
  timestamp : Int
  cpuPercent : ℚ
  memoryPercent : ℚ
  disk : DiskStats
  network : NetworkStats

/-- One point of the history; `t` is in Unix milliseconds. -/
structure Sample where
  timestamp : Int
  cpu : ℚ
  memory : ℚ
  disk : ℚ
  netUp : ℚ
  netDown : ℚ
deriving DecidableEq

def Metrics.sample (m : Metrics) : Sample where
  timestamp := m.timestamp
  cpu := m.cpuPercent
  memory := m.memoryPercent
  disk := m.disk.usedPercent
  netUp := m.network.bytesSentPerSec
  netDown := m.network.bytesRecvPerSec

/-! ## The buffer -/

/-- `host.History`.  Its window and its length are positive: `NewHistory` is the
only place that sets them. -/
structure History where
  samples : List Sample
  retain : Duration
  maxLen : Nat
  retain_pos : 0 < retain
  maxLen_pos : 0 < maxLen

def newHistory (retain : Duration) (maxLen : Int) : History where
  samples := []
  retain := if retain ≤ 0 then 24 * Time.hour else retain
  maxLen := if maxLen ≤ 0 then 50000 else maxLen.toNat
  retain_pos := by
    split
    · decide
    · exact Int.lt_of_not_ge ‹_›
  maxLen_pos := by
    split <;> omega

namespace History

def cutoff (h : History) (now : Time) : Int := Time.unixMilli (now - h.retain)

/-- How many leading samples are older than the cutoff. -/
def expired (cutoff : Int) : List Sample → Nat
  | [] => 0
  | s :: rest => if s.timestamp < cutoff then expired cutoff rest + 1 else 0

/-- `Record`, called when the clock reads `now`. -/
def record (h : History) (now : Time) (m : Metrics) : History :=
  let appended := h.samples ++ [m.sample]
  let kept := appended.drop (expired (h.cutoff now) appended)
  { h with samples :=
      if kept.length > h.maxLen then kept.drop (kept.length - h.maxLen) else kept }

/-- The calls of a run in order, each with the reading of the clock. -/
def records (h : History) (calls : List (Time × Metrics)) : History :=
  calls.foldl (fun h call => h.record call.1 call.2) h

@[simp] theorem records_concat (h : History) (calls : List (Time × Metrics)) (now : Time)
    (m : Metrics) : h.records (calls ++ [(now, m)]) = (h.records calls).record now m := by
  simp [records]

@[simp] theorem record_retain (h : History) (now : Time) (m : Metrics) :
    (h.record now m).retain = h.retain := rfl

@[simp] theorem record_maxLen (h : History) (now : Time) (m : Metrics) :
    (h.record now m).maxLen = h.maxLen := rfl

theorem records_settings (h : History) (calls : List (Time × Metrics)) :
    (h.records calls).retain = h.retain ∧ (h.records calls).maxLen = h.maxLen := by
  induction calls using List.reverseRecOn with
  | nil => exact ⟨rfl, rfl⟩
  | append_singleton calls call ih =>
      obtain ⟨now, m⟩ := call
      rw [records_concat, record_retain, record_maxLen]
      exact ih

/-! ## What one call keeps -/

/-- Whether a sample lies inside the retention window. -/
def inside (h : History) (now : Time) (s : Sample) : Bool := h.cutoff now ≤ s.timestamp

theorem records_inside (h : History) (calls : List (Time × Metrics)) (now : Time) :
    (h.records calls).inside now = h.inside now := by
  funext s
  rw [inside, inside, cutoff, cutoff, (h.records_settings calls).1]

theorem drop_expired (cutoff : Int) (samples : List Sample) :
    samples.drop (expired cutoff samples) =
      samples.dropWhile fun s => !decide (cutoff ≤ s.timestamp) := by
  induction samples with
  | nil => rfl
  | cons s rest ih =>
      by_cases old : s.timestamp < cutoff
      · have fails : ¬ cutoff ≤ s.timestamp := by omega
        rw [expired, if_pos old, List.drop_succ_cons, ih,
          List.dropWhile_cons_of_pos (by simpa using old)]
      · rw [expired, if_neg old, List.drop_zero, List.dropWhile_cons_of_neg (by simpa using old)]

/-- A list in the order of its timestamps enters the window once and stays in it. -/
theorem rising_inside (h : History) (now : Time) {samples : List Sample}
    (ordered : samples.Pairwise fun a b => a.timestamp ≤ b.timestamp) :
    Rising (h.inside now) samples := by
  apply ordered.imp
  intro a b le young
  have young : h.cutoff now ≤ a.timestamp := by simpa [inside] using young
  simp only [inside, decide_eq_true_eq]
  omega

theorem record_samples (h : History) (now : Time) (m : Metrics)
    (ordered : (h.samples ++ [m.sample]).Pairwise fun a b => a.timestamp ≤ b.timestamp) :
    (h.record now m).samples = lastOf h.maxLen (h.inside now) (h.samples ++ [m.sample]) := by
  have kept : (h.samples ++ [m.sample]).drop (expired (h.cutoff now) (h.samples ++ [m.sample])) =
      (h.samples ++ [m.sample]).filter (h.inside now) := by
    rw [drop_expired]
    exact (h.rising_inside now ordered).dropWhile_eq_filter
  simp only [record, kept]
  rw [lastOf, List.rtake]
  split
  · rfl
  · rename_i short
    have none : ((h.samples ++ [m.sample]).filter (h.inside now)).length - h.maxLen = 0 := by omega
    rw [none, List.drop_zero]

/-! ## Whole runs -/

/-- A later cutoff is a stricter one. -/
theorem inside_mono (h : History) {now later : Time} (order : now ≤ later) (s : Sample)
    (young : h.inside later s = true) : h.inside now s = true := by
  have earlier : h.cutoff now ≤ h.cutoff later :=
    Int.ediv_le_ediv (by decide) (Int.sub_le_sub_right order h.retain)
  have reached : h.cutoff later ≤ s.timestamp := of_decide_eq_true young
  exact decide_eq_true (Int.le_trans earlier reached)

theorem records_samples (h : History) (fresh : h.samples = []) (calls : List (Time × Metrics))
    (now : Time) (m : Metrics)
    (clock : (calls ++ [(now, m)]).Pairwise fun a b => a.1 ≤ b.1)
    (stamps : (calls ++ [(now, m)]).Pairwise fun a b => a.2.timestamp ≤ b.2.timestamp) :
    (h.records (calls ++ [(now, m)])).samples =
      lastOf h.maxLen (h.inside now) ((calls ++ [(now, m)]).map fun call => call.2.sample) := by
  induction calls using List.reverseRecOn generalizing now m with
  | nil =>
      rw [List.nil_append, ← List.nil_append [(now, m)], records_concat]
      have ordered : (h.samples ++ [m.sample]).Pairwise fun a b => a.timestamp ≤ b.timestamp := by
        simp [fresh]
      apply (h.record_samples now m ordered).trans
      rw [fresh]
      rfl
  | append_singleton calls call ih =>
      obtain ⟨before, earlier⟩ := call
      have order : before ≤ now :=
        (List.pairwise_append.mp clock).2.2 (before, earlier) (by simp) (now, m) (by simp)
      have held := ih before earlier (List.pairwise_append.mp clock).1
        (List.pairwise_append.mp stamps).1
      have log : ((calls ++ [(before, earlier)] ++ [(now, m)]).map fun call => call.2.sample) =
          ((calls ++ [(before, earlier)]).map fun call => call.2.sample) ++ [m.sample] := by
        simp
      have ordered : (((calls ++ [(before, earlier)]).map fun call => call.2.sample) ++
          [m.sample]).Pairwise fun a b => a.timestamp ≤ b.timestamp := by
        rw [← log]
        exact List.pairwise_map.mpr stamps
      have stored : ((h.records (calls ++ [(before, earlier)])).samples ++ [m.sample]).Pairwise
          fun a b => a.timestamp ≤ b.timestamp := by
        rw [held]
        exact ordered.sublist ((lastOf_sublist _ _ _).append (List.Sublist.refl _))
      rw [records_concat, record_samples _ now m stored, held, log, records_inside,
        (h.records_settings _).2]
      exact lastOf_concat (h.inside_mono order) (h.rising_inside now ordered)

end History

/-- **Retention is exact.**  For a clock and timestamps that do not step back, the
buffer holds after every call exactly the last `maxLen` of the samples recorded so
far that are not older than the window, in recording order. -/
theorem record_keeps_window (retain : Duration) (maxLen : Int) (calls : List (Time × Metrics))
    (now : Time) (m : Metrics) (clock : (calls ++ [(now, m)]).Pairwise fun a b => a.1 ≤ b.1)
    (stamps : (calls ++ [(now, m)]).Pairwise fun a b => a.2.timestamp ≤ b.2.timestamp) :
    let window := if 0 < retain then retain else 24 * Time.hour
    let cap := if 0 < maxLen then maxLen.toNat else 50000
    let recorded := (calls ++ [(now, m)]).map fun call => call.2.sample
    let young := recorded.filter fun s => Time.unixMilli (now - window) ≤ s.timestamp
    ((newHistory retain maxLen).records (calls ++ [(now, m)])).samples =
      young.drop (young.length - min cap young.length) := by
  intro window cap recorded young
  have sameWindow : (newHistory retain maxLen).retain = window := by
    by_cases positive : 0 < retain
    · simp [newHistory, window, positive, Int.not_le.mpr positive]
    · simp [newHistory, window, positive, Int.not_lt.mp positive]
  have sameCap : (newHistory retain maxLen).maxLen = cap := by
    simp only [newHistory, cap]
    split <;> split <;> first | rfl | omega
  have inside : (newHistory retain maxLen).inside now =
      fun s => decide (Time.unixMilli (now - window) ≤ s.timestamp) := by
    funext s
    rw [History.inside, History.cutoff, sameWindow]
  have held := (newHistory retain maxLen).records_samples rfl calls now m clock stamps
  have capped : young.length - min cap young.length = young.length - cap := by omega
  rw [held, lastOf, List.rtake, inside, sameCap, capped]

def sampled (timestamp : Int) : Metrics := ⟨timestamp, 0, 0, ⟨0⟩, ⟨0, 0⟩⟩

/-- Samples of four times, the last two at once. -/
def fourSampled : List (Time × Metrics) :=
  [(Time.second, sampled 1000), (2 * Time.second, sampled 2000), (3 * Time.second, sampled 2500),
    (3 * Time.second, sampled 3000)]

/-- The rule for them and a window of one second.  At second 3 the first sample has left it:
with room for five samples it is the only one that is dropped, with room for two the next one
is over the cap. -/
theorem record_keeps_window_sample :
    ((newHistory Time.second 5).records fourSampled).samples.map Sample.timestamp =
        [2000, 2500, 3000] ∧
      ((newHistory Time.second 2).records fourSampled).samples.map Sample.timestamp =
        [2500, 3000] := by
  constructor
  · have kept := record_keeps_window Time.second 5 (fourSampled.take 3) (3 * Time.second)
      (sampled 3000) (by decide) (by decide)
    exact congrArg (List.map Sample.timestamp) kept
  · have kept := record_keeps_window Time.second 2 (fourSampled.take 3) (3 * Time.second)
      (sampled 3000) (by decide) (by decide)
    exact congrArg (List.map Sample.timestamp) kept

end VpsDashboard.Host
