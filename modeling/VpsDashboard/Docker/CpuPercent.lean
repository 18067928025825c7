/-
# VpsDashboard.Docker.CpuPercent — the CPU share of a container

`calculateCPUPercent` compares two readings of two `uint64` counters.  It subtracts
first and asks afterwards whether the difference is at most zero, which an unsigned
difference is only where the readings are equal: after a reset the difference wraps
around to almost 2^64.

* `restarted_percent` — a counter that was reset gives a percentage instead of zero;
* `calculateCPUPercent_sound_iff` — the result is sound exactly where a counter stood
  still or both grew, and the per-CPU list is shorter than 2^32 where it is counted.

The quotients are exact where the source has `float64`.
-/
import Mathlib.Algebra.Order.Field.Rat
import Mathlib.Tactic.Positivity

namespace VpsDashboard.Docker

set_option autoImplicit false

/-! ## The readings -/

structure CpuUsage where
  totalUsage : UInt64
  percpuUsage : List UInt64

structure CpuStats where
  cpuUsage : CpuUsage
  systemUsage : UInt64
  onlineCPUs : UInt32

/-- The previous reading. -/
structure PreCpuStats where
  totalUsage : UInt64
  systemUsage : UInt64

structure StatsResponse where
  cpuStats : CpuStats
  preCPUStats : PreCpuStats

namespace StatsResponse

variable (v : StatsResponse)

def cpuDelta : ℚ := (v.cpuStats.cpuUsage.totalUsage - v.preCPUStats.totalUsage).toNat

def systemDelta : ℚ := (v.cpuStats.systemUsage - v.preCPUStats.systemUsage).toNat

def onlineCPUs : UInt32 :=
  let onlineCPUs := v.cpuStats.onlineCPUs
  let onlineCPUs :=
    if onlineCPUs = 0 then UInt32.ofNat v.cpuStats.cpuUsage.percpuUsage.length else onlineCPUs
  if onlineCPUs = 0 then 1 else onlineCPUs

end StatsResponse

def calculateCPUPercent (v : StatsResponse) : ℚ :=
  if v.systemDelta ≤ 0 ∨ v.cpuDelta ≤ 0 then 0
  else v.cpuDelta / v.systemDelta * v.onlineCPUs.toNat * 100

/-! ## What a percentage should be -/

namespace StatsResponse

variable (v : StatsResponse)

/-- The container has used CPU time since the previous reading. -/
def Used : Prop := v.preCPUStats.totalUsage < v.cpuStats.cpuUsage.totalUsage

/-- The system clock of the CPUs has advanced. -/
def Advanced : Prop := v.preCPUStats.systemUsage < v.cpuStats.systemUsage

/-- The first of the three numbers that is not zero. -/
def cpus : Nat :=
  if v.cpuStats.onlineCPUs ≠ 0 then v.cpuStats.onlineCPUs.toNat
  else if v.cpuStats.cpuUsage.percpuUsage.length ≠ 0 then v.cpuStats.cpuUsage.percpuUsage.length
  else 1

/-- The ratio of the increases, of all CPUs, in percent. -/
def share : ℚ :=
  ((v.cpuStats.cpuUsage.totalUsage.toNat : ℚ) - v.preCPUStats.totalUsage.toNat) /
    ((v.cpuStats.systemUsage.toNat : ℚ) - v.preCPUStats.systemUsage.toNat) * v.cpus * 100

/-- Nothing without an increase of both counters, else the share. -/
structure Sound : Prop where
  idle : ¬ v.Used ∨ ¬ v.Advanced → calculateCPUPercent v = 0
  busy : v.Used → v.Advanced → calculateCPUPercent v = v.share

/-- A counter stood still, or both grew and the list of CPUs, if it is counted, is short. -/
def Steady : Prop :=
  v.cpuStats.cpuUsage.totalUsage = v.preCPUStats.totalUsage ∨
    v.cpuStats.systemUsage = v.preCPUStats.systemUsage ∨
    v.Used ∧ v.Advanced ∧
      (v.cpuStats.onlineCPUs ≠ 0 ∨ v.cpuStats.cpuUsage.percpuUsage.length < 2 ^ 32)

end StatsResponse

/-! ## Differences of counters -/

section Differences

variable {a b : UInt64}

theorem sub_toNat_pos (differ : a ≠ b) : 0 < (a - b).toNat := by
  have apart : a.toNat ≠ b.toNat := fun same => differ (UInt64.toNat_inj.mp same)
  have small := a.toNat_lt
  have small' := b.toNat_lt
  rw [UInt64.toNat_sub]
  omega

theorem sub_toNat_of_lt (grown : b < a) : ((a - b).toNat : ℚ) = (a.toNat : ℚ) - b.toNat := by
  have le := UInt64.le_of_lt grown
  rw [UInt64.toNat_sub_of_le a b le, Nat.cast_sub (UInt64.le_iff_toNat_le.mp le)]

end Differences

namespace StatsResponse

variable {v : StatsResponse}

theorem onlineCPUs_pos : 0 < v.onlineCPUs.toNat := by
  have orOne : ∀ n : UInt32, (if n = 0 then 1 else n) ≠ 0 := by
    intro n
    split
    · decide
    · assumption
  exact Nat.pos_of_ne_zero fun zero => orOne _ (UInt32.toNat_inj.mp zero)

/-- The conversion of the length to `uint32` cuts a list of 2^32 CPUs and more. -/
theorem onlineCPUs_eq_iff : v.onlineCPUs.toNat = v.cpus ↔
    v.cpuStats.onlineCPUs ≠ 0 ∨ v.cpuStats.cpuUsage.percpuUsage.length < 2 ^ 32 := by
  by_cases known : v.cpuStats.onlineCPUs = 0
  · have cut := UInt32.toNat_ofNat' (n := v.cpuStats.cpuUsage.percpuUsage.length)
    have bounded := v.onlineCPUs.toNat_lt
    constructor
    · intro same
      right
      by_contra long
      have counted : v.cpus = v.cpuStats.cpuUsage.percpuUsage.length := by
        rw [cpus, if_neg (by simpa using known), if_pos (by omega)]
      omega
    · rintro (other | short)
      · exact absurd known other
      rw [Nat.mod_eq_of_lt short] at cut
      by_cases none : v.cpuStats.cpuUsage.percpuUsage.length = 0
      · simp [onlineCPUs, cpus, known, none]
      · have counted : UInt32.ofNat v.cpuStats.cpuUsage.percpuUsage.length ≠ 0 := by
          intro zero
          rw [zero] at cut
          exact none cut.symm
        simp only [onlineCPUs, cpus, known, none, if_true, ne_eq, not_true_eq_false, if_false,
          not_false_eq_true, counted, cut]
  · simp [onlineCPUs, cpus, known]

/-- A counter that stood still makes the percentage zero. -/
theorem percent_of_still (still : v.cpuStats.cpuUsage.totalUsage = v.preCPUStats.totalUsage ∨
    v.cpuStats.systemUsage = v.preCPUStats.systemUsage) : calculateCPUPercent v = 0 := by
  apply if_pos
  rcases still with total | system
  · right
    simp [cpuDelta, total]
  · left
    simp [systemDelta, system]

/-- Where neither counter stood still, whether they grew or not, the percentage is positive. -/
theorem percent_of_moved (total : v.cpuStats.cpuUsage.totalUsage ≠ v.preCPUStats.totalUsage)
    (system : v.cpuStats.systemUsage ≠ v.preCPUStats.systemUsage) :
    calculateCPUPercent v = v.cpuDelta / v.systemDelta * v.onlineCPUs.toNat * 100 ∧
      0 < v.cpuDelta / v.systemDelta ∧ 0 < calculateCPUPercent v := by
  have cpu : 0 < v.cpuDelta := by
    simpa [cpuDelta] using sub_toNat_pos total
  have sys : 0 < v.systemDelta := by
    simpa [systemDelta] using sub_toNat_pos system
  have online : (0 : ℚ) < v.onlineCPUs.toNat := Nat.cast_pos.mpr onlineCPUs_pos
  have percent : calculateCPUPercent v =
      v.cpuDelta / v.systemDelta * v.onlineCPUs.toNat * 100 := by
    apply if_neg
    rw [not_or, not_le, not_le]
    exact ⟨sys, cpu⟩
  refine ⟨percent, div_pos cpu sys, ?_⟩
  rw [percent]
  positivity

/-- Where both counters grew, the differences are the increases. -/
theorem share_of_grown (used : v.Used) (advanced : v.Advanced) :
    v.share = v.cpuDelta / v.systemDelta * v.cpus * 100 := by
  rw [share, cpuDelta, systemDelta, sub_toNat_of_lt used, sub_toNat_of_lt advanced]

/-- Where both counters grew, only the number of CPUs can be wrong. -/
theorem sound_of_grown_iff (used : v.Used) (advanced : v.Advanced) :
    v.Sound ↔ v.cpuStats.onlineCPUs ≠ 0 ∨ v.cpuStats.cpuUsage.percpuUsage.length < 2 ^ 32 := by
  obtain ⟨percent, positive, -⟩ :=
    percent_of_moved (UInt64.ne_of_lt used).symm (UInt64.ne_of_lt advanced).symm
  have exact : calculateCPUPercent v = v.share ↔ v.onlineCPUs.toNat = v.cpus := by
    rw [percent, share_of_grown used advanced, mul_left_inj' (by norm_num : (100 : ℚ) ≠ 0),
      mul_right_inj' positive.ne', Nat.cast_inj]
  rw [← onlineCPUs_eq_iff, ← exact]
  constructor
  · intro sound
    exact sound.busy used advanced
  · intro share
    refine ⟨fun none => ?_, fun _ _ => share⟩
    exact absurd ⟨used, advanced⟩ (not_and_or.mpr none)

end StatsResponse

/-- **The percentage is sound exactly where no counter was reset.** -/
theorem calculateCPUPercent_sound_iff (v : StatsResponse) : v.Sound ↔ v.Steady := by
  by_cases total : v.cpuStats.cpuUsage.totalUsage = v.preCPUStats.totalUsage
  · have zero := StatsResponse.percent_of_still (.inl total)
    refine iff_of_true ⟨fun _ => zero, fun used => ?_⟩ (.inl total)
    exact absurd total.symm (UInt64.ne_of_lt used)
  by_cases system : v.cpuStats.systemUsage = v.preCPUStats.systemUsage
  · have zero := StatsResponse.percent_of_still (.inr system)
    refine iff_of_true ⟨fun _ => zero, fun _ advanced => ?_⟩ (.inr (.inl system))
    exact absurd system.symm (UInt64.ne_of_lt advanced)
  unfold StatsResponse.Steady
  by_cases grown : v.Used ∧ v.Advanced
  · rw [StatsResponse.sound_of_grown_iff grown.1 grown.2]
    simp [total, system, grown]
  · obtain ⟨-, -, positive⟩ := StatsResponse.percent_of_moved total system
    refine iff_of_false (fun sound => positive.ne' (sound.idle (not_and_or.mp grown))) ?_
    simp only [total, system, false_or, ← and_assoc, not_and]
    exact fun both => absurd both grown

/-- The counter of a container that was restarted: it has used 2 seconds instead of 5. -/
def restarted : StatsResponse where
  cpuStats := ⟨⟨2000000000, []⟩, 90001000000000, 4⟩
  preCPUStats := ⟨5000000000, 90000000000000⟩

theorem restarted_percent :
    ¬ restarted.Used ∧ calculateCPUPercent restarted = (2 ^ 64 - 3000000000) / 1000000000 * 4 * 100 ∧
      ¬ restarted.Sound := by
  have percent : calculateCPUPercent restarted =
      (2 ^ 64 - 3000000000) / 1000000000 * 4 * 100 := by decide +kernel
  have unused : ¬ restarted.Used := by
    show ¬ (5000000000 : UInt64) < 2000000000
    decide
  refine ⟨unused, percent, fun sound => ?_⟩
  exact absurd (percent.symm.trans (sound.idle (.inl unused))) (by decide +kernel)

end VpsDashboard.Docker
