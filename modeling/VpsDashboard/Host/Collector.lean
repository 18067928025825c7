/-
# VpsDashboard.Host.Collector — network rates, and calls that overtake each other

`Collect` reads the network counters, then the clock, and only then takes the lock
under which it computes the rates since the last call and makes its own readings the
baseline of the next one.  A call that is overtaken between its readings and the lock
sets the baseline back, and a rate that `float64` rounds up counts bytes that were never
sent.

* `overtaken_counts_twice` — one call overtakes another, and the call after them
  counts traffic that has been counted already;
* `rounded_up_counts_more` — two calls in order, whose rate is rounded up;
* `collect_counts_once` — in every run in which the calls take the lock in the order of
  their readings (`InOrder`) and no quotient lies so close below a whole number that it
  may be rounded up to it (`ClearRates`), the baseline only moves forward, the intervals
  of the rates are disjoint, and the rates account for no more traffic than there was.

The system's counters and its monotonic clock never fall; sums of counters stay below
2^64, and differences of the clock fit a `Duration`.
-/
import VpsDashboard.Foundation.Interleaving
import VpsDashboard.Host.History
import VpsDashboard.Host.Rate

namespace VpsDashboard.Host

open Foundation

set_option autoImplicit false

/-! ## Data -/

structure VirtualMemoryStat where
  used : Nat
  total : Nat
  usedPercent : ℚ

structure UsageStat where
  total : Nat
  used : Nat
  free : Nat
  usedPercent : ℚ

/-- The counters of one network interface. -/
structure IOCountersStat where
  bytesSent : Nat
  bytesRecv : Nat

/-- All of `Metrics`, with the fields that the history does not read. -/
structure HostMetrics extends Metrics where
  memoryUsed : Nat
  memoryTotal : Nat
  diskTotal : Nat
  diskUsed : Nat
  diskFree : Nat
  totalBytesSent : Nat
  totalBytesRecv : Nat

def HostMetrics.zero : HostMetrics where
  timestamp := 0
  cpuPercent := 0
  memoryPercent := 0
  disk := ⟨0⟩
  network := ⟨0, 0⟩
  memoryUsed := 0
  memoryTotal := 0
  diskTotal := 0
  diskUsed := 0
  diskFree := 0
  totalBytesSent := 0
  totalBytesRecv := 0

/-- What a call has read when it takes the lock. -/
structure Reading where
  cpuPercent : ℚ
  memInfo : VirtualMemoryStat
  diskInfo : UsageStat
  totalSent : Nat
  totalRecv : Nat
  now : Time

def totalSent (counters : List IOCountersStat) : Nat := (counters.map IOCountersStat.bytesSent).sum
def totalRecv (counters : List IOCountersStat) : Nat := (counters.map IOCountersStat.bytesRecv).sum

/-! ## The collector -/

structure Collector where
  latest : HostMetrics
  prevNetSent : Nat
  prevNetRecv : Nat
  prevTime : Time
  hasPrevNet : Bool

def newCollector : Collector := ⟨.zero, 0, 0, 0, false⟩

namespace Collector

/-- The rate since the baseline of a counter that was `prev` and is `total`. -/
def rate (c : Collector) (now : Time) (prev total : Nat) : Nat :=
  if c.hasPrevNet ∧ 0 < seconds (now - c.prevTime) ∧ prev ≤ total then
    perSec (total - prev) (now - c.prevTime)
  else 0

/-- The locked section; `wall` is the time that stamps the metrics. -/
def update (c : Collector) (r : Reading) (wall : Time) : HostMetrics × Collector :=
  let m : HostMetrics := {
    timestamp := Time.unixMilli wall
    cpuPercent := r.cpuPercent
    memoryPercent := r.memInfo.usedPercent
    disk := ⟨r.diskInfo.usedPercent⟩
    network := ⟨c.rate r.now c.prevNetSent r.totalSent, c.rate r.now c.prevNetRecv r.totalRecv⟩
    memoryUsed := r.memInfo.used
    memoryTotal := r.memInfo.total
    diskTotal := r.diskInfo.total
    diskUsed := r.diskInfo.used
    diskFree := r.diskInfo.free
    totalBytesSent := r.totalSent
    totalBytesRecv := r.totalRecv }
  (m, ⟨m, r.totalSent, r.totalRecv, r.now, true⟩)

end Collector

/-! ## The host and its actions -/

/-- The counters and the monotonic clock of the system, and the collector. -/
structure HostState where
  interfaces : List IOCountersStat
  clock : Time
  collector : Collector

inductive CollectAct where
  | cpuPercent
  | virtualMemory
  | diskUsage
  | ioCounters
  | now
  | update (r : Reading)

abbrev CollectAns : CollectAct → Type
  | .cpuPercent => Except String (List ℚ)
  | .virtualMemory => Except String VirtualMemoryStat
  | .diskUsage => Except String UsageStat
  | .ioCounters => Except String (List IOCountersStat)
  | .now => Time
  | .update _ => HostMetrics

/-- What the system contributes to an action: traffic and time since the last one, the
answers of the probes, and the wall clock. -/
structure HostEnv where
  traffic : List IOCountersStat
  ticks : Nat
  cpu : Except String (List ℚ)
  memory : Except String VirtualMemoryStat
  disk : Except String UsageStat
  netError : Option String
  wall : Time

/-- The counters after some traffic; interfaces may appear. -/
def grow : List IOCountersStat → List IOCountersStat → List IOCountersStat
  | [], traffic => traffic
  | counters, [] => counters
  | n :: counters, t :: traffic =>
      ⟨n.bytesSent + t.bytesSent, n.bytesRecv + t.bytesRecv⟩ :: grow counters traffic

def HostState.pass (s : HostState) (env : HostEnv) : HostState :=
  { s with interfaces := grow s.interfaces env.traffic, clock := s.clock + env.ticks }

def host : Machine CollectAct CollectAns HostEnv HostState where
  exec s a env :=
    let s := s.pass env
    match a with
    | .cpuPercent => (env.cpu, s)
    | .virtualMemory => (env.memory, s)
    | .diskUsage => (env.disk, s)
    | .ioCounters =>
        match env.netError with
        | some e => (.error e, s)
        | none => (.ok s.interfaces, s)
    | .now => (s.clock, s)
    | .update r =>
        let (m, collector) := s.collector.update r env.wall
        (m, { s with collector := collector })

abbrev HostProg := Program CollectAct CollectAns
abbrev HostStep := Event CollectAct HostEnv HostState
abbrev HostHistory := List HostStep

abbrev percentWithContext : HostProg (Except String (List ℚ)) := Program.perform CollectAct.cpuPercent
abbrev virtualMemoryWithContext : HostProg (Except String VirtualMemoryStat) :=
  Program.perform CollectAct.virtualMemory
abbrev usageWithContext : HostProg (Except String UsageStat) := Program.perform CollectAct.diskUsage
abbrev ioCountersWithContext : HostProg (Except String (List IOCountersStat)) :=
  Program.perform CollectAct.ioCounters
abbrev timeNow : HostProg Time := Program.perform CollectAct.now
abbrev locked (r : Reading) : HostProg HostMetrics := Program.perform (CollectAct.update r)

def collect : HostProg (Except String HostMetrics) := do
  match ← percentWithContext with
  | .error e => return .error e
  | .ok cpuPercents =>
  match ← virtualMemoryWithContext with
  | .error e => return .error e
  | .ok memInfo =>
  match ← usageWithContext with
  | .error e => return .error e
  | .ok diskInfo =>
  match ← ioCountersWithContext with
  | .error e => return .error e
  | .ok counters =>
  let now ← timeNow
  let m ← locked {
    cpuPercent := cpuPercents.headD 0
    memInfo := memInfo
    diskInfo := diskInfo
    totalSent := totalSent counters
    totalRecv := totalRecv counters
    now := now }
  return .ok m

/-- Any number of calls, from wherever they come. -/
def collectCalls (s : HostState) (calls : Nat) : Config CollectAct CollectAns HostState :=
  ⟨s, List.replicate calls (do
    let _ ← collect
    return ())⟩

/-! ## What the calls count -/

/-- The time over which a call has computed its rates, and the rates. -/
structure Interval where
  start : Time
  stop : Time
  sentPerSec : Nat
  recvPerSec : Nat
deriving DecidableEq

/-- The interval of a step that is the locked section of a call. -/
def counted (e : HostStep) : List Interval :=
  match e.act with
  | .update r =>
      let c := e.before.collector
      if c.hasPrevNet then
        [⟨c.prevTime, r.now, c.rate r.now c.prevNetSent r.totalSent,
          c.rate r.now c.prevNetRecv r.totalRecv⟩]
      else []
  | _ => []

def intervals (trace : HostHistory) : List Interval := trace.flatMap counted

namespace Interval

def NonZero (i : Interval) : Prop := i.sentPerSec ≠ 0 ∨ i.recvPerSec ≠ 0

def Apart (i j : Interval) : Prop := i.stop ≤ j.start ∨ j.stop ≤ i.start

instance (i : Interval) : Decidable i.NonZero := inferInstanceAs (Decidable (_ ∨ _))

instance (i j : Interval) : Decidable (i.Apart j) := inferInstanceAs (Decidable (_ ∨ _))

end Interval

/-- `rate * elapsed`, in bytes times nanoseconds per second. -/
def traffic (rate : Interval → Nat) (trace : HostHistory) : Int :=
  ((intervals trace).map fun i => rate i * (i.stop - i.start)).sum

/-- The baseline of `c` is not behind that of `earlier`. -/
structure Collector.NotBehind (c earlier : Collector) : Prop where
  time : earlier.prevTime ≤ c.prevTime
  sent : earlier.prevNetSent ≤ c.prevNetSent
  recv : earlier.prevNetRecv ≤ c.prevNetRecv

/-- No traffic is counted twice in a run from `start` to `finish`. -/
structure CountedOnce (start : HostState) (trace : HostHistory) (finish : HostState) : Prop where
  forward : ∀ e ∈ trace, e.before.collector.hasPrevNet = true →
    e.after.collector.NotBehind e.before.collector
  disjoint : ((intervals trace).filter fun i => i.NonZero).Pairwise Interval.Apart
  sent : traffic Interval.sentPerSec trace ≤
    (totalSent finish.interfaces - totalSent start.interfaces) * Time.second
  recv : traffic Interval.recvPerSec trace ≤
    (totalRecv finish.interfaces - totalRecv start.interfaces) * Time.second

/-! ## The order of the calls -/

def CollectAct.isIOCounters : CollectAct → Bool
  | .ioCounters => true
  | _ => false

def CollectAct.isNow : CollectAct → Bool
  | .now => true
  | _ => false

def CollectAct.isUpdate : CollectAct → Bool
  | .update _ => true
  | _ => false

/-- When a call has read the counters, or the clock. -/
def readAt (reads : CollectAct → Bool) (call : Nat) (trace : HostHistory) : Nat :=
  trace.findIdx fun e => e.thread == call && reads e.act

/-- A call that takes the lock has read the counters and the clock after every call that
has taken the lock before. -/
def InOrder (past : HostHistory) (e : HostStep) : Prop :=
  e.act.isUpdate = true → ∀ earlier ∈ past, earlier.act.isUpdate = true →
    readAt CollectAct.isIOCounters earlier.thread past ≤ readAt CollectAct.isIOCounters e.thread past ∧
    readAt CollectAct.isNow earlier.thread past ≤ readAt CollectAct.isNow e.thread past

instance (past : HostHistory) (e : HostStep) : Decidable (InOrder past e) :=
  inferInstanceAs (Decidable (_ → ∀ earlier ∈ past, _ → _ ∧ _))

/-! ## Rates that are not rounded up -/

def CollectAct.reading : CollectAct → Option Reading
  | .update r => some r
  | _ => none

/-- What a call that takes the lock divides is clear, for both counters. -/
def ClearRates (e : HostStep) : Prop :=
  let c := e.before.collector
  ∀ r ∈ e.act.reading, c.hasPrevNet = true → c.prevTime < r.now →
    Clear (r.totalSent - c.prevNetSent) (r.now - c.prevTime) ∧
      Clear (r.totalRecv - c.prevNetRecv) (r.now - c.prevTime)

instance (e : HostStep) : Decidable (ClearRates e) :=
  inferInstanceAs (Decidable (∀ r ∈ e.act.reading, _ → _ → _ ∧ _))

/-! ## The world goes forward -/

/-- Neither the counters nor the clock have fallen. -/
structure HostState.Since (s earlier : HostState) : Prop where
  sent : totalSent earlier.interfaces ≤ totalSent s.interfaces
  recv : totalRecv earlier.interfaces ≤ totalRecv s.interfaces
  clock : earlier.clock ≤ s.clock

theorem HostState.Since.refl (s : HostState) : s.Since s :=
  ⟨Nat.le_refl _, Nat.le_refl _, Int.le_refl _⟩

theorem HostState.Since.trans {s middle earlier : HostState} (later : s.Since middle)
    (first : middle.Since earlier) : s.Since earlier :=
  ⟨first.sent.trans later.sent, first.recv.trans later.recv, Int.le_trans first.clock later.clock⟩

theorem totals_grow (counters traffic : List IOCountersStat) :
    totalSent (grow counters traffic) = totalSent counters + totalSent traffic ∧
      totalRecv (grow counters traffic) = totalRecv counters + totalRecv traffic := by
  induction counters generalizing traffic with
  | nil => simp [grow, totalSent, totalRecv]
  | cons n counters ih =>
      cases traffic with
      | nil => simp [grow, totalSent, totalRecv]
      | cons t traffic =>
          obtain ⟨sent, recv⟩ := ih traffic
          simp only [grow, totalSent, totalRecv, List.map_cons, List.sum_cons] at sent recv ⊢
          omega

theorem pass_since (s : HostState) (env : HostEnv) : (s.pass env).Since s := by
  obtain ⟨sent, recv⟩ := totals_grow s.interfaces env.traffic
  constructor
  case sent =>
    show totalSent s.interfaces ≤ totalSent (grow s.interfaces env.traffic)
    omega
  case recv =>
    show totalRecv s.interfaces ≤ totalRecv (grow s.interfaces env.traffic)
    omega
  case clock =>
    exact Int.le_add_of_nonneg_right (Int.natCast_nonneg env.ticks)

/-- Every action but the locked section leaves the collector alone. -/
theorem exec_state (s : HostState) (a : CollectAct) (env : HostEnv) :
    (host.exec s a env).2 = match a with
      | .update r => { s.pass env with collector := (s.collector.update r env.wall).2 }
      | _ => s.pass env := by
  cases a with
  | ioCounters =>
      show (match env.netError with
        | some e => (Except.error e, s.pass env)
        | none => (Except.ok (s.pass env).interfaces, s.pass env)).2 = s.pass env
      split <;> rfl
  | _ => rfl

theorem exec_since (s : HostState) (a : CollectAct) (env : HostEnv) :
    (host.exec s a env).2.Since s := by
  have passed := pass_since s env
  rw [exec_state]
  split
  · exact ⟨passed.sent, passed.recv, passed.clock⟩
  · exact passed

theorem step_since {c c' : Config CollectAct CollectAns HostState} {i : Nat} {env : HostEnv}
    {e : HostStep} (stepped : host.step c i env = some (e, c')) : c'.state.Since c.state := by
  obtain ⟨a, next, -, -, rfl⟩ := Machine.step_eq_some stepped
  exact exec_since c.state a env

theorem run_since {c c' : Config CollectAct CollectAns HostState} {trace : HostHistory}
    (run : host.Run c trace c') : c'.state.Since c.state := by
  induction run with
  | start => exact .refl _
  | snoc _ step ih => exact (step_since step).trans ih

/-- What a run has reached after one of its events lies behind what it reaches after a
later one. -/
theorem events_since {c c' : Config CollectAct CollectAns HostState} {events : HostHistory}
    (run : host.Run c events c') {m n : Nat} (order : m ≤ n) {e e' : HostStep}
    (first : events[m]? = some e) (second : events[n]? = some e') : e'.after.Since e.after := by
  obtain ⟨inside, here⟩ := List.getElem?_eq_some_iff.mp first
  have split : events = events.take m ++ e :: events.drop (m + 1) := by
    rw [← here, ← List.drop_eq_getElem_cons inside, List.take_append_drop]
  rcases Nat.lt_or_eq_of_le order with later | rfl
  · rw [split] at run
    obtain ⟨c₁, c₂, -, step, rest⟩ := run.at
    have member : e' ∈ events.drop (m + 1) :=
      List.mem_of_getElem? ((List.getElem?_drop).trans (by rwa [Nat.add_sub_cancel' (by omega)]) :
        (events.drop (m + 1))[n - (m + 1)]? = some e')
    obtain ⟨pre, post, whole⟩ := List.append_of_mem member
    rw [whole] at rest
    obtain ⟨c₃, c₄, between, step', -⟩ := rest.at
    rw [(Machine.step_states step).2.2.2.1, (Machine.step_states step').2.2.2.1]
    exact (step_since step').trans (run_since between)
  · obtain rfl := Option.some.inj (first.symm.trans second)
    exact .refl _

/-! ## One call -/

/-- The readings that the call `i` took in this history. -/
def HasRead (i : Nat) (trace : HostHistory) (sent recv : Nat) (now : Time) : Prop :=
  ∃ io clock, trace.find? (fun e => e.thread == i && e.act.isIOCounters) = some io ∧
    trace.find? (fun e => e.thread == i && e.act.isNow) = some clock ∧
    sent = totalSent io.after.interfaces ∧ recv = totalRecv io.after.interfaces ∧
    now = clock.after.clock

/-- A call takes the lock with what it has read. -/
def CollectIssues (i : Nat) (h : HostHistory) : CollectAct → Prop
  | .update r => HasRead i h r.totalSent r.totalRecv r.now
  | _ => True

theorem ioCounters_ok {s : HostState} {env : HostEnv} {counters : List IOCountersStat}
    (read : (host.exec s .ioCounters env).1 = .ok counters) : counters = (s.pass env).interfaces := by
  change (match env.netError with
    | some e => (Except.error e, s.pass env)
    | none => (Except.ok (s.pass env).interfaces, s.pass env)).1 = .ok counters at read
  split at read
  · cases read
  · exact (Except.ok.inj read).symm

theorem collect_issues (i : Nat) :
    (do
      let _ ← collect
      return () : HostProg Unit).wp (host.historyLogic i (CollectIssues i)) (fun _ _ => True) [] := by
  rw [Program.wp_bind]
  unfold collect
  apply Machine.wp_perform trivial
  intro s₁ env₁
  split
  · trivial
  apply Machine.wp_perform trivial
  intro s₂ env₂
  split
  · trivial
  apply Machine.wp_perform trivial
  intro s₃ env₃
  split
  · trivial
  apply Machine.wp_perform trivial
  intro s₄ env₄
  split
  · trivial
  rename_i counters read
  apply Machine.wp_perform trivial
  intro s₅ env₅
  refine Machine.wp_perform ?_ fun s₆ env₆ => trivial
  have same : counters = (s₄.pass env₄).interfaces := ioCounters_ok read
  refine ⟨host.event i s₄ .ioCounters env₄, host.event i s₅ .now env₅, ?_, ?_, ?_, ?_, rfl⟩
  · simp [CollectAct.isIOCounters]
  · simp [CollectAct.isNow]
  · rw [Machine.event_after, exec_state, same]
  · rw [Machine.event_after, exec_state, same]

/-! ## Readings in a run -/

theorem HasRead.append {i : Nat} {trace : HostHistory} {sent recv : Nat} {now : Time}
    (has : HasRead i trace sent recv now) (later : HostHistory) :
    HasRead i (trace ++ later) sent recv now := by
  obtain ⟨io, clock, readIO, readNow, values⟩ := has
  refine ⟨io, clock, ?_, ?_, values⟩
  · rw [List.find?_append, readIO]
    rfl
  · rw [List.find?_append, readNow]
    rfl

section Runs

variable {start : HostState} {calls : Nat} {trace : HostHistory}
  {c : Config CollectAct CollectAns HostState}

theorem find_own (i : Nat) (reads : CollectAct → Bool) (trace : HostHistory) :
    (own i trace).find? (fun e => e.thread == i && reads e.act) =
      trace.find? fun e => e.thread == i && reads e.act := by
  rw [own, List.find?_filter]
  refine congrArg (List.find? · trace) (funext fun e => ?_)
  cases e.thread == i <;> simp

theorem hasRead_of_update (pre post : HostHistory) {e : HostStep} {r : Reading}
    (run : host.Run (collectCalls start calls) (pre ++ e :: post) c) (updates : e.act = .update r) :
    HasRead e.thread pre r.totalSent r.totalRecv r.now := by
  obtain ⟨p, found⟩ := run.thread_some (List.mem_append_right pre List.mem_cons_self)
  have isCall : p = (do
      let _ ← collect
      return ()) := (List.mem_replicate.mp (List.mem_of_getElem? found)).2
  have issued := run.issued found (isCall ▸ collect_issues e.thread)
  rw [updates] at issued
  obtain ⟨io, clock, readIO, readNow, values⟩ := issued
  exact ⟨io, clock, (find_own _ _ _).symm.trans readIO, (find_own _ _ _).symm.trans readNow, values⟩

/-- Readings lie between the start and the end of the run. -/
theorem HasRead.bounds {i : Nat} {sent recv : Nat} {now : Time}
    (run : host.Run (collectCalls start calls) trace c) (has : HasRead i trace sent recv now) :
    (totalSent start.interfaces ≤ sent ∧ sent ≤ totalSent c.state.interfaces) ∧
      totalRecv start.interfaces ≤ recv ∧ recv ≤ totalRecv c.state.interfaces := by
  obtain ⟨io, -, readIO, -, rfl, rfl, -⟩ := has
  obtain ⟨pre, post, rfl⟩ := List.append_of_mem (List.mem_of_find?_eq_some readIO)
  obtain ⟨c₁, c₂, first, step, rest⟩ := run.at
  have before : c₂.state.Since start := (step_since step).trans (run_since first)
  have after : c.state.Since c₂.state := run_since rest
  rw [(Machine.step_states step).2.2.2.1]
  exact ⟨⟨before.sent, after.sent⟩, before.recv, after.recv⟩

/-- Later readings are not smaller. -/
theorem HasRead.le {i j : Nat} {sent recv sent' recv' : Nat} {now now' : Time}
    (run : host.Run (collectCalls start calls) trace c) (first : HasRead i trace sent recv now)
    (second : HasRead j trace sent' recv' now')
    (counters : readAt CollectAct.isIOCounters i trace ≤ readAt CollectAct.isIOCounters j trace)
    (clocks : readAt CollectAct.isNow i trace ≤ readAt CollectAct.isNow j trace) :
    (sent ≤ sent' ∧ recv ≤ recv') ∧ now ≤ now' := by
  obtain ⟨io, clock, readIO, readNow, rfl, rfl, rfl⟩ := first
  obtain ⟨io', clock', readIO', readNow', rfl, rfl, rfl⟩ := second
  rw [List.find?_eq_getElem?_findIdx] at readIO readNow readIO' readNow'
  have traffic := events_since run counters readIO readIO'
  have time := events_since run clocks readNow readNow'
  exact ⟨⟨traffic.sent, traffic.recv⟩, time.clock⟩

end Runs

/-! ## Rates -/

/-- A rate accounts for no more than the growth since the baseline. -/
theorem rate_mul_le (c : Collector) {now : Time} {prev total : Nat} (grown : prev ≤ total)
    (clear : c.hasPrevNet = true → c.prevTime < now → Clear (total - prev) (now - c.prevTime)) :
    c.rate now prev total * (now - c.prevTime) ≤ (total - prev : Int) * Time.second := by
  rw [Collector.rate]
  split
  · rename_i counts
    obtain ⟨has, passed, -⟩ := counts
    have positive : 0 < now - c.prevTime := seconds_pos_iff.mp passed
    rw [← Int.ofNat_sub grown]
    exact perSec_mul_le positive (clear has (Int.lt_of_sub_pos positive))
  · rw [Int.natCast_zero, Int.zero_mul]
    exact Int.mul_nonneg (by omega) (by decide)

/-! ## The account -/

/-- What the calls of a run from `start` have counted, against the baseline of the
collector: the readings of a call that took the lock. -/
structure Accounted (start : HostState) (trace : HostHistory) (c : Collector) : Prop where
  base : c.hasPrevNet = true → ∃ e ∈ trace, e.act.isUpdate = true ∧
    HasRead e.thread trace c.prevNetSent c.prevNetRecv c.prevTime
  fresh : c.hasPrevNet = false → intervals trace = []
  past : ∀ i ∈ intervals trace, i.stop ≤ c.prevTime
  ordered : (intervals trace).Pairwise fun i j => i.stop ≤ j.start
  sent : c.hasPrevNet = true →
    traffic Interval.sentPerSec trace ≤ (c.prevNetSent - totalSent start.interfaces) * Time.second
  recv : c.hasPrevNet = true →
    traffic Interval.recvPerSec trace ≤ (c.prevNetRecv - totalRecv start.interfaces) * Time.second
  forward : ∀ e ∈ trace, e.before.collector.hasPrevNet = true →
    e.after.collector.NotBehind e.before.collector

theorem intervals_concat (trace : HostHistory) (e : HostStep) :
    intervals (trace ++ [e]) = intervals trace ++ counted e := by
  rw [intervals, List.flatMap_append, List.flatMap_singleton]
  rfl

theorem traffic_concat (rate : Interval → Nat) (trace : HostHistory) (e : HostStep) :
    traffic rate (trace ++ [e]) =
      traffic rate trace + ((counted e).map fun i => rate i * (i.stop - i.start)).sum := by
  rw [traffic, intervals_concat, List.map_append, List.sum_append]
  rfl

section Accounts

variable {start : HostState} {calls : Nat} {trace : HostHistory}
  {c c' : Config CollectAct CollectAns HostState} {e : HostStep}

theorem forward_concat (forward : ∀ e ∈ trace, e.before.collector.hasPrevNet = true →
      e.after.collector.NotBehind e.before.collector)
    (last : e.before.collector.hasPrevNet = true →
      e.after.collector.NotBehind e.before.collector) :
    ∀ e' ∈ trace ++ [e], e'.before.collector.hasPrevNet = true →
      e'.after.collector.NotBehind e'.before.collector := by
  intro e' member was
  rcases List.mem_append.mp member with earlier | now
  · exact forward e' earlier was
  · obtain rfl := List.mem_singleton.mp now
    exact last was

theorem traffic_eq_zero (none : intervals trace = []) (rate : Interval → Nat) :
    traffic rate trace = 0 := by
  rw [traffic, none]
  rfl

/-- What has grown, times a second. -/
theorem grown_nonneg {before now : Nat} (grown : before ≤ now) :
    0 ≤ ((now : Int) - before) * Time.second := by
  apply Int.mul_nonneg
  · exact Int.sub_nonneg_of_le (Int.ofNat_le.mpr grown)
  · decide

theorem grown_mono {before baseline now : Nat} (grown : baseline ≤ now) :
    ((baseline : Int) - before) * Time.second ≤ ((now : Int) - before) * Time.second := by
  apply Int.mul_le_mul_of_nonneg_right
  · exact Int.sub_le_sub_right (Int.ofNat_le.mpr grown) _
  · decide

theorem Accounted.empty {collector : Collector} (unset : collector.hasPrevNet = false) :
    Accounted start [] collector where
  base has := by simp [unset] at has
  fresh _ := rfl
  past := List.forall_mem_nil _
  ordered := List.Pairwise.nil
  sent has := by simp [unset] at has
  recv has := by simp [unset] at has
  forward := List.forall_mem_nil _

/-- A step that is no locked section. -/
theorem Accounted.other {collector : Collector} (account : Accounted start trace collector)
    (other : e.act.isUpdate = false) (same : e.after.collector = e.before.collector) :
    Accounted start (trace ++ [e]) collector := by
  have none : counted e = [] := by
    rw [counted.eq_def]
    split
    · rename_i r updates
      rw [updates] at other
      cases other
    · rfl
  constructor
  case base =>
    intro has
    obtain ⟨e', member, updates, read⟩ := account.base has
    exact ⟨e', List.mem_append_left _ member, updates, read.append [e]⟩
  case fresh =>
    rw [intervals_concat, none, List.append_nil]
    exact account.fresh
  case past =>
    rw [intervals_concat, none, List.append_nil]
    exact account.past
  case ordered =>
    rw [intervals_concat, none, List.append_nil]
    exact account.ordered
  case sent =>
    rw [traffic_concat, none, List.map_nil, List.sum_nil, Int.add_zero]
    exact account.sent
  case recv =>
    rw [traffic_concat, none, List.map_nil, List.sum_nil, Int.add_zero]
    exact account.recv
  case forward =>
    apply forward_concat account.forward
    intro _
    rw [same]
    exact ⟨Int.le_refl _, Nat.le_refl _, Nat.le_refl _⟩

theorem counted_update {collector : Collector} {r : Reading} (updates : e.act = .update r)
    (before : e.before.collector = collector) :
    counted e = if collector.hasPrevNet then
      [⟨collector.prevTime, r.now, collector.rate r.now collector.prevNetSent r.totalSent,
        collector.rate r.now collector.prevNetRecv r.totalRecv⟩] else [] := by
  rw [counted, updates, before]

/-- The first locked section only sets the baseline. -/
theorem Accounted.first {collector : Collector} (account : Accounted start trace collector)
    (has : collector.hasPrevNet = false) {r : Reading} {wall : Time} (updates : e.act = .update r)
    (before : e.before.collector = collector)
    (read : HasRead e.thread trace r.totalSent r.totalRecv r.now)
    (bounds : totalSent start.interfaces ≤ r.totalSent ∧ totalRecv start.interfaces ≤ r.totalRecv) :
    Accounted start (trace ++ [e]) (collector.update r wall).2 := by
  have none : intervals (trace ++ [e]) = [] := by
    rw [intervals_concat, account.fresh has, counted_update updates before, has]
    rfl
  constructor
  case base => exact fun _ => ⟨e, List.mem_concat_self, by rw [updates]; rfl, read.append [e]⟩
  case fresh => exact fun unset => by cases unset
  case past => simp [none]
  case ordered => simp [none]
  case sent =>
    intro _
    rw [traffic_eq_zero none]
    exact grown_nonneg bounds.1
  case recv =>
    intro _
    rw [traffic_eq_zero none]
    exact grown_nonneg bounds.2
  case forward =>
    apply forward_concat account.forward
    intro was
    rw [before, has] at was
    cases was

/-- What has been counted up to the baseline, and what is counted from it. -/
theorem traffic_step {rate : Interval → Nat} {i : Interval} {before baseline total : Int}
    (earlier : traffic rate trace ≤ (baseline - before) * Time.second) (one : counted e = [i])
    (now : rate i * (i.stop - i.start) ≤ (total - baseline) * Time.second) :
    traffic rate (trace ++ [e]) ≤ (total - before) * Time.second := by
  rw [traffic_concat, one]
  simp only [List.map_cons, List.map_nil, List.sum_cons, List.sum_nil, Int.add_zero]
  calc traffic rate trace + rate i * (i.stop - i.start)
      ≤ (baseline - before) * Time.second + (total - baseline) * Time.second :=
        Int.add_le_add earlier now
    _ = (total - before) * Time.second := by
        rw [← Int.add_mul]
        congr 1
        omega

/-- A later one counts from the baseline to its own readings. -/
theorem Accounted.later {collector : Collector} (account : Accounted start trace collector)
    (has : collector.hasPrevNet = true) {r : Reading} {wall : Time} (updates : e.act = .update r)
    (before : e.before.collector = collector)
    (after : e.after.collector = (collector.update r wall).2)
    (read : HasRead e.thread trace r.totalSent r.totalRecv r.now)
    (order : (collector.prevNetSent ≤ r.totalSent ∧ collector.prevNetRecv ≤ r.totalRecv) ∧
      collector.prevTime ≤ r.now)
    (clear : ClearRates e) :
    Accounted start (trace ++ [e]) (collector.update r wall).2 := by
  obtain ⟨⟨sent, recv⟩, time⟩ := order
  have divided : collector.hasPrevNet = true → collector.prevTime < r.now →
      Clear (r.totalSent - collector.prevNetSent) (r.now - collector.prevTime) ∧
        Clear (r.totalRecv - collector.prevNetRecv) (r.now - collector.prevTime) := by
    have rates := clear r (by rw [updates]; rfl)
    rwa [before] at rates
  have one := counted_update updates before
  rw [if_pos has] at one
  constructor
  case base => exact fun _ => ⟨e, List.mem_concat_self, by rw [updates]; rfl, read.append [e]⟩
  case fresh => exact fun unset => by cases unset
  case past =>
    intro i member
    rw [intervals_concat, one] at member
    rcases List.mem_append.mp member with earlier | last
    · exact Int.le_trans (account.past i earlier) time
    · rw [List.mem_singleton.mp last]
      exact Int.le_refl _
  case ordered =>
    rw [intervals_concat, one, List.pairwise_append]
    refine ⟨account.ordered, List.pairwise_singleton _ _, fun i member j last => ?_⟩
    rw [List.mem_singleton.mp last]
    exact account.past i member
  case sent =>
    intro _
    apply traffic_step (account.sent has) one
    exact rate_mul_le collector sent fun has passed => (divided has passed).1
  case recv =>
    intro _
    apply traffic_step (account.recv has) one
    exact rate_mul_le collector recv fun has passed => (divided has passed).2
  case forward =>
    apply forward_concat account.forward
    intro _
    rw [before, after]
    exact ⟨time, sent, recv⟩

/-- Every run in order with clear rates keeps the account. -/
theorem run_accounted (new : start.collector = newCollector)
    (run : host.Run (collectCalls start calls) trace c)
    (orderly : Everywhere (fun past e => InOrder past e ∧ ClearRates e) trace) :
    Accounted start trace c.state.collector := by
  induction run with
  | start =>
      have unset : start.collector.hasPrevNet = false := by rw [new]; rfl
      exact .empty unset
  | @snoc trace c₁ c₂ i env e run step ih =>
      have account := ih orderly.prefix
      have whole := run.snoc step
      obtain ⟨a, next, -, here, there⟩ := Machine.step_eq_some step
      have before : e.before = c₁.state := by rw [here]; rfl
      have act : e.act = a := by rw [here]; rfl
      have after : e.after = (host.exec c₁.state a env).2 := by rw [here]; rfl
      have reached : c₂.state = e.after := by rw [there, after]
      rw [exec_state] at after
      cases kind : a.isUpdate with
      | false =>
          have same : e.after.collector = c₁.state.collector := by
            rw [after]
            split
            · cases kind
            · rfl
          rw [reached, same]
          exact account.other (by rw [act, kind]) (by rw [same, before])
      | true =>
          obtain ⟨r, rfl⟩ : ∃ r, a = .update r := by
            cases a with
            | update r => exact ⟨r, rfl⟩
            | _ => cases kind
          have updated : e.after.collector = (c₁.state.collector.update r env.wall).2 := by
            rw [after]
          have read := hasRead_of_update trace [] whole act
          have bounds := read.bounds run
          rw [reached, updated]
          have same : e.before.collector = c₁.state.collector := by rw [before]
          cases has : c₁.state.collector.hasPrevNet with
          | false => exact account.first has act same read ⟨bounds.1.1, bounds.2.1⟩
          | true =>
              obtain ⟨e', member, updates, base⟩ := account.base has
              obtain ⟨inOrder, clear⟩ := Everywhere.at orderly
              obtain ⟨counters, clocks⟩ := inOrder (by rw [act]; rfl) e' member updates
              exact account.later has act same updated read (base.le run read counters clocks) clear

end Accounts

/-- **Traffic is counted once.**  In every run of any number of calls that take the lock
in the order of their readings and divide what is clear, the baseline never moves
backwards, the intervals of non-zero rates are pairwise disjoint, and the rates times their
intervals add up to no more than the counters have grown. -/
theorem collect_counts_once (start : HostState) (calls : Nat) (new : start.collector = newCollector)
    {trace : HostHistory} {c : Config CollectAct CollectAns HostState}
    (run : host.Run (collectCalls start calls) trace c)
    (orderly : Everywhere (fun past e => InOrder past e ∧ ClearRates e) trace) :
    CountedOnce start trace c.state := by
  have account := run_accounted new run orderly
  have apart : ((intervals trace).filter fun i => i.NonZero).Pairwise Interval.Apart :=
    (account.ordered.imp fun before => .inl before).sublist List.filter_sublist
  cases has : c.state.collector.hasPrevNet with
  | false =>
      have since : c.state.Since start := run_since run
      refine ⟨account.forward, apart, ?_, ?_⟩
      · rw [traffic_eq_zero (account.fresh has)]
        exact grown_nonneg since.sent
      · rw [traffic_eq_zero (account.fresh has)]
        exact grown_nonneg since.recv
  | true =>
      obtain ⟨e, -, -, read⟩ := account.base has
      have bounds := read.bounds run
      refine ⟨account.forward, apart, Int.le_trans (account.sent has) ?_,
        Int.le_trans (account.recv has) ?_⟩
      · exact grown_mono bounds.1.2
      · exact grown_mono bounds.2.2

/-! ## A call that is overtaken -/

/-- `bytes` arrive and `seconds` pass before the action. -/
def passes (bytes seconds : Nat) : HostEnv where
  traffic := [⟨bytes, 0⟩]
  ticks := seconds * 1000000000
  cpu := .ok []
  memory := .ok ⟨0, 0, 0⟩
  disk := .ok ⟨0, 0, 0, 0⟩
  netError := none
  wall := 0

def freshHost : HostState := ⟨[⟨0, 0⟩], 0, newCollector⟩

/-- The readings of a call, so many bytes and a second after those before it. -/
def reads (call bytes : Nat) : List (Nat × HostEnv) :=
  [(call, passes 0 0), (call, passes 0 0), (call, passes 0 0), (call, passes bytes 0),
    (call, passes 0 1)]

def locks (call : Nat) : Nat × HostEnv := (call, passes 0 0)

/-- Call 2 takes the lock between the readings of call 1 and its lock; call 3 comes last. -/
def overtaking : List (Nat × HostEnv) :=
  reads 0 0 ++ [locks 0] ++ reads 1 100 ++ reads 2 100 ++ [locks 2, locks 1] ++ reads 3 100 ++
    [locks 3]

/-- Call 1 sets the baseline back, so that call 2 and call 3 both count the third second:
four hundred bytes in all, of the three hundred that were sent. -/
theorem overtaken_counts_twice :
    let run := host.runFor (collectCalls freshHost 4) overtaking
    ¬ CountedOnce freshHost run.1 run.2.state ∧
      intervals run.1 = [⟨1000000000, 3000000000, 100, 0⟩, ⟨3000000000, 2000000000, 0, 0⟩,
        ⟨2000000000, 4000000000, 100, 0⟩] ∧
      traffic Interval.sentPerSec run.1 = 400 * Time.second ∧
      totalSent run.2.state.interfaces = 300 := by
  have found : intervals (host.runFor (collectCalls freshHost 4) overtaking).1 =
      [⟨1000000000, 3000000000, 100, 0⟩, ⟨3000000000, 2000000000, 0, 0⟩,
        ⟨2000000000, 4000000000, 100, 0⟩] := by decide +kernel
  refine ⟨fun once => ?_, found, by decide +kernel, by decide +kernel⟩
  have apart := once.disjoint
  rw [found] at apart
  revert apart
  decide +kernel

/-- Two calls one after the other, the second 2000000003 bytes and 2000000001 nanoseconds
after the first. -/
def roundedUp : List (Nat × HostEnv) :=
  reads 0 0 ++ [locks 0, locks 1, locks 1, locks 1, (1, passes 2000000003 0),
    (1, { passes 0 0 with ticks := 2000000001 }), locks 1]

/-- A rate of 1000000001 bytes per second, over a time in which it takes one byte more than
there was in every second. -/
theorem rounded_up_counts_more :
    let run := host.runFor (collectCalls freshHost 2) roundedUp
    Everywhere InOrder run.1 ∧ ¬ CountedOnce freshHost run.1 run.2.state ∧
      (intervals run.1).map Interval.sentPerSec = [1000000001] := by
  refine ⟨by decide +kernel, fun once => ?_, by decide +kernel⟩
  have sent := once.sent
  revert sent
  decide +kernel

/-- Two calls one after the other. -/
theorem collect_counts_once_twice :
    let run := host.runFor (collectCalls freshHost 2)
      (reads 0 0 ++ [locks 0] ++ reads 1 100 ++ [locks 1])
    CountedOnce freshHost run.1 run.2.state :=
  collect_counts_once freshHost 2 rfl (Machine.run_runFor _ _ _) (by decide +kernel)

end VpsDashboard.Host
