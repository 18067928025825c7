/-
# VpsDashboard.Server.MetricsService — what the history endpoint answers

`main` starts one goroutine that measures the host on every tick and records what it
measured, and another that measures it for the sockets; a request for the current
metrics measures it once more, and a request for the history reads the clock and then the
buffer.  All of them share the collector, and only the first one fills the history.
Between a measurement and its `Record`, and between the clock and the buffer, anything
else may happen.

`history_answers_measured` — in every interleaving, as long as the wall clock does not
step back: the buffer holds exactly the last of the sampler's own measurements that are
young enough, all of them recorded but possibly the one it has just made; and an answer
of the endpoint is in order, lies in the window that was asked for, has no point between
whose neighbours nothing was measured, and is empty only where the buffer has nothing.
The averages of the measured values are exact where the source has `float64`.
-/
import VpsDashboard.Frontend.MetricsHistory
import VpsDashboard.Host.Collector

namespace VpsDashboard.Server

open Foundation Host Frontend

set_option autoImplicit false

/-! ## The shared state and its actions -/

/-- The collector, with its history beside it. -/
structure MetricsState where
  host : HostState
  history : History

inductive MetricsAct where
  | host (a : CollectAct)
  | record (m : HostMetrics)
  | now
  | range (now : Time) (rangeDur : Duration) (maxPoints : Int)

abbrev MetricsAns : MetricsAct → Type
  | .host a => CollectAns a
  | .record _ => Unit
  | .now => Time
  | .range _ _ _ => List Sample

/-- `Record` reads the clock under its lock, `Range` before it. -/
def metricsMachine : Machine MetricsAct MetricsAns HostEnv MetricsState where
  exec
    | s, .host a, env => ((host.exec s.host a env).1, { s with host := (host.exec s.host a env).2 })
    | s, .record m, env => ((), { s with history := s.history.record env.wall m.toMetrics })
    | s, .now, env => (env.wall, s)
    | s, .range now rangeDur maxPoints, _ => (s.history.range now rangeDur maxPoints, s)

abbrev MetricsProg := Program MetricsAct MetricsAns
abbrev MetricsStep := Event MetricsAct HostEnv MetricsState
abbrev MetricsTrace := List MetricsStep

namespace MetricsService

def measure : MetricsProg (Except String HostMetrics) :=
  collect.lift MetricsAct.host fun _ answer => answer

/-! ## The goroutines -/

/-- A tick of `Collector.Run`. -/
def sample : MetricsProg Unit := do
  match ← measure with
  | .error _ => return ()
  | .ok m => Program.perform (MetricsAct.record m)

/-- So many ticks of it. -/
def sampler : Nat → MetricsProg Unit
  | 0 => return ()
  | ticks + 1 => do
      sample
      sampler ticks

/-- `broadcastOnce` and `handleMetricsSnapshot`, as far as the collector goes. -/
def broadcastOnce : MetricsProg Unit := do
  let _ ← measure
  return ()

def broadcaster : Nat → MetricsProg Unit
  | 0 => return ()
  | ticks + 1 => do
      broadcastOnce
      broadcaster ticks

/-- `Range`, with its reading of the clock. -/
def range (rangeDur : Duration) (maxPoints : Int) : MetricsProg (List Sample) := do
  let now ← Program.perform MetricsAct.now
  Program.perform (MetricsAct.range now rangeDur maxPoints)

inductive MetricsRequest where
  | snapshot
  | history (url : String)

/-- The duration and the number of points that a request asks for. -/
def requestedRange (url : String) : Duration × Int :=
  parseHistoryRange ((queryParameter "range" url).getD [])

def MetricsRequest.serve : MetricsRequest → MetricsProg Unit
  | .snapshot => broadcastOnce
  | .history url => do
      let _ ← range (requestedRange url).1 (requestedRange url).2
      return ()

/-- What `main` starts, and the requests of a run. -/
def serveMetrics (start : HostState) (samples broadcasts : Nat) (requests : List MetricsRequest) :
    Config MetricsAct MetricsAns MetricsState :=
  ⟨⟨start, newHistory (24 * Time.hour) 50000⟩,
    sampler samples :: broadcaster broadcasts :: requests.map MetricsRequest.serve⟩

/-! ## What a run measures and records -/

/-- The sample of a measurement, which takes place under the lock of the collector. -/
def measurement (e : MetricsStep) : Option Sample :=
  match e.act with
  | .host (.update r) => some (e.before.host.collector.update r e.env.wall).1.toMetrics.sample
  | _ => none

/-- The call of `Record` that a step is. -/
def recording (e : MetricsStep) : Option (Time × Metrics) :=
  match e.act with
  | .record m => some (e.env.wall, m.toMetrics)
  | _ => none

def calls (trace : MetricsTrace) : List (Time × Metrics) := trace.filterMap recording

def recorded (trace : MetricsTrace) : List Sample := (calls trace).map fun call => call.2.sample

/-- The measurements of the sampler. -/
def measured (trace : MetricsTrace) : List Sample := (own 0 trace).filterMap measurement

/-- What the history holds after the calls of a run. -/
def youngest (trace : MetricsTrace) : List Sample :=
  match (calls trace).getLast? with
  | none => []
  | some (wall, _) =>
      lastOf 50000 (fun s => Time.unixMilli (wall - 24 * Time.hour) ≤ s.timestamp) (recorded trace)

/-- The history is made of the sampler's measurements. -/
structure Kept (trace : MetricsTrace) (history : History) : Prop where
  samples : history.samples = youngest trace
  recorded : recorded trace <+: measured trace
  pending : (measured trace).length ≤ (MetricsService.recorded trace).length + 1

/-- How the request `url` is answered by the step `e` after `pre`, which has read the clock
at `now`. -/
structure Answers (pre : MetricsTrace) (e : MetricsStep) (url : String) (now : Time)
    (answer : List Sample) : Prop where
  handler : answer = handleMetricsHistory e.before.history now url
  clock : ∃ read ∈ own e.thread pre, read.act = .now ∧ read.env.wall = now
  ordered : answer.Pairwise fun a b => a.timestamp ≤ b.timestamp
  window : ∀ p ∈ answer, Time.unixMilli (now - (requestedRange url).1) ≤ p.timestamp ∧
    p.timestamp ≤ Time.unixMilli e.env.wall
  within : ∀ p ∈ answer, Within ((measured pre).filter fun s =>
    Time.unixMilli (now - (requestedRange url).1) ≤ s.timestamp) p
  empty : answer = [] ↔
    ∀ s ∈ youngest pre, s.timestamp < Time.unixMilli (now - (requestedRange url).1)

/-! ## The sampler records what it has measured -/

/-- Every measurement has been recorded. -/
def Settled (h : MetricsTrace) : Prop := h.filterMap measurement = recorded h

/-- A measurement is still to be recorded. -/
def Pending (h : MetricsTrace) (s : Sample) : Prop := h.filterMap measurement = recorded h ++ [s]

/-- Thread 0 measures when it has nothing to record and records what it has measured; a
request asks for the range of its parameter, at a time that it has read. -/
def Issues (requests : List MetricsRequest) (i : Nat) (h : MetricsTrace) : MetricsAct → Prop
  | .record m => i = 0 ∧ Pending h m.toMetrics.sample
  | .host (.update _) => i = 0 → Settled h
  | .range now rangeDur maxPoints => ∃ url, requests[i - 2]? = some (.history url) ∧
      requestedRange url = (rangeDur, maxPoints) ∧ ∃ read ∈ h, read.act = .now ∧ read.env.wall = now
  | _ => True

variable {requests : List MetricsRequest} {trace pre : MetricsTrace}

theorem recorded_concat (h : MetricsTrace) (e : MetricsStep) :
    recorded (h ++ [e]) = recorded h ++ ((recording e).map fun call => call.2.sample).toList := by
  rw [recorded, calls, List.filterMap_append, List.map_append, ← calls, ← recorded]
  cases found : recording e <;> simp [found]

theorem measurement_concat (h : MetricsTrace) (e : MetricsStep) :
    (h ++ [e]).filterMap measurement = h.filterMap measurement ++ (measurement e).toList := by
  rw [List.filterMap_append]
  cases found : measurement e <;> simp [found]

/-- A step that neither measures nor records. -/
theorem Settled.other {h : MetricsTrace} (settled : Settled h) {e : MetricsStep}
    (unmeasured : measurement e = none) (unrecorded : recording e = none) :
    Settled (h ++ [e]) := by
  rw [Settled, measurement_concat, recorded_concat, unmeasured, unrecorded, settled]
  rfl

theorem Settled.measure {h : MetricsTrace} (settled : Settled h) {e : MetricsStep} {s : Sample}
    (measured : measurement e = some s) (unrecorded : recording e = none) :
    Pending (h ++ [e]) s := by
  rw [Pending, measurement_concat, recorded_concat, measured, unrecorded, settled]
  simp

theorem Pending.record {h : MetricsTrace} {s : Sample} (pending : Pending h s) {e : MetricsStep}
    (unmeasured : measurement e = none)
    (records : (recording e).map (fun call => call.2.sample) = some s) : Settled (h ++ [e]) := by
  rw [Settled, measurement_concat, recorded_concat, unmeasured, records, pending]
  simp

theorem measure_issues {h : MetricsTrace} (settled : Settled h) :
    measure.wp (metricsMachine.historyLogic 0 (Issues requests 0))
      (fun answer h' => match answer with
        | .error _ => Settled h'
        | .ok m => Pending h' m.toMetrics.sample) h := by
  rw [measure, Program.wp_lift]
  unfold collect
  apply Machine.wp_through_perform trivial
  intro s₁ env₁
  have settled₁ := settled.other (e := metricsMachine.event 0 s₁ (.host .cpuPercent) env₁) rfl rfl
  split
  · exact settled₁
  apply Machine.wp_through_perform trivial
  intro s₂ env₂
  have settled₂ := settled₁.other
    (e := metricsMachine.event 0 s₂ (.host .virtualMemory) env₂) rfl rfl
  split
  · exact settled₂
  apply Machine.wp_through_perform trivial
  intro s₃ env₃
  have settled₃ := settled₂.other (e := metricsMachine.event 0 s₃ (.host .diskUsage) env₃) rfl rfl
  split
  · exact settled₃
  apply Machine.wp_through_perform trivial
  intro s₄ env₄
  have settled₄ := settled₃.other (e := metricsMachine.event 0 s₄ (.host .ioCounters) env₄) rfl rfl
  split
  · exact settled₄
  apply Machine.wp_through_perform trivial
  intro s₅ env₅
  have settled₅ := settled₄.other (e := metricsMachine.event 0 s₅ (.host .now) env₅) rfl rfl
  refine Machine.wp_through_perform (fun _ => settled₅) fun s₆ env₆ => ?_
  exact settled₅.measure rfl rfl

theorem sampler_issues (ticks : Nat) {h : MetricsTrace} (settled : Settled h) :
    (sampler ticks).wp (metricsMachine.historyLogic 0 (Issues requests 0)) (fun _ _ => True) h := by
  induction ticks generalizing h with
  | zero => trivial
  | succ ticks ih =>
      rw [sampler, Program.wp_bind, sample, Program.wp_bind]
      refine Program.wp_mono _ ?_ (measure_issues settled)
      intro answer h' measured
      cases answer with
      | error _ => exact ih measured
      | ok m =>
          refine ⟨⟨rfl, measured⟩, ?_⟩
          rintro _ _ ⟨s, env, rfl, rfl⟩
          exact ih (Pending.record measured rfl rfl)

/-! ## The others record nothing -/

theorem measure_permitted {i : Nat} (other : i ≠ 0)
    {Q : Except String HostMetrics → MetricsTrace → Prop} (all : ∀ answer h', Q answer h')
    (h : MetricsTrace) :
    measure.wp (metricsMachine.historyLogic i (Issues requests i)) Q h := by
  apply Program.wp_of_performs _ (Program.performs_lift _ _ collect) _ all
  rintro k _ ⟨a, rfl⟩
  cases a with
  | update r => exact fun first => absurd first other
  | _ => trivial

theorem broadcaster_issues (ticks : Nat) {i : Nat} (other : i ≠ 0) (h : MetricsTrace) :
    (broadcaster ticks).wp (metricsMachine.historyLogic i (Issues requests i))
      (fun _ _ => True) h := by
  induction ticks generalizing h with
  | zero => trivial
  | succ ticks ih =>
      rw [broadcaster, Program.wp_bind, broadcastOnce, Program.wp_bind]
      exact measure_permitted other (fun _ h' => ih h') h

theorem serve_issues {i : Nat} (other : i ≠ 0) {request : MetricsRequest}
    (found : requests[i - 2]? = some request) :
    request.serve.wp (metricsMachine.historyLogic i (Issues requests i)) (fun _ _ => True) [] := by
  cases request with
  | snapshot =>
      rw [MetricsRequest.serve, broadcastOnce, Program.wp_bind]
      exact measure_permitted other (fun _ _ => trivial) []
  | history url =>
      rw [MetricsRequest.serve, Program.wp_bind, range]
      apply Machine.wp_perform trivial
      intro s env
      refine ⟨⟨url, found, rfl, _, List.mem_singleton_self _, rfl, rfl⟩, ?_⟩
      rintro _ _ ⟨s', env', rfl, rfl⟩
      trivial

section Runs

variable {start : HostState} {samples broadcasts : Nat}
  {c : Config MetricsAct MetricsAns MetricsState}

theorem issues_of_step {post : MetricsTrace} {e : MetricsStep}
    (run : metricsMachine.Run (serveMetrics start samples broadcasts requests)
      (pre ++ e :: post) c) :
    Issues requests e.thread (own e.thread pre) e.act := by
  obtain ⟨p, found⟩ := run.thread_some (List.mem_append_right pre List.mem_cons_self)
  refine run.issued found (Q := fun _ _ => True) ?_
  obtain zero | one | ⟨i, two⟩ : e.thread = 0 ∨ e.thread = 1 ∨ ∃ i, e.thread = i + 2 := by
    rcases e.thread with - | - | i
    · exact .inl rfl
    · exact .inr (.inl rfl)
    · exact .inr (.inr ⟨i, rfl⟩)
  · rw [zero] at found ⊢
    obtain rfl := Option.some.inj found
    exact sampler_issues samples rfl
  · rw [one] at found ⊢
    obtain rfl := Option.some.inj found
    exact broadcaster_issues broadcasts (by omega) []
  · rw [two] at found ⊢
    have served : (requests.map MetricsRequest.serve)[i]? = some p := found
    rw [List.getElem?_map, Option.map_eq_some_iff] at served
    obtain ⟨request, asked, rfl⟩ := served
    exact serve_issues (by omega) asked

/-! ## What a run leaves in the history -/

/-- Only the sampler records, and there is at most one measurement that it has not recorded. -/
structure Paired (trace : MetricsTrace) : Prop where
  sampler : calls trace = calls (own 0 trace)
  paired : Settled (own 0 trace) ∨ ∃ s, Pending (own 0 trace) s

theorem calls_concat (h : MetricsTrace) (e : MetricsStep) :
    calls (h ++ [e]) = calls h ++ (recording e).toList := by
  rw [calls, List.filterMap_append]
  cases found : recording e <;> simp [calls, found]

theorem Paired.step (paired : Paired trace) {e : MetricsStep}
    (issued : Issues requests e.thread (own e.thread trace) e.act) : Paired (trace ++ [e]) := by
  obtain ⟨thread, before, act, env, after⟩ := e
  by_cases sampler : thread = 0
  · subst sampler
    refine ⟨by rw [own_concat, if_pos rfl, calls_concat, calls_concat, paired.sampler], ?_⟩
    rw [own_concat, if_pos rfl]
    have other : measurement ⟨0, before, act, env, after⟩ = none →
        recording ⟨0, before, act, env, after⟩ = none →
        Settled (own 0 trace ++ [⟨0, before, act, env, after⟩]) ∨
          ∃ s, Pending (own 0 trace ++ [⟨0, before, act, env, after⟩]) s := by
      intro unmeasured unrecorded
      rcases paired.paired with settled | ⟨s, pending⟩
      · exact .inl (settled.other unmeasured unrecorded)
      · refine .inr ⟨s, ?_⟩
        rw [Pending, measurement_concat, recorded_concat, unmeasured, unrecorded, pending]
        simp
    cases act with
    | host a =>
        cases a with
        | update r => exact .inr ⟨_, (issued rfl).measure rfl rfl⟩
        | _ => exact other rfl rfl
    | record m => exact .inl (issued.2.record rfl rfl)
    | now => exact other rfl rfl
    | range now rangeDur maxPoints => exact other rfl rfl
  · have same : own 0 (trace ++ [⟨thread, before, act, env, after⟩]) = own 0 trace := by
      rw [own_concat, if_neg sampler]
    have unrecorded : recording ⟨thread, before, act, env, after⟩ = none := by
      cases act with
      | record m => exact absurd issued.1 sampler
      | _ => rfl
    refine ⟨?_, same ▸ paired.paired⟩
    rw [same, calls_concat, unrecorded, ← paired.sampler]
    simp

theorem run_paired
    (run : metricsMachine.Run (serveMetrics start samples broadcasts requests) trace c) :
    Paired trace := by
  induction trace using List.reverseRecOn generalizing c with
  | nil => exact ⟨rfl, .inl rfl⟩
  | append_singleton trace e ih =>
      obtain ⟨c', earlier, -⟩ := run.last
      exact (ih earlier).step (issues_of_step run)

/-- The history is what the calls of `Record` have made of the empty one. -/
theorem run_history
    (run : metricsMachine.Run (serveMetrics start samples broadcasts requests) trace c) :
    c.state.history = (newHistory (24 * Time.hour) 50000).records (calls trace) := by
  induction run with
  | start => rfl
  | @snoc trace c' c'' i env e run step ih =>
      obtain ⟨a, next, -, rfl, rfl⟩ := Machine.step_eq_some step
      rw [calls_concat]
      cases a with
      | record m =>
          show c'.state.history.record env.wall m.toMetrics = _
          rw [ih, ← History.records_concat]
          rfl
      | _ =>
          show c'.state.history = History.records _ (calls trace ++ [])
          rw [ih, List.append_nil]

/-! ## The clock -/

/-- The wall clock does not step back, and stays where the sums of as many timestamps as the
history holds fit an `int64`. -/
structure ClockForward (trace : MetricsTrace) : Prop where
  forward : trace.Pairwise fun a b => a.env.wall ≤ b.env.wall
  small : ∀ e ∈ trace, 50000 * (Time.unixMilli e.env.wall).natAbs < 2 ^ 63

theorem unixMilli_mono {a b : Time} (order : a ≤ b) : Time.unixMilli a ≤ Time.unixMilli b :=
  Int.ediv_le_ediv (by decide) order

theorem measurement_timestamp {e : MetricsStep} {s : Sample} (found : measurement e = some s) :
    s.timestamp = Time.unixMilli e.env.wall := by
  unfold measurement at found
  split at found
  · obtain rfl := Option.some.inj found
    rfl
  · cases found

theorem recording_wall {e : MetricsStep} {call : Time × Metrics} (found : recording e = some call) :
    call.1 = e.env.wall := by
  unfold recording at found
  split at found
  · obtain rfl := Option.some.inj found
    rfl
  · cases found

theorem ClockForward.calls (clock : ClockForward trace) :
    (calls trace).Pairwise fun a b => a.1 ≤ b.1 := by
  refine List.pairwise_filterMap.mpr (clock.forward.imp ?_)
  intro a b order call found call' found'
  rw [recording_wall found, recording_wall found']
  exact order

theorem ClockForward.measured (clock : ClockForward trace) :
    (measured trace).Pairwise fun a b => a.timestamp ≤ b.timestamp := by
  refine List.pairwise_filterMap.mpr ((clock.forward.sublist List.filter_sublist).imp ?_)
  intro a b order s found s' found'
  rw [measurement_timestamp found, measurement_timestamp found']
  exact unixMilli_mono order

/-- A measurement was made by a step. -/
theorem exists_of_measured {s : Sample} (member : s ∈ measured trace) :
    ∃ e ∈ trace, s.timestamp = Time.unixMilli e.env.wall := by
  obtain ⟨e, inside, found⟩ := List.mem_filterMap.mp member
  exact ⟨e, List.mem_of_mem_filter inside, measurement_timestamp found⟩

theorem Paired.recorded (paired : Paired trace) :
    recorded trace <+: measured trace ∧ (measured trace).length ≤ (recorded trace).length + 1 := by
  have same : MetricsService.recorded trace = MetricsService.recorded (own 0 trace) := by
    rw [MetricsService.recorded, MetricsService.recorded, ← paired.sampler]
  rw [same]
  rcases paired.paired with settled | ⟨s, pending⟩
  · rw [measured, settled]
    exact ⟨List.prefix_refl _, Nat.le_succ _⟩
  · rw [measured, pending]
    exact ⟨List.prefix_append _ _, by simp⟩

theorem stamps_sorted (paired : Paired trace) (clock : ClockForward trace) :
    (calls trace).Pairwise fun a b => a.2.timestamp ≤ b.2.timestamp := by
  have sorted := clock.measured.sublist paired.recorded.1.sublist
  rw [recorded, List.pairwise_map] at sorted
  exact sorted

/-- No sample is older than those before it. -/
theorem forward_of_clock (paired : Paired trace) (clock : ClockForward trace) :
    StepsForward (newHistory (24 * Time.hour) 50000) (calls trace) := by
  apply everywhere_of_at
  intro before call after whole
  have sorted := stamps_sorted paired clock
  rw [whole] at sorted
  refine ⟨fun last found => ?_, ?_⟩
  · have stored := (History.records_sublist _ before).subset (List.mem_of_getLast? found)
    rcases List.mem_append.mp stored with none | from'
    · cases none
    obtain ⟨call', member, rfl⟩ := List.mem_map.mp from'
    exact (List.pairwise_append.mp sorted).2.2 call' member call List.mem_cons_self
  · have member : call.2.sample ∈ recorded trace := by
      rw [recorded, whole]
      exact List.mem_map.mpr ⟨call, List.mem_append_right _ List.mem_cons_self, rfl⟩
    obtain ⟨e, inside, stamp⟩ := exists_of_measured (paired.recorded.1.subset member)
    rw [show call.2.timestamp = Time.unixMilli e.env.wall from stamp]
    exact clock.small e inside

theorem samples_eq_youngest (paired : Paired trace) (clock : ClockForward trace) :
    ((newHistory (24 * Time.hour) 50000).records (calls trace)).samples = youngest trace := by
  cases last : (calls trace).getLast? with
  | none =>
      have none := List.getLast?_eq_none_iff.mp last
      rw [youngest, last, none]
      rfl
  | some call =>
      obtain ⟨wall, m⟩ := call
      obtain ⟨before, whole⟩ := List.getLast?_eq_some_iff.mp last
      have clocks := clock.calls
      have stamps := stamps_sorted paired clock
      rw [whole] at clocks stamps
      rw [youngest, last, whole, History.records_samples _ rfl before wall m clocks stamps,
        recorded, whole]
      rfl

theorem ClockForward.before {e : MetricsStep} {post : MetricsTrace}
    (clock : ClockForward (pre ++ e :: post)) : ClockForward pre where
  forward := (List.pairwise_append.mp clock.forward).1
  small e' member := clock.small e' (List.mem_append_left _ member)

theorem parseHistoryRange_neg (label : List UInt8) :
    Time.wrap64 (-(parseHistoryRange label).1) = -(parseHistoryRange label).1 := by
  unfold parseHistoryRange
  repeat' split
  all_goals decide

/-- The window of a duration that can be asked for. -/
theorem inRange_requested (h : History) (now : Time) (url : String) :
    h.inRange now (requestedRange url).1 = h.samples.filter fun s =>
      Time.unixMilli (now - (requestedRange url).1) ≤ s.timestamp := by
  rw [History.inRange, requestedRange, parseHistoryRange_neg, ← Int.sub_eq_add_neg]

/-- A buffer that holds these samples answers so. -/
theorem answers_of_paired (url : String) {e : MetricsStep} {post : MetricsTrace} {now : Time}
    (clock : ClockForward (pre ++ e :: post)) (paired : Paired pre)
    (history : e.before.history = (newHistory (24 * Time.hour) 50000).records (calls pre))
    (read : ∃ read ∈ own e.thread pre, read.act = .now ∧ read.env.wall = now) :
    Answers pre e url now
      (e.before.history.range now (requestedRange url).1 (requestedRange url).2) := by
  have held := History.ordered_records (h := newHistory (24 * Time.hour) 50000) rfl
    (forward_of_clock paired clock.before)
  rw [← history] at held
  have window : ∀ s ∈ e.before.history.inRange now (requestedRange url).1,
      s ∈ (measured pre).filter fun s =>
        Time.unixMilli (now - (requestedRange url).1) ≤ s.timestamp := by
    intro s member
    rw [inRange_requested] at member
    obtain ⟨stored, young⟩ := List.mem_filter.mp member
    rw [history] at stored
    have inside := (History.records_sublist _ (calls pre)).subset stored
    exact List.mem_filter.mpr ⟨paired.recorded.1.subset inside, young⟩
  have within : ∀ p ∈ e.before.history.range now (requestedRange url).1 (requestedRange url).2,
      Within ((measured pre).filter fun s =>
        Time.unixMilli (now - (requestedRange url).1) ≤ s.timestamp) p :=
    fun p member => (held.within member).subset window
  constructor
  case handler => rfl
  case clock => exact read
  case ordered => exact held.chronological.ordered now _ _
  case window =>
    intro p member
    obtain ⟨⟨a, inA, low⟩, b, inB, high⟩ := (within p member).during
    have young := of_decide_eq_true (List.mem_filter.mp inA).2
    obtain ⟨made, earlier, stamp⟩ := exists_of_measured (List.mem_of_mem_filter inB)
    have order := (List.pairwise_append.mp clock.forward).2.2 made earlier e List.mem_cons_self
    have past := unixMilli_mono order
    exact ⟨by omega, by omega⟩
  case within => exact within
  case empty =>
    rw [History.range_eq_nil_iff, inRange_requested, List.filter_eq_nil_iff, history,
      samples_eq_youngest paired clock.before]
    simp

end Runs

/-- Thread `i` acts when the wall clock shows so many seconds. -/
def turn (i : Nat) (seconds : Int) : Nat × HostEnv :=
  (i, { passes 0 0 with wall := seconds * Time.second })

/-- The broadcaster measures between the two ticks of the sampler; the request reads the clock
before the second of them and the buffer before it is recorded. -/
def requestBetween : List (Nat × HostEnv) :=
  List.replicate 7 (turn 0 1) ++ List.replicate 6 (turn 1 2) ++ List.replicate 5 (turn 0 3) ++
    [turn 2 4, turn 0 4, turn 2 5, turn 0 6]

def betweenRun : MetricsTrace × Config MetricsAct MetricsAns MetricsState :=
  metricsMachine.runFor (serveMetrics freshHost 2 1 [.history "/api/metrics/history?range=1m"])
    requestBetween

end MetricsService

end VpsDashboard.Server
