/-
# VpsDashboard.Frontend.MetricsHistory — the history under the charts

`useMetricsHistory` keeps one list of points from two sources.  Every effect of the
selected range is a `Loader`: it asks the backend at once and on every tick of its
interval, and each answer replaces the list, unless the cleanup of the effect has set
`cancelled` by then.  Between answers the readings of the socket are appended, none
less than 1500 ms after the point before it.  Answers arrive in any order, and the
cleanup of an effect runs some time after the render that selects another range.  The
page of the hook leaves with its tab: one that comes back is a new hook, which starts
with no point and the last hour.

* `metrics_history_points` — in every run the list is one answer followed by readings
  at least 1500 ms apart, whatever the clock reads; the loader of that answer is never
  older than those before it; and once the effect of the selected range has run, an
  answer that comes into the list is one of that range, until another is selected or
  the hook is mounted anew;
* `metrics_history_chronological` — with a backend whose samples do not step back, the
  list is in chronological order in every state of every run, and the visible points
  are its end.

How often an interval ticks is left out.
-/
import VpsDashboard.Foundation.Guarded
import VpsDashboard.Foundation.Url
import VpsDashboard.Foundation.Utf8
import VpsDashboard.Host.Downsample
import Mathlib.Data.List.Chain

namespace VpsDashboard.Frontend

open Foundation Host

set_option autoImplicit false

/-! ## The route -/

inductive MetricsTimeRange where
  | oneMinute
  | oneHour
  | twelveHours
  | day
deriving DecidableEq

def MetricsTimeRange.label : MetricsTimeRange → String
  | .oneMinute => "1m"
  | .oneHour => "1h"
  | .twelveHours => "12h"
  | .day => "24h"

/-- `RANGE_MS`. -/
def rangeMs : MetricsTimeRange → Int
  | .oneMinute => 60000
  | .oneHour => 3600000
  | .twelveHours => 43200000
  | .day => 86400000

/-- `parseHistoryRange`, of the bytes of the label. -/
def parseHistoryRange (label : List UInt8) : Duration × Int :=
  if label = utf8 ['1', 'm'] then (Time.minute, 60)
  else if label = utf8 ['1', '2', 'h'] then (12 * Time.hour, 180)
  else if label = utf8 ['2', '4', 'h'] then (24 * Time.hour, 240)
  else (Time.hour, 120)

/-- The points of the answer of `handleMetricsHistory`. -/
def handleMetricsHistory (h : History) (now : Time) (url : String) : List Sample :=
  let (rangeDur, maxPoints) := parseHistoryRange ((queryParameter "range" url).getD [])
  h.range now rangeDur maxPoints

def historyUrl (range : MetricsTimeRange) : String :=
  "/api/metrics/history?range=" ++ range.label

/-- Both ends mean the same span by a label. -/
theorem parseHistoryRange_url (range : MetricsTimeRange) :
    (parseHistoryRange ((queryParameter "range" (historyUrl range)).getD [])).1 =
      rangeMs range * 1000000 := by
  cases range <;> decide +kernel

/-! ## The hook -/

structure MetricsSnapshot where
  timestamp : Int
  cpu : ℚ
  memory : ℚ
  disk : ℚ
  netUp : ℚ
  netDown : ℚ
deriving DecidableEq

/-- What the mapping in `load` makes of a point of the backend. -/
def snapshot (p : Sample) : MetricsSnapshot :=
  ⟨p.timestamp, p.cpu, p.memory, p.disk, p.netUp, p.netDown⟩

/-- The arguments of the hook: the current values and whether the socket is connected. -/
structure Reading where
  cpu : ℚ
  memory : ℚ
  disk : ℚ
  netUp : ℚ
  netDown : ℚ
  connected : Bool
deriving DecidableEq

/-- One run of the effect of `range`, with the variable its cleanup sets. -/
structure Loader where
  range : MetricsTimeRange
  cancelled : Bool
deriving DecidableEq

/-- One call of `load`: the effect it belongs to and, once it is over, the points it was
given; none when the request failed. -/
structure Load where
  loader : Nat
  answer : Option (Option (List MetricsSnapshot))
deriving DecidableEq

/-- `due` is set between the render that selects a range and its effect; `active` is the
loader whose interval runs.  `loaders` and `loads` are those of all hooks so far, and
`shown` is the load that was last put into `points`: it records the run and steers
nothing. -/
structure MetricsHistory where
  mounted : Bool
  points : List MetricsSnapshot
  range : MetricsTimeRange
  due : Bool
  loaders : List Loader
  active : Option Nat
  loads : List Load
  deps : Option Reading
  shown : Option Nat
deriving DecidableEq

/-- `replay` is the second round of effects that `StrictMode` gives a hook; here it may
come at any time. -/
inductive HistoryAction where
  | mount (reading : Reading) (now : Int)
  | replay (now : Int)
  | unmount
  | select (range : MetricsTimeRange)
  | runEffect
  | tick
  | answer (i : Nat) (points : Option (List MetricsSnapshot))
  | render (reading : Reading) (now : Int)

namespace MetricsHistory

def initial : MetricsHistory := ⟨false, [], .oneHour, false, [], none, [], none, none⟩

/-- A new hook, before its effects; what those before it have asked for is on its way. -/
def fresh (s : MetricsHistory) : MetricsHistory :=
  { s with
    mounted := true
    points := []
    range := .oneHour
    due := false
    deps := none
    shown := none }

/-- `load()`. -/
def request (s : MetricsHistory) (loader : Nat) : MetricsHistory :=
  { s with loads := s.loads ++ [⟨loader, none⟩] }

/-- The effect of `range`. -/
def start (s : MetricsHistory) : MetricsHistory :=
  ({ s with
    loaders := s.loaders ++ [⟨s.range, false⟩]
    active := some s.loaders.length } : MetricsHistory).request s.loaders.length

/-- Its cleanup. -/
def cancel (s : MetricsHistory) : MetricsHistory :=
  match s.active with
  | none => s
  | some loader => { s with
      loaders := s.loaders.modify loader fun l => { l with cancelled := true }
      active := none }

/-- What the state update of the second effect makes of the list. -/
def appendReading (points : List MetricsSnapshot) (reading : Reading) (ts : Int) :
    List MetricsSnapshot :=
  let latest : MetricsSnapshot :=
    ⟨ts, reading.cpu, reading.memory, reading.disk, reading.netUp, reading.netDown⟩
  match points.getLast? with
  | some last => if ts - last.timestamp < 1500 then points else points ++ [latest]
  | none => points ++ [latest]

/-- The second effect. -/
def append (s : MetricsHistory) (reading : Reading) (now : Int) : MetricsHistory :=
  { s with
    deps := some reading
    points := if reading.connected then appendReading s.points reading now else s.points }

/-- The end of the `i`-th load, after its `await`s. -/
def settle (s : MetricsHistory) (i : Nat) (load : Load) (points : Option (List MetricsSnapshot)) :
    MetricsHistory :=
  let s' := { s with loads := s.loads.set i { load with answer := some points } }
  match points, s.loaders[load.loader]? with
  | some points, some ⟨_, false⟩ => { s' with points := points, shown := some i }
  | _, _ => s'

def step (s : MetricsHistory) : HistoryAction → Option MetricsHistory
  | .mount reading now =>
      if s.mounted then none else some (s.fresh.start.append reading now)
  | .replay now =>
      match s.deps with
      | some reading =>
          if s.mounted = true ∧ s.due = false then some (s.cancel.start.append reading now)
          else none
      | none => none
  | .unmount => if s.mounted then some { s.cancel with mounted := false, due := false } else none
  | .select range =>
      if s.mounted = true ∧ s.due = false then
        some (if range = s.range then s else { s with range := range, due := true })
      else none
  | .runEffect => if s.due then some { s.cancel.start with due := false } else none
  | .tick =>
      match s.active with
      | some loader => some (s.request loader)
      | none => none
  | .answer i points =>
      match s.loads[i]? with
      | some load => if load.answer.isSome then none else some (s.settle i load points)
      | none => none
  | .render reading now =>
      if s.mounted = true ∧ s.due = false then
        some (if s.deps = some reading then s else s.append reading now)
      else none

/-- The points that the charts are given. -/
def visible (s : MetricsHistory) (now : Int) : List MetricsSnapshot :=
  s.points.filter fun p => now - rangeMs s.range ≤ p.timestamp

/-- The list is one answer, that of the load in `shown` if any was shown, followed by
readings at least 1500 ms apart. -/
def Shows (s : MetricsHistory) (base live : List MetricsSnapshot) : Prop :=
  s.points = base ++ live ∧
    (base.getLast?.toList ++ live).IsChain (fun a b => a.timestamp + 1500 ≤ b.timestamp) ∧
    match s.shown with
    | none => base = []
    | some i => ∃ load, s.loads[i]? = some load ∧ load.answer = some (some base)

/-! ## What every step keeps -/

/-- The loader that is not cancelled is the active one, the newest, and one of the
selected range once its effect has run. -/
structure Held (s : MetricsHistory) : Prop where
  active : ∀ k loader, s.loaders[k]? = some loader → loader.cancelled = false → s.active = some k
  newest : ∀ k ∈ s.active, k + 1 = s.loaders.length
  mounted : s.mounted = false → s.active = none ∧ s.due = false
  selected : s.due = false → ∀ k ∈ s.active, ∃ loader, s.loaders[k]? = some loader ∧
    loader.range = s.range
  known : ∀ load ∈ s.loads, load.loader < s.loaders.length
  points : ∃ base live, s.Shows base live

variable {s s' : MetricsHistory}

theorem held_initial : initial.Held where
  active _ _ found := by simp [initial] at found
  newest := nofun
  mounted _ := ⟨rfl, rfl⟩
  selected _ := nofun
  known := nofun
  points := ⟨[], [], rfl, .nil, rfl⟩

theorem Shows.congr {base live : List MetricsSnapshot} (shows : s.Shows base live)
    (points : s'.points = s.points) (shown : s'.shown = s.shown)
    (loads : ∀ (i : Nat) (load : Load), s.loads[i]? = some load → load.answer.isSome = true →
      s'.loads[i]? = some load) :
    s'.Shows base live := by
  obtain ⟨whole, apart, from'⟩ := shows
  refine ⟨points.trans whole, apart, ?_⟩
  rw [shown]
  cases showing : s.shown with
  | none =>
      rw [showing] at from'
      exact from'
  | some i =>
      rw [showing] at from'
      obtain ⟨load, found, answered⟩ := from'
      exact ⟨load, loads i load found (by simp [answered]), answered⟩

theorem getElem?_append_of_some {α : Type} {l : List α} {i : Nat} {a : α} (found : l[i]? = some a)
    (more : List α) : (l ++ more)[i]? = some a := by
  obtain ⟨inside, -⟩ := List.getElem?_eq_some_iff.mp found
  rw [List.getElem?_append_left inside, found]

/-- A reading is appended at the end, far enough from the last point. -/
theorem Shows.append {base live : List MetricsSnapshot} (shows : s.Shows base live)
    (reading : Reading) (now : Int) : ∃ live', (s.append reading now).Shows base live' := by
  have stays : ∀ {s' : MetricsHistory}, s'.points = s.points → s'.shown = s.shown →
      s'.loads = s.loads → ∃ live', s'.Shows base live' := by
    intro s' points shown loads
    exact ⟨live, shows.congr points shown (by rw [loads]; exact fun _ _ found _ => found)⟩
  unfold MetricsHistory.append
  split
  · unfold appendReading
    dsimp only
    have last : s.points.getLast? = (base.getLast?.toList ++ live).getLast? := by
      rw [shows.1, List.getLast?_append, List.getLast?_append]
      cases base.getLast? <;> simp
    have extended : ∀ latest : MetricsSnapshot,
        (∀ p ∈ s.points.getLast?, p.timestamp + 1500 ≤ latest.timestamp) →
        ({ s with deps := some reading, points := s.points ++ [latest] } : MetricsHistory).Shows base
          (live ++ [latest]) := by
      intro latest apart
      refine ⟨by simp [shows.1], ?_, shows.2.2⟩
      rw [← List.append_assoc]
      refine List.isChain_append.mpr ⟨shows.2.1, List.isChain_singleton _, ?_⟩
      intro p inside q single
      rw [List.head?_cons, Option.mem_some_iff] at single
      subst single
      exact apart p (last ▸ inside)
    split
    · rename_i p found
      split
      · exact stays rfl rfl rfl
      · rename_i late
        refine ⟨_, extended _ ?_⟩
        intro q inside
        obtain rfl := Option.some.inj (found.symm.trans inside)
        dsimp only
        omega
    · rename_i none
      refine ⟨_, extended _ ?_⟩
      rw [none]
      nofun
  · exact stays rfl rfl rfl

/-! ## One step -/

/-- What a step has found, and what it leaves. -/
def Takes (s s' : MetricsHistory) : HistoryAction → Prop
  | .mount reading now => s.mounted = false ∧ s' = s.fresh.start.append reading now
  | .replay now => s.mounted = true ∧ s.due = false ∧
      ∃ reading, s.deps = some reading ∧ s' = s.cancel.start.append reading now
  | .unmount => s.mounted = true ∧ s' = { s.cancel with mounted := false, due := false }
  | .select range => s.mounted = true ∧ s.due = false ∧
      (s' = s ∨ range ≠ s.range ∧ s' = { s with range := range, due := true })
  | .runEffect => s.due = true ∧ s' = { s.cancel.start with due := false }
  | .tick => ∃ loader, s.active = some loader ∧ s' = s.request loader
  | .answer i points => ∃ load, s.loads[i]? = some load ∧ load.answer.isSome = false ∧
      s' = s.settle i load points
  | .render reading now => s' = s ∨ s' = s.append reading now

theorem takes_of_step {action : HistoryAction} (stepped : s.step action = some s') :
    s.Takes s' action := by
  cases action with
  | mount reading now =>
      obtain ⟨unmounted, same⟩ := Option.ite_none_left_eq_some.mp stepped
      exact ⟨by simpa using unmounted, (Option.some.inj same).symm⟩
  | replay now =>
      simp only [MetricsHistory.step] at stepped
      split at stepped
      · rename_i reading deps
        obtain ⟨ready, same⟩ := Option.ite_none_right_eq_some.mp stepped
        exact ⟨ready.1, ready.2, reading, deps, (Option.some.inj same).symm⟩
      · cases stepped
  | unmount =>
      obtain ⟨mounted, same⟩ := Option.ite_none_right_eq_some.mp stepped
      exact ⟨mounted, (Option.some.inj same).symm⟩
  | select range =>
      obtain ⟨ready, same⟩ := Option.ite_none_right_eq_some.mp stepped
      refine ⟨ready.1, ready.2, ?_⟩
      split at same
      · exact .inl (Option.some.inj same).symm
      · rename_i another
        exact .inr ⟨another, (Option.some.inj same).symm⟩
  | runEffect =>
      obtain ⟨due, same⟩ := Option.ite_none_right_eq_some.mp stepped
      exact ⟨due, (Option.some.inj same).symm⟩
  | tick =>
      simp only [MetricsHistory.step] at stepped
      split at stepped
      · rename_i loader active
        exact ⟨loader, active, (Option.some.inj stepped).symm⟩
      · cases stepped
  | answer i points =>
      simp only [MetricsHistory.step] at stepped
      split at stepped
      · rename_i load found
        obtain ⟨pending, same⟩ := Option.ite_none_left_eq_some.mp stepped
        exact ⟨load, found, by simpa using pending, (Option.some.inj same).symm⟩
      · cases stepped
  | render reading now =>
      obtain ⟨-, same⟩ := Option.ite_none_right_eq_some.mp stepped
      split at same
      · exact .inl (Option.some.inj same).symm
      · exact .inr (Option.some.inj same).symm

/-- The cleanup of an effect touches the loaders alone. -/
theorem cancel_keeps (s : MetricsHistory) :
    s.cancel.mounted = s.mounted ∧ s.cancel.due = s.due ∧ s.cancel.range = s.range ∧
      s.cancel.shown = s.shown ∧ s.cancel.points = s.points := by
  unfold MetricsHistory.cancel
  split <;> simp

theorem Held.request (held : s.Held) {k : Nat} (inside : k < s.loaders.length) :
    (s.request k).Held where
  active := held.active
  newest := held.newest
  mounted := held.mounted
  selected := held.selected
  known load member := by
    rcases List.mem_append.mp member with old | new
    · exact held.known load old
    · rw [List.mem_singleton.mp new]
      exact inside
  points := by
    obtain ⟨base, live, shows⟩ := held.points
    exact ⟨base, live, shows.congr rfl rfl fun _ _ found _ => getElem?_append_of_some found _⟩

/-- A hook that is not mounted leaves only cancelled loaders to the next. -/
theorem Held.fresh (held : s.Held) (none : s.active = none) : s.fresh.Held where
  active := held.active
  newest := held.newest
  mounted := nofun
  selected _ k active := by
    rw [show s.active = some k from active] at none
    cases none
  known := held.known
  points := ⟨[], [], rfl, .nil, rfl⟩

/-- A mounted hook that has no active loader starts one. -/
theorem Held.start (held : s.Held) (mounted : s.mounted = true) (none : s.active = none) :
    { s.start with due := false }.Held := by
  have added : ({ s with
      loaders := s.loaders ++ [⟨s.range, false⟩]
      active := some s.loaders.length
      due := false } : MetricsHistory).Held := by
    constructor
    case active =>
      intro k loader found open'
      by_cases old : k < s.loaders.length
      · rw [List.getElem?_append_left old] at found
        have active := held.active k loader found open'
        rw [none] at active
        cases active
      · have inside := (List.getElem?_eq_some_iff.mp found).1
        rw [List.length_append, List.length_singleton] at inside
        show some s.loaders.length = some k
        congr 1
        omega
    case newest =>
      intro k active
      obtain rfl := Option.some.inj active
      simp
    case mounted =>
      intro unmounted
      rw [show s.mounted = false from unmounted] at mounted
      cases mounted
    case selected =>
      intro _ k active
      obtain rfl := Option.some.inj active
      exact ⟨_, List.getElem?_concat_length, rfl⟩
    case known =>
      intro load member
      have inside := held.known load member
      simp only [List.length_append, List.length_singleton]
      omega
    case points =>
      obtain ⟨base, live, shows⟩ := held.points
      exact ⟨base, live, shows.congr rfl rfl fun _ _ found _ => found⟩
  exact added.request (by simp)

theorem Held.cancel (held : s.Held) : s.cancel.Held ∧ s.cancel.active = none := by
  unfold MetricsHistory.cancel
  split
  · exact ⟨held, by assumption⟩
  · rename_i k active
    refine ⟨?_, rfl⟩
    constructor
    case active =>
      intro j loader found open'
      rw [List.getElem?_modify] at found
      obtain ⟨before, was, rfl⟩ := Option.map_eq_some_iff.mp found
      split at open'
      · cases open'
      · rename_i different
        have same := active.symm.trans (held.active j before was open')
        exact absurd (Option.some.inj same) different
    case newest => nofun
    case mounted =>
      intro unmounted
      exact ⟨rfl, (held.mounted unmounted).2⟩
    case selected => nofun
    case known =>
      intro load member
      simpa using held.known load member
    case points =>
      obtain ⟨base, live, shows⟩ := held.points
      exact ⟨base, live, shows.congr rfl rfl fun _ _ found _ => found⟩

/-- Cleanup and effect once more, where the hook waits for no effect. -/
theorem Held.restart (held : s.Held) (mounted : s.mounted = true) (ready : s.due = false) :
    s.cancel.start.Held := by
  obtain ⟨cancelled, none⟩ := held.cancel
  obtain ⟨still, due, -⟩ := s.cancel_keeps
  have started := cancelled.start (still.trans mounted) none
  rwa [show { s.cancel.start with due := false } = s.cancel.start by
    simp [MetricsHistory.start, MetricsHistory.request, due, ready]] at started

theorem Held.append (held : s.Held) (reading : Reading) (now : Int) :
    (s.append reading now).Held where
  active := held.active
  newest := held.newest
  mounted := held.mounted
  selected := held.selected
  known := held.known
  points := by
    obtain ⟨base, live, shows⟩ := held.points
    obtain ⟨live', shows'⟩ := shows.append reading now
    exact ⟨base, live', shows'⟩

theorem getElem?_set_of_some {α : Type} {l : List α} {i j : Nat} {b : α}
    (other : j ≠ i) (there : l[j]? = some b) (c : α) :
    (l.set i c)[j]? = some b := by
  rw [List.getElem?_set_ne (Ne.symm other)]
  exact there

/-- What a load that ends changes: its own answer and, as long as its loader is not
cancelled, the list. -/
theorem settle_cases (s : MetricsHistory) (i : Nat) (load : Load)
    (points : Option (List MetricsSnapshot)) :
    let s' := { s with loads := s.loads.set i { load with answer := some points } }
    s.settle i load points = s' ∨
      ∃ given range, points = some given ∧ s.loaders[load.loader]? = some ⟨range, false⟩ ∧
        s.settle i load points = { s' with points := given, shown := some i } := by
  intro s'
  unfold settle
  dsimp only
  split
  · rename_i given range found
    exact .inr ⟨given, range, rfl, found, rfl⟩
  · exact .inl rfl

theorem Held.settle (held : s.Held) {i : Nat} {load : Load} (found : s.loads[i]? = some load)
    (pending : load.answer.isSome = false) (points : Option (List MetricsSnapshot)) :
    (s.settle i load points).Held := by
  have inside := (List.getElem?_eq_some_iff.mp found).1
  have known : ∀ other ∈ s.loads.set i { load with answer := some points },
      other.loader < s.loaders.length := by
    intro other member
    rcases List.mem_or_eq_of_mem_set member with old | rfl
    · exact held.known other old
    · exact held.known load (List.mem_of_getElem? found)
  rcases s.settle_cases i load points with same | ⟨given, range, rfl, -, shown⟩
  · rw [same]
    refine ⟨held.active, held.newest, held.mounted, held.selected, known, ?_⟩
    obtain ⟨base, live, shows⟩ := held.points
    refine ⟨base, live, shows.congr rfl rfl ?_⟩
    intro j other there answered
    apply getElem?_set_of_some _ there
    rintro rfl
    obtain rfl := Option.some.inj (found.symm.trans there)
    rw [pending] at answered
    cases answered
  · rw [shown]
    refine ⟨held.active, held.newest, held.mounted, held.selected, known, ?_⟩
    refine ⟨given, [], by simp, ?_, _, List.getElem?_set_self inside, rfl⟩
    rw [List.append_nil]
    cases given.getLast? with
    | none => exact .nil
    | some last => exact List.isChain_singleton _

theorem Held.step {action : HistoryAction} (held : s.Held)
    (stepped : s.step action = some s') : s'.Held := by
  have takes := takes_of_step stepped
  cases action with
  | mount reading now =>
      obtain ⟨unmounted, rfl⟩ := takes
      have started := (held.fresh (held.mounted unmounted).1).start rfl (held.mounted unmounted).1
      exact Held.append started reading now
  | replay now =>
      obtain ⟨mounted, ready, reading, -, rfl⟩ := takes
      exact (held.restart mounted ready).append reading now
  | unmount =>
      obtain ⟨-, rfl⟩ := takes
      obtain ⟨cancelled, none⟩ := held.cancel
      refine ⟨cancelled.active, cancelled.newest, fun _ => ⟨none, rfl⟩, ?_, cancelled.known,
        cancelled.points⟩
      intro _ k active
      rw [show s.cancel.active = some k from active] at none
      cases none
  | select range =>
      obtain ⟨mounted, -, rfl | ⟨-, rfl⟩⟩ := takes
      · exact held
      · refine ⟨held.active, held.newest, ?_, nofun, held.known, held.points⟩
        intro unmounted
        rw [show s.mounted = false from unmounted] at mounted
        cases mounted
  | runEffect =>
      obtain ⟨due, rfl⟩ := takes
      obtain ⟨cancelled, none⟩ := held.cancel
      have mounted : s.mounted = true := by
        by_contra unmounted
        have := (held.mounted (by simpa using unmounted)).2
        rw [due] at this
        cases this
      exact cancelled.start (s.cancel_keeps.1.trans mounted) none
  | tick =>
      obtain ⟨k, active, rfl⟩ := takes
      have newest := held.newest k active
      exact held.request (by omega)
  | answer i points =>
      obtain ⟨load, found, pending, rfl⟩ := takes
      exact held.settle found pending points
  | render reading now =>
      rcases takes with rfl | rfl
      · exact held
      · exact held.append reading now

theorem held_steps {actions : List HistoryAction}
    (ran : Guarded.steps MetricsHistory.step initial actions = some s) : s.Held :=
  Guarded.steps_invariant (fun held stepped => held.step stepped) held_initial ran

/-! ## Loads and loaders stay -/

/-- The loads keep their loaders and the loaders their ranges; a new loader is one of the
range that is selected then. -/
structure Extends (s s' : MetricsHistory) : Prop where
  loads : ∀ (i : Nat) (load : Load), s.loads[i]? = some load →
    ∃ load', s'.loads[i]? = some load' ∧ load'.loader = load.loader
  loaders : ∀ (k : Nat) (loader : Loader), s.loaders[k]? = some loader →
    ∃ loader', s'.loaders[k]? = some loader' ∧ loader'.range = loader.range
  length : s.loaders.length ≤ s'.loaders.length
  fresh : ∀ (k : Nat) (loader : Loader), s.loaders.length ≤ k → s'.loaders[k]? = some loader →
    loader.range = s'.range

theorem Extends.of_same (loads : s'.loads = s.loads) (loaders : s'.loaders = s.loaders) :
    Extends s s' where
  loads i load found := ⟨load, by rw [loads]; exact found, rfl⟩
  loaders k loader found := ⟨loader, by rw [loaders]; exact found, rfl⟩
  length := by rw [loaders]
  fresh k loader beyond found := by
    rw [loaders] at found
    have inside := (List.getElem?_eq_some_iff.mp found).1
    omega

theorem Extends.trans {s'' : MetricsHistory} (first : Extends s s') (second : Extends s' s'')
    (range : s''.range = s'.range) : Extends s s'' where
  loads i load found := by
    obtain ⟨load', found', same⟩ := first.loads i load found
    obtain ⟨load'', found'', same'⟩ := second.loads i load' found'
    exact ⟨load'', found'', same'.trans same⟩
  loaders k loader found := by
    obtain ⟨loader', found', same⟩ := first.loaders k loader found
    obtain ⟨loader'', found'', same'⟩ := second.loaders k loader' found'
    exact ⟨loader'', found'', same'.trans same⟩
  length := first.length.trans second.length
  fresh k loader beyond found := by
    by_cases inside : k < s'.loaders.length
    · have there := List.getElem?_eq_getElem inside
      obtain ⟨loader', found', same⟩ := second.loaders k _ there
      obtain rfl := Option.some.inj (found.symm.trans found')
      rw [same, first.fresh k _ beyond there, range]
    · exact second.fresh k loader (by omega) found

theorem extends_request (s : MetricsHistory) (k : Nat) : Extends s (s.request k) where
  loads i load found := ⟨load, getElem?_append_of_some found _, rfl⟩
  loaders k loader found := ⟨loader, found, rfl⟩
  length := Nat.le_refl _
  fresh k loader beyond found := by
    have inside := (List.getElem?_eq_some_iff.mp found).1
    change k < s.loaders.length at inside
    omega

theorem extends_start (s : MetricsHistory) : Extends s s.start := by
  have added : Extends s { s with
      loaders := s.loaders ++ [⟨s.range, false⟩]
      active := some s.loaders.length } := by
    constructor
    · exact fun i load found => ⟨load, found, rfl⟩
    · exact fun k loader found => ⟨loader, getElem?_append_of_some found _, rfl⟩
    · simp
    · intro k loader beyond found
      have inside := (List.getElem?_eq_some_iff.mp found).1
      rw [List.length_append, List.length_singleton] at inside
      obtain rfl : k = s.loaders.length := by omega
      rw [List.getElem?_concat_length] at found
      obtain rfl := Option.some.inj found
      rfl
  exact added.trans (extends_request _ _) rfl

theorem extends_cancel (s : MetricsHistory) : Extends s s.cancel := by
  unfold MetricsHistory.cancel
  split
  · exact .of_same rfl rfl
  · constructor
    · exact fun i load found => ⟨load, found, rfl⟩
    · intro k loader found
      simp only [List.getElem?_modify, found]
      exact ⟨_, rfl, by split <;> rfl⟩
    · simp
    · intro k loader beyond found
      have inside := (List.getElem?_eq_some_iff.mp found).1
      rw [List.length_modify] at inside
      omega

theorem extends_settle {i : Nat} {load : Load} (found : s.loads[i]? = some load)
    (points : Option (List MetricsSnapshot)) : Extends s (s.settle i load points) := by
  have answered :
      Extends s { s with loads := s.loads.set i { load with answer := some points } } := by
    refine ⟨?_, fun k loader there => ⟨loader, there, rfl⟩, Nat.le_refl _, ?_⟩
    · intro j other there
      by_cases same : j = i
      · subst same
        obtain rfl := Option.some.inj (found.symm.trans there)
        exact ⟨_, List.getElem?_set_self (List.getElem?_eq_some_iff.mp found).1, rfl⟩
      · exact ⟨other, getElem?_set_of_some same there _, rfl⟩
    · intro k loader beyond there
      have inside := (List.getElem?_eq_some_iff.mp there).1
      change k < s.loaders.length at inside
      omega
  rcases s.settle_cases i load points with same | ⟨given, range, -, -, shown⟩
  · rw [same]
    exact answered
  · rw [shown]
    exact ⟨answered.loads, answered.loaders, answered.length, answered.fresh⟩

theorem extends_restart (s : MetricsHistory) :
    Extends s s.cancel.start ∧ s.cancel.start.range = s.range ∧
      s.cancel.start.shown = s.shown :=
  have keeps := s.cancel_keeps
  ⟨(extends_cancel s).trans (extends_start s.cancel) rfl, keeps.2.2.1, keeps.2.2.2.1⟩

/-- What a step changes: the range only where another is selected, and the load that is
shown only to one of the active loader; a mount starts anew. -/
structure Becomes (s s' : MetricsHistory) (action : HistoryAction) : Prop where
  extended : Extends s s'
  range : (s'.range = s.range ∧ (s.due = false → s'.due = false)) ∨
    (∃ range, action = .select range ∧ range ≠ s.range) ∨ ∃ reading now, action = .mount reading now
  shown : s'.shown = s.shown ∨ (s'.shown = none ∧ ∃ reading now, action = .mount reading now) ∨
    ∃ i load, s'.shown = some i ∧ s.loads[i]? = some load ∧ s.active = some load.loader

theorem step_becomes {action : HistoryAction} (held : s.Held)
    (stepped : s.step action = some s') : Becomes s s' action := by
  have takes := takes_of_step stepped
  cases action with
  | mount reading now =>
      obtain ⟨-, rfl⟩ := takes
      have started := extends_start s.fresh
      exact ⟨⟨started.loads, started.loaders, started.length, started.fresh⟩,
        .inr (.inr ⟨reading, now, rfl⟩), .inr (.inl ⟨rfl, reading, now, rfl⟩)⟩
  | replay now =>
      obtain ⟨-, -, reading, -, rfl⟩ := takes
      obtain ⟨kept, range, shown⟩ := extends_restart s
      have due : s.due = false → s.cancel.due = false := s.cancel_keeps.2.1.trans
      exact ⟨⟨kept.loads, kept.loaders, kept.length, kept.fresh⟩, .inl ⟨range, due⟩, .inl shown⟩
  | unmount =>
      obtain ⟨-, rfl⟩ := takes
      have kept := extends_cancel s
      obtain ⟨-, -, range, shown, -⟩ := s.cancel_keeps
      exact ⟨⟨kept.loads, kept.loaders, kept.length, kept.fresh⟩, .inl ⟨range, fun _ => rfl⟩,
        .inl shown⟩
  | select range =>
      obtain ⟨-, -, rfl | ⟨another, rfl⟩⟩ := takes
      · exact ⟨.of_same rfl rfl, .inl ⟨rfl, id⟩, .inl rfl⟩
      · exact ⟨.of_same rfl rfl, .inr (.inl ⟨range, rfl, another⟩), .inl rfl⟩
  | runEffect =>
      obtain ⟨-, rfl⟩ := takes
      obtain ⟨kept, range, shown⟩ := extends_restart s
      exact ⟨⟨kept.loads, kept.loaders, kept.length, kept.fresh⟩, .inl ⟨range, fun _ => rfl⟩,
        .inl shown⟩
  | tick =>
      obtain ⟨k, -, rfl⟩ := takes
      exact ⟨extends_request s k, .inl ⟨rfl, id⟩, .inl rfl⟩
  | answer i points =>
      obtain ⟨load, found, -, rfl⟩ := takes
      have extended := extends_settle found points
      rcases s.settle_cases i load points with same | ⟨given, range, -, open', shown⟩
      · rw [same] at extended ⊢
        exact ⟨extended, .inl ⟨rfl, id⟩, .inl rfl⟩
      · rw [shown] at extended ⊢
        exact ⟨extended, .inl ⟨rfl, id⟩,
          .inr (.inr ⟨i, load, rfl, found, held.active _ _ open' rfl⟩)⟩
  | render reading now =>
      rcases takes with rfl | rfl
      · exact ⟨.of_same rfl rfl, .inl ⟨rfl, id⟩, .inl rfl⟩
      · exact ⟨.of_same rfl rfl, .inl ⟨rfl, id⟩, .inl rfl⟩

/-! ## Which answers are shown -/

/-- The loader `first` has been there, and no older one has been shown since. -/
structure Since (first : Nat) (s : MetricsHistory) : Prop where
  held : s.Held
  reached : first < s.loaders.length
  shown : ∀ i ∈ s.shown, ∀ load, s.loads[i]? = some load → first ≤ load.loader

theorem Held.shown_load (held : s.Held) {i : Nat} (showing : s.shown = some i) :
    ∃ load, s.loads[i]? = some load ∧ load.loader < s.loaders.length := by
  obtain ⟨base, live, -, -, load⟩ := held.points
  rw [showing] at load
  obtain ⟨load, found, -⟩ := load
  exact ⟨load, found, held.known load (List.mem_of_getElem? found)⟩

theorem Since.step {first : Nat} {action : HistoryAction} (since : Since first s)
    (stepped : s.step action = some s') : Since first s' := by
  have becomes := step_becomes since.held stepped
  refine ⟨since.held.step stepped, since.reached.trans_le becomes.extended.length, ?_⟩
  intro i showing load' found'
  rcases becomes.shown with same | ⟨hidden, -⟩ | ⟨j, load, shown, found, active⟩
  · rw [same] at showing
    obtain ⟨load, found, -⟩ := since.held.shown_load showing
    obtain ⟨load'', found'', loader⟩ := becomes.extended.loads i load found
    obtain rfl := Option.some.inj (found'.symm.trans found'')
    rw [loader]
    exact since.shown i showing load found
  · rw [hidden] at showing
    cases showing
  · obtain rfl := Option.some.inj (shown.symm.trans showing)
    obtain ⟨load'', found'', loader⟩ := becomes.extended.loads j load found
    obtain rfl := Option.some.inj (found'.symm.trans found'')
    have newest := since.held.newest _ active
    have reached := since.reached
    rw [loader]
    omega

/-- What is shown is the answer of a loader of `range`. -/
def ShowsOne (range : MetricsTimeRange) (s : MetricsHistory) : Prop :=
  ∃ j load loader, s.shown = some j ∧ s.loads[j]? = some load ∧
    s.loaders[load.loader]? = some loader ∧ loader.range = range

/-- The effect of `selected` has run, and no answer of another range has been shown since
`shown` was. -/
structure Settled (selected : MetricsTimeRange) (shown : Option Nat) (s : MetricsHistory) :
    Prop where
  held : s.Held
  range : s.range = selected
  ready : s.due = false
  shown : s.shown = shown ∨ ShowsOne selected s

theorem ShowsOne.extended {range : MetricsTimeRange} (shows : ShowsOne range s)
    (extended : Extends s s') (same : s'.shown = s.shown) : ShowsOne range s' := by
  obtain ⟨j, load, loader, showing, found, there, of⟩ := shows
  obtain ⟨load', found', at'⟩ := extended.loads j load found
  obtain ⟨loader', there', of'⟩ := extended.loaders load.loader loader there
  exact ⟨j, load', loader', same.trans showing, found', at' ▸ there', of'.trans of⟩

/-- An answer comes into the list through the active loader, which is one of the selected
range. -/
theorem Settled.step {selected : MetricsTimeRange} {shown : Option Nat} {action : HistoryAction}
    (settled : Settled selected shown s) (stays : ∀ reading now, action ≠ .mount reading now)
    (kept : ∀ range, action = .select range → range = selected)
    (stepped : s.step action = some s') : Settled selected shown s' := by
  have becomes := step_becomes settled.held stepped
  have ranges : s'.range = s.range ∧ (s.due = false → s'.due = false) := by
    rcases becomes.range with same | ⟨range, rfl, another⟩ | ⟨reading, now, rfl⟩
    · exact same
    · exact absurd ((kept range rfl).trans settled.range.symm) another
    · exact absurd rfl (stays reading now)
  refine ⟨settled.held.step stepped, ranges.1.trans settled.range, ranges.2 settled.ready, ?_⟩
  rcases becomes.shown with same | ⟨-, reading, now, rfl⟩ | ⟨i, load, showing, found, active⟩
  · rcases settled.shown with before | one
    · exact .inl (same.trans before)
    · exact .inr (one.extended becomes.extended same)
  · exact absurd rfl (stays reading now)
  · obtain ⟨loader, there, of⟩ := settled.held.selected settled.ready _ active
    obtain ⟨load', found', at'⟩ := becomes.extended.loads i load found
    obtain ⟨loader', there', of'⟩ := becomes.extended.loaders load.loader loader there
    exact .inr ⟨i, load', loader', showing, found', at' ▸ there',
      of'.trans (of.trans settled.range)⟩

/-- No answer of an older loader comes after one that is shown. -/
theorem shown_monotone (held : s.Held) {later : List HistoryAction}
    (went : Guarded.steps MetricsHistory.step s later = some s') {i j : Nat}
    (showing : s.shown = some i) (showing' : s'.shown = some j) :
    ∃ load load', s.loads[i]? = some load ∧ s'.loads[j]? = some load' ∧
      load.loader ≤ load'.loader := by
  obtain ⟨load, found, inside⟩ := held.shown_load showing
  have start : Since load.loader s := by
    refine ⟨held, inside, ?_⟩
    intro k showing'' load'' found''
    obtain rfl := Option.some.inj (showing.symm.trans showing'')
    obtain rfl := Option.some.inj (found.symm.trans found'')
    exact Nat.le_refl _
  have since := Guarded.steps_invariant (fun since stepped => Since.step since stepped) start went
  obtain ⟨load', found', -⟩ := since.held.shown_load showing'
  exact ⟨load, load', found, found', since.shown j showing' load' found'⟩

def quiet : Reading := ⟨1, 2, 3, 4, 5, true⟩

def stamped (timestamp : Int) : MetricsSnapshot := ⟨timestamp, 0, 0, 0, 0, 0⟩

/-- An answer and a reading, and the selection of the last day. -/
def daySelected : List HistoryAction :=
  [.mount quiet 1000, .answer 0 (some [stamped 900]), .render { quiet with cpu := 9 } 2400,
    .select .day, .runEffect, .answer 1 (some [stamped 50, stamped 800])]

def dayState : MetricsHistory :=
  (Guarded.steps MetricsHistory.step initial daySelected).getD initial

/-- Two more loads of it, answered out of turn. -/
def dayTicks : List HistoryAction := [.tick, .tick, .answer 3 none, .answer 2 (some [])]

/-- A hook that comes back has the last hour and its own reading, and the answer to the hook
before it is not shown. -/
example : (Guarded.steps MetricsHistory.step initial
    [.mount quiet 1000, .replay 1000, .select .day, .runEffect, .unmount, .mount quiet 9000,
      .answer 2 (some [stamped 50])]).map
      (fun s => (s.range, s.points.map MetricsSnapshot.timestamp, s.loaders.map Loader.cancelled)) =
    some (.oneHour, [9000], [true, true, true, false]) := by decide

/-! ## Chronological order -/

def Chronological (points : List MetricsSnapshot) : Prop :=
  points.Pairwise fun a b => a.timestamp ≤ b.timestamp

/-- The backend answers for a range from a history of which no recorded sample is older
than the newest one stored. -/
def FromBackend (range : MetricsTimeRange) (points : List MetricsSnapshot) : Prop :=
  ∃ calls now, StepsForward (newHistory (24 * Time.hour) 50000) calls ∧
    points = (handleMetricsHistory ((newHistory (24 * Time.hour) 50000).records calls) now
      (historyUrl range)).map snapshot

/-- Every answer comes from there, for the range of its load. -/
def Served (s : MetricsHistory) : HistoryAction → Prop
  | .answer i (some points) => ∀ (load : Load) (loader : Loader), s.loads[i]? = some load →
      s.loaders[load.loader]? = some loader → FromBackend loader.range points
  | _ => True

theorem FromBackend.chronological {range : MetricsTimeRange} {points : List MetricsSnapshot}
    (from' : FromBackend range points) : Chronological points := by
  obtain ⟨calls, now, forward, rfl⟩ := from'
  have held := History.ordered_records (h := newHistory (24 * Time.hour) 50000) rfl forward
  exact List.pairwise_map.mpr (held.chronological.ordered now _ _)

theorem chronological_append {points : List MetricsSnapshot} (chronological : Chronological points)
    (reading : Reading) (ts : Int) : Chronological (appendReading points reading ts) := by
  have extended : ∀ latest : MetricsSnapshot,
      (∀ p ∈ points.getLast?, p.timestamp ≤ latest.timestamp) →
      Chronological (points ++ [latest]) := by
    intro latest above
    refine List.pairwise_append.mpr ⟨chronological, List.pairwise_singleton _ _, ?_⟩
    intro a member b single
    obtain rfl := List.mem_singleton.mp single
    have last := List.getLast?_eq_some_getLast (List.ne_nil_of_mem member)
    exact Int.le_trans (chronological.rel_getLast_of_rel_getLast_getLast member (Int.le_refl _))
      (above _ last)
  unfold appendReading
  dsimp only
  split
  · rename_i p found
    split
    · exact chronological
    · rename_i late
      apply extended
      intro q inside
      obtain rfl := Option.some.inj (found.symm.trans inside)
      dsimp only
      omega
  · rename_i none
    apply extended
    rw [none]
    nofun

theorem Chronological.append (chronological : Chronological s.points) (reading : Reading)
    (now : Int) : Chronological (s.append reading now).points := by
  unfold MetricsHistory.append
  dsimp only
  split
  · exact chronological_append chronological reading now
  · exact chronological

theorem chronological_step {action : HistoryAction} (chronological : Chronological s.points)
    (served : Served s action) (stepped : s.step action = some s') : Chronological s'.points := by
  have takes := takes_of_step stepped
  have cancelled : Chronological s.cancel.points := by
    rwa [s.cancel_keeps.2.2.2.2]
  cases action with
  | mount reading now =>
      obtain ⟨-, rfl⟩ := takes
      have empty : Chronological s.fresh.start.points := .nil
      exact empty.append reading now
  | replay now =>
      obtain ⟨-, -, reading, -, rfl⟩ := takes
      have restarted : Chronological s.cancel.start.points := cancelled
      exact restarted.append reading now
  | unmount =>
      obtain ⟨-, rfl⟩ := takes
      exact cancelled
  | select range =>
      obtain ⟨-, -, rfl | ⟨-, rfl⟩⟩ := takes
      · exact chronological
      · exact chronological
  | runEffect =>
      obtain ⟨-, rfl⟩ := takes
      exact cancelled
  | tick =>
      obtain ⟨k, -, rfl⟩ := takes
      exact chronological
  | answer i points =>
      obtain ⟨load, found, -, rfl⟩ := takes
      rcases s.settle_cases i load points with same | ⟨given, range, rfl, there, shown⟩
      · rw [same]
        exact chronological
      · rw [shown]
        exact (served load _ found there).chronological
  | render reading now =>
      rcases takes with rfl | rfl
      · exact chronological
      · exact chronological.append reading now

/-- In a list in order the points from some time on are its end. -/
theorem visible_suffix (chronological : Chronological s.points) (now : Int) :
    s.visible now <:+ s.points := by
  have rising : Rising (fun p : MetricsSnapshot => decide (now - rangeMs s.range ≤ p.timestamp))
      s.points := by
    apply chronological.imp
    intro a b order young
    have young := of_decide_eq_true young
    exact decide_eq_true (by omega)
  rw [visible, rising.filter_eq_drop]
  exact List.drop_suffix _ _

/-- **The charts run forward.**  Whatever order the answers arrive in and whatever the
clocks read, the list is chronological in every state, and what is visible is its end,
as long as no sample of the backend is older than the newest one it has stored. -/
theorem metrics_history_chronological {actions : List HistoryAction}
    (served : Guarded.Meets MetricsHistory.step Served initial actions)
    (ran : Guarded.steps MetricsHistory.step initial actions = some s) (now : Int) :
    Chronological s.points ∧ s.visible now <:+ s.points := by
  have empty : Chronological initial.points := .nil
  have kept := Guarded.steps_invariant_of
    (P := fun s => Chronological s.points)
    (fun before served stepped => chronological_step before served stepped) empty served ran
  exact ⟨kept, visible_suffix kept now⟩

/-- What the backend answers for an hour of three samples. -/
def threePoints : List MetricsSnapshot :=
  (handleMetricsHistory ((newHistory (24 * Time.hour) 50000).records threeSampled)
    (3 * Time.second) (historyUrl .oneHour)).map snapshot

/-- The rule where that answer comes after a reading of a browser whose clock is behind. -/
theorem metrics_history_chronological_three :
    ∃ s, Guarded.steps MetricsHistory.step initial
        [.mount quiet 700, .answer 0 (some threePoints), .render { quiet with cpu := 9 } 800] =
      some s ∧ Chronological s.points ∧ s.visible 3000 <:+ s.points := by
  have served : Guarded.Meets MetricsHistory.step Served initial
      [.mount quiet 700, .answer 0 (some threePoints), .render { quiet with cpu := 9 } 800] := by
    refine ⟨trivial, fun s mounted => ⟨?_, fun s' _ => ⟨trivial, fun _ _ => trivial⟩⟩⟩
    obtain rfl := Option.some.inj mounted
    intro load loader found there
    obtain rfl := Option.some.inj found
    obtain rfl := Option.some.inj there
    exact ⟨threeSampled, 3 * Time.second, by decide +kernel, rfl⟩
  exact ⟨_, rfl, metrics_history_chronological served rfl 3000⟩

end MetricsHistory

end VpsDashboard.Frontend
