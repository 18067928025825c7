/-
# VpsDashboard.Docker.Containers — the rows of the container table and their statistics

`ListContainers` and `CollectStats` ask the daemon for its containers at different times,
so either list may have containers that the other has not, and `CollectStats` leaves out
those whose statistics it does not get.  Both shorten an id to its first twelve bytes, and
`findStats` joins them in the browser: equal, or one the beginning of the other.

* `findStats_own` — with ids of twelve characters or more that differ in the first twelve,
  a row gets the entry of its very own container, if there is one, and nothing otherwise;
  the entries stand in the order of the daemon, one at most for a container listed once.
-/
import VpsDashboard.Docker.CpuPercent
import VpsDashboard.Docker.Traefik
import VpsDashboard.Foundation.Utf8

namespace VpsDashboard.Docker

open Foundation

set_option autoImplicit false

/-! ## What the daemon answers -/

/-- An id of the daemon, which is hexadecimal: each of its characters is one byte. -/
structure DockerID where
  text : String
  ascii : ∀ c ∈ text.toList, c.toNat < 0x80
deriving DecidableEq

structure ContainerSummary where
  id : DockerID
  names : List String
  state : String
  status : String
  created : Int
  /-- In the order in which the map is iterated. -/
  labels : List (String × String)

/-- `startedAt` is none when the text is blank or no time. -/
structure ContainerInspect where
  status : String
  startedAt : Option Time

/-- What is asked for one row: the container, and the clock when it is read the first and
the second time. -/
structure Inspection where
  inspect : Option ContainerInspect
  now : Time
  later : Time

/-- A decoded answer to a request for statistics. -/
structure ContainerSample where
  response : StatsResponse
  memoryUsage : UInt64
  memoryLimit : UInt64

inductive StatsOutcome where
  | refused
  | undecodable
  | sample (v : ContainerSample)

/-! ## What is made of it -/

structure ContainerInfo where
  id : String
  name : String
  status : String
  state : String
  uptime : String
  /-- None for the zero time. -/
  startedAt : Option Time
  publicURL : String
  labels : List (String × String)

structure ContainerStats where
  id : String
  name : String
  cpuPercent : ℚ
  memoryUsage : UInt64
  memoryLimit : UInt64
  memoryPercent : ℚ

/-- An error, or a slice out of range. -/
inductive DockerFault where
  | error (text : String)
  | sliceBounds
deriving DecidableEq

/-- `s[:n]`, as it is shown in JSON: a byte that is no character becomes U+FFFD. -/
def sliceTo (n : Nat) (s : String) : Option String :=
  if n ≤ (utf8 s.toList).length then
    some (String.ofList ((runes ((utf8 s.toList).take n)).map fun r => r.getD Utf8.replacement))
  else none

/-- `c.ID[:12]`. -/
def DockerID.short (id : DockerID) : Option String := sliceTo 12 id.text

def trimContainerName : List String → String
  | [] => ""
  | name :: _ => if "/".toList.isPrefixOf name.toList then String.ofList (name.toList.drop 1) else name

/-- `now.Sub(started)`, which saturates. -/
def since (now started : Time) : Duration := max (-2 ^ 63) (min (2 ^ 63 - 1) (now - started))

/-- The conversions to `int` cut off what is behind the point. -/
def formatUptime (d : Duration) : String :=
  if d < Time.minute then toString (d.tdiv Time.second) ++ "s"
  else if d < Time.hour then toString (d.tdiv Time.minute) ++ "m"
  else if d < 24 * Time.hour then
    toString (d.tdiv Time.hour) ++ "h " ++ toString (d.tdiv Time.minute % 60) ++ "m"
  else toString (d.tdiv Time.hour / 24) ++ "d " ++ toString (d.tdiv Time.hour % 24) ++ "h"

/-- One row. -/
def containerInfo (c : ContainerSummary) (id : String) (q : Inspection) : ContainerInfo :=
  let info : ContainerInfo :=
    { id := id
      name := trimContainerName c.names
      status := c.status
      state := c.state
      uptime := ""
      startedAt := none
      publicURL := parseTraefikURL c.labels
      labels := c.labels }
  let info :=
    if 0 < c.created then
      let started := Time.unixPlusSeconds c.created 0
      { info with startedAt := some started, uptime := formatUptime (since q.now started) }
    else info
  match q.inspect with
  | some ⟨status, some started⟩ =>
      { info with
        startedAt := some started, uptime := formatUptime (since q.later started), state := status }
  | _ => info

/-- One entry. -/
def containerStats (c : ContainerSummary) (id : String) (v : ContainerSample) : ContainerStats where
  id := id
  name := trimContainerName c.names
  cpuPercent := calculateCPUPercent v.response
  memoryUsage := v.memoryUsage
  memoryLimit := v.memoryLimit
  memoryPercent :=
    if 0 < v.memoryLimit then (v.memoryUsage.toNat : ℚ) / v.memoryLimit.toNat * 100 else 0

/-- The loops over the containers, none when a slice is out of range. -/
def listLoop : List (ContainerSummary × Inspection) → Option (List ContainerInfo)
  | [] => some []
  | (c, q) :: rest => do
      let id ← c.id.short
      return containerInfo c id q :: (← listLoop rest)

def statsLoop : List (ContainerSummary × StatsOutcome) → Option (List ContainerStats)
  | [] => some []
  | (_, .refused) :: rest => statsLoop rest
  | (_, .undecodable) :: rest => statsLoop rest
  | (c, .sample v) :: rest => do
      let id ← c.id.short
      return containerStats c id v :: (← statsLoop rest)

/-- The containers come from the client, if there is one. -/
def withContainers {γ ρ : Type} (loop : List γ → Option (List ρ)) :
    Option (Except String (List γ)) → Except DockerFault (List ρ)
  | none => .ok []
  | some (.error e) => .error (.error ("list containers: " ++ e))
  | some (.ok containers) =>
      match loop containers with
      | none => .error .sliceBounds
      | some result => .ok result

def listContainers : Option (Except String (List (ContainerSummary × Inspection))) →
    Except DockerFault (List ContainerInfo) := withContainers listLoop

def collectStats : Option (Except String (List (ContainerSummary × StatsOutcome))) →
    Except DockerFault (List ContainerStats) := withContainers statsLoop

/-- `text.startsWith(start)`. -/
def startsWith (text start : String) : Bool := start.toList.isPrefixOf text.toList

/-- `findStats` of the container table. -/
def findStats (stats : List ContainerStats) (id : String) : Option ContainerStats :=
  stats.find? fun s => s.id == id || startsWith id s.id || startsWith s.id id

/-! ## Shortened ids -/

/-- The first twelve characters. -/
def DockerID.beginning (id : DockerID) : List Char := id.text.toList.take 12

/-- Ids of twelve characters or more, of which different ones begin differently. -/
structure Distinguishable (ids : List DockerID) : Prop where
  long : ∀ id ∈ ids, 12 ≤ id.text.toList.length
  apart : ∀ a ∈ ids, ∀ b ∈ ids, a ≠ b → a.beginning ≠ b.beginning

instance (ids : List DockerID) : Decidable (Distinguishable ids) :=
  decidable_of_iff ((∀ id ∈ ids, 12 ≤ id.text.toList.length) ∧
      ∀ a ∈ ids, ∀ b ∈ ids, a ≠ b → a.beginning ≠ b.beginning)
    ⟨fun both => ⟨both.1, both.2⟩, fun good => ⟨good.long, good.apart⟩⟩

theorem DockerID.short_eq {id : DockerID} (long : 12 ≤ id.text.toList.length) :
    id.short = some (String.ofList id.beginning) := by
  have bytes := utf8_ascii id.ascii
  have first : (utf8 id.text.toList).take 12 = utf8 id.beginning := by
    have ascii : ∀ c ∈ id.beginning, c.toNat < 0x80 :=
      fun c member => id.ascii c (List.mem_of_mem_take member)
    rw [bytes, utf8_ascii ascii, beginning, List.map_take]
  have enough : 12 ≤ (utf8 id.text.toList).length := by simpa [bytes] using long
  rw [short, sliceTo, if_pos enough, first, runes_encode]
  simp

/-- Of two texts of one length, one begins with the other only if they are equal. -/
theorem startsWith_iff {text start : String} (same : text.toList.length = start.toList.length) :
    startsWith text start = true ↔ text = start := by
  rw [startsWith, List.isPrefixOf_iff_prefix]
  constructor
  · intro begins
    exact (String.toList_inj.mp (begins.eq_of_length same.symm)).symm
  · rintro rfl
    exact List.prefix_rfl

/-! ## The join -/

/-- The entry that is made for a container of the list. -/
def statsEntry (p : ContainerSummary × StatsOutcome) : Option ContainerStats :=
  match p.2 with
  | .sample v => some (containerStats p.1 (String.ofList p.1.id.beginning) v)
  | _ => none

theorem statsEntry_id {p : ContainerSummary × StatsOutcome} {entry : ContainerStats}
    (made : statsEntry p = some entry) : entry.id = String.ofList p.1.id.beginning := by
  unfold statsEntry at made
  split at made
  · obtain rfl := Option.some.inj made
    rfl
  · cases made

theorem statsLoop_eq {sampled : List (ContainerSummary × StatsOutcome)}
    (long : ∀ p ∈ sampled, 12 ≤ p.1.id.text.toList.length) :
    statsLoop sampled = some (sampled.filterMap statsEntry) := by
  induction sampled with
  | nil => rfl
  | cons p rest ih =>
      obtain ⟨c, outcome⟩ := p
      obtain ⟨here, later⟩ := List.forall_mem_cons.mp long
      have short := DockerID.short_eq here
      cases outcome with
      | refused =>
          rw [statsLoop, List.filterMap_cons_none rfl]
          exact ih later
      | undecodable =>
          rw [statsLoop, List.filterMap_cons_none rfl]
          exact ih later
      | sample v => simp [statsLoop, statsEntry, short, ih later]

theorem listLoop_eq {listed : List (ContainerSummary × Inspection)}
    (long : ∀ p ∈ listed, 12 ≤ p.1.id.text.toList.length) :
    listLoop listed = some (listed.map fun p =>
      containerInfo p.1 (String.ofList p.1.id.beginning) p.2) := by
  induction listed with
  | nil => rfl
  | cons p rest ih =>
      obtain ⟨here, later⟩ := List.forall_mem_cons.mp long
      have short := DockerID.short_eq here
      simp [listLoop, short, ih later]

theorem containerInfo_id (c : ContainerSummary) (id : String) (q : Inspection) :
    (containerInfo c id q).id = id := by
  unfold containerInfo
  split
  · split <;> rfl
  · split <;> rfl

theorem length_beginning {id : DockerID} (long : 12 ≤ id.text.toList.length) :
    id.beginning.length = 12 := by
  simpa [DockerID.beginning] using long

/-- Among distinguishable ids the test of `findStats` is equality of the ids. -/
theorem matches_statsEntry {p : ContainerSummary × StatsOutcome} {entry : ContainerStats}
    {id : DockerID} (made : statsEntry p = some entry) (long : 12 ≤ p.1.id.text.toList.length)
    (longRow : 12 ≤ id.text.toList.length)
    (apart : p.1.id ≠ id → p.1.id.beginning ≠ id.beginning) :
    (entry.id == String.ofList id.beginning || startsWith (String.ofList id.beginning) entry.id ||
      startsWith entry.id (String.ofList id.beginning)) = decide (p.1.id = id) := by
  have same : (String.ofList id.beginning).toList.length = entry.id.toList.length := by
    rw [statsEntry_id made]
    simp [length_beginning long, length_beginning longRow]
  have forth := startsWith_iff same
  have back := startsWith_iff same.symm
  have equal : entry.id = String.ofList id.beginning ↔ p.1.id = id := by
    rw [statsEntry_id made, String.ofList_inj]
    constructor
    · intro begins
      by_contra other
      exact apart other begins
    · rintro rfl
      rfl
  rw [Bool.eq_iff_iff]
  simp only [Bool.or_eq_true, beq_iff_eq, forth, back, decide_eq_true_eq, ← equal]
  grind

theorem findStats_filterMap {sampled : List (ContainerSummary × StatsOutcome)} {id : DockerID}
    (distinguishable : Distinguishable (id :: sampled.map fun p => p.1.id)) :
    findStats (sampled.filterMap statsEntry) (String.ofList id.beginning) =
      sampled.findSome? fun p => if p.1.id = id then statsEntry p else none := by
  obtain ⟨long, apart⟩ := distinguishable
  have test : ∀ p ∈ sampled, ∀ entry, statsEntry p = some entry →
      (entry.id == String.ofList id.beginning || startsWith (String.ofList id.beginning) entry.id ||
        startsWith entry.id (String.ofList id.beginning)) = decide (p.1.id = id) := by
    intro p member entry made
    have inside : p.1.id ∈ id :: sampled.map fun p => p.1.id :=
      List.mem_cons_of_mem _ (List.mem_map_of_mem member)
    exact matches_statsEntry made (long _ inside) (long id List.mem_cons_self)
      (apart _ inside id List.mem_cons_self)
  clear long apart
  induction sampled with
  | nil => rfl
  | cons p rest ih =>
      obtain ⟨here, later⟩ := List.forall_mem_cons.mp test
      rw [List.findSome?_cons]
      cases made : statsEntry p with
      | none =>
          rw [List.filterMap_cons_none made, ih later]
          simp
      | some entry =>
          have found := here entry made
          rw [List.filterMap_cons_some made, findStats, List.find?_cons, found]
          by_cases own : p.1.id = id
          · simp [own]
          · simpa [own, findStats] using ih later

/-- What is joined: each row gets the entry of its own container. -/
structure OwnStats (listed : List (ContainerSummary × Inspection))
    (sampled : List (ContainerSummary × StatsOutcome)) (rows : List ContainerInfo)
    (stats : List ContainerStats) : Prop where
  rows_length : rows.length = listed.length
  own : ∀ (i : Nat) (p : ContainerSummary × Inspection) (row : ContainerInfo), listed[i]? = some p →
    rows[i]? = some row →
      findStats stats row.id = sampled.findSome? fun p' =>
        if p'.1.id = p.1.id then statsEntry p' else none
  ordered : stats = sampled.filterMap statsEntry
  once : ∀ id : DockerID, (sampled.map fun p => p.1.id).count id = 1 →
    (stats.filter fun entry => entry.id = String.ofList id.beginning).length ≤ 1

/-- The entries of a container are as many as it is listed, at most. -/
theorem length_filter_statsEntry {sampled : List (ContainerSummary × StatsOutcome)} {id : DockerID}
    (apart : ∀ p ∈ sampled, p.1.id ≠ id → p.1.id.beginning ≠ id.beginning) :
    ((sampled.filterMap statsEntry).filter fun entry =>
      entry.id = String.ofList id.beginning).length ≤ (sampled.map fun p => p.1.id).count id := by
  induction sampled with
  | nil => exact Nat.le_refl 0
  | cons p rest ih =>
      obtain ⟨here, later⟩ := List.forall_mem_cons.mp apart
      have tail := ih later
      rw [List.map_cons, List.count_cons]
      cases made : statsEntry p with
      | none =>
          rw [List.filterMap_cons_none made]
          omega
      | some entry =>
          rw [List.filterMap_cons_some made]
          by_cases same : p.1.id = id
          · simpa [statsEntry_id made, String.ofList_inj, same] using tail
          · simpa [statsEntry_id made, String.ofList_inj, same, here same] using tail

/-- A row shows the statistics of its own container. -/
theorem findStats_own (listed : List (ContainerSummary × Inspection))
    (sampled : List (ContainerSummary × StatsOutcome))
    (distinguishable :
      Distinguishable ((listed.map fun p => p.1.id) ++ sampled.map fun p => p.1.id)) :
    ∃ rows stats, listContainers (some (.ok listed)) = .ok rows ∧
      collectStats (some (.ok sampled)) = .ok stats ∧ OwnStats listed sampled rows stats := by
  obtain ⟨long, apart⟩ := distinguishable
  have inListed : ∀ p ∈ listed,
      p.1.id ∈ (listed.map fun p => p.1.id) ++ sampled.map fun p => p.1.id :=
    fun p member => List.mem_append_left _ (List.mem_map_of_mem member)
  have inSampled : ∀ p ∈ sampled,
      p.1.id ∈ (listed.map fun p => p.1.id) ++ sampled.map fun p => p.1.id :=
    fun p member => List.mem_append_right _ (List.mem_map_of_mem member)
  have rowsMade := listLoop_eq fun p member => long _ (inListed p member)
  have statsMade := statsLoop_eq fun p member => long _ (inSampled p member)
  refine ⟨_, _, by rw [listContainers, withContainers, rowsMade],
    by rw [collectStats, withContainers, statsMade], ?_⟩
  constructor
  case rows_length => exact List.length_map _
  case own =>
    intro i p row here made
    have member := List.mem_of_getElem? here
    have shown : row.id = String.ofList p.1.id.beginning := by
      rw [List.getElem?_map, here] at made
      obtain rfl := Option.some.inj made
      exact containerInfo_id _ _ _
    rw [shown]
    apply findStats_filterMap
    have among : ∀ id ∈ p.1.id :: sampled.map fun p => p.1.id,
        id ∈ (listed.map fun p => p.1.id) ++ sampled.map fun p => p.1.id :=
      List.forall_mem_cons.mpr
        ⟨inListed p member, fun _ inside => List.mem_append_right _ inside⟩
    exact ⟨fun id inside => long id (among id inside),
      fun a inA b inB => apart a (among a inA) b (among b inB)⟩
  case ordered => rfl
  case once =>
    intro id single
    have inside : id ∈ sampled.map fun p => p.1.id :=
      List.count_pos_iff.mp (by omega)
    rw [← single]
    apply length_filter_statsEntry
    exact fun p member => apart _ (inSampled p member) _ (List.mem_append_right _ inside)

/-- An id of one digit. -/
def DockerID.ofDigit (digit : Fin 10) : DockerID where
  text := String.ofList (List.replicate 64 digit.val.digitChar)
  ascii := by
    intro c member
    rw [String.toList_ofList] at member
    obtain rfl := List.eq_of_mem_replicate member
    revert digit
    decide

def summaryOfDigit (digit : Fin 10) (name : String) : ContainerSummary where
  id := DockerID.ofDigit digit
  names := [name]
  state := "running"
  status := "Up 2 hours"
  created := 0
  labels := []

/-- The readings of a container that used half of what the host had. -/
def halfBusy : ContainerSample where
  response :=
    { cpuStats :=
        { cpuUsage := { totalUsage := 150, percpuUsage := [] }, systemUsage := 200, onlineCPUs := 1 }
      preCPUStats := { totalUsage := 100, systemUsage := 100 } }
  memoryUsage := 512
  memoryLimit := 1024

def listedBefore : List (ContainerSummary × Inspection) :=
  [(summaryOfDigit 1 "/web", ⟨none, 0, 0⟩), (summaryOfDigit 2 "/db", ⟨none, 0, 0⟩),
    (summaryOfDigit 3 "/proxy", ⟨none, 0, 0⟩)]

/-- `/web` was removed and `/cache` was started, and the request for `/db` failed. -/
def sampledAfter : List (ContainerSummary × StatsOutcome) :=
  [(summaryOfDigit 4 "/cache", .sample halfBusy), (summaryOfDigit 2 "/db", .refused),
    (summaryOfDigit 3 "/proxy", .sample halfBusy)]

theorem findStats_own_removed_and_started :
    ∃ rows stats, listContainers (some (.ok listedBefore)) = .ok rows ∧
      collectStats (some (.ok sampledAfter)) = .ok stats ∧
      OwnStats listedBefore sampledAfter rows stats :=
  findStats_own listedBefore sampledAfter (by decide +kernel)

end VpsDashboard.Docker
