/-
# VpsDashboard.Docker.LogsRequest — what is asked of the daemon for a log

`handleContainerLogs` passes on a container id and a tail that a client chose, and
`ContainerLogs` writes them into a URL.  `url.PathEscape` keeps the id within one segment
but leaves dots alone, so the ids `.` and `..` are written as the dot segments, and the
request is for `/containers/logs` or `/logs`.

* `containerLogsRequest_inside_iff` — for any id and any tail, the request is one for the
  log of that container exactly if the id is neither.

Strings are those of Go, any bytes.
-/
import VpsDashboard.Foundation.UrlParts

namespace VpsDashboard.Docker

open Foundation

set_option autoImplicit false

/-! ## The client -/

/-- The client that `NewClient` returns.  Its host is that of a parsed URL, or `docker` for
a socket, and the daemon has answered on it. -/
structure Client where
  scheme : String
  host : String
  web : scheme = "http" ∨ scheme = "https"
  bare : ∀ c ∈ host.toList, c ∉ ['/', '?', '#']

def Client.baseURL (c : Client) : List Char := c.scheme.toList ++ "://".toList ++ c.host.toList

/-- A request without a body. -/
structure Request where
  method : String
  url : URL

inductive RequestError where
  | text (s : String)
  | malformed (url : List Char)

/-- `Client.do`, up to the sending; a nil client is none. -/
def Client.do (c : Option Client) (method : String) (path : List Char) :
    Except RequestError Request :=
  match c with
  | none => .error (.text "docker client unavailable")
  | some c =>
      match URL.parse (c.baseURL ++ path) with
      | none => .error (.malformed (c.baseURL ++ path))
      | some url => .ok ⟨method, url⟩

def logsValues (tail : List UInt8) (follow : Bool) : Values :=
  let values : Values := []
  let values := Values.set values "stdout" (utf8 "true".toList)
  let values := Values.set values "stderr" (utf8 "true".toList)
  let values := Values.set values "follow" (utf8 (toString follow).toList)
  let values := Values.set values "tail" tail
  Values.set values "timestamps" (utf8 "true".toList)

def Client.containerLogs (c : Option Client) (id tail : List UInt8) (follow : Bool) :
    Except RequestError Request :=
  Client.do c "GET" ("/containers/".toList ++ pathEscape id ++ "/logs?".toList ++
    (logsValues tail follow).encode)

/-- `Monitor.StreamLogs`. -/
def streamLogs (client : Option Client) (containerID tail : List UInt8) (follow : Bool) :
    Except RequestError Request :=
  match client with
  | none => .error (.text "docker client unavailable")
  | some c => Client.containerLogs (some c) containerID tail follow

/-- What `handleContainerLogs` reads of a request: the segment of the path, and the
parameters. -/
structure LogsCall where
  id : List UInt8
  query : List (List UInt8 × List UInt8)

/-- The request that `handleContainerLogs` makes. -/
def containerLogsRequest (client : Option Client) (r : LogsCall) : Except RequestError Request :=
  let stream : Bool := getValue r.query (utf8 "stream".toList) = utf8 "true".toList
  let tail := getValue r.query (utf8 "tail".toList)
  let tail := if tail = [] then utf8 "100".toList else tail
  if !stream then streamLogs client r.id tail false else streamLogs client r.id tail true

/-! ## What is sent -/

/-- The path that is written for an id. -/
def logsPath (id : List UInt8) : List Char :=
  joinSegments ["containers".toList, pathEscape id, "logs".toList]

theorem logsPath_eq (id : List UInt8) :
    logsPath id = "/containers/".toList ++ (pathEscape id ++ "/logs".toList) := by
  simp [logsPath, joinSegments, List.intercalate_cons_cons]

theorem logsPath_valid (id : List UInt8) : ∀ c ∈ logsPath id, validEncoded c = true := by
  have literal : ∀ c ∈ "/containers/".toList ++ "/logs".toList, validEncoded c = true :=
    fun c member => List.all_eq_true.mp
      (by decide +kernel : ("/containers/".toList ++ "/logs".toList).all validEncoded = true) c member
  intro c member
  rw [logsPath_eq] at member
  rcases List.mem_append.mp member with inside | inside
  · exact literal c (List.mem_append_left _ inside)
  · rcases List.mem_append.mp inside with escaped | inside
    · exact (pathEscape_safe escaped).1
    · exact literal c (List.mem_append_right _ inside)

theorem logsPath_escapes (id : List UInt8) : (pathUnescape (logsPath id)).isSome = true := by
  rw [logsPath_eq, pathUnescape_append (by decide), pathUnescape_pathEscape_append,
    Option.isSome_map, Option.isSome_map]
  decide

theorem logsValues_sorted (tail : List UInt8) (follow : Bool) :
    (logsValues tail follow).sorted =
      [("follow", utf8 (toString follow).toList), ("stderr", utf8 "true".toList),
        ("stdout", utf8 "true".toList), ("tail", tail), ("timestamps", utf8 "true".toList)] := by
  simp +decide [logsValues, Values.set, Values.sorted]

/-- The request, with the parts of its URL. -/
theorem containerLogs_eq (c : Client) (id tail : List UInt8) (follow : Bool) :
    Client.containerLogs (some c) id tail follow =
      .ok ⟨"GET", c.scheme.toList, c.host.toList, logsPath id, (logsValues tail follow).encode⟩ := by
  have schemeBare : ∀ x ∈ c.scheme.toList, x ∉ [':', '#'] := by
    rcases c.web with http | https
    · simp [http]
    · simp [https]
  have parsed := parse_join schemeBare c.bare rfl (logsPath_valid id) (logsPath_escapes id)
    (hash_not_mem_encode (logsValues tail follow))
  have written : c.baseURL ++ ("/containers/".toList ++ pathEscape id ++ "/logs?".toList ++
      (logsValues tail follow).encode) = c.scheme.toList ++ ':' :: '/' :: '/' :: (c.host.toList ++
        (logsPath id ++ '?' :: (logsValues tail follow).encode)) := by
    simp [Client.baseURL, logsPath_eq]
  rw [Client.containerLogs, Client.do, written, parsed]

/-! ## What remains of the path -/

/-- The request is for the log of this container. -/
structure InsideLogs (id tail : List UInt8) (request : Request) : Prop where
  get : request.method = "GET"
  path : ∃ segment : List Char, '/' ∉ segment ∧ pathUnescape segment = some id ∧
    removeDotSegments request.url.path = "/containers/".toList ++ segment ++ "/logs".toList
  query : ∃ follow : Bool, parseQuery request.url.rawQuery =
    [(utf8 "follow".toList, utf8 (toString follow).toList),
      (utf8 "stderr".toList, utf8 "true".toList), (utf8 "stdout".toList, utf8 "true".toList),
      (utf8 "tail".toList, tail), (utf8 "timestamps".toList, utf8 "true".toList)]

/-- The ids that are written as dot segments. -/
def dotID : List UInt8 := utf8 dot

def dotDotID : List UInt8 := utf8 dotDot

theorem pathEscape_inj {a b : List UInt8} : pathEscape a = pathEscape b ↔ a = b := by
  constructor
  · intro same
    have read := congrArg pathUnescape same
    simpa using read
  · rintro rfl
    rfl

theorem removeDotSegments_logsPath (id : List UInt8) :
    removeDotSegments (logsPath id) =
      if id = dotID then "/containers/logs".toList
      else if id = dotDotID then "/logs".toList
      else logsPath id := by
  have one : pathEscape id = dot ↔ id = dotID := by
    rw [← pathEscape_inj]
    exact Iff.rfl
  have two : pathEscape id = dotDot ↔ id = dotDotID := by
    rw [← pathEscape_inj]
    exact Iff.rfl
  have bare : ∀ segment ∈ ["containers".toList, pathEscape id, "logs".toList], '/' ∉ segment := by
    simp only [List.forall_mem_cons]
    exact ⟨by decide, fun member => (pathEscape_safe member).2 (by decide), by decide, by simp⟩
  rw [logsPath, removeDotSegments_joinSegments (by simp) bare]
  simp only [← one, ← two]
  by_cases single : pathEscape id = dot
  · simp +decide [withoutDots, single]
  · by_cases double : pathEscape id = dotDot
    · simp +decide [withoutDots, double]
    · simp +decide [withoutDots, single, double]

theorem insideLogs_iff (c : Client) (id tail : List UInt8) (follow : Bool) :
    InsideLogs id tail ⟨"GET", c.scheme.toList, c.host.toList, logsPath id,
      (logsValues tail follow).encode⟩ ↔ id ≠ dotID ∧ id ≠ dotDotID := by
  have removed := removeDotSegments_logsPath id
  constructor
  · rintro ⟨-, ⟨segment, -, read, path⟩, -⟩
    dsimp only at path
    have long := congrArg List.length path
    constructor
    · rintro rfl
      rw [removed, if_pos rfl] at long
      simp at long
    · rintro rfl
      rw [removed, if_neg (by decide), if_pos rfl] at long
      simp at long
  · rintro ⟨notDot, notDotDot⟩
    rw [if_neg notDot, if_neg notDotDot] at removed
    constructor
    case get => rfl
    case path =>
      refine ⟨pathEscape id, fun member => (pathEscape_safe member).2 (by decide),
        pathUnescape_pathEscape id, ?_⟩
      rw [removed, logsPath_eq, List.append_assoc]
    case query =>
      refine ⟨follow, ?_⟩
      dsimp only
      rw [parseQuery_encode (by simp [logsValues, Values.set]), logsValues_sorted]
      rfl

theorem containerLogsRequest_eq (client : Client) {r : LogsCall}
    (nonempty : getValue r.query (utf8 "tail".toList) ≠ []) :
    ∃ follow, containerLogsRequest (some client) r =
      .ok ⟨"GET", client.scheme.toList, client.host.toList, logsPath r.id,
        (logsValues (getValue r.query (utf8 "tail".toList)) follow).encode⟩ := by
  rw [containerLogsRequest, if_neg nonempty]
  split
  · exact ⟨false, containerLogs_eq client r.id _ false⟩
  · exact ⟨true, containerLogs_eq client r.id _ true⟩

/-- **Requests stay inside** the logs of the container, except for the dot segments. -/
theorem containerLogsRequest_inside_iff (client : Client) (r : LogsCall)
    (nonempty : getValue r.query (utf8 "tail".toList) ≠ []) :
    (∃ request, containerLogsRequest (some client) r = .ok request ∧
        InsideLogs r.id (getValue r.query (utf8 "tail".toList)) request) ↔
      r.id ≠ dotID ∧ r.id ≠ dotDotID := by
  obtain ⟨follow, made⟩ := containerLogsRequest_eq client nonempty
  rw [made, ← insideLogs_iff client r.id (getValue r.query (utf8 "tail".toList)) follow]
  constructor
  · rintro ⟨request, same, inside⟩
    obtain rfl := Except.ok.inj same
    exact inside
  · exact fun inside => ⟨_, rfl, inside⟩

/-- The client for `/var/run/docker.sock`. -/
def unixClient : Client where
  scheme := "http"
  host := "docker"
  web := Or.inl rfl
  bare := by simp

/-- A request for the last lines of `id`. -/
def tailCall (id tail : String) : LogsCall where
  id := utf8 id.toList
  query := [(utf8 "tail".toList, utf8 tail.toList)]

theorem containerLogsRequest_inside_percent :
    ∃ request, containerLogsRequest (some unixClient) (tailCall "b c%.." "5&follow=1") =
        .ok request ∧
      InsideLogs (utf8 "b c%..".toList) (utf8 "5&follow=1".toList) request :=
  (containerLogsRequest_inside_iff unixClient (tailCall "b c%.." "5&follow=1")
    (by decide)).mpr ⟨by decide, by decide⟩

/-- `GET /api/containers/../logs` asks the daemon for `/logs`. -/
theorem containerLogsRequest_dotDot :
    ∃ request, containerLogsRequest (some unixClient) (tailCall ".." "100") = .ok request ∧
      removeDotSegments request.url.path = "/logs".toList ∧
      ¬InsideLogs (utf8 "..".toList) (utf8 "100".toList) request := by
  obtain ⟨follow, made⟩ := containerLogsRequest_eq unixClient (r := tailCall ".." "100") (by decide)
  refine ⟨_, made, ?_, ?_⟩
  · show removeDotSegments (logsPath dotDotID) = _
    rw [removeDotSegments_logsPath, if_neg (by decide), if_pos rfl]
  · intro inside
    exact ((insideLogs_iff unixClient _ _ follow).mp inside).2 rfl

end VpsDashboard.Docker
