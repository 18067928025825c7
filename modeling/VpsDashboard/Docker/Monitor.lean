/-
# VpsDashboard.Docker.Monitor — what is asked of the daemon, and what becomes of its answers

`ListContainers` asks for the containers and then inspects each of them; `CollectStats`
asks for the containers and then for the statistics of each.  A request may fail at any
point, be refused with a status, be redirected, or be answered with something that cannot
be decoded.  Only the first answer is needed: where a later one is missing the loop goes on.

* `monitor_asks` — whatever the daemon answers, exactly which calls of `httpClient.Do` are
  made and in which order, and that the result is that of `listLoop` and `statsLoop` for
  the decoded answers;
* `monitor_only_reads` — the request of every call is a `GET` that lists, inspects or reads
  statistics or a log, of a container that was listed or asked for, and a call sends no
  others but those that the daemon itself redirects it to, with a `GET` again.

A request is one that is handed to the transport, which sends none once the context of the
call is done.  `encoding/json`, the resolution of a `Location` and the texts of errors of
`net/http` are parameters.
-/
import VpsDashboard.Docker.Containers
import VpsDashboard.Docker.LogsRequest
import VpsDashboard.Foundation.Interleaving

namespace VpsDashboard.Docker

open Foundation

set_option autoImplicit false

/-! ## The daemon -/

/-- `location` is the value of the first header of that name, empty without one. -/
structure Response where
  statusCode : Nat
  status : String
  location : List UInt8
  body : List UInt8

/-- The decoders of `encoding/json` for the three kinds of answers, the reference that a
`Location` is to a URL, and the texts of the errors of a malformed URL and of too many
redirects. -/
structure Library where
  containers : List UInt8 → Except String (List ContainerSummary)
  inspect : List UInt8 → Except String ContainerInspect
  stats : List UInt8 → Except String ContainerSample
  resolve : URL → List UInt8 → Except String URL
  malformed : List Char → String
  stopped : List UInt8 → String

/-- The statuses for which `redirectBehavior` sends a `GET` on. -/
def redirectCodes : List Nat := [301, 302, 303, 307, 308]

/-- The request that an answer leads to, none where the answer is the result. -/
def Library.next (lib : Library) (request : Request) (resp : Response) :
    Option (Except String Request) :=
  if resp.statusCode ∈ redirectCodes ∧ resp.location ≠ [] then
    some ((lib.resolve request.url resp.location).map fun url => { request with url := url })
  else none

/-- The requests of a call of `httpClient.Do`, of which `left` may follow the first, and what
it returns, for what each of them is answered, in turn. -/
def exchange (lib : Library) (left : Nat) (request : Request)
    (reply : Nat → Except String Response) : List Request × Except String Response :=
  match reply 0 with
  | .error e => ([request], .error e)
  | .ok resp =>
      match lib.next request resp with
      | none => ([request], .ok resp)
      | some (.error e) => ([request], .error e)
      | some (.ok next) =>
          match left with
          | 0 => ([request], .error (lib.stopped resp.location))
          | left + 1 =>
              let rest := exchange lib left next fun n => reply (n + 1)
              (request :: rest.1, rest.2)

/-- One redirect, and a daemon that always redirects. -/
example (lib : Library) (request : Request) (url : URL)
    (resolves : ∀ at', lib.resolve at' [47] = .ok url) :
    let found : Response := ⟨302, "302 Found", [47], []⟩
    let ok : Response := ⟨200, "200 OK", [], []⟩
    exchange lib 9 request (fun n => if n = 0 then .ok found else .ok ok) =
        ([request, { request with url := url }], .ok ok) ∧
      exchange lib 1 request (fun _ => .ok found) =
        ([request, { request with url := url }], .error (lib.stopped [47])) := by
  simp [exchange, Library.next, redirectCodes, resolves, Except.map]

/-- `send` is a call of `httpClient.Do`. -/
inductive DaemonAct where
  | send (request : Request)
  | now

abbrev DaemonAns : DaemonAct → Type
  | .send _ => Except String Response
  | .now => Time

/-- What the daemon answers to the requests of a call in turn, or the errors of the
transport, and what the clock reads. -/
structure DaemonEnv where
  reply : Nat → Except String Response
  now : Time

/-- Ten requests are sent at most. -/
def DaemonEnv.exchange (env : DaemonEnv) (lib : Library) (request : Request) :
    List Request × Except String Response :=
  Docker.exchange lib 9 request env.reply

def DaemonEnv.answer (env : DaemonEnv) (lib : Library) (request : Request) :
    Except String Response :=
  (env.exchange lib request).2

def daemon (lib : Library) : Machine DaemonAct DaemonAns DaemonEnv Unit where
  exec
    | _, .send request, env => (env.answer lib request, ())
    | _, .now, env => (env.now, ())

abbrev DaemonProg := Program DaemonAct DaemonAns
abbrev DaemonStep := Event DaemonAct DaemonEnv Unit
abbrev DaemonTrace := List DaemonStep

/-! ## The client -/

/-- Bytes as they are shown. -/
def readText (bytes : List UInt8) : String :=
  String.ofList ((runes bytes).map fun r => r.getD Utf8.replacement)

def responseError (resp : Response) : String :=
  let message := trimSpace (readText (resp.body.take 4096))
  if message = "" then "docker API returned " ++ resp.status
  else "docker API returned " ++ resp.status ++ ": " ++ message

/-- The body of an answer with the status 200. -/
def okBody : Except String Response → Except String (List UInt8)
  | .error e => .error e
  | .ok resp => if resp.statusCode ≠ 200 then .error (responseError resp) else .ok resp.body

def decoded {β : Type} (decode : List UInt8 → Except String β) (reply : Except String Response) :
    Except String β :=
  match okBody reply with
  | .error e => .error e
  | .ok body => decode body

def allValues : Values := Values.set [] "all" (utf8 "false".toList)

def streamValues : Values := Values.set [] "stream" (utf8 "false".toList)

namespace Client

variable (lib : Library) (c : Option Client)

/-- `httpClient.Do` of a request that was made. -/
def roundTrip : Except RequestError Request → DaemonProg (Except String Response)
  | .error (.text s) => return .error s
  | .error (.malformed url) => return .error (lib.malformed url)
  | .ok request => Program.perform (DaemonAct.send request)

def getJSON {β : Type} (path : List Char) (decode : List UInt8 → Except String β) :
    DaemonProg (Except String β) := do
  return decoded decode (← roundTrip lib (Client.do c "GET" path))

def ping : DaemonProg (Except String (List UInt8)) := do
  return okBody (← roundTrip lib (Client.do c "GET" "/_ping".toList))

def containerList : DaemonProg (Except String (List ContainerSummary)) :=
  getJSON lib c ("/containers/json?".toList ++ allValues.encode) lib.containers

def containerInspect (id : List UInt8) : DaemonProg (Except String ContainerInspect) :=
  getJSON lib c ("/containers/".toList ++ pathEscape id ++ "/json".toList) lib.inspect

def containerStatsOneShot (id : List UInt8) : DaemonProg (Except String (List UInt8)) := do
  return okBody (← roundTrip lib (Client.do c "GET"
    ("/containers/".toList ++ pathEscape id ++ "/stats?".toList ++ streamValues.encode)))

/-- `ContainerLogs`, up to the reader that it returns. -/
def openLogs (id tail : List UInt8) (follow : Bool) : DaemonProg (Except String (List UInt8)) := do
  return okBody (← roundTrip lib (Client.containerLogs c id tail follow))

end Client

/-- The bytes of an id. -/
def DockerID.bytes (id : DockerID) : List UInt8 := utf8 id.text.toList

/-! ## The monitor -/

/-- `NewClient`, after `newClientFromEnv`. -/
def newClient (lib : Library) (fromEnv : Except String Client) :
    DaemonProg (Except String Client) := do
  match fromEnv with
  | .error e => return .error e
  | .ok cli =>
      match ← Client.ping lib (some cli) with
      | .error e => return .error ("docker daemon unreachable: " ++ e)
      | .ok _ => return .ok cli

namespace Monitor

variable (lib : Library) (c : Client)

/-- The row as it is made of the summary. -/
def listed (s : ContainerSummary) (id : String) : ContainerInfo where
  id := id
  name := trimContainerName s.names
  status := s.status
  state := s.state
  uptime := ""
  startedAt := none
  publicURL := parseTraefikURL s.labels
  labels := s.labels

/-- The row with another start. -/
def startedRow (info : ContainerInfo) (started now : Time) : ContainerInfo :=
  { info with startedAt := some started, uptime := formatUptime (since now started) }

/-- The end of a turn of the loop of `ListContainers`. -/
def inspectRow (s : ContainerSummary) (info : ContainerInfo) : DaemonProg ContainerInfo := do
  match ← Client.containerInspect lib (some c) s.id.bytes with
  | .ok ⟨status, some started⟩ =>
      let now ← Program.perform DaemonAct.now
      return { startedRow info started now with state := status }
  | _ => return info

/-- A turn, none when the slice is out of range. -/
def row (s : ContainerSummary) : DaemonProg (Option ContainerInfo) := do
  match s.id.short with
  | none => return none
  | some id =>
      if 0 < s.created then
        let now ← Program.perform DaemonAct.now
        return some (← inspectRow lib c s
          (startedRow (listed s id) (Time.unixPlusSeconds s.created 0) now))
      else return some (← inspectRow lib c s (listed s id))

def rows : List ContainerSummary → DaemonProg (Option (List ContainerInfo))
  | [] => return some []
  | s :: rest => do
      match ← row lib c s with
      | none => return none
      | some info =>
          match ← rows rest with
          | none => return none
          | some infos => return some (info :: infos)

/-- The loop of `CollectStats`, none when the slice is out of range. -/
def entries : List ContainerSummary → DaemonProg (Option (List ContainerStats))
  | [] => return some []
  | s :: rest => do
      match ← Client.containerStatsOneShot lib (some c) s.id.bytes with
      | .error _ => entries rest
      | .ok body =>
          match lib.stats body with
          | .error _ => entries rest
          | .ok v =>
              match s.id.short with
              | none => return none
              | some id =>
                  match ← entries rest with
                  | none => return none
                  | some stats => return some (containerStats s id v :: stats)

/-- The loop over the containers of the daemon, of which there are none without a client. -/
def withList {ρ : Type} (client : Option Client)
    (loop : Client → List ContainerSummary → DaemonProg (Option (List ρ))) :
    DaemonProg (Except DockerFault (List ρ)) :=
  match client with
  | none => return .ok []
  | some c => do
      match ← Client.containerList lib (some c) with
      | .error e => return .error (.error ("list containers: " ++ e))
      | .ok containers =>
          match ← loop c containers with
          | none => return .error .sliceBounds
          | some result => return .ok result

def listContainers (client : Option Client) :
    DaemonProg (Except DockerFault (List ContainerInfo)) :=
  withList lib client (rows lib)

def collectStats (client : Option Client) : DaemonProg (Except DockerFault (List ContainerStats)) :=
  withList lib client (entries lib)

def streamLogs (client : Option Client) (containerID tail : List UInt8) (follow : Bool) :
    DaemonProg (Except String (List UInt8)) :=
  match client with
  | none => return .error "docker client unavailable"
  | some c => Client.openLogs lib (some c) containerID tail follow

end Monitor

/-! ## What is sent -/

/-- What may be asked about one container. -/
inductive ContainerPart where
  | json
  | stats
  | logs
deriving DecidableEq

def ContainerPart.name : ContainerPart → List Char
  | .json => "json".toList
  | .stats => "stats".toList
  | .logs => "logs".toList

def containerPath (id : List UInt8) (part : ContainerPart) : List Char :=
  joinSegments ["containers".toList, pathEscape id, part.name]

def Client.request (c : Client) (path query : List Char) : Request :=
  ⟨"GET", c.scheme.toList, c.host.toList, path, query⟩

def listRequest (c : Client) : Request := c.request "/containers/json".toList allValues.encode

def inspectRequest (c : Client) (s : ContainerSummary) : Request :=
  c.request (containerPath s.id.bytes .json) []

def statsRequest (c : Client) (s : ContainerSummary) : Request :=
  c.request (containerPath s.id.bytes .stats) streamValues.encode

theorem containerPath_eq (id : List UInt8) (part : ContainerPart) :
    containerPath id part = "/containers/".toList ++ pathEscape id ++ '/' :: part.name := by
  cases part <;> simp [containerPath, ContainerPart.name, joinSegments, List.intercalate_cons_cons]

theorem containerPath_valid (id : List UInt8) (part : ContainerPart) :
    ∀ c ∈ containerPath id part, validEncoded c = true := by
  have all : ("/containers/".toList ++ '/' :: part.name).all validEncoded = true := by
    cases part <;> decide +kernel
  have literal := List.all_eq_true.mp all
  intro c member
  rw [containerPath_eq] at member
  rcases List.mem_append.mp member with inside | inside
  · rcases List.mem_append.mp inside with inside | escaped
    · exact literal c (List.mem_append_left _ inside)
    · exact (pathEscape_safe escaped).1
  · exact literal c (List.mem_append_right _ inside)

theorem containerPath_escapes (id : List UInt8) (part : ContainerPart) :
    (pathUnescape (containerPath id part)).isSome = true := by
  rw [containerPath_eq, List.append_assoc, pathUnescape_append (by decide),
    pathUnescape_pathEscape_append, Option.isSome_map, Option.isSome_map]
  cases part <;> decide

theorem Client.scheme_bare (c : Client) : ∀ x ∈ c.scheme.toList, x ∉ [':', '#'] := by
  rcases c.web with http | https
  · simp [http]
  · simp [https]

theorem do_query (c : Client) {path query : List Char} (absolute : path.head? = some '/')
    (valid : ∀ x ∈ path, validEncoded x = true) (escapes : (pathUnescape path).isSome = true)
    (bare : '#' ∉ query) :
    Client.do (some c) "GET" (path ++ '?' :: query) = .ok (c.request path query) := by
  have parsed := parse_join c.scheme_bare c.bare absolute valid escapes bare
  rw [Client.do, show c.baseURL ++ (path ++ '?' :: query) = c.scheme.toList ++ ':' :: '/' :: '/' ::
    (c.host.toList ++ (path ++ '?' :: query)) from by simp [Client.baseURL], parsed]
  rfl

theorem do_bare (c : Client) {path : List Char} (absolute : path.head? = some '/')
    (valid : ∀ x ∈ path, validEncoded x = true) (escapes : (pathUnescape path).isSome = true) :
    Client.do (some c) "GET" path = .ok (c.request path []) := by
  have parsed := parse_join_bare c.scheme_bare c.bare absolute valid escapes
  rw [Client.do, show c.baseURL ++ path = c.scheme.toList ++ ':' :: '/' :: '/' ::
    (c.host.toList ++ path) from by simp [Client.baseURL], parsed]
  rfl

theorem do_containerList (c : Client) :
    Client.do (some c) "GET" ("/containers/json?".toList ++ allValues.encode) =
      .ok (listRequest c) := by
  have all : "/containers/json".toList.all validEncoded = true := by decide +kernel
  have made : Client.do (some c) "GET" ("/containers/json".toList ++ '?' :: allValues.encode) =
      .ok (listRequest c) :=
    do_query c rfl (List.all_eq_true.mp all) (by decide) (hash_not_mem_encode allValues)
  exact made

theorem do_containerInspect (c : Client) (s : ContainerSummary) :
    Client.do (some c) "GET" ("/containers/".toList ++ pathEscape s.id.bytes ++ "/json".toList) =
      .ok (inspectRequest c s) := by
  have written : "/containers/".toList ++ pathEscape s.id.bytes ++ "/json".toList =
      containerPath s.id.bytes .json := (containerPath_eq s.id.bytes .json).symm
  rw [written]
  exact do_bare c rfl (containerPath_valid _ _) (containerPath_escapes _ _)

theorem do_containerStats (c : Client) (s : ContainerSummary) :
    Client.do (some c) "GET" ("/containers/".toList ++ pathEscape s.id.bytes ++ "/stats?".toList ++
      streamValues.encode) = .ok (statsRequest c s) := by
  have written : "/containers/".toList ++ pathEscape s.id.bytes ++ "/stats?".toList ++
      streamValues.encode = containerPath s.id.bytes .stats ++ '?' :: streamValues.encode := by
    simp [containerPath_eq, ContainerPart.name]
  rw [written]
  exact do_query c rfl (containerPath_valid _ _) (containerPath_escapes _ _)
    (hash_not_mem_encode streamValues)

/-! ## What a run asks and is answered -/

def sentRequest (e : DaemonStep) : Option Request :=
  match e.act with
  | .send request => some request
  | .now => none

def clockRead (e : DaemonStep) : Option Time :=
  match e.act with
  | .send _ => none
  | .now => some e.env.now

def sent (trace : DaemonTrace) : List Request := trace.filterMap sentRequest

def clocks (trace : DaemonTrace) : List Time := trace.filterMap clockRead

/-- All requests of an event, with those that follow a redirect. -/
def requests (lib : Library) (e : DaemonStep) : List Request :=
  match e.act with
  | .send request => (e.env.exchange lib request).1
  | .now => []

def reply (lib : Library) (e : DaemonStep) : Option (Except String Response) :=
  match e.act with
  | .send request => some (e.env.answer lib request)
  | .now => none

def replies (lib : Library) (trace : DaemonTrace) : List (Except String Response) :=
  trace.filterMap (reply lib)

@[simp] theorem sent_append (left right : DaemonTrace) :
    sent (left ++ right) = sent left ++ sent right := List.filterMap_append

@[simp] theorem replies_append (lib : Library) (left right : DaemonTrace) :
    replies lib (left ++ right) = replies lib left ++ replies lib right := List.filterMap_append

@[simp] theorem clocks_append (left right : DaemonTrace) :
    clocks (left ++ right) = clocks left ++ clocks right := List.filterMap_append

@[simp] theorem sent_nil : sent [] = [] := rfl

@[simp] theorem replies_nil (lib : Library) : replies lib [] = [] := rfl

section Events

variable (lib : Library) (i : Nat) (request : Request) (env : DaemonEnv)

@[simp] theorem sent_send : sent [(daemon lib).event i () (.send request) env] = [request] := rfl

@[simp] theorem sent_now : sent [(daemon lib).event i () .now env] = [] := rfl

@[simp] theorem replies_send :
    replies lib [(daemon lib).event i () (.send request) env] = [env.answer lib request] := rfl

@[simp] theorem replies_now : replies lib [(daemon lib).event i () .now env] = [] := rfl

end Events

/-- What an answer to an inspection says. -/
def inspected (lib : Library) (r : Except String Response) : Option ContainerInspect :=
  (decoded lib.inspect r).toOption

/-- The times of an inspection, as far as they are used, were read on the way. -/
def Clocked (s : ContainerSummary) (q : Inspection) (more : DaemonTrace) : Prop :=
  (0 < s.created → q.now ∈ clocks more) ∧
    ∀ status started, q.inspect = some ⟨status, some started⟩ → q.later ∈ clocks more

/-- What an answer to a request for statistics is. -/
def outcome (lib : Library) (r : Except String Response) : StatsOutcome :=
  match okBody r with
  | .error _ => .refused
  | .ok body =>
      match lib.stats body with
      | .error _ => .undecodable
      | .ok v => .sample v

/-- A loop that has made one call for each container in turn, and for all of them unless it
broke off. -/
structure InTurn (lib : Library) (request : ContainerSummary → Request)
    (containers : List ContainerSummary) (trace : DaemonTrace) (completed : Prop) : Prop where
  sent : sent trace = (containers.take (replies lib trace).length).map request
  all : completed → (replies lib trace).length = containers.length

section Loops

variable (lib : Library) (c : Client)

abbrev daemonLogic : Logic DaemonAct DaemonAns DaemonTrace :=
  (daemon lib).historyLogic 0 fun _ _ => True

theorem wp_now {α : Type} {next : Time → DaemonProg α} {Q : α → DaemonTrace → Prop}
    {h : DaemonTrace}
    (rest : ∀ env, (next env.now).wp (daemonLogic lib) Q
      (h ++ [(daemon lib).event 0 () .now env])) :
    (Program.perform DaemonAct.now >>= next).wp (daemonLogic lib) Q h :=
  Machine.wp_perform trivial fun _ env => rest env

theorem wp_send {α : Type} {request : Request} {next : Except String Response → DaemonProg α}
    {Q : α → DaemonTrace → Prop} {h : DaemonTrace}
    (rest : ∀ env, (next (env.answer lib request)).wp (daemonLogic lib) Q
      (h ++ [(daemon lib).event 0 () (.send request) env])) :
    (Program.perform (DaemonAct.send request) >>= next).wp (daemonLogic lib) Q h :=
  Machine.wp_perform trivial fun _ env => rest env

/-- The row before the inspection. -/
def summaryRow (s : ContainerSummary) (id : String) (now : Time) : ContainerInfo :=
  if 0 < s.created then
    Monitor.startedRow (Monitor.listed s id) (Time.unixPlusSeconds s.created 0) now
  else Monitor.listed s id

theorem containerInfo_eq (s : ContainerSummary) (id : String) (q : Inspection) :
    containerInfo s id q = match q.inspect with
      | some ⟨status, some started⟩ =>
          { Monitor.startedRow (summaryRow s id q.now) started q.later with state := status }
      | _ => summaryRow s id q.now := by
  obtain ⟨inspect, now, later⟩ := q
  unfold containerInfo summaryRow
  rcases inspect with - | ⟨status, - | started⟩ <;> split <;> rfl

/-- What the inspection adds to a row. -/
theorem inspectRow_spec {s : ContainerSummary} {id : String} {now : Time}
    {Q : ContainerInfo → DaemonTrace → Prop} {h : DaemonTrace}
    (made : ∀ q more r, sent more = [inspectRequest c s] → replies lib more = [r] → q.now = now →
      q.inspect = inspected lib r →
      (∀ status started, q.inspect = some ⟨status, some started⟩ → q.later ∈ clocks more) →
        Q (containerInfo s id q) (h ++ more)) :
    (Monitor.inspectRow lib c s (summaryRow s id now)).wp (daemonLogic lib) Q h := by
  rw [Monitor.inspectRow, Client.containerInspect, Client.getJSON, do_containerInspect]
  apply wp_send
  intro env
  show Program.wp _ (match decoded lib.inspect (env.answer lib (inspectRequest c s)) with
    | .ok ⟨status, some started⟩ => _
    | _ => _) _ _
  split
  · rename_i status started read
    apply wp_now
    intro env'
    have row := made ⟨some ⟨status, some started⟩, now, env'.now⟩
      ([(daemon lib).event 0 () (.send (inspectRequest c s)) env] ++
        [(daemon lib).event 0 () .now env'])
      (env.answer lib (inspectRequest c s)) rfl rfl rfl (by rw [inspected, read]; rfl)
      fun _ _ _ => List.mem_singleton_self _
    rw [containerInfo_eq, ← List.append_assoc] at row
    exact row
  · rename_i other
    have undated : ∀ status started,
        inspected lib (env.answer lib (inspectRequest c s)) ≠ some ⟨status, some started⟩ := by
      intro status started inspect
      cases read : decoded lib.inspect (env.answer lib (inspectRequest c s)) with
      | error e => simp [inspected, read, Except.toOption] at inspect
      | ok v =>
          rw [show inspected lib (env.answer lib (inspectRequest c s)) = some v from by
            rw [inspected, read]; rfl] at inspect
          obtain rfl := Option.some.inj inspect
          exact other status started read
    have same : containerInfo s id ⟨inspected lib (env.answer lib (inspectRequest c s)), now, 0⟩ =
        summaryRow s id now := by
      rw [containerInfo_eq]
      split
      · rename_i status started inspect
        exact absurd inspect (undated status started)
      · rfl
    show Q _ _
    rw [← same]
    exact made _ _ (env.answer lib (inspectRequest c s)) rfl rfl rfl rfl
      fun status started inspect => absurd inspect (undated status started)

/-- A turn inspects the container, if its id can be shortened. -/
theorem row_spec (s : ContainerSummary) {Q : Option ContainerInfo → DaemonTrace → Prop}
    {h : DaemonTrace} (short : s.id.short = none → Q none h)
    (made : ∀ id q more r, s.id.short = some id → sent more = [inspectRequest c s] →
      replies lib more = [r] → q.inspect = inspected lib r → Clocked s q more →
        Q (some (containerInfo s id q)) (h ++ more)) :
    (Monitor.row lib c s).wp (daemonLogic lib) Q h := by
  unfold Monitor.row
  split
  · rename_i none
    exact short none
  rename_i id found
  split
  · rename_i dated
    apply wp_now
    intro env
    have start : summaryRow s id env.now =
        Monitor.startedRow (Monitor.listed s id) (Time.unixPlusSeconds s.created 0) env.now :=
      if_pos dated
    rw [← start, Program.wp_bind]
    apply inspectRow_spec
    intro q more r asked answered first read later
    rw [List.append_assoc]
    refine made id q _ r found (by rw [sent_append, asked]; rfl)
      (by rw [replies_append, answered]; rfl) read ⟨fun _ => ?_, fun status started inspect => ?_⟩
    · rw [clocks_append, first]
      exact List.mem_append_left _ (List.mem_singleton_self _)
    · rw [clocks_append]
      exact List.mem_append_right _ (later status started inspect)
  · rename_i undated
    have start : summaryRow s id 0 = Monitor.listed s id := if_neg undated
    rw [← start, Program.wp_bind]
    apply inspectRow_spec
    intro q more r asked answered _ read later
    exact made id q more r found asked answered read ⟨fun dated => absurd dated undated, later⟩

/-- The loop of `ListContainers` has asked in turn, and its result is that of `listLoop`. -/
def ListedBy (containers : List ContainerSummary) (more : DaemonTrace)
    (result : Option (List ContainerInfo)) : Prop :=
  ∃ qs : List Inspection, qs.length = containers.length ∧ result = listLoop (containers.zip qs) ∧
    InTurn lib (inspectRequest c) containers more (result.isSome = true) ∧
    (replies lib more).map (inspected lib) =
      (qs.take (replies lib more).length).map Inspection.inspect ∧
    ∀ p ∈ (containers.zip qs).take (replies lib more).length, Clocked p.1 p.2 more

/-- The loop of `CollectStats` has asked in turn, and its result is that of `statsLoop`. -/
def SampledBy (containers : List ContainerSummary) (more : DaemonTrace)
    (result : Option (List ContainerStats)) : Prop :=
  ∃ outcomes : List StatsOutcome, outcomes.length = containers.length ∧
    result = statsLoop (containers.zip outcomes) ∧
    InTurn lib (statsRequest c) containers more (result.isSome = true) ∧
    (replies lib more).map (outcome lib) = outcomes.take (replies lib more).length

/-- One more turn before the others. -/
theorem InTurn.cons {lib : Library} {request : ContainerSummary → Request} {s : ContainerSummary}
    {rest : List ContainerSummary} {more later : DaemonTrace} {r : Except String Response}
    {completed completed' : Prop} (turn : InTurn lib request rest later completed)
    (asked : Docker.sent more = [request s]) (answered : replies lib more = [r])
    (goes : completed' → completed) :
    InTurn lib request (s :: rest) (more ++ later) completed' where
  sent := by
    rw [sent_append, replies_append, asked, answered, turn.sent]
    rfl
  all done := by
    rw [replies_append, answered, List.length_append, turn.all (goes done), List.length_cons,
      Nat.add_comm]
    rfl

theorem Clocked.append {s : ContainerSummary} {q : Inspection} {more : DaemonTrace}
    (clocked : Clocked s q more) (before after : DaemonTrace) :
    Clocked s q (before ++ (more ++ after)) := by
  simp only [Clocked, clocks_append, List.mem_append]
  exact ⟨fun dated => .inr (.inl (clocked.1 dated)),
    fun status started inspect => .inr (.inl (clocked.2 status started inspect))⟩

theorem ListedBy.cons {s : ContainerSummary} {rest : List ContainerSummary}
    {more later : DaemonTrace} {infos : Option (List ContainerInfo)} {id : String} {q : Inspection}
    {r : Except String Response} (listed : ListedBy lib c rest later infos)
    (short : s.id.short = some id) (asked : sent more = [inspectRequest c s])
    (answered : replies lib more = [r]) (read : q.inspect = inspected lib r)
    (clocked : Clocked s q more) :
    ListedBy lib c (s :: rest) (more ++ later) (infos.map (containerInfo s id q :: ·)) := by
  obtain ⟨qs, length, loop, turn, others, times⟩ := listed
  refine ⟨q :: qs, by simp [length], ?_, turn.cons asked answered (by simp), ?_, ?_⟩
  · rw [List.zip_cons_cons, listLoop, short, loop]
    cases listLoop (rest.zip qs) <;> rfl
  · rw [replies_append, answered]
    simp [others, read]
  · rw [replies_append, answered, List.zip_cons_cons]
    intro p member
    rcases List.mem_cons.mp member with rfl | inside
    · exact clocked.append [] later
    · simpa using (times p inside).append more []

theorem rows_spec (containers : List ContainerSummary) (h : DaemonTrace) :
    (Monitor.rows lib c containers).wp (daemonLogic lib)
      (fun result h' => ∃ more, h' = h ++ more ∧ ListedBy lib c containers more result) h := by
  induction containers generalizing h with
  | nil => exact ⟨[], by simp, [], rfl, rfl, ⟨rfl, fun _ => rfl⟩, rfl, by simp⟩
  | cons s rest ih =>
      rw [Monitor.rows, Program.wp_bind]
      apply row_spec
      · intro short
        refine ⟨[], by simp, List.replicate (rest.length + 1) ⟨none, 0, 0⟩, by simp, ?_, ?_, rfl,
          by simp⟩
        · rw [List.replicate_succ, List.zip_cons_cons, listLoop, short]
          rfl
        · exact ⟨rfl, by simp⟩
      · intro id q more r short asked answered read clocked
        show Program.wp _ (Monitor.rows lib c rest >>= _) _ _
        rw [Program.wp_bind]
        refine Program.wp_mono _ ?_ (ih (h ++ more))
        rintro infos _ ⟨later, rfl, listed⟩
        have whole := listed.cons lib c short asked answered read clocked
        cases infos with
        | none => exact ⟨more ++ later, by simp, whole⟩
        | some infos => exact ⟨more ++ later, by simp, whole⟩

/-- One more turn; what follows it may have broken off. -/
theorem SampledBy.cons {s : ContainerSummary} {rest : List ContainerSummary}
    {more later : DaemonTrace} {r : Except String Response} {outcomes : List StatsOutcome}
    {result : Option (List ContainerStats)} (length : outcomes.length = rest.length)
    (loop : result = statsLoop ((s, outcome lib r) :: rest.zip outcomes))
    (turn : InTurn lib (statsRequest c) rest later (result.isSome = true))
    (others : (replies lib later).map (outcome lib) = outcomes.take (replies lib later).length)
    (asked : sent more = [statsRequest c s]) (answered : replies lib more = [r]) :
    SampledBy lib c (s :: rest) (more ++ later) result := by
  refine ⟨outcome lib r :: outcomes, by simp [length], loop, turn.cons asked answered id, ?_⟩
  rw [replies_append, answered]
  simp [others]

/-- A container without statistics leaves no entry. -/
theorem SampledBy.skip {s : ContainerSummary} {rest : List ContainerSummary}
    {more later : DaemonTrace} {r : Except String Response} {result : Option (List ContainerStats)}
    (sampled : SampledBy lib c rest later result) (none : ∀ v, outcome lib r ≠ .sample v)
    (asked : sent more = [statsRequest c s]) (answered : replies lib more = [r]) :
    SampledBy lib c (s :: rest) (more ++ later) result := by
  obtain ⟨outcomes, length, loop, turn, others⟩ := sampled
  refine SampledBy.cons lib c length ?_ turn others asked answered
  rw [loop]
  cases found : outcome lib r with
  | refused => rfl
  | undecodable => rfl
  | sample v => exact absurd found (none v)

theorem entries_spec (containers : List ContainerSummary) (h : DaemonTrace) :
    (Monitor.entries lib c containers).wp (daemonLogic lib)
      (fun result h' => ∃ more, h' = h ++ more ∧ SampledBy lib c containers more result) h := by
  induction containers generalizing h with
  | nil => exact ⟨[], by simp, [], rfl, rfl, ⟨rfl, fun _ => rfl⟩, rfl⟩
  | cons s rest ih =>
      rw [Monitor.entries, Client.containerStatsOneShot, do_containerStats]
      apply wp_send
      intro env
      have skips : (∀ v, outcome lib (env.answer lib (statsRequest c s)) ≠ .sample v) →
          (Monitor.entries lib c rest).wp (daemonLogic lib)
            (fun result h' => ∃ more, h' = h ++ more ∧ SampledBy lib c (s :: rest) more result)
            (h ++ [(daemon lib).event 0 () (.send (statsRequest c s)) env]) := by
        intro none
        refine Program.wp_mono _ ?_ (ih _)
        rintro result _ ⟨later, rfl, sampled⟩
        exact ⟨_, List.append_assoc _ _ _, sampled.skip lib c none rfl rfl⟩
      show Program.wp _ (match okBody (env.answer lib (statsRequest c s)) with
        | .error _ => _
        | .ok body => _) _ _
      split
      · rename_i e refused
        apply skips
        simp [outcome, refused]
      · rename_i body ok
        split
        · rename_i e undecodable
          apply skips
          simp [outcome, ok, undecodable]
        · rename_i v read
          have sample : outcome lib (env.answer lib (statsRequest c s)) = .sample v := by
            simp [outcome, ok, read]
          split
          · rename_i short
            refine ⟨_, rfl, ?_⟩
            have unasked : (List.replicate rest.length StatsOutcome.refused).length = rest.length :=
              List.length_replicate
            have stopped : none = statsLoop ((s, outcome lib (env.answer lib (statsRequest c s))) ::
                rest.zip (List.replicate rest.length StatsOutcome.refused)) := by
              rw [sample, statsLoop, short]
              rfl
            have nothing : InTurn lib (statsRequest c) rest []
                ((none : Option (List ContainerStats)).isSome = true) := ⟨rfl, by simp⟩
            have broken := SampledBy.cons lib c unasked stopped nothing rfl
              (sent_send lib 0 (statsRequest c s) env)
              (replies_send lib 0 (statsRequest c s) env)
            rwa [List.append_nil] at broken
          · rename_i id short
            rw [Program.wp_bind]
            refine Program.wp_mono _ ?_ (ih _)
            rintro stats _ ⟨later, rfl, outcomes, length, loop, turn, others⟩
            have whole : stats.map (containerStats s id v :: ·) =
                statsLoop
                  ((s, outcome lib (env.answer lib (statsRequest c s))) :: rest.zip outcomes) := by
              rw [sample, statsLoop, short, loop]
              cases statsLoop (rest.zip outcomes) <;> rfl
            have turned := SampledBy.cons lib c length whole
              ⟨turn.sent, fun done => turn.all (by simpa using done)⟩ others
              (sent_send lib 0 (statsRequest c s) env)
              (replies_send lib 0 (statsRequest c s) env)
            cases stats with
            | none => exact ⟨_, List.append_assoc _ _ _, turned⟩
            | some stats => exact ⟨_, List.append_assoc _ _ _, turned⟩

end Loops

/-! ## Whole runs -/

/-- The events of a call, and what it returns. -/
def calls {α : Type} (lib : Library) (p : DaemonProg α) (outside : Nat → DaemonEnv) :
    DaemonTrace × α :=
  ((daemon lib).events 0 p () outside, (p.run (daemon lib) () outside).1)

theorem calls_spec {α : Type} {lib : Library} {p : DaemonProg α} {Q : α → DaemonTrace → Prop}
    (holds : p.wp (daemonLogic lib) Q []) (outside : Nat → DaemonEnv) :
    Q (calls lib p outside).2 (calls lib p outside).1 :=
  Machine.wp_events (daemon lib) 0 holds () outside

/-- What is returned at the end of a loop. -/
def finished {ρ : Type} : Option (List ρ) → Except DockerFault (List ρ)
  | none => .error .sliceBounds
  | some result => .ok result

section Whole

variable (lib : Library) (c : Client)

/-- The list is asked for, and its error returned; otherwise `More` of the other calls and of
what the loop makes of their answers. -/
def ListsThen {ρ : Type} (More : List ContainerSummary → DaemonTrace → Option (List ρ) → Prop)
    (call : DaemonTrace × Except DockerFault (List ρ)) : Prop :=
  ∃ first more r, call.1 = first :: more ∧ sent [first] = [listRequest c] ∧
    replies lib [first] = [r] ∧
    match decoded lib.containers r with
    | .error e => more = [] ∧ call.2 = .error (.error ("list containers: " ++ e))
    | .ok containers => ∃ result, call.2 = finished result ∧ More containers more result

theorem withList_asks {ρ : Type}
    {loop : Client → List ContainerSummary → DaemonProg (Option (List ρ))}
    {More : List ContainerSummary → DaemonTrace → Option (List ρ) → Prop}
    (spec : ∀ containers h, (loop c containers).wp (daemonLogic lib)
      (fun result h' => ∃ more, h' = h ++ more ∧ More containers more result) h)
    (outside : Nat → DaemonEnv) :
    ListsThen lib c More (calls lib (Monitor.withList lib (some c) loop) outside) := by
  apply calls_spec (Q := fun result h => ListsThen lib c More (h, result))
  rw [Monitor.withList, Client.containerList, Client.getJSON, do_containerList]
  apply wp_send
  intro env
  show Program.wp _ (match decoded lib.containers (env.answer lib (listRequest c)) with
    | .error e => _
    | .ok containers => _) _ _
  split
  · rename_i e unlisted
    exact ⟨_, [], env.answer lib (listRequest c), rfl, rfl, rfl,
      by rw [unlisted]; exact ⟨rfl, rfl⟩⟩
  · rename_i containers listed
    rw [Program.wp_bind]
    refine Program.wp_mono _ ?_ (spec containers _)
    rintro result _ ⟨more, rfl, asked⟩
    have whole : ListsThen lib c More
        ((daemon lib).event 0 () (.send (listRequest c)) env :: more, finished result) :=
      ⟨_, more, env.answer lib (listRequest c), rfl, rfl, rfl,
        by rw [listed]; exact ⟨result, rfl, asked⟩⟩
    cases result with
    | none => exact whole
    | some result => exact whole

/-- **What the monitor asks.**  It calls for the list, and where it is given one, for each
container of it in turn, and for all of them unless an id is too short; its result is the
one of `listLoop` and `statsLoop` for what the calls returned in turn. -/
theorem monitor_asks (outside : Nat → DaemonEnv) :
    ListsThen lib c (ListedBy lib c) (calls lib (Monitor.listContainers lib (some c)) outside) ∧
      ListsThen lib c (SampledBy lib c) (calls lib (Monitor.collectStats lib (some c)) outside) :=
  ⟨withList_asks lib c (rows_spec lib c) outside, withList_asks lib c (entries_spec lib c) outside⟩

/-! ## Only reading -/

inductive Endpoint where
  | ping
  | list
  | container (id : List UInt8) (part : ContainerPart)

/-- The path, without dot segments, is that of the endpoint; an id is one segment of it. -/
def Endpoint.Named : Endpoint → List Char → Prop
  | .ping, path => path = "/_ping".toList
  | .list, path => path = "/containers/json".toList
  | .container id part, path => ∃ segment : List Char, '/' ∉ segment ∧
      pathUnescape segment = some id ∧ path = "/containers/".toList ++ segment ++ '/' :: part.name

/-- The request reads from this endpoint of the daemon, as long as an id is no dot segment. -/
structure ReadsFrom (request : Request) (e : Endpoint) : Prop where
  get : request.method = "GET"
  daemon : request.url.scheme = c.scheme.toList ∧ request.url.host = c.host.toList
  named : (∀ id part, e = .container id part → id ≠ dotID ∧ id ≠ dotDotID) →
    e.Named (removeDotSegments request.url.path)

/-- The calls read; those about one container are about one that was listed, or asked for. -/
def CallsRead (asked : List (List UInt8)) (trace : DaemonTrace) : Prop :=
  ∀ request ∈ sent trace, ∃ e, ReadsFrom c request e ∧ ∀ id part, e = .container id part →
    id ∈ asked ∨ ∃ r ∈ replies lib trace, ∃ containers,
      decoded lib.containers r = .ok containers ∧ ∃ s ∈ containers, id = s.id.bytes

/-- Nine requests at most, each a `GET` of what the answer to the one before has for its
`Location`. -/
def Redirected (first : Request) (reply : Nat → Except String Response) (more : List Request) :
    Prop :=
  more.length ≤ 9 ∧ ∀ n next, more[n]? = some next → next.method = "GET" ∧
    ∃ before resp, (first :: more)[n]? = some before ∧ reply n = .ok resp ∧
      resp.statusCode ∈ redirectCodes ∧ lib.resolve before.url resp.location = .ok next.url

/-- The calls read, and a call sends its own request and those that it is redirected to. -/
def OnlyReads (asked : List (List UInt8)) (trace : DaemonTrace) : Prop :=
  CallsRead lib c asked trace ∧ ∀ e ∈ trace, ∀ request, e.act = .send request →
    ∃ more, requests lib e = request :: more ∧ Redirected lib request e.env.reply more

/-- An answer that leads on has its `Location` resolved. -/
theorem Library.next_eq_ok {request next : Request} {resp : Response}
    (leads : lib.next request resp = some (.ok next)) :
    resp.statusCode ∈ redirectCodes ∧ lib.resolve request.url resp.location = .ok next.url ∧
      next.method = request.method := by
  unfold Library.next at leads
  split at leads
  · rename_i redirects
    cases resolved : lib.resolve request.url resp.location with
    | error e =>
        rw [resolved] at leads
        cases leads
    | ok url =>
        rw [resolved] at leads
        obtain rfl := Except.ok.inj (Option.some.inj leads)
        exact ⟨redirects.1, rfl, rfl⟩
  · cases leads

/-- What a call sends after its own request. -/
theorem exchange_requests (left : Nat) (request : Request) (reply : Nat → Except String Response) :
    ∃ more, (exchange lib left request reply).1 = request :: more ∧ more.length ≤ left ∧
      ∀ n next, more[n]? = some next → next.method = request.method ∧
        ∃ before resp, (request :: more)[n]? = some before ∧ reply n = .ok resp ∧
          resp.statusCode ∈ redirectCodes ∧
          lib.resolve before.url resp.location = .ok next.url := by
  induction left generalizing request reply with
  | zero =>
      refine ⟨[], ?_, Nat.le_refl _, by simp⟩
      unfold exchange
      split
      · rfl
      · split <;> rfl
  | succ left ih =>
      have alone : ([] : List Request).length ≤ left + 1 := Nat.zero_le _
      unfold exchange
      split
      · exact ⟨[], rfl, alone, by simp⟩
      rename_i resp answered
      split
      · exact ⟨[], rfl, alone, by simp⟩
      · exact ⟨[], rfl, alone, by simp⟩
      rename_i next leads
      obtain ⟨code, resolved, method⟩ := lib.next_eq_ok leads
      obtain ⟨more, sends, few, follow⟩ := ih next fun n => reply (n + 1)
      refine ⟨next :: more, congrArg (request :: ·) sends, by simpa using few, ?_⟩
      rintro (- | n) other found
      · obtain rfl := Option.some.inj found
        exact ⟨method, request, resp, rfl, answered, code, resolved⟩
      · obtain ⟨same, rest⟩ := follow n other found
        exact ⟨same.trans method, rest⟩

/-- A trace of calls that read only reads. -/
theorem CallsRead.onlyReads {asked : List (List UInt8)} {trace : DaemonTrace}
    (calls : CallsRead lib c asked trace) : OnlyReads lib c asked trace := by
  refine ⟨calls, ?_⟩
  intro e member request act
  have own : request ∈ sent trace :=
    List.mem_filterMap.mpr ⟨e, member, by rw [sentRequest, act]⟩
  obtain ⟨endpoint, reads, -⟩ := calls request own
  obtain ⟨more, sends, few, follow⟩ := exchange_requests lib 9 request e.env.reply
  refine ⟨more, by rw [requests, act]; exact sends, few, ?_⟩
  intro n next found
  obtain ⟨same, rest⟩ := follow n next found
  exact ⟨same.trans reads.get, rest⟩

theorem removeDotSegments_containerPath {id : List UInt8} (notDot : id ≠ dotID)
    (notDotDot : id ≠ dotDotID) (part : ContainerPart) :
    removeDotSegments (containerPath id part) = containerPath id part := by
  have one : pathEscape id ≠ dot := fun same => notDot (pathEscape_inj.mp same)
  have two : pathEscape id ≠ dotDot := fun same => notDotDot (pathEscape_inj.mp same)
  have bare : ∀ segment ∈ ["containers".toList, pathEscape id, part.name], '/' ∉ segment := by
    simp only [List.forall_mem_cons]
    exact ⟨by decide, fun member => (pathEscape_safe member).2 (by decide),
      by cases part <;> decide, by simp⟩
  have name : part.name ≠ dot ∧ part.name ≠ dotDot := by
    cases part <;> decide
  rw [containerPath, removeDotSegments_joinSegments (by simp) bare]
  simp +decide [withoutDots, one, two, name]

theorem readsFrom_container (id : List UInt8) (part : ContainerPart) (query : List Char) :
    ReadsFrom c (c.request (containerPath id part) query) (.container id part) where
  get := rfl
  daemon := ⟨rfl, rfl⟩
  named plain := by
    obtain ⟨notDot, notDotDot⟩ := plain id part rfl
    refine ⟨pathEscape id, fun member => (pathEscape_safe member).2 (by decide),
      pathUnescape_pathEscape id, ?_⟩
    show removeDotSegments (containerPath id part) = _
    rw [removeDotSegments_containerPath notDot notDotDot, containerPath_eq]

theorem readsFrom_list : ReadsFrom c (listRequest c) .list where
  get := rfl
  daemon := ⟨rfl, rfl⟩
  named _ := (by decide +kernel :
    removeDotSegments "/containers/json".toList = "/containers/json".toList)

theorem readsFrom_ping : ReadsFrom c (c.request "/_ping".toList []) .ping where
  get := rfl
  daemon := ⟨rfl, rfl⟩
  named _ := (by decide +kernel : removeDotSegments "/_ping".toList = "/_ping".toList)

/-- A loop over what was listed only reads. -/
theorem ListsThen.callsRead {ρ : Type} (part : ContainerPart) (query : List Char)
    {More : List ContainerSummary → DaemonTrace → Option (List ρ) → Prop}
    {call : DaemonTrace × Except DockerFault (List ρ)} (lists : ListsThen lib c More call)
    (turns : ∀ containers more result, More containers more result →
      sent more = (containers.take (replies lib more).length).map fun s =>
        c.request (containerPath s.id.bytes part) query) :
    CallsRead lib c [] call.1 := by
  obtain ⟨first, more, r, whole, asked, answer, rest⟩ := lists
  have answered : r ∈ replies lib call.1 := by
    rw [whole, ← List.singleton_append, replies_append, answer]
    exact List.mem_append_left _ (List.mem_singleton_self _)
  intro request member
  rw [whole, ← List.singleton_append, sent_append, asked] at member
  rcases List.mem_append.mp member with single | later
  · rw [List.mem_singleton.mp single]
    exact ⟨.list, readsFrom_list c, nofun⟩
  · split at rest
    · obtain ⟨rfl, -⟩ := rest
      cases later
    · rename_i containers listed
      obtain ⟨result, -, turn⟩ := rest
      rw [turns containers more result turn] at later
      obtain ⟨s, inside, rfl⟩ := List.mem_map.mp later
      refine ⟨.container s.id.bytes part, readsFrom_container c _ _ _, ?_⟩
      rintro id part' same
      obtain ⟨rfl, rfl⟩ := Endpoint.container.inj same
      exact .inr ⟨_, answered, containers, listed, s, List.mem_of_mem_take inside, rfl⟩

/-- **The daemon is only read.**  Whatever it answers, the request of every call that the
program makes is a `GET` that lists, inspects, or reads the statistics or the log of a
container that was listed, or whose log was asked for; the call sends nothing else but a
`GET` to each `Location` that it is redirected to. -/
theorem monitor_only_reads (outside : Nat → DaemonEnv) (id tail : List UInt8) (follow : Bool) :
    OnlyReads lib c [] (calls lib (newClient lib (.ok c)) outside).1 ∧
      OnlyReads lib c [] (calls lib (Monitor.listContainers lib (some c)) outside).1 ∧
      OnlyReads lib c [] (calls lib (Monitor.collectStats lib (some c)) outside).1 ∧
      OnlyReads lib c [id]
        (calls lib (Monitor.streamLogs lib (some c) id tail follow) outside).1 := by
  have lists := withList_asks lib c (rows_spec lib c) outside
  have samples := withList_asks lib c (entries_spec lib c) outside
  refine ⟨?_, ?_, ?_, ?_⟩
  · refine CallsRead.onlyReads lib c ?_
    apply calls_spec (Q := fun _ h => CallsRead lib c [] h)
    have all : "/_ping".toList.all validEncoded = true := by decide +kernel
    have made : Client.do (some c) "GET" "/_ping".toList = .ok (c.request "/_ping".toList []) :=
      do_bare c rfl (List.all_eq_true.mp all) (by decide)
    have only : ∀ env, CallsRead lib c []
        [(daemon lib).event 0 () (.send (c.request "/_ping".toList [])) env] := by
      intro env request member
      rw [List.mem_singleton.mp member]
      exact ⟨.ping, readsFrom_ping c, nofun⟩
    rw [newClient, Client.ping, made]
    apply wp_send
    intro env
    show Program.wp _ (match okBody (env.answer lib (c.request "/_ping".toList [])) with
      | .error e => _
      | .ok _ => _) _ _
    split
    · exact only env
    · exact only env
  · refine CallsRead.onlyReads lib c (lists.callsRead lib c .json [] ?_)
    rintro containers more result ⟨qs, -, -, turn, -⟩
    exact turn.sent
  · refine CallsRead.onlyReads lib c (samples.callsRead lib c .stats streamValues.encode ?_)
    rintro containers more result ⟨outcomes, -, -, turn, -⟩
    exact turn.sent
  · refine CallsRead.onlyReads lib c ?_
    apply calls_spec (Q := fun _ h => CallsRead lib c [id] h)
    have made := containerLogs_eq c id tail follow
    rw [Monitor.streamLogs, Client.openLogs, made]
    apply wp_send
    intro env request member
    rw [List.mem_singleton.mp member]
    refine ⟨.container id .logs, readsFrom_container c id .logs _, ?_⟩
    rintro id' part same
    obtain ⟨rfl, rfl⟩ := Endpoint.container.inj same
    exact .inl (List.mem_singleton_self _)

end Whole

end VpsDashboard.Docker
