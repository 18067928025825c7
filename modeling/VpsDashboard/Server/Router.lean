/-
# VpsDashboard.Server.Router — the routes, and one request on its way through them

The CORS handler may answer a request itself; otherwise its endpoint is found, the
endpoints of the group are behind the authentication middleware, and a fault in a
handler becomes a status 500.  The handlers that do not use the Trakt stores are
not modelled: what they answer is given with the visit.
-/
import VpsDashboard.Server.TraktRoutes

namespace VpsDashboard.Server

open Foundation Trakt

set_option autoImplicit false
set_option linter.dupNamespace false

/-! ## Endpoints -/

inductive Endpoint where
  | health
  | traktLogin
  | traktCallback
  | traktMe
  | traktLogout
  | containers
  | containerLogs (id : String)
  | metrics
  | metricsHistory
  | ws
  | traktConfigGet
  | traktConfigSave
  | traktWatchlist
  | traktWatched
  | static
deriving DecidableEq

/-- The `id` of a path `/api/containers/{id}/logs`. -/
def containerLogsID (path : String) : Option String :=
  match path.toList.splitOn '/' with
  | [[], api, containers, id, logs] =>
      if api = "api".toList ∧ containers = "containers".toList ∧ logs = "logs".toList then
        some (String.ofList id)
      else none
  | _ => none

/-- The registrations of `Router`; whatever matches none of them is a static file. -/
def Request.endpoint (r : Request) : Endpoint :=
  match r.method, r.path with
  | .get, "/health" => .health
  | .get, "/api/auth/trakt/login" => .traktLogin
  | .get, "/api/auth/trakt/callback" => .traktCallback
  | .get, "/api/auth/trakt/me" => .traktMe
  | .post, "/api/auth/trakt/logout" => .traktLogout
  | .get, "/api/containers" => .containers
  | .get, "/api/metrics" => .metrics
  | .get, "/api/metrics/history" => .metricsHistory
  | .get, "/ws" => .ws
  | .get, "/api/trakt/config" => .traktConfigGet
  | .post, "/api/trakt/config" => .traktConfigSave
  | .get, "/api/trakt/watchlist" => .traktWatchlist
  | .get, "/api/trakt/watched" => .traktWatched
  | .get, path =>
      match containerLogsID path with
      | some id => .containerLogs id
      | none => .static
  | _, _ => .static

/-- The endpoints registered in the group that uses the authentication middleware. -/
def Endpoint.inGroup : Endpoint → Bool
  | .health | .traktLogin | .traktCallback | .traktMe | .traktLogout | .static => false
  | _ => true

/-! ## One request -/

/-- A request, what the outside world contributes to its actions, and what the
handlers without access to the Trakt stores answer it. -/
structure Visit where
  request : Request
  outside : Nat → Env
  elsewhere : Endpoint → Response

def healthAnswer : Response := encodeJson (.obj [("status", .str "ok")])

namespace Server

variable (s : Server) (m : Middleware) (cors : Request → Option Response)

def handle (elsewhere : Endpoint → Response) : Endpoint → Handler
  | .health => fun _ => return .ok healthAnswer
  | .traktLogin => s.handleTraktLogin
  | .traktCallback => s.handleTraktCallback
  | .traktMe => s.handleTraktMe
  | .traktLogout => s.handleTraktLogout
  | .traktConfigGet => s.handleTraktConfigGet
  | .traktConfigSave => s.handleTraktConfigSave
  | .traktWatchlist => s.handleTraktWatchlist
  | .traktWatched => s.handleTraktWatched
  | endpoint => fun _ => return .ok (elsewhere endpoint)

/-- The handler of an endpoint as it is registered. -/
def routed (elsewhere : Endpoint → Response) (endpoint : Endpoint) : Handler :=
  if endpoint.inGroup then m.handler (s.handle elsewhere endpoint)
  else s.handle elsewhere endpoint

/-- `middleware.Recoverer`. -/
def recovered : Except Fault Response → Response
  | .ok response => response
  | .error _ => ⟨500, [], [], .empty⟩

/-- `cors` is the answer of the CORS handler to the requests that it answers itself. -/
def serve (v : Visit) : Prog Response :=
  match cors v.request with
  | some response => return response
  | none => return recovered (← s.routed m v.elsewhere v.request.endpoint v.request)

/-- Requests one after the other. -/
def serveAll (w : World) : List Visit → World
  | [] => w
  | v :: later => serveAll ((s.serve m cors v).run machine w v.outside).2 later

end Server

end VpsDashboard.Server
