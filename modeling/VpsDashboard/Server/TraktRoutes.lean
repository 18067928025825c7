/-
# VpsDashboard.Server.TraktRoutes — the handlers of the Trakt routes

The handlers of `trakt_routes.go`, statement by statement.  A `Server` says which
of its pointers are set; what they point to is the `World` the actions work on.
Reading a field through a pointer that is not set is a `Fault`.
-/
import VpsDashboard.Server.Auth

namespace VpsDashboard.Server

open Foundation Trakt

set_option autoImplicit false
set_option linter.dupNamespace false

/-- Which of the Trakt pointers of `server.Server` are not nil. -/
structure Server where
  traktOAuth : Bool
  traktStore : Bool
  traktClient : Bool
  traktCreds : Bool

/-- The server that `main` sets up. -/
def wired : Server := ⟨true, true, true, true⟩

def traktStateCookie : String := "trakt_oauth_state"

/-- `r.Cookie`: the value of the first cookie of that name. -/
def Request.cookie (r : Request) (name : String) : Option String :=
  (r.cookies.find? fun cookie => cookie.1 == name).map Prod.snd

/-- The redirect URI that is derived from the request. -/
def Request.derivedRedirect (r : Request) : String :=
  let scheme :=
    if r.tls || equalFold (headerValue "X-Forwarded-Proto" r.headers) "https" then "https"
    else "http"
  let forwarded := headerValue "X-Forwarded-Host" r.headers
  let host := if forwarded ≠ "" then forwarded else r.host
  scheme ++ "://" ++ host ++ "/api/auth/trakt/callback"

namespace Server

variable (s : Server)

def effectiveRedirect (r : Request) : Prog (Except Fault String) := do
  if !s.traktCreds then return .error .nilDereference
  let c ← perform .credsGet
  if c.redirectURI ≠ "" then return .ok c.redirectURI
  return .ok r.derivedRedirect

/-- `s.traktOAuth == nil || !s.traktOAuth.IsConfigured()`, negated. -/
def oauthConfigured : Prog Bool := do
  if !s.traktOAuth then return false
  OAuthHandler.isConfigured

def stateCookie (r : Request) (state : String) : Cookie where
  name := traktStateCookie
  value := state
  path := "/"
  httpOnly := true
  secure := r.tls
  sameSiteLax := true
  maxAge := 600

def clearedStateCookie : Cookie where
  name := traktStateCookie
  value := ""
  path := "/"
  httpOnly := true
  secure := false
  sameSiteLax := false
  maxAge := -1

def handleTraktLogin : Handler := fun r => do
  if !(← s.oauthConfigured) then return .ok (httpError "Trakt not configured" 503)
  match ← generateState with
  | .error _ => return .ok (httpError "internal error" 500)
  | .ok state =>
      match ← s.effectiveRedirect r with
      | .error fault => return .error fault
      | .ok redirectURI =>
          let url ← OAuthHandler.buildAuthURL state redirectURI
          return .ok (redirect url [stateCookie r state])

/-- The callback brings back the state that its cookie holds. -/
def returnsState (r : Request) : Bool :=
  match r.cookie traktStateCookie with
  | none => false
  | some value => value != "" && value == firstValue "state" r.query

def handleTraktCallback : Handler := fun r => do
  if !s.traktOAuth then return .ok (httpError "Trakt not configured" 503)
  let code := firstValue "code" r.query
  if !returnsState r then return .ok (httpError "invalid state" 400)
  match ← s.effectiveRedirect r with
  | .error fault => return .error fault
  | .ok redirectURI =>
      match ← OAuthHandler.exchangeCode code redirectURI with
      | .error _ => return .ok (redirect "/?trakt_error=1" [])
      | .ok () => return .ok (redirect "/?trakt_success=1" [clearedStateCookie])

def notConnected : Response := encodeJson (.obj [("connected", .bool false)])

def connectedAs (t : Option Tokens) : Except Fault Response :=
  match t with
  | none => .error .nilDereference
  | some t => .ok (encodeJson (.obj [("connected", .bool true), ("username", .str t.username)]))

def handleTraktMe : Handler := fun _ => do
  if !s.traktOAuth || !s.traktStore then return .ok notConnected
  match ← perform .storeGet with
  | none => return .ok notConnected
  | some t =>
      let now ← perform .now
      if now.after t.expiresAt then
        match ← OAuthHandler.refreshTokens with
        | .error _ => return .ok notConnected
        | .ok () => return connectedAs (← perform .storeGet)
      return connectedAs (some t)

def statusOk : Response := encodeJson (.obj [("status", .str "ok")])

def handleTraktLogout : Handler := fun _ => do
  if s.traktOAuth then OAuthHandler.logout
  return .ok statusOk

/-- The answer of both configuration handlers. -/
def configAnswer (c : Credentials) (redirectURI : String) : Response :=
  encodeJson (.obj
    [("clientId", .str c.clientID), ("configured", .bool c.configured),
     ("hasSecret", .bool (c.clientSecret != "")), ("redirectUri", .str redirectURI)])

def describeConfig (r : Request) : Prog (Except Fault Response) := do
  let c ← perform .credsGet
  match ← s.effectiveRedirect r with
  | .error fault => return .error fault
  | .ok redirectURI => return .ok (configAnswer c redirectURI)

def handleTraktConfigGet : Handler := fun r => do
  if !s.traktCreds then return .ok (encodeJson (.obj [("configured", .bool false)]))
  s.describeConfig r

open Json.Decoder in
def configBody : Json.Decoder Credentials := struct
  [field "clientId" (·.clientID) (fun c v => { c with clientID := v }) string,
   field "clientSecret" (·.clientSecret) (fun c v => { c with clientSecret := v }) string,
   field "redirectUri" (·.redirectURI) (fun c v => { c with redirectURI := v }) string]

def handleTraktConfigSave : Handler := fun r => do
  if !s.traktCreds then return .ok (httpError "unavailable" 503)
  match unmarshal configBody ⟨"", "", ""⟩ r.body with
  | .error _ => return .ok (httpError "invalid body" 400)
  | .ok body =>
      CredentialStore.update body
      s.describeConfig r

/-- The handlers of the two lists: the session is checked twice before the list is
fetched. -/
def handleTraktList (fetch : Prog (Except String Json)) (failed : String) : Handler := fun _ => do
  if !s.traktClient || !s.traktStore then return .ok (httpError "not authenticated" 401)
  if !(← Store.isAuthenticated) then return .ok (httpError "not authenticated" 401)
  match ← perform .storeGet with
  | none => return .ok (httpError "no username" 500)
  | some t =>
      if t.username = "" then return .ok (httpError "no username" 500)
      match ← fetch with
      | .error _ => return .ok (httpError failed 500)
      | .ok list => return .ok (encodeJson list)

def handleTraktWatchlist : Handler :=
  s.handleTraktList (do return (← Client.getWatchlist).map (sliceJson WatchlistMovie.json))
    "failed to fetch watchlist"

def handleTraktWatched : Handler :=
  s.handleTraktList (do return (← Client.getWatched).map (sliceJson WatchedMovie.json))
    "failed to fetch watched"

end Server

end VpsDashboard.Server
