/-
# VpsDashboard.Server.Auth — requests, responses and the authentication middleware

A `Request` is what the router and the handlers read of an HTTP request, parsed.
Handlers are programs over the Trakt actions.  `Middleware.handler` lets a request
through with a value in the Authelia user header, else with valid Basic
credentials when a password hash is configured, else only in development.

The bcrypt comparison is a parameter: any predicate of a hash and a password.
-/
import VpsDashboard.Trakt.Lists

namespace VpsDashboard.Server

open Foundation Trakt

set_option autoImplicit false

/-! ## Requests and responses -/

inductive Method where
  | get
  | post
  | other (name : String)
deriving DecidableEq

/-- `user` is the value of `UserContextKey` in the context. -/
structure Request where
  method : Method
  path : String
  query : List (String × String)
  headers : List (String × String)
  cookies : List (String × String)
  host : String
  tls : Bool
  /-- The first JSON document of the body, none when there is none. -/
  body : Option Json
  user : Option String

/-- A GET request with nothing but a path. -/
def Request.plain (path : String) : Request := ⟨.get, path, [], [], [], "", false, none, none⟩

structure Cookie where
  name : String
  value : String
  path : String
  httpOnly : Bool
  secure : Bool
  sameSiteLax : Bool
  maxAge : Int
deriving DecidableEq

inductive Body where
  | empty
  | text (s : String)
  | json (value : Json)

structure Response where
  status : Nat
  headers : List (String × String)
  cookies : List Cookie
  body : Body

/-- `http.Error`. -/
def httpError (text : String) (status : Nat) : Response where
  status := status
  headers := [("Content-Type", "text/plain; charset=utf-8"), ("X-Content-Type-Options", "nosniff")]
  cookies := []
  body := .text (text ++ "\n")

/-- `http.Redirect` with status 302, less the short page it adds to a GET. -/
def redirect (url : String) (cookies : List Cookie) : Response where
  status := 302
  headers := [("Location", url)]
  cookies := cookies
  body := .empty

def encodeJson (value : Json) : Response where
  status := 200
  headers := [("Content-Type", "application/json")]
  cookies := []
  body := .json value

/-- A run-time error that `middleware.Recoverer` turns into a status 500. -/
inductive Fault where
  | nilDereference
deriving DecidableEq

abbrev Handler := Request → Prog (Except Fault Response)

/-! ## Configuration -/

/-- The part of `config.Config` that decides who is let in. -/
structure Config where
  appEnv : String
  dashboardUsername : String
  dashboardPasswordHash : String
  autheliaUserHeader : String

structure Middleware where
  cfg : Config
  /-- `bcrypt.CompareHashAndPassword` finds no difference. -/
  passwordMatches : String → List UInt8 → Bool

/-- `strings.SplitN(payload, ":", 2)`, when it has two parts. -/
def splitColon (payload : List UInt8) : Option (List UInt8 × List UInt8) :=
  match payload.dropWhile (· != 58) with
  | [] => none
  | _ :: password => some (payload.takeWhile (· != 58), password)

namespace Middleware

def validateBasicAuth (m : Middleware) (r : Request) : Option String :=
  let auth := (headerValue "Authorization" r.headers).toList
  if !"Basic ".toList.isPrefixOf auth then none
  else
    match base64Decode (String.ofList (auth.drop 6)) with
    | none => none
    | some payload =>
        match splitColon payload with
        | none => none
        | some (username, password) =>
            if username ≠ m.cfg.dashboardUsername.toUTF8.toList then none
            else if !m.passwordMatches m.cfg.dashboardPasswordHash password then none
            else some m.cfg.dashboardUsername

def unauthorized : Response := httpError "unauthorized" 401

def handler (m : Middleware) (next : Handler) : Handler :=
  fun r =>
    let user := headerValue m.cfg.autheliaUserHeader r.headers
    if user ≠ "" then next { r with user := some user }
    else if m.cfg.dashboardPasswordHash ≠ "" then
      match m.validateBasicAuth r with
      | some user => next { r with user := some user }
      | none =>
          .ret (.ok { unauthorized with
            headers := ("WWW-Authenticate", "Basic realm=\"OLED Dashboard\"") ::
              unauthorized.headers })
    else if m.cfg.appEnv = "development" then next r
    else .ret (.ok unauthorized)

/-- No value in the Authelia user header and no valid Basic credentials. -/
def Rejects (m : Middleware) (r : Request) : Prop :=
  headerValue m.cfg.autheliaUserHeader r.headers = "" ∧
    (m.cfg.dashboardPasswordHash ≠ "" → m.validateBasicAuth r = none)

instance (m : Middleware) (r : Request) : Decidable (m.Rejects r) :=
  inferInstanceAs (Decidable (_ ∧ _))

/-- Outside development a rejected request never reaches the handler behind. -/
theorem handler_rejects {m : Middleware} {r : Request}
    (production : m.cfg.appEnv ≠ "development") (rejected : m.Rejects r) (next : Handler) :
    ∃ response, m.handler next r = .ret (.ok response) ∧ response.status = 401 := by
  obtain ⟨noUser, noPassword⟩ := rejected
  unfold handler
  rw [if_neg (by simpa using noUser)]
  by_cases hash : m.cfg.dashboardPasswordHash ≠ ""
  · rw [if_pos hash, noPassword hash]
    exact ⟨_, rfl, rfl⟩
  · rw [if_neg hash, if_neg production]
    exact ⟨_, rfl, rfl⟩

end Middleware

end VpsDashboard.Server
