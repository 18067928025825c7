/-
# VpsDashboard.Server.Unauthenticated — what requests without credentials can change

In production the authentication middleware rejects a request that carries neither
a user nor a password (`Middleware.Rejects`).  The four routes below
`/api/auth/trakt` are registered outside its group.

* `public_routes_change_world` — without credentials a login and its callback
  store tokens and a redirect URI, a logout clears the tokens and `me` refreshes
  an expired pair;
* `rejected_requests_keep_world` — nothing else does, whatever the requests: the
  credentials are only changed by an accepted callback (`Visit.callbackAccepted`), and
  there only in their redirect URI; the tokens only by one of the three
  (`Visit.changesSession`).
-/
import VpsDashboard.Server.Actions

namespace VpsDashboard.Server

open Foundation Trakt

set_option autoImplicit false
set_option linter.dupNamespace false

namespace Server

variable (s : Server)

/-! ## Handlers that only read -/

theorem handleTraktLogin_keeps (r : Request) : machine.Keeps (s.handleTraktLogin r) := by
  have reads : (s.handleTraktLogin r).Performs fun a => a = .credsGet ∨ a = .randRead :=
    s.handleTraktLogin_performs r (.inl rfl) (.inr rfl)
  apply Machine.keeps_of_performs reads
  rintro _ (rfl | rfl) _ _ <;> rfl

/-! ## The callback and `me` -/

theorem handleTraktCallback_refused {r : Request} {w : World} {outside : Nat → Env}
    (closed : (returnsState r && (readTokenAnswer (outside 2).http).isOk) = false) :
    ((s.handleTraktCallback r).run machine w outside).2 = w := by
  unfold handleTraktCallback
  cases s.traktOAuth with
  | false => rfl
  | true =>
      cases back : returnsState r with
      | false => simp
      | true =>
          cases answer : readTokenAnswer (outside 2).http with
          | ok tokens => simp [back, answer, Except.isOk, Except.toBool] at closed
          | error e =>
              unfold effectiveRedirect
              cases s.traktCreds with
              | false => simp
              | true =>
                  by_cases derived : w.creds.creds.redirectURI = "" <;>
                    simp [derived, OAuthHandler.exchangeCode, OAuthHandler.doTokenRequest, exec,
                      answer]

theorem handleTraktMe_refused (r : Request) {w : World} {outside : Nat → Env}
    (closed : ∀ t, w.store.tokens = some t → (outside 1).now.after t.expiresAt = true →
      t.refreshToken ≠ "" → (readTokenAnswer (outside 4).http).isOk = false) :
    ((s.handleTraktMe r).run machine w outside).2 = w := by
  unfold handleTraktMe
  split
  · rfl
  · cases held : w.store.tokens with
    | none => simp [held]
    | some t =>
        cases late : (outside 1).now.after t.expiresAt with
        | false => simp [held, late]
        | true =>
            by_cases blank : t.refreshToken = ""
            · simp [held, late, blank, OAuthHandler.refreshTokens]
            · cases answer : readTokenAnswer (outside 4).http with
              | ok tokens =>
                  have refused := closed t held late blank
                  simp [answer, Except.isOk, Except.toBool] at refused
              | error e =>
                  simp [held, late, blank, answer, OAuthHandler.refreshTokens,
                    OAuthHandler.doTokenRequest, exec]

end Server

/-! ## One request -/

/-- A callback that brings back the state of its cookie with a code that is accepted.  The
token request is its third action. -/
def Visit.callbackAccepted (v : Visit) : Bool :=
  v.request.endpoint == .traktCallback && Server.returnsState v.request &&
    (readTokenAnswer (v.outside 2).http).isOk

/-- What a request without credentials can do to the session: log out, have a callback
accepted, or have an expired pair refreshed with success.  The token request of `me` is its
fifth action. -/
def Visit.changesSession (v : Visit) (w : World) : Bool :=
  match v.request.endpoint with
  | .traktLogout => true
  | .traktCallback => v.callbackAccepted
  | .traktMe =>
      match w.store.tokens with
      | none => false
      | some t =>
          (v.outside 1).now.after t.expiresAt && t.refreshToken != "" &&
            (readTokenAnswer (v.outside 4).http).isOk
  | _ => false

theorem Visit.callbackAccepted_eq {v : Visit} (callback : v.request.endpoint = .traktCallback) :
    v.callbackAccepted =
      (Server.returnsState v.request && (readTokenAnswer (v.outside 2).http).isOk) := by
  rw [callbackAccepted, callback]
  rfl

/-- An action that leaves the client id, the client secret and the path of their file. -/
def Act.keepsClient : Act → Prop
  | .credsUpdate _ => False
  | _ => True

/-- What such actions leave of the credentials. -/
def clientOf (w : World) : String × String × String :=
  (w.creds.creds.clientID, w.creds.creds.clientSecret, w.creds.filePath)

theorem clientOf_exec (a : Act) (keeps : Act.keepsClient a) (w : World) (env : Env) :
    clientOf (exec w a env).2 = clientOf w := by
  cases a with
  | credsUpdate => cases keeps
  | _ => rfl

theorem creds_exec (a : Act) (session : a = .storeClear ∨ a.refreshes) (w : World) (env : Env) :
    (exec w a env).2.creds = w.creds := by
  rcases session with rfl | refreshes
  · rfl
  · cases a <;> first | rfl | cases refreshes

section Requests

variable (s : Server) {m : Middleware} (cors : Request → Option Response)

/-- The public handlers are all that a rejected request reaches. -/
theorem serve_rejected {v : Visit} {w : World} (production : m.cfg.appEnv ≠ "development")
    (rejected : m.Rejects v.request) :
    ((s.serve m cors v).run machine w v.outside).2 = w ∨
      v.request.endpoint.inGroup = false ∧ ((s.serve m cors v).run machine w v.outside).2 =
        ((s.handle v.elsewhere v.request.endpoint v.request).run machine w v.outside).2 := by
  unfold Server.serve
  cases cors v.request with
  | some response => exact .inl rfl
  | none =>
      have answered := congrArg Prod.snd (Program.run_map machine
        (s.routed m v.elsewhere v.request.endpoint v.request) Server.recovered w v.outside)
      unfold Server.routed at answered ⊢
      cases group : v.request.endpoint.inGroup with
      | true =>
          obtain ⟨response, same, -⟩ := Middleware.handler_rejects production rejected
            (s.handle v.elsewhere v.request.endpoint)
          left
          rw [if_pos rfl, same]
          rfl
      | false =>
          rw [group, if_neg Bool.false_ne_true] at answered
          exact .inr ⟨rfl, answered⟩

variable {elsewhere : Endpoint → Response} {v : Visit} {w : World}

theorem handle_keepsClient (reached : v.request.endpoint.inGroup = false) :
    (s.handle elsewhere v.request.endpoint v.request).Performs Act.keepsClient := by
  unfold Server.handle
  cases endpoint : v.request.endpoint with
  | traktLogin => exact s.handleTraktLogin_performs _ trivial trivial
  | traktLogout => exact s.handleTraktLogout_performs _ trivial
  | traktCallback =>
      apply Program.performs_of_permitted
      refine s.handleTraktCallback_permitted _ (fun _ _ => trivial) fun _ uri => ?_
      refine (OAuthHandler.exchangeCode_exchanges _ uri).permitted fun _ a exchanges => ?_
      cases a <;> trivial
  | traktMe =>
      apply Program.performs_of_permitted
      apply s.handleTraktMe_permitted
      · intro _ a looks
        cases a <;> trivial
      · refine OAuthHandler.refreshTokens_refreshes.permitted fun _ a refreshes => ?_
        cases a <;> trivial
  | health | static => exact Program.performs_ret _
  | _ =>
      rw [endpoint] at reached
      cases reached

/-- Only an accepted callback touches the credentials. -/
theorem handle_keeps_creds (reached : v.request.endpoint.inGroup = false)
    (spared : v.callbackAccepted = false) :
    ((s.handle elsewhere v.request.endpoint v.request).run machine w v.outside).2.creds =
      w.creds := by
  unfold Server.handle
  cases endpoint : v.request.endpoint with
  | traktLogin => exact congrArg World.creds ((s.handleTraktLogin_keeps v.request).run w v.outside)
  | traktLogout =>
      exact Machine.run_of_performs World.creds
        (s.handleTraktLogout_performs v.request (.inl rfl)) creds_exec w v.outside
  | traktCallback =>
      rw [v.callbackAccepted_eq endpoint] at spared
      exact congrArg World.creds (s.handleTraktCallback_refused spared)
  | traktMe =>
      have refreshes : (s.handleTraktMe v.request).Performs
          fun a => a = .storeClear ∨ a.refreshes := by
        apply Program.performs_of_permitted
        apply s.handleTraktMe_permitted
        · exact fun _ _ looks => .inr (refreshes_of_looks looks)
        · exact OAuthHandler.refreshTokens_refreshes.permitted fun _ _ => .inr
      exact Machine.run_of_performs World.creds refreshes creds_exec w v.outside
  | health | static => rfl
  | _ =>
      rw [endpoint] at reached
      cases reached

theorem handle_keeps (reached : v.request.endpoint.inGroup = false)
    (spared : v.changesSession w = false) :
    ((s.handle elsewhere v.request.endpoint v.request).run machine w v.outside).2 = w := by
  unfold Server.handle
  rw [Visit.changesSession] at spared
  cases endpoint : v.request.endpoint with
  | traktLogin => exact (s.handleTraktLogin_keeps v.request).run w v.outside
  | traktLogout =>
      rw [endpoint] at spared
      cases spared
  | traktCallback =>
      simp only [endpoint, v.callbackAccepted_eq endpoint] at spared
      exact s.handleTraktCallback_refused spared
  | traktMe =>
      rw [endpoint] at spared
      apply s.handleTraktMe_refused v.request
      intro t held late filled
      simpa [held, late, filled] using spared
  | health | static => rfl
  | _ =>
      rw [endpoint] at reached
      cases reached

end Requests

/-! ## Any number of requests -/

/-- What each request of a sequence keeps of the first state, the sequence keeps. -/
theorem serveAll_keeps {β : Type} (part : World → β) (s : Server) (m : Middleware)
    (cors : Request → Option Response) {visits : List Visit} {w w' : World}
    (each : ∀ v ∈ visits, ∀ w', part w' = part w →
      part ((s.serve m cors v).run machine w' v.outside).2 = part w)
    (same : part w' = part w) : part (s.serveAll m cors w' visits) = part w := by
  induction visits generalizing w' with
  | nil => exact same
  | cons v later ih =>
      apply ih fun other member => each other (List.mem_cons_of_mem _ member)
      exact each v List.mem_cons_self w' same

/-- **What requests without credentials may change.**  In production, and for any sequence of
requests that the middleware rejects: the client id, the client secret and the path of the
credentials file stay; the credential store and its file stay unless a callback is accepted;
and the token store and its file stay unless besides one of them logs out or has an expired
pair refreshed. -/
theorem rejected_requests_keep_world (s : Server) {m : Middleware}
    (cors : Request → Option Response) (w : World) (visits : List Visit)
    (production : m.cfg.appEnv ≠ "development")
    (rejected : ∀ v ∈ visits, m.Rejects v.request) :
    let after := s.serveAll m cors w visits
    (after.creds.creds.clientID = w.creds.creds.clientID ∧
      after.creds.creds.clientSecret = w.creds.creds.clientSecret ∧
      after.creds.filePath = w.creds.filePath) ∧
    ((∀ v ∈ visits, v.callbackAccepted = false) → after.creds = w.creds) ∧
    ((∀ v ∈ visits, v.changesSession w = false) → after.store = w.store) := by
  intro after
  refine ⟨?_, fun spared => ?_, fun spared => ?_⟩
  · have client : clientOf after = clientOf w := by
      apply serveAll_keeps clientOf s m cors _ rfl
      intro v member w' same
      rcases serve_rejected s cors (w := w') production (rejected v member) with
        kept | ⟨reached, run⟩
      · rw [kept, same]
      · rw [run, ← same]
        exact Machine.run_of_performs clientOf (handle_keepsClient s reached) clientOf_exec w'
          v.outside
    simpa [clientOf] using client
  · apply serveAll_keeps World.creds s m cors _ rfl
    intro v member w' same
    rcases serve_rejected s cors (w := w') production (rejected v member) with
      kept | ⟨reached, run⟩
    · rw [kept, same]
    · rw [run, ← same]
      exact handle_keeps_creds s reached (spared v member)
  · -- Every request finds the first state, so the condition on that state is enough.
    have whole : after = w := by
      apply serveAll_keeps id s m cors _ rfl
      intro v member w' same
      obtain rfl : w' = w := same
      rcases serve_rejected s cors (w := w') production (rejected v member) with
        kept | ⟨reached, run⟩
      · exact kept
      · exact run.trans (handle_keeps s reached (spared v member))
    rw [whole]

/-! ## The public routes -/

def production : Middleware where
  cfg := ⟨"production", "admin", "$2a$10$hash", "Remote-User"⟩
  passwordMatches _ _ := false

/-- A request with no header at all. -/
def anonymous (method : Method) (path : String) (query cookies : List (String × String)) :
    Request where
  method := method
  path := path
  query := query
  headers := []
  cookies := cookies
  host := "dash.example"
  tls := true
  body := none
  user := none

/-- The clock at zero, random bytes that are all zero, and calls answered with a new pair. -/
def granting : Env where
  now := 0
  rand := .ok (List.replicate 32 0)
  http := .ok ⟨200, "", some (.obj
    [("access_token", .str "access-2"), ("refresh_token", .str "refresh-2"),
     ("expires_in", .int 7776000), ("created_at", .int 0)]), none⟩

def visit (request : Request) : Visit := ⟨request, fun _ => granting, fun _ => httpError "" 404⟩

def loginState : String := rawURLEncode (List.replicate 32 0)

def loginAndCallback : List Visit :=
  [visit (anonymous .get "/api/auth/trakt/login" [] []),
   visit (anonymous .get "/api/auth/trakt/callback" [("code", "code"), ("state", loginState)]
     [("trakt_oauth_state", loginState)])]

def logoutVisit : Visit := visit (anonymous .post "/api/auth/trakt/logout" [] [])

def meVisit : Visit := visit (anonymous .get "/api/auth/trakt/me" [] [])

/-- A server with credentials, and tokens that expire at this time. -/
def connectedUntil (expiresAt : Time) : World where
  store := ⟨some ⟨"access-1", "refresh-1", expiresAt, "public", "alice"⟩,
    some ⟨"access-1", "refresh-1", expiresAt, "public", "alice"⟩⟩
  creds := ⟨⟨"id", "secret", ""⟩, "/tmp/trakt_credentials.json", none⟩

def disconnected : World := { connectedUntil 0 with store := ⟨none, none⟩ }

/-- Requests that the middleware would reject store tokens and a redirect URI, remove
tokens and replace them. -/
theorem public_routes_change_world :
    production.cfg.appEnv ≠ "development" ∧
      (∀ v ∈ logoutVisit :: meVisit :: loginAndCallback, production.Rejects v.request) ∧
      (wired.serveAll production (fun _ => none) disconnected loginAndCallback).store.tokens.map
          Tokens.accessToken = some "access-2" ∧
      (wired.serveAll production (fun _ => none) disconnected loginAndCallback).creds.file =
        some ⟨"id", "secret", "https://dash.example/api/auth/trakt/callback"⟩ ∧
      (wired.serveAll production (fun _ => none) (connectedUntil Time.hour) [logoutVisit]).store =
        ⟨none, none⟩ ∧
      (wired.serveAll production (fun _ => none) (connectedUntil (-1)) [meVisit]).store.tokens.map
          Tokens.accessToken = some "access-2" :=
  ⟨by decide, by decide, by rfl, by rfl, by rfl, by rfl⟩

def forgedCallback : Visit :=
  visit (anonymous .get "/api/auth/trakt/callback" [("code", "code"), ("state", "guess")] [])

def anonymousSave : Visit := visit (anonymous .post "/api/trakt/config" [] [])

/-- The rule at a connected server: a look at the session, a callback without its cookie, a
login and an attempt to save credentials leave everything as it is, and a logout the
credentials. -/
theorem anonymous_requests_keep_session :
    wired.serveAll production (fun _ => none) (connectedUntil Time.hour)
        [meVisit, forgedCallback, visit (anonymous .get "/api/auth/trakt/login" [] []),
          anonymousSave] = connectedUntil Time.hour ∧
      (wired.serveAll production (fun _ => none) (connectedUntil Time.hour)
        [meVisit, logoutVisit, anonymousSave]).creds = (connectedUntil Time.hour).creds := by
  constructor
  · obtain ⟨-, creds, store⟩ := rejected_requests_keep_world wired (m := production) (fun _ => none)
      (connectedUntil Time.hour) [meVisit, forgedCallback,
        visit (anonymous .get "/api/auth/trakt/login" [] []), anonymousSave] (by decide) (by decide)
    exact World.ext (store (by decide)) (creds (by decide))
  · exact (rejected_requests_keep_world wired (m := production) (fun _ => none)
      (connectedUntil Time.hour) [meVisit, logoutVisit, anonymousSave] (by decide)
        (by decide)).2.1 (by decide)

end VpsDashboard.Server
