/-
# VpsDashboard.Server.TokenOrigin — where tokens come from, and that accounts never mix

Tokens reach the store in two ways: a login exchanges a code for them, or a refresh
exchanges the refresh token of a record that it has read.  A login fetches the username
with its new access token; a refresh takes over the username of the old record.  Between
two steps of a request other requests may store tokens of another account, clear them, or
use up a refresh token.

* `tokens_have_origin` — in every run, whatever Trakt answers: a request stores only what
  its own exchange or its own refresh was granted, with a username that this access token
  was answered or that the refreshed record had; it sends a refresh token that it has read,
  and a bearer that it has found unexpired or has just been granted (`Traced`);
* `accounts_never_mix` — over all restarts: if what Trakt grants for a refresh token is of
  the same account, and it names each access token's own account, every record in memory
  and in the file is of one account (`OneAccount`).
-/
import VpsDashboard.Server.Unauthenticated
import VpsDashboard.Trakt.RedirectLineage

namespace VpsDashboard.Server

open Foundation Trakt

set_option autoImplicit false
set_option linter.dupNamespace false

/-! ## What a request has seen -/

/-- What the token endpoint has granted in a step, and for which request. -/
def granted (e : Step) : Option (TokenReq × TokenResp) :=
  match e.act with
  | .tokenRequest body => (readTokenAnswer e.env.http).toOption.map fun tokens => (body, tokens)
  | _ => none

/-- The access token with which settings were fetched in a step, and the user they name. -/
def named (e : Step) : Option (String × String) :=
  match e.act, e.env.http with
  | .apiGet url _ bearer, .ok resp =>
      if url = traktAPI ++ "/users/settings" then
        (userSettings resp.json).toOption.map fun username => (bearer, username)
      else none
  | _, _ => none

/-- The store was read and held this record. -/
def Finds (e : Step) (t : Tokens) : Prop :=
  e.act = .storeGet ∧ e.before.store.tokens = some t

/-- What a login stores: the tokens it was granted, with the name it has fetched with them
or no name. -/
def FromLogin (h : History) (t : Tokens) : Prop :=
  ∃ e ∈ h, ∃ body tokens username, granted e = some (body, tokens) ∧
    body.grantType = loginGrant ∧ body.refreshToken = "" ∧
    t = OAuthHandler.storedTokens tokens username ∧
    (username = "" ∨ ∃ e' ∈ h, named e' = some (tokens.accessToken, username))

/-- What a refresh stores: the tokens it was granted for the refresh token of a record it
has read, with the name of that record. -/
def FromRefresh (h : History) (t : Tokens) : Prop :=
  ∃ e ∈ h, ∃ body tokens, granted e = some (body, tokens) ∧ body.grantType = refreshGrant ∧
    ∃ e' ∈ h, ∃ old, Finds e' old ∧ old.refreshToken ≠ "" ∧
      body.refreshToken = old.refreshToken ∧ t = OAuthHandler.storedTokens tokens old.username

/-- A bearer of a record that was read, and found unexpired right after. -/
def FoundFresh (h : History) (bearer : String) : Prop :=
  ∃ e e' t, [e, e'] <:+: h ∧ Finds e t ∧ t.accessToken = bearer ∧ e'.act = .now ∧
    ¬ e'.env.now.after t.expiresAt

/-- A bearer that a login was granted. -/
def JustGranted (h : History) (bearer : String) : Prop :=
  ∃ e ∈ h, ∃ body tokens, granted e = some (body, tokens) ∧ body.grantType = loginGrant ∧
    tokens.accessToken = bearer

/-- What a request may do with tokens after what it has seen. -/
def Traced (h : History) : Act → Prop
  | .storeSet t => FromLogin h t ∨ FromRefresh h t
  | .tokenRequest body =>
      (body.grantType = loginGrant ∧ body.refreshToken = "") ∨
        (body.grantType = refreshGrant ∧ body.refreshToken ≠ "" ∧
          ∃ e ∈ h, ∃ t, Finds e t ∧ t.refreshToken = body.refreshToken)
  | .apiGet url _ bearer =>
      FoundFresh h bearer ∨ (url = traktAPI ++ "/users/settings" ∧ JustGranted h bearer)
  | _ => True

/-- An action that neither stores nor sends a token. -/
def Tokenless : Act → Prop
  | .storeSet _ | .tokenRequest _ | .apiGet _ _ _ => False
  | _ => True

theorem traced_of_tokenless {h : History} {a : Act} (tokenless : Tokenless a) : Traced h a := by
  cases a <;> trivial

section Events

variable {i : Nat} {w : World} {env : Env}

theorem granted_event {body : TokenReq} {tokens : TokenResp}
    (answer : readTokenAnswer env.http = .ok tokens) :
    granted (machine.event i w (.tokenRequest body) env) = some (body, tokens) := by
  simp [granted, answer, Except.toOption]

theorem named_event {clientID bearer username : String} {resp : HttpResponse}
    (arrived : env.http = .ok resp) (user : userSettings resp.json = .ok username) :
    named (machine.event i w (.apiGet (traktAPI ++ "/users/settings") clientID bearer) env) =
      some (bearer, username) := by
  simp [named, arrived, user, Except.toOption]

end Events

/-! ## Functions -/

section Functions

variable {i : Nat} {h : History}

abbrev tracedLogic (i : Nat) : Logic Act Ans History := machine.historyLogic i Traced

theorem Traced.looks (h : History) (a : Act) (looks : a.looks) : Traced h a := by
  cases a <;> trivial

/-- A program without such actions keeps to it. -/
theorem permitted_of_tokenless {α : Type} {p : Prog α} (performs : p.Performs Tokenless) :
    p.Permitted (tracedLogic i) :=
  performs.permitted fun _ _ => traced_of_tokenless

/-- An access token is handed out by the check that finds it unexpired. -/
theorem getAccessToken_traced :
    Store.getAccessToken.wp (tracedLogic i)
      (fun result h' => ∀ token, result = .ok token → FoundFresh h' token) h := by
  refine Store.getAccessToken_wp Traced.looks (fun _ _ => nofun) ?_
  rintro t _ _ _ ⟨w, env, held, rfl⟩ ⟨w₁, env₁, rfl, rfl⟩ fresh _ ⟨⟩
  refine ⟨machine.event i w .storeGet env, machine.event i w₁ .now env₁, t, ?_,
    ⟨rfl, held.symm⟩, rfl, rfl, fresh⟩
  exact ⟨h, [], by simp⟩

/-- A refresh stores what it was granted for the refresh token that it has read. -/
theorem refreshTokens_traced : OAuthHandler.refreshTokens.Permitted (tracedLogic i) := by
  intro h
  refine OAuthHandler.refreshTokens_wp trivial (fun _ _ _ _ _ => trivial) (fun _ _ _ => trivial) ?_
  rintro t _ c _ ⟨w, env, held, rfl⟩ refreshable ⟨w₁, env₁, rfl, rfl⟩
  have found : Finds (machine.event i w .storeGet env) t := ⟨rfl, held.symm⟩
  refine ⟨.inr ⟨rfl, refreshable, _, by simp, t, found, rfl⟩, ?_⟩
  rintro _ _ ⟨w₂, env₂, rfl, rfl⟩
  dsimp only
  cases answer : readTokenAnswer env₂.http with
  | error e => trivial
  | ok tokens =>
      refine ⟨.inr ⟨_, List.mem_append_right _ (List.mem_singleton_self _), _, tokens,
        granted_event answer, rfl, _, by simp, t, found, refreshable, rfl, rfl⟩, fun _ _ => trivial⟩

/-- A data request carries the access token that was found unexpired. -/
theorem dataLogic_traced (i : Nat) (url : String) :
    DataLogic (tracedLogic i) url (fun _ => True) fun token h => FoundFresh h token where
  looks := Traced.looks
  credsGet _ := trivial
  refreshes _ := refreshTokens_traced.wp fun _ _ _ _ => trivial
  finds _ := getAccessToken_traced
  keeps := by
    rintro token h _ _ ⟨e, e', t, inside, rest⟩ ⟨w, env, rfl, rfl⟩
    exact ⟨e, e', t, inside.trans (List.prefix_append _ _).isInfix, rest⟩
  requests _ found := .inl found
  refused _ _ _ := trivial
  clears _ _ := trivial

/-- A username comes from the settings of the access token it was fetched with. -/
theorem fetchUsername_traced {token : String} (just : JustGranted h token) :
    (OAuthHandler.fetchUsername token).wp (tracedLogic i)
      (fun result h' => ∀ username, result = .ok username →
        ∃ e ∈ h', named e = some (token, username)) h := by
  unfold OAuthHandler.fetchUsername
  apply Machine.wp_perform trivial
  intro w env
  obtain ⟨e, member, rest⟩ := just
  refine Machine.wp_perform (.inr ⟨rfl, e, List.mem_append_left _ member, rest⟩) ?_
  intro w₁ env₁
  have answer : (machine.exec w₁ (.apiGet (traktAPI ++ "/users/settings")
    (machine.exec w .credsGet env).1.clientID token) env₁).1 = env₁.http := rfl
  rw [answer]
  cases arrived : env₁.http with
  | error e => simp
  | ok resp =>
      intro username user
      exact ⟨_, List.mem_append_right _ (List.mem_singleton_self _), named_event arrived user⟩

/-- A login stores what it was granted for its code. -/
theorem exchangeCode_traced (code uri : String) :
    (OAuthHandler.exchangeCode code uri).Permitted (tracedLogic i) := by
  have recorded : (CredentialStore.setRedirectURI uri).Permitted (tracedLogic i) :=
    permitted_of_tokenless (CredentialStore.setRedirectURI_performs uri trivial
      fun a saves => by cases a <;> trivial)
  intro h
  refine OAuthHandler.exchangeCode_wp trivial (fun _ _ => trivial) ?_
  rintro c _ ⟨w, env, rfl, rfl⟩
  refine ⟨.inl ⟨rfl, rfl⟩, ?_⟩
  rintro _ _ tokens ⟨w₁, env₁, rfl, rfl⟩ answer
  -- The grant stays in the history while the redirect URI is stored and the name fetched.
  have grants : granted (machine.event i w₁ (.tokenRequest
    (OAuthHandler.exchangeBody w.creds.creds code uri)) env₁) = _ := granted_event answer
  refine Program.wp_mono _ ?_ (Machine.wp_history_grows (recorded _))
  rintro _ h₁ ⟨-, kept⟩
  have stays := kept _ (List.mem_append_right _ (List.mem_singleton_self _))
  refine Program.wp_mono _ ?_
    (Machine.wp_history_grows (fetchUsername_traced ⟨_, stays, _, tokens, grants, rfl, rfl⟩))
  rintro username h₂ ⟨user, kept'⟩
  refine ⟨.inl ⟨_, kept' _ stays, _, tokens, _, grants, rfl, rfl, rfl, ?_⟩, fun _ => trivial⟩
  cases username with
  | error e => exact .inl rfl
  | ok username => exact .inr (user username rfl)

end Functions

/-! ## Handlers -/

section Handlers

variable {i : Nat} (s : Server)

theorem configures_tokenless {body : Option Json} {a : Act} (configures : Act.configures body a) :
    Tokenless a := by
  cases a <;> trivial

theorem handleTraktList_traced {α : Type} (url : String) (zero : α) (element : Json.Decoder α)
    (json : α → Json) (failed : String) (r : Request) :
    (s.handleTraktList (do return (← Client.getList url zero element).map (sliceJson json))
      failed r).Permitted (tracedLogic i) :=
  s.handleTraktList_permitted r Traced.looks
    (((dataLogic_traced i url).getList zero element).bind fun _ => Program.permitted_ret _) failed

theorem handle_traced (elsewhere : Endpoint → Response) (endpoint : Endpoint) (r : Request) :
    (s.handle elsewhere endpoint r).Permitted (tracedLogic i) := by
  unfold Server.handle
  cases endpoint with
  | traktLogin => exact permitted_of_tokenless (s.handleTraktLogin_performs r trivial trivial)
  | traktCallback =>
      exact s.handleTraktCallback_permitted r (fun _ _ => trivial) fun _ => exchangeCode_traced _
  | traktMe => exact s.handleTraktMe_permitted r Traced.looks refreshTokens_traced
  | traktLogout => exact permitted_of_tokenless (s.handleTraktLogout_performs r trivial)
  | traktConfigGet => exact permitted_of_tokenless (s.handleTraktConfigGet_performs r trivial)
  | traktConfigSave =>
      exact permitted_of_tokenless
        ((s.handleTraktConfigSave_performs r).mono fun _ => configures_tokenless)
  | traktWatchlist => exact handleTraktList_traced s _ _ _ _ _ r
  | traktWatched => exact handleTraktList_traced s _ _ _ _ _ r
  | _ => exact Program.permitted_ret _

theorem serve_traced (m : Middleware) (cors : Request → Option Response) (v : Visit) :
    (s.serve m cors v).Permitted (tracedLogic i) := by
  apply s.serve_permitted m cors v
  unfold Server.routed
  split
  · exact Server.handler_permitted v.request m fun user => handle_traced s v.elsewhere _ _
  · exact handle_traced s v.elsewhere _ _

end Handlers

/-! ## Runs -/

/-- Requests that are served at once. -/
def startRequests (s : Server) (m : Middleware) (cors : Request → Option Response) (w : World)
    (visits : List Visit) : Foundation.Config Act Ans World :=
  ⟨w, visits.map fun v => do
    let _ ← s.serve m cors v
    return ()⟩

theorem startRequests_traced {s : Server} {m : Middleware} {cors : Request → Option Response}
    {w : World} {visits : List Visit} (i : Nat) (p : Prog Unit)
    (found : (startRequests s m cors w visits).threads[i]? = some p) :
    p.wp (tracedLogic i) (fun _ _ => True) [] := by
  rw [startRequests, List.getElem?_map, Option.map_eq_some_iff] at found
  obtain ⟨v, -, rfl⟩ := found
  exact (serve_traced s m cors v).bind (fun _ => Program.permitted_ret ()) []

/-- **Where tokens come from.**  In every run of any requests, in every order of their
steps and whatever Trakt answers, each step deals with tokens as its request may. -/
theorem tokens_have_origin (s : Server) (m : Middleware) (cors : Request → Option Response)
    (w : World) (visits : List Visit) {trace : History} {c : Foundation.Config Act Ans World}
    (run : machine.Run (startRequests s m cors w visits) trace c) :
    Everywhere (fun pre e => Traced (own e.thread pre) e.act) trace := by
  apply everywhere_of_at
  rintro pre e post rfl
  obtain ⟨p, found⟩ := run.thread_some (List.mem_append_right pre List.mem_cons_self)
  exact run.issued found (startRequests_traced e.thread p found)

/-! ## Accounts -/

/-- The account of each token, and the names that an account goes by. -/
structure Accounts (α : Type) where
  ofAccess : String → α
  ofRefresh : String → α
  goesBy : α → String → Prop

section Accounts

variable {α : Type} (A : Accounts α)

/-- Both tokens are of one account, and the username is blank or a name of it. -/
structure OneAccount (t : Tokens) : Prop where
  refresh : t.refreshToken ≠ "" → A.ofRefresh t.refreshToken = A.ofAccess t.accessToken
  username : t.username = "" ∨ A.goesBy (A.ofAccess t.accessToken) t.username

/-- That of the record in memory and of the one in the file. -/
structure Unmixed (store : Store) : Prop where
  memory : ∀ t ∈ store.tokens, OneAccount A t
  file : ∀ t ∈ store.file, OneAccount A t

/-- Trakt grants the tokens of one account, and for a refresh token those of its account;
the settings name nobody or the account of the access token. -/
def Honest (e : Step) : Prop :=
  (∀ grant ∈ granted e,
    (grant.2.refreshToken ≠ "" →
      A.ofRefresh grant.2.refreshToken = A.ofAccess grant.2.accessToken) ∧
    (grant.1.grantType = refreshGrant →
      A.ofAccess grant.2.accessToken = A.ofRefresh grant.1.refreshToken)) ∧
  ∀ user ∈ named e, user.2 = "" ∨ A.goesBy (A.ofAccess user.1) user.2

instance [DecidableEq α] [∀ a name, Decidable (A.goesBy a name)] (e : Step) :
    Decidable (Honest A e) := inferInstanceAs (Decidable (_ ∧ _))

variable {A}

theorem Unmixed.set {store : Store} {t : Tokens} (unmixed : Unmixed A store)
    (one : OneAccount A t) : Unmixed A (store.set t) := by
  refine ⟨by simpa using one, ?_⟩
  rw [Store.set, Store.save]
  dsimp only
  rw [Tokens.marshal]
  split
  · exact unmixed.file
  · rename_i data written
    obtain ⟨-, same⟩ := Option.ite_none_right_eq_some.mp written
    rintro u ⟨⟩
    exact Option.some.inj same ▸ one

theorem oneAccount_login {h : History} {t : Tokens} (honest : ∀ e ∈ h, Honest A e)
    (origin : FromLogin h t) : OneAccount A t := by
  obtain ⟨e, member, body, tokens, username, grant, -, -, rfl, name⟩ := origin
  refine ⟨((honest e member).1 _ grant).1, ?_⟩
  rcases name with rfl | ⟨e', member', fetched⟩
  · exact .inl rfl
  · exact (honest e' member').2 _ fetched

/-- A refreshed record is of the account of the record it was refreshed from. -/
theorem oneAccount_refresh {h : History} {t : Tokens}
    (found : ∀ e ∈ h, Unmixed A e.before.store) (honest : ∀ e ∈ h, Honest A e)
    (origin : FromRefresh h t) : OneAccount A t := by
  obtain ⟨e, member, body, tokens, grant, refresh, e', member', old, ⟨-, held⟩, refreshable, sent,
    rfl⟩ := origin
  obtain ⟨pair, renewed⟩ := (honest e member).1 _ grant
  have one := (found e' member').memory old held
  have same : A.ofAccess tokens.accessToken = A.ofAccess old.accessToken := by
    calc A.ofAccess tokens.accessToken
        = A.ofRefresh body.refreshToken := renewed refresh
      _ = A.ofRefresh old.refreshToken := by rw [sent]
      _ = A.ofAccess old.accessToken := one.refresh refreshable
  refine ⟨pair, ?_⟩
  show old.username = "" ∨ A.goesBy (A.ofAccess tokens.accessToken) old.username
  rw [same]
  exact one.username

/-- A step that its request may take keeps accounts apart. -/
theorem Unmixed.step {h : History} {e : Step}
    (before : ∀ e' ∈ h, Unmixed A e'.before.store ∧ Honest A e') (traced : Traced h e.act)
    (unmixed : Unmixed A e.before.store) (done : e.after = (exec e.before e.act e.env).2) :
    Unmixed A e.after.store := by
  rw [done]
  cases act : e.act with
  | storeSet t =>
      rw [act] at traced
      apply unmixed.set
      rcases traced with login | refresh
      · exact oneAccount_login (fun e' member => (before e' member).2) login
      · exact oneAccount_refresh (fun e' member => (before e' member).1)
          (fun e' member => (before e' member).2) refresh
  | storeClear => exact ⟨by simp, by simp⟩
  | _ => exact unmixed

end Accounts

/-! ## From one start of the server to the next -/

/-- One process: its environment, its requests, what has happened when it ends, and what it
leaves behind. -/
structure Uptime where
  env : Credentials
  visits : List Visit
  trace : History
  finish : World

/-- One process after the other, each started on the files that the one before it left.  A
process may end between any two of its steps. -/
def Uptimes (s : Server) (m : Middleware) (cors : Request → Option Response) (w : World) :
    List Uptime → Prop
  | [] => True
  | up :: later =>
      (∃ threads, machine.Run (startRequests s m cors (w.restart up.env) up.visits) up.trace
        ⟨up.finish, threads⟩) ∧ Uptimes s m cors up.finish later

/-- **Accounts never mix.**  Any number of requests, logins with several accounts among
them, in every order of their steps and over every restart: if Trakt keeps its accounts
apart, every record that a request finds, in memory or in the file, is of one account. -/
theorem accounts_never_mix {α : Type} (A : Accounts α) (s : Server) (m : Middleware)
    (cors : Request → Option Response) (w : World) (ups : List Uptime)
    (file : ∀ t ∈ w.store.file, OneAccount A t) (ran : Uptimes s m cors w ups)
    (honest : ∀ up ∈ ups, ∀ e ∈ up.trace, Honest A e) :
    ∀ up ∈ ups, Unmixed A up.finish.store ∧ ∀ e ∈ up.trace, Unmixed A e.before.store := by
  induction ups generalizing w with
  | nil => simp
  | cons up later ih =>
      obtain ⟨⟨threads, run⟩, rest⟩ := ran
      have here := run.invariant (I := fun w => Unmixed A w.store) ⟨file, file⟩ startRequests_traced
        (honest up List.mem_cons_self) fun h e before traced unmixed done =>
          unmixed.step before traced done
      intro up' member
      rcases List.mem_cons.mp member with rfl | after
      · exact here
      · exact ih up.finish here.1.file rest (fun up' member => honest up' (by simp [member])) up'
          after

/-! ## Two accounts -/

/-- A pair of tokens of alice or of bob. -/
def pairOf (name number : String) : Env :=
  answering 200 (some (.obj
    [("access_token", .str (name ++ "-access-" ++ number)),
     ("refresh_token", .str (name ++ "-refresh-" ++ number)),
     ("expires_in", .int 7776000), ("created_at", .int 0)]))

def settingsOf (name : String) : Env :=
  answering 200 (some (.obj [("user", .obj [("username", .str name)])]))

def aliceAndBob : Accounts String where
  ofAccess token := if token ∈ ["alice-access-1", "alice-access-2"] then "alice" else "bob"
  ofRefresh token := if token ∈ ["alice-refresh-1", "alice-refresh-2"] then "alice" else "bob"
  goesBy account name := account = name

instance (account name : String) : Decidable (aliceAndBob.goesBy account name) :=
  inferInstanceAs (Decidable (account = name))

def visitTo (path : String) (query cookies : List (String × String)) : Visit where
  request := { Request.plain path with query := query, cookies := cookies }
  outside := fun _ => answering 200 none
  elsewhere := fun _ => Server.statusOk

def returning (code : String) : Visit :=
  visitTo "/api/auth/trakt/callback" [("code", code), ("state", "s")]
    [("trakt_oauth_state", "s")]

/-- Both log in at once, bob stores his tokens last. -/
def bothLogIn : Uptime :=
  let quiet (i : Nat) : Nat × Env := (i, answering 200 none)
  let visits := [returning "alice-code", returning "bob-code"]
  let ran := machine.runFor
    (startRequests wired production (fun _ => none) (firstStart.restart ⟨"id", "secret", ""⟩)
      visits)
    ([quiet 0, quiet 1, quiet 0, quiet 1, (0, pairOf "alice" "1"), (1, pairOf "bob" "1"), quiet 0,
      quiet 0, quiet 0, quiet 1, quiet 0, quiet 1, (1, settingsOf "bob"), (0, settingsOf "alice"),
      quiet 0, quiet 1])
  ⟨⟨"id", "secret", ""⟩, visits, ran.1, ran.2.state⟩

/-- After a restart bob's record is refreshed, while alice logs in once more. -/
def refreshMeetsLogin : Uptime :=
  let quiet (i : Nat) : Nat × Env := (i, answering 200 none)
  let visits := [visitTo "/api/auth/trakt/me" [] [], returning "alice-code"]
  let ran := machine.runFor
    (startRequests wired production (fun _ => none) (bothLogIn.finish.restart ⟨"id", "secret", ""⟩)
      visits)
    ([quiet 0, (0, { answering 200 none with now := Time.unixPlusSeconds 0 7776001 }), quiet 0,
      quiet 0, quiet 1, quiet 1, (1, pairOf "alice" "2"), quiet 1, quiet 1,
      (1, settingsOf "alice"), (0, pairOf "bob" "2"), quiet 1, quiet 0])
  ⟨⟨"id", "secret", ""⟩, visits, ran.1, ran.2.state⟩

/-- What a trace stores. -/
def storedNames (trace : History) : List (String × String) :=
  trace.filterMap fun e =>
    match e.act with
    | .storeSet t => some (t.accessToken, t.username)
    | _ => none

/-- The rule for both logins. -/
theorem tokens_have_origin_both :
    storedNames bothLogIn.trace = [("alice-access-1", "alice"), ("bob-access-1", "bob")] ∧
      Everywhere (fun pre e => Traced (own e.thread pre) e.act) bothLogIn.trace :=
  ⟨by decide +kernel, tokens_have_origin wired production (fun _ => none) _
    [returning "alice-code", returning "bob-code"] (machine.run_runFor _ _)⟩

/-- The rule for both processes. -/
theorem accounts_never_mix_two :
    storedNames refreshMeetsLogin.trace = [("alice-access-2", "alice"), ("bob-access-2", "bob")] ∧
      ∀ up ∈ [bothLogIn, refreshMeetsLogin],
        Unmixed aliceAndBob up.finish.store ∧
          ∀ e ∈ up.trace, Unmixed aliceAndBob e.before.store :=
  ⟨by decide +kernel, accounts_never_mix aliceAndBob wired production (fun _ => none) firstStart
    [bothLogIn, refreshMeetsLogin] (by simp [firstStart, World.boot, newStore])
    ⟨⟨_, machine.run_runFor _ _⟩, ⟨_, machine.run_runFor _ _⟩, trivial⟩ (by decide +kernel)⟩

end VpsDashboard.Server
