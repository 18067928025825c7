/-
# VpsDashboard.Server.Secrets — no answer depends on a stored secret

The server keeps a client secret, access tokens and refresh tokens.  Of these its
answers may show whether a client secret is set, and whether there is a refresh token:
a session without one cannot be refreshed.  `World.Like` relates two worlds that
differ in nothing else than the texts of these secrets, the scope of a token and what
the files hold.

`secrets_stay_inside` — any number of clients send requests to any route, each chosen
after the answers before it, and the steps of the handlers are interleaved in any order:
two servers whose worlds are alike give every client the same answers, as long as Trakt
answers them the same.
-/
import VpsDashboard.Foundation.TwoRuns
import VpsDashboard.Server.RedirectAgreement
import VpsDashboard.Server.Unauthenticated

namespace VpsDashboard.Server

open Foundation Trakt

set_option autoImplicit false
set_option linter.dupNamespace false

/-! ## What may be known -/

/-- The same but for the texts of the tokens and the scope. -/
structure Tokens.Like (t t' : Tokens) : Prop where
  expiresAt : t.expiresAt = t'.expiresAt
  username : t.username = t'.username
  refreshable : t.refreshToken = "" ↔ t'.refreshToken = ""

/-- The same but for the text of the client secret. -/
structure Credentials.Like (c c' : Credentials) : Prop where
  clientID : c.clientID = c'.clientID
  hasSecret : c.clientSecret = "" ↔ c'.clientSecret = ""
  redirectURI : c.redirectURI = c'.redirectURI

/-- Whatever the files hold: they are not read while the server runs. -/
structure World.Like (w w' : World) : Prop where
  tokens : Option.Rel Tokens.Like w.store.tokens w'.store.tokens
  creds : Credentials.Like w.creds.creds w'.creds.creds
  filePath : w.creds.filePath = w'.creds.filePath

/-- Actions that differ in secrets only, and the answers that do. -/
inductive ActsAlike : (a a' : Act) → (Ans a → Ans a' → Prop) → Prop
  | storeGet : ActsAlike .storeGet .storeGet (Option.Rel Tokens.Like)
  | storeSet {t t' : Tokens} (like : Tokens.Like t t') :
      ActsAlike (.storeSet t) (.storeSet t') fun _ _ => True
  | storeClear : ActsAlike .storeClear .storeClear fun _ _ => True
  | credsGet : ActsAlike .credsGet .credsGet Credentials.Like
  | credsUpdate (c : Credentials) : ActsAlike (.credsUpdate c) (.credsUpdate c) fun _ _ => True
  | credsSetRedirectURI (uri : String) :
      ActsAlike (.credsSetRedirectURI uri) (.credsSetRedirectURI uri) Eq
  | credsSnapshot : ActsAlike .credsSnapshot .credsSnapshot fun x y =>
      Credentials.Like x.1 y.1 ∧ x.2 = y.2
  | credsWriteFile (data data' : Credentials) :
      ActsAlike (.credsWriteFile data) (.credsWriteFile data') fun _ _ => True
  | now : ActsAlike .now .now Eq
  | randRead : ActsAlike .randRead .randRead Eq
  | tokenRequest (body body' : TokenReq) : ActsAlike (.tokenRequest body) (.tokenRequest body') Eq
  | apiGet (url clientID bearer bearer' : String) :
      ActsAlike (.apiGet url clientID bearer) (.apiGet url clientID bearer') Eq

def secretsHidden : Pairing Act Ans World := ⟨World.Like, ActsAlike⟩

theorem updateLocked_like {cs cs' : CredentialStore} (like : Credentials.Like cs.creds cs'.creds)
    (c : Credentials) :
    Credentials.Like (cs.updateLocked c).creds (cs'.updateLocked c).creds := by
  refine ⟨rfl, ?_, rfl⟩
  unfold CredentialStore.updateLocked
  dsimp only
  split
  · exact Iff.rfl
  · exact like.hasSecret

theorem machine_respects : machine.Respects secretsHidden := by
  intro w w' a a' answers env like acts
  obtain ⟨tokens, creds, filePath⟩ := like
  cases acts with
  | storeGet => exact ⟨tokens, tokens, creds, filePath⟩
  | storeSet same =>
      refine ⟨trivial, ?_, creds, filePath⟩
      show Option.Rel Tokens.Like (w.store.set _).tokens (w'.store.set _).tokens
      rw [Store.set_tokens, Store.set_tokens]
      exact .some same
  | storeClear => exact ⟨trivial, .none, creds, filePath⟩
  | credsGet => exact ⟨creds, tokens, creds, filePath⟩
  | credsUpdate c => exact ⟨trivial, tokens, updateLocked_like creds c, filePath⟩
  | credsSetRedirectURI uri =>
      refine ⟨?_, tokens, ⟨creds.clientID, creds.hasSecret, rfl⟩, filePath⟩
      show decide (w.creds.creds.redirectURI ≠ uri) = decide (w'.creds.creds.redirectURI ≠ uri)
      rw [creds.redirectURI]
  | credsSnapshot => exact ⟨⟨creds, filePath⟩, tokens, creds, filePath⟩
  | credsWriteFile => exact ⟨trivial, tokens, creds, filePath⟩
  | now => exact ⟨rfl, tokens, creds, filePath⟩
  | randRead => exact ⟨rfl, tokens, creds, filePath⟩
  | tokenRequest => exact ⟨rfl, tokens, creds, filePath⟩
  | apiGet => exact ⟨rfl, tokens, creds, filePath⟩

/-! ## Functions -/

/-- Two programs whose results are the same, whatever the secrets. -/
abbrev SameFor {α : Type} (p p' : Prog α) : Prop := p.Alike secretsHidden Eq p'

theorem sameFor_ret {α : Type} (value : α) : SameFor (.ret value) (.ret value) := .ret rfl

/-- An action that is answered the same. -/
theorem sameFor_perform {α : Type} {a a' : Act} {answers : Ans a → Ans a' → Prop}
    {next : Ans a → Prog α} {next' : Ans a' → Prog α} (acts : ActsAlike a a' answers)
    (rest : ∀ x y, answers x y → SameFor (next x) (next' y)) :
    SameFor (Trakt.perform a >>= next) (Trakt.perform a' >>= next') :=
  .act acts rest

theorem SameFor.andThen {α β : Type} {p p' : Prog α} {f f' : α → Prog β} (first : SameFor p p')
    (rest : ∀ x, SameFor (f x) (f' x)) : SameFor (p >>= f) (p' >>= f') :=
  Program.Alike.bind first (by rintro x _ rfl; exact rest x)

theorem SameFor.choice {α : Type} {c : Prop} [Decidable c] {p p' q q' : Prog α}
    (yes : SameFor p p') (no : SameFor q q') :
    SameFor (if c then p else q) (if c then p' else q') := Program.Alike.ite Iff.rfl yes no

theorem isAuthenticated_same : SameFor Store.isAuthenticated Store.isAuthenticated := by
  unfold Store.isAuthenticated
  apply sameFor_perform .storeGet
  intro x y like
  cases like with
  | none => exact sameFor_ret _
  | some like =>
      apply sameFor_perform .now
      rintro now _ rfl
      rw [like.expiresAt]
      exact .choice (sameFor_ret _) (sameFor_ret _)

theorem needsRefresh_same : SameFor Store.needsRefresh Store.needsRefresh := by
  unfold Store.needsRefresh
  apply sameFor_perform .storeGet
  intro x y like
  cases like with
  | none => exact sameFor_ret _
  | some like =>
      apply sameFor_perform .now
      rintro now _ rfl
      rw [like.expiresAt]
      exact sameFor_ret _

/-- The two runs fail with the same text, or both find a token. -/
inductive TokenRead : Except String String → Except String String → Prop
  | error (e : String) : TokenRead (.error e) (.error e)
  | ok (token token' : String) : TokenRead (.ok token) (.ok token')

theorem getAccessToken_alike :
    Store.getAccessToken.Alike secretsHidden TokenRead Store.getAccessToken := by
  unfold Store.getAccessToken
  refine Program.Alike.act .storeGet ?_
  intro x y like
  cases like with
  | none => exact .ret (.error _)
  | some like =>
      refine Program.Alike.act .now ?_
      rintro now _ rfl
      rw [like.expiresAt]
      exact Program.Alike.ite Iff.rfl (.ret (.error _)) (.ret (.ok _ _))

theorem save_same : SameFor CredentialStore.save CredentialStore.save := by
  unfold CredentialStore.save
  apply sameFor_perform .credsSnapshot
  rintro ⟨c, path⟩ ⟨c', path'⟩ ⟨-, same⟩
  obtain rfl : path = path' := same
  apply SameFor.choice (sameFor_ret _)
  exact .act (.credsWriteFile c c') fun _ _ _ => sameFor_ret _

theorem update_same (c : Credentials) :
    SameFor (CredentialStore.update c) (CredentialStore.update c) := by
  unfold CredentialStore.update
  exact sameFor_perform (.credsUpdate c) fun _ _ _ => save_same

theorem setRedirectURI_same (uri : String) :
    SameFor (CredentialStore.setRedirectURI uri) (CredentialStore.setRedirectURI uri) := by
  unfold CredentialStore.setRedirectURI
  apply SameFor.choice (sameFor_ret _)
  apply sameFor_perform (.credsSetRedirectURI uri)
  rintro changed _ rfl
  exact save_same.choice (sameFor_ret _)

theorem Credentials.Like.configured {c c' : Credentials} (like : Credentials.Like c c') :
    c.configured = c'.configured := by
  have secret : (c.clientSecret != "") = (c'.clientSecret != "") := by
    rw [Bool.eq_iff_iff]
    simpa using not_congr like.hasSecret
  rw [Trakt.Credentials.configured, Trakt.Credentials.configured, like.clientID, secret]

theorem isConfigured_same : SameFor OAuthHandler.isConfigured OAuthHandler.isConfigured := by
  unfold OAuthHandler.isConfigured
  apply sameFor_perform .credsGet
  intro c c' like
  rw [like.configured]
  exact sameFor_ret _

theorem buildAuthURL_same (state redirectURI : String) :
    SameFor (OAuthHandler.buildAuthURL state redirectURI)
      (OAuthHandler.buildAuthURL state redirectURI) := by
  unfold OAuthHandler.buildAuthURL
  apply sameFor_perform .credsGet
  intro c c' like
  rw [like.clientID]
  exact sameFor_ret _

theorem doTokenRequest_same (body body' : TokenReq) :
    SameFor (OAuthHandler.doTokenRequest body) (OAuthHandler.doTokenRequest body') := by
  unfold OAuthHandler.doTokenRequest
  apply sameFor_perform (.tokenRequest body body')
  rintro answer _ rfl
  exact sameFor_ret _

theorem fetchUsername_same (accessToken : String) :
    SameFor (OAuthHandler.fetchUsername accessToken) (OAuthHandler.fetchUsername accessToken) := by
  unfold OAuthHandler.fetchUsername
  apply sameFor_perform .credsGet
  intro c c' like
  rw [like.clientID]
  apply sameFor_perform (.apiGet _ _ _ _)
  rintro answer _ rfl
  cases answer <;> exact sameFor_ret _

theorem tokens_like_self (t : Tokens) : Tokens.Like t t := ⟨rfl, rfl, Iff.rfl⟩

theorem exchangeCode_same (code redirectURI : String) :
    SameFor (OAuthHandler.exchangeCode code redirectURI)
      (OAuthHandler.exchangeCode code redirectURI) := by
  unfold OAuthHandler.exchangeCode
  apply sameFor_perform .credsGet
  intro c c' _
  apply (doTokenRequest_same _ _).andThen
  intro result
  cases result with
  | error e => exact sameFor_ret _
  | ok tokens =>
      apply (setRedirectURI_same redirectURI).andThen
      intro _
      apply (fetchUsername_same tokens.accessToken).andThen
      intro username
      exact sameFor_perform (.storeSet (tokens_like_self _)) fun _ _ _ => sameFor_ret _

theorem refreshTokens_same : SameFor OAuthHandler.refreshTokens OAuthHandler.refreshTokens := by
  unfold OAuthHandler.refreshTokens
  apply sameFor_perform .storeGet
  intro x y like
  cases like with
  | none => exact sameFor_ret _
  | some like =>
      refine Program.Alike.ite like.refreshable (sameFor_ret _) ?_
      apply sameFor_perform .credsGet
      intro c c' _
      apply (doTokenRequest_same _ _).andThen
      intro result
      cases result with
      | error e => exact sameFor_ret _
      | ok tokens =>
          refine sameFor_perform (.storeSet ⟨rfl, like.username, Iff.rfl⟩) fun _ _ _ => ?_
          exact sameFor_ret _

theorem refreshIfNeeded_same :
    SameFor OAuthHandler.refreshIfNeeded OAuthHandler.refreshIfNeeded := by
  unfold OAuthHandler.refreshIfNeeded
  apply needsRefresh_same.andThen
  intro needed
  apply SameFor.choice (sameFor_ret _)
  apply refreshTokens_same.andThen
  intro result
  cases result with
  | error e => exact sameFor_perform .storeClear fun _ _ _ => sameFor_ret _
  | ok _ => exact sameFor_ret _

theorem do_same (url : String) : SameFor (Client.do' url) (Client.do' url) := by
  unfold Client.do'
  apply refreshIfNeeded_same.andThen
  intro result
  cases result with
  | error e => exact sameFor_ret _
  | ok _ =>
      apply getAccessToken_alike.bind
      intro x y read
      cases read with
      | error e => exact sameFor_ret _
      | ok token token' =>
          apply sameFor_perform .credsGet
          intro c c' like
          rw [like.clientID]
          exact .act (.apiGet url c'.clientID token token') fun _ _ same => .ret same

theorem get_same (url : String) : SameFor (Client.get url) (Client.get url) := by
  unfold Client.get
  apply (do_same url).andThen
  intro result
  cases result with
  | error e => exact sameFor_ret _
  | ok resp =>
      apply SameFor.choice
      · apply SameFor.choice
        · exact sameFor_perform .storeClear fun _ _ _ => sameFor_ret _
        · exact sameFor_ret _
      · cases resp.readError <;> exact sameFor_ret _

theorem getList_same {α : Type} (url : String) (zero : α) (element : Json.Decoder α) :
    SameFor (Client.getList url zero element) (Client.getList url zero element) := by
  unfold Client.getList
  apply (get_same url).andThen
  intro result
  cases result <;> exact sameFor_ret _

/-! ## Handlers -/

section Handlers

variable (s : Server) (r : Request)

theorem effectiveRedirect_same : SameFor (s.effectiveRedirect r) (s.effectiveRedirect r) := by
  unfold Server.effectiveRedirect
  apply SameFor.choice (sameFor_ret _)
  apply sameFor_perform .credsGet
  intro c c' like
  rw [like.redirectURI]
  exact .choice (sameFor_ret _) (sameFor_ret _)

theorem handleTraktLogin_same : SameFor (s.handleTraktLogin r) (s.handleTraktLogin r) := by
  unfold Server.handleTraktLogin Server.oauthConfigured generateState
  apply ((sameFor_ret _).choice isConfigured_same).andThen
  intro configured
  apply SameFor.choice (sameFor_ret _)
  refine SameFor.andThen ?_ ?_
  · apply sameFor_perform .randRead
    rintro b _ rfl
    cases b <;> exact sameFor_ret _
  · intro state
    cases state with
    | error e => exact sameFor_ret _
    | ok state =>
        apply (effectiveRedirect_same s r).andThen
        intro redirectURI
        cases redirectURI with
        | error fault => exact sameFor_ret _
        | ok redirectURI =>
            exact (buildAuthURL_same state redirectURI).andThen fun _ => sameFor_ret _

theorem handleTraktCallback_same :
    SameFor (s.handleTraktCallback r) (s.handleTraktCallback r) := by
  unfold Server.handleTraktCallback
  apply SameFor.choice (sameFor_ret _)
  apply SameFor.choice (sameFor_ret _)
  apply (effectiveRedirect_same s r).andThen
  intro redirectURI
  cases redirectURI with
  | error fault => exact sameFor_ret _
  | ok redirectURI =>
      apply (exchangeCode_same _ redirectURI).andThen
      intro result
      cases result <;> exact sameFor_ret _

theorem connectedAs_same {t t' : Option Tokens} (like : Option.Rel Tokens.Like t t') :
    Server.connectedAs t = Server.connectedAs t' := by
  cases like with
  | none => rfl
  | some like => rw [Server.connectedAs, Server.connectedAs, like.username]

theorem handleTraktMe_same : SameFor (s.handleTraktMe r) (s.handleTraktMe r) := by
  unfold Server.handleTraktMe
  apply SameFor.choice (sameFor_ret _)
  apply sameFor_perform .storeGet
  intro x y like
  cases like with
  | none => exact sameFor_ret _
  | some like =>
      apply sameFor_perform .now
      rintro now _ rfl
      rw [like.expiresAt]
      apply SameFor.choice
      · apply refreshTokens_same.andThen
        intro result
        cases result with
        | error e => exact sameFor_ret _
        | ok _ =>
            apply sameFor_perform .storeGet
            intro t t' like'
            rw [connectedAs_same like']
            exact sameFor_ret _
      · rw [connectedAs_same (.some like)]
        exact sameFor_ret _

theorem handleTraktLogout_same : SameFor (s.handleTraktLogout r) (s.handleTraktLogout r) := by
  unfold Server.handleTraktLogout OAuthHandler.logout
  refine SameFor.choice ?_ (sameFor_ret _)
  exact sameFor_perform .storeClear fun _ _ _ => sameFor_ret _

theorem describeConfig_same : SameFor (s.describeConfig r) (s.describeConfig r) := by
  unfold Server.describeConfig
  apply sameFor_perform .credsGet
  intro c c' like
  apply (effectiveRedirect_same s r).andThen
  intro redirectURI
  cases redirectURI with
  | error fault => exact sameFor_ret _
  | ok redirectURI =>
      have secret : (c.clientSecret != "") = (c'.clientSecret != "") := by
        rw [Bool.eq_iff_iff]
        simpa using not_congr like.hasSecret
      have answer : Server.configAnswer c redirectURI = Server.configAnswer c' redirectURI := by
        rw [Server.configAnswer, Server.configAnswer, like.clientID, like.configured, secret]
      dsimp only
      rw [answer]
      exact sameFor_ret _

theorem handleTraktConfigGet_same :
    SameFor (s.handleTraktConfigGet r) (s.handleTraktConfigGet r) := by
  unfold Server.handleTraktConfigGet
  exact .choice (sameFor_ret _) (describeConfig_same s r)

theorem handleTraktConfigSave_same :
    SameFor (s.handleTraktConfigSave r) (s.handleTraktConfigSave r) := by
  unfold Server.handleTraktConfigSave
  apply SameFor.choice (sameFor_ret _)
  cases unmarshal Server.configBody ⟨"", "", ""⟩ r.body with
  | error e => exact sameFor_ret _
  | ok body => exact (update_same body).andThen fun _ => describeConfig_same s r

theorem handleTraktList_same {fetch : Prog (Except String Json)} (fetches : SameFor fetch fetch)
    (failed : String) :
    SameFor (s.handleTraktList fetch failed r) (s.handleTraktList fetch failed r) := by
  unfold Server.handleTraktList
  apply SameFor.choice (sameFor_ret _)
  apply isAuthenticated_same.andThen
  intro authenticated
  apply SameFor.choice (sameFor_ret _)
  apply sameFor_perform .storeGet
  intro x y like
  cases like with
  | none => exact sameFor_ret _
  | some like =>
      dsimp only
      rw [like.username]
      apply SameFor.choice (sameFor_ret _)
      apply fetches.andThen
      intro result
      cases result <;> exact sameFor_ret _

theorem handle_same (elsewhere : Endpoint → Response) (endpoint : Endpoint) :
    SameFor (s.handle elsewhere endpoint r) (s.handle elsewhere endpoint r) := by
  cases endpoint with
  | traktLogin => exact handleTraktLogin_same s r
  | traktCallback => exact handleTraktCallback_same s r
  | traktMe => exact handleTraktMe_same s r
  | traktLogout => exact handleTraktLogout_same s r
  | traktConfigGet => exact handleTraktConfigGet_same s r
  | traktConfigSave => exact handleTraktConfigSave_same s r
  | traktWatchlist =>
      exact handleTraktList_same s r ((getList_same _ _ _).andThen fun _ => sameFor_ret _) _
  | traktWatched =>
      exact handleTraktList_same s r ((getList_same _ _ _).andThen fun _ => sameFor_ret _) _
  | _ => exact sameFor_ret _

end Handlers

/-- The middleware decides by the request alone. -/
theorem handler_same (m : Middleware) {next : Handler} (follows : ∀ r, SameFor (next r) (next r))
    (r : Request) : SameFor (m.handler next r) (m.handler next r) := by
  unfold Middleware.handler
  dsimp only
  apply SameFor.choice (follows _)
  apply SameFor.choice
  · cases m.validateBasicAuth r with
    | none => exact sameFor_ret _
    | some user => exact follows _
  · exact .choice (follows _) (sameFor_ret _)

theorem serve_same (s : Server) (m : Middleware) (cors : Request → Option Response) (v : Visit) :
    SameFor (s.serve m cors v) (s.serve m cors v) := by
  unfold Server.serve
  cases cors v.request with
  | some response => exact sameFor_ret _
  | none =>
      refine SameFor.andThen ?_ fun _ => sameFor_ret _
      unfold Server.routed
      split
      · exact handler_same m (fun r => handle_same s r v.elsewhere v.request.endpoint) v.request
      · exact handle_same s v.request v.elsewhere v.request.endpoint

/-! ## Clients -/

/-- A client chooses its next request by the answers it has got, and may stop. -/
abbrev Strategy := List Response → Option Visit

/-- A client that sends at most `n` more requests, one after the answer to another. -/
def client (s : Server) (m : Middleware) (cors : Request → Option Response) (strategy : Strategy) :
    Nat → List Response → VisitProg Unit
  | 0, _ => return ()
  | n + 1, seen =>
      match strategy seen with
      | none => return ()
      | some v => do
          let answer ← (s.serve m cors v).visible
          Program.output answer
          client s m cors strategy n (seen ++ [answer])

def startClients (s : Server) (m : Middleware) (cors : Request → Option Response) (w : World)
    (clients : List (Strategy × Nat)) : Foundation.Config Shown (Visible.Ans Ans Response) World :=
  ⟨w, clients.map fun c => client s m cors c.1 c.2 []⟩

section Clients

variable (s : Server) (m : Middleware) (cors : Request → Option Response)

/-- A client that is answered the same goes on in the same way. -/
theorem client_alike (strategy : Strategy) (n : Nat) (seen : List Response) :
    (client s m cors strategy n seen).Alike (secretsHidden.visible Response) (fun _ _ => True)
      (client s m cors strategy n seen) := by
  induction n generalizing seen with
  | zero => exact .ret trivial
  | succ n ih =>
      unfold client
      cases strategy seen with
      | none => exact .ret trivial
      | some v =>
          apply (serve_same s m cors v).visible.bind
          rintro answer _ rfl
          exact (Program.alike_output answer).bind fun _ _ _ => ih (seen ++ [answer])

/-- **No answer depends on a stored secret.**  For every run of a server with any clients
there is one of the server with the other world: its steps are taken by the same clients
and meet the same clock, random bytes and answers of Trakt, it leaves worlds that are
alike again, and it gives every client the same answers in the same order. -/
theorem secrets_stay_inside {w w' : World} (like : World.Like w w')
    (clients : List (Strategy × Nat)) {trace : VisitHistory}
    {c : Foundation.Config Shown (Visible.Ans Ans Response) World}
    (run : serverMachine.Run (startClients s m cors w clients) trace c) :
    ∃ trace' c', serverMachine.Run (startClients s m cors w' clients) trace' c' ∧
      trace'.map (fun e => (e.thread, e.env)) = trace.map (fun e => (e.thread, e.env)) ∧
      outputs trace' = outputs trace ∧ World.Like c.state c'.state := by
  have start : (startClients s m cors w clients).Alike (secretsHidden.visible Response)
      (startClients s m cors w' clients) := by
    refine ⟨like, List.forall₂_same.mpr ?_⟩
    intro program member
    obtain ⟨c, -, rfl⟩ := List.mem_map.mp member
    exact client_alike s m cors c.1 c.2 []
  obtain ⟨trace', c', run', events, state, -⟩ :=
    Machine.Run.alike (machine_respects.visible Response) run start
  refine ⟨trace', c', run', ?_, (outputs_alike events).symm, state⟩
  clear run run'
  induction events with
  | nil => rfl
  | cons event _ ih =>
      rw [List.map_cons, List.map_cons, ih, event.thread, event.env]

end Clients

/-- Two sessions of one user that differ in their secrets. -/
def sessionWith (access refresh secret : String) : World where
  store := ⟨some ⟨access, refresh, Time.hour, "public", "alice"⟩, none⟩
  creds := ⟨⟨"id", secret, ""⟩, "creds.json", none⟩

/-- A client that reads the settings and then, by the answer, its session. -/
def curious : Strategy
  | [] => some ⟨{ Request.plain "/api/trakt/config" with headers := [("Remote-User", "alice")] },
      fun _ => answering 200 none, fun _ => healthAnswer⟩
  | [_] => some ⟨Request.plain "/api/auth/trakt/me", fun _ => answering 200 none,
      fun _ => healthAnswer⟩
  | _ => none

/-- Two of them, their steps interleaved. -/
def curiousSchedule : List (Nat × Env) :=
  [0, 1, 0, 0, 1, 0, 1, 1, 0, 1, 0, 1].map fun i => (i, answering 200 none)

def curiousRun (w : World) : VisitHistory :=
  (serverMachine.runFor (startClients wired production (fun _ => none) w
    [(curious, 2), (curious, 2)]) curiousSchedule).1

/-- The rule for two clients and two sessions. -/
theorem secrets_stay_inside_curious :
    (outputs (curiousRun (sessionWith "a" "b" "c"))).length = 4 ∧
      ∃ trace' c', serverMachine.Run (startClients wired production (fun _ => none)
          (sessionWith "x" "y" "z") [(curious, 2), (curious, 2)]) trace' c' ∧
        outputs trace' = outputs (curiousRun (sessionWith "a" "b" "c")) := by
  have like : World.Like (sessionWith "a" "b" "c") (sessionWith "x" "y" "z") :=
    ⟨.some ⟨rfl, rfl, by simp⟩, ⟨rfl, by simp [sessionWith], rfl⟩, rfl⟩
  obtain ⟨trace', c', run', -, same, -⟩ := secrets_stay_inside wired production (fun _ => none) like
    [(curious, 2), (curious, 2)] (serverMachine.run_runFor _ curiousSchedule)
  exact ⟨by decide +kernel, trace', c', run', same⟩

end VpsDashboard.Server
