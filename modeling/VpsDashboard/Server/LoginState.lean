/-
# VpsDashboard.Server.LoginState — a login ends in the browser that began it

A login gives the browser a random state twice: in a cookie, and in the authorization
URL, from which Trakt sends it back with a code.  The callback exchanges the code only
if the two agree.  A browser here sends any requests to any route, among them callbacks
with a code and a state that someone else has made up or has been given; what it sends
under the name of the state cookie is what the server has set there, unless the cookie
has been lost.

`login_state_bound` — in every run of any number of browsers, with the steps of their
requests in any order: a code is exchanged only for a callback that brings back the
state that the last login of the same browser was given, and with random bytes that do
not repeat no other browser was ever given that state.
-/
import VpsDashboard.Server.RedirectAgreement
import VpsDashboard.Server.Unauthenticated
import Mathlib.Data.List.Pairwise

namespace VpsDashboard.Server

open Foundation Trakt

set_option autoImplicit false
set_option linter.dupNamespace false

/-! ## Browsers with a cookie jar -/

inductive Dialog where
  | asked (r : Request)
  | answered (r : Response)

abbrev Spoken := Visible Act Dialog

abbrev DialogProg (α : Type) := Program Spoken (Visible.Ans Ans Dialog) α

@[reducible] def dialogMachine : Machine Spoken (Visible.Ans Ans Dialog) Env World :=
  machine.visible Dialog

abbrev DialogStep := Event Spoken Env World
abbrev DialogHistory := List DialogStep

/-- What a browser holds under the name of the state cookie after an answer. -/
def stateAfter (jar : Option String) (answer : Response) : Option String :=
  answer.cookies.foldl (fun jar cookie =>
    if cookie.name = traktStateCookie then
      if cookie.maxAge < 0 then none else some cookie.value
    else jar) jar

/-- The request with that cookie. -/
def Request.withState (r : Request) (jar : Option String) : Request :=
  { r with cookies := r.cookies.filter (fun cookie => cookie.1 != traktStateCookie) ++
      (jar.map fun value => (traktStateCookie, value)).toList }

/-- The next request of a browser, and whether it has lost the state cookie by then.  The
handlers without access to the Trakt stores set no cookie. -/
structure Move where
  forget : Bool
  visit : Visit
  plain : ∀ endpoint, (visit.elsewhere endpoint).cookies = []

/-- A browser goes where it is sent, and anywhere else. -/
def browse (s : Server) (m : Middleware) (cors : Request → Option Response)
    (moves : List Dialog → Option Move) : Nat → Option String → List Dialog → DialogProg Unit
  | 0, _, _ => return ()
  | n + 1, jar, seen =>
      match moves seen with
      | none => return ()
      | some move => do
          let jar := if move.forget then none else jar
          let r := move.visit.request.withState jar
          Program.output (.asked r)
          let answer ← (s.serve m cors { move.visit with request := r }).visible
          Program.output (.answered answer)
          browse s m cors moves n (stateAfter jar answer) (seen ++ [.asked r, .answered answer])

def startBrowsers (s : Server) (m : Middleware) (cors : Request → Option Response) (w : World)
    (browsers : List ((List Dialog → Option Move) × Nat)) :
    Foundation.Config Spoken (Visible.Ans Ans Dialog) World :=
  ⟨w, browsers.map fun b => browse s m cors b.1 b.2 none []⟩

/-! ## What a browser was given -/

/-- The last request of a history. -/
def lastAsked (h : DialogHistory) : Option Request :=
  h.foldl (fun last e =>
    match e.act with
    | .out (.asked r) => some r
    | _ => last) none

/-- The state cookie after a history, as far as it was not lost. -/
def stateKept (h : DialogHistory) : Option String :=
  h.foldl (fun jar e =>
    match e.act with
    | .out (.answered answer) => stateAfter jar answer
    | _ => jar) none

/-- The answer sets the state cookie to this value. -/
def Response.SetsState (answer : Response) (value : String) : Prop :=
  ∃ cookie ∈ answer.cookies, cookie.name = traktStateCookie ∧ 0 ≤ cookie.maxAge ∧
    cookie.value = value

/-- Some answer of the history does. -/
def Given (h : DialogHistory) (value : String) : Prop :=
  ∃ e ∈ h, ∃ answer, e.act = .out (.answered answer) ∧ answer.SetsState value

/-- A state that is set is the text of random bytes that were read for it, and the
authorization URL carries it. -/
def Stated (h : DialogHistory) (answer : Response) : Prop :=
  ∀ value, answer.SetsState value →
    (∃ e ∈ h, ∃ b, e.act = .act .randRead ∧ e.env.rand = .ok b ∧ value = rawURLEncode b) ∧
      ∃ url, answer.authorizationURL = some url ∧
        queryParameter "state" url = some value.toUTF8.toList

/-- What a browser needs to have its requests acted on: an exchange, the callback with the
state of its cookie. -/
def StateBound (h : DialogHistory) : Spoken → Prop
  | .act (.tokenRequest body) => body.grantType = "authorization_code" →
      ∃ r, lastAsked h = some r ∧ r.endpoint = .traktCallback ∧
        firstValue "code" r.query = body.code ∧ firstValue "state" r.query ≠ "" ∧
        stateKept h = some (firstValue "state" r.query)
  | .out (.answered answer) => Stated h answer
  | _ => True

section Histories

variable {h more : DialogHistory} {i : Nat} {w : World} {env : Env}

@[simp] theorem lastAsked_asked (r : Request) :
    lastAsked (h ++ [dialogMachine.event i w (.out (.asked r)) env]) = some r := by
  simp [lastAsked]

@[simp] theorem stateKept_asked (r : Request) :
    stateKept (h ++ [dialogMachine.event i w (.out (.asked r)) env]) = stateKept h := by
  simp [stateKept]

@[simp] theorem stateKept_answered (answer : Response) :
    stateKept (h ++ [dialogMachine.event i w (.out (.answered answer)) env]) =
      stateAfter (stateKept h) answer := by
  simp [stateKept]

/-- Actions are neither requests nor answers. -/
theorem kept_actions (acts : ∀ e ∈ more, ∃ a, e.act = .act a) :
    lastAsked (h ++ more) = lastAsked h ∧ stateKept (h ++ more) = stateKept h := by
  induction more using List.reverseRecOn with
  | nil => simp
  | append_singleton more e ih =>
      obtain ⟨asked, kept⟩ := ih fun e' member => acts e' (List.mem_append_left _ member)
      obtain ⟨a, act⟩ := acts e (by simp)
      rw [← asked, ← kept, ← List.append_assoc]
      constructor
      · rw [lastAsked, List.foldl_append, List.foldl_cons, List.foldl_nil, act]
        rfl
      · rw [stateKept, List.foldl_append, List.foldl_cons, List.foldl_nil, act]
        rfl

theorem stateAfter_cons (jar : Option String) (cookie : Cookie) (status : Nat)
    (headers : List (String × String)) (rest : List Cookie) (body : Body) :
    stateAfter jar ⟨status, headers, cookie :: rest, body⟩ =
      stateAfter (if cookie.name = traktStateCookie then
        if cookie.maxAge < 0 then none else some cookie.value else jar)
        ⟨status, headers, rest, body⟩ := rfl

/-- A jar that was emptied holds nothing, or what the jar would hold. -/
theorem stateAfter_none (jar : Option String) (answer : Response) :
    stateAfter none answer = none ∨ stateAfter none answer = stateAfter jar answer := by
  obtain ⟨status, headers, cookies, body⟩ := answer
  induction cookies generalizing jar with
  | nil => exact .inl rfl
  | cons cookie rest ih =>
      rw [stateAfter_cons, stateAfter_cons]
      by_cases named : cookie.name = traktStateCookie
      · rw [if_pos named, if_pos named]
        exact .inr rfl
      · rw [if_neg named, if_neg named]
        exact ih jar

/-- What an answer leaves in the jar was there, or the answer has set it. -/
theorem stateAfter_some {jar : Option String} {answer : Response} {value : String}
    (kept : stateAfter jar answer = some value) : jar = some value ∨ answer.SetsState value := by
  obtain ⟨status, headers, cookies, body⟩ := answer
  induction cookies generalizing jar with
  | nil => exact .inl kept
  | cons cookie rest ih =>
      rw [stateAfter_cons] at kept
      rcases ih kept with before | ⟨other, member, set⟩
      · split at before
        · rename_i named
          split at before
          · cases before
          · rename_i lives
            right
            exact ⟨cookie, List.mem_cons_self, named, by omega, Option.some.inj before⟩
        · exact .inl before
      · exact .inr ⟨other, List.mem_cons_of_mem _ member, set⟩

theorem stateKept_given {value : String} (kept : stateKept h = some value) : Given h value := by
  induction h using List.reverseRecOn with
  | nil => cases kept
  | append_singleton h e ih =>
      have wider : Given h value → Given (h ++ [e]) value := by
        rintro ⟨e', member, given⟩
        exact ⟨e', List.mem_append_left _ member, given⟩
      rw [stateKept, List.foldl_append, List.foldl_cons, List.foldl_nil] at kept
      split at kept
      · rename_i answer act
        rcases stateAfter_some kept with before | set
        · exact wider (ih before)
        · exact ⟨e, by simp, answer, act, set⟩
      · exact wider (ih kept)

end Histories

/-! ## What exchanges nothing and sets no cookie -/

/-- An action that is no exchange. -/
def NoExchange : Act → Prop
  | .tokenRequest body => body.grantType ≠ "authorization_code"
  | _ => True

/-- A result with which no cookie is set. -/
def Bare (result : Except Fault Response) : Prop := (Server.recovered result).cookies = []

theorem noExchange_of_aside {a : Act} (aside : a.aside) : NoExchange a := by
  cases a <;> trivial

/-- A refresh asks the token endpoint with another grant type. -/
theorem noExchange_of_refreshes {a : Act} (refreshes : a.refreshes) : NoExchange a := by
  cases a with
  | tokenRequest body =>
      have refresh : body.grantType = refreshGrant := refreshes
      rw [NoExchange, refresh]
      decide
  | _ => trivial

theorem noExchange_of_fetches {url : String} {a : Act} (fetches : a.fetches url) :
    NoExchange a := by
  cases a with
  | tokenRequest body => exact noExchange_of_refreshes fetches
  | _ => trivial

section Handlers

variable (s : Server) (r : Request)

theorem effectiveRedirect_noExchange : (s.effectiveRedirect r).Performs NoExchange :=
  s.effectiveRedirect_performs r trivial

theorem describeConfig_bare : (s.describeConfig r).Ensures NoExchange Bare := by
  unfold Server.describeConfig
  apply (Program.performs_perform trivial).andThen
  intro c
  apply (effectiveRedirect_noExchange s r).andThen
  intro redirectURI
  cases redirectURI <;> rfl

theorem handleTraktConfigGet_bare : (s.handleTraktConfigGet r).Ensures NoExchange Bare := by
  unfold Server.handleTraktConfigGet
  exact Program.Ensures.ite rfl (describeConfig_bare s r)

theorem handleTraktConfigSave_bare : (s.handleTraktConfigSave r).Ensures NoExchange Bare := by
  unfold Server.handleTraktConfigSave
  refine Program.Ensures.ite rfl ?_
  cases unmarshal Server.configBody ⟨"", "", ""⟩ r.body with
  | error e => rfl
  | ok body =>
      have updates : (CredentialStore.update body).Performs NoExchange :=
        CredentialStore.update_performs body trivial fun _ saves =>
          noExchange_of_aside (aside_of_saves saves)
      apply updates.andThen
      intro _
      exact describeConfig_bare s r

theorem handleTraktMe_bare : (s.handleTraktMe r).Ensures NoExchange Bare := by
  have connected : ∀ t : Option Tokens, Bare (Server.connectedAs t) := by
    intro t
    cases t <;> rfl
  unfold Server.handleTraktMe
  refine Program.Ensures.ite rfl ?_
  apply (Program.performs_perform trivial).andThen
  intro t
  cases t with
  | none => rfl
  | some t =>
      apply (Program.performs_perform trivial).andThen
      intro now
      refine Program.Ensures.ite ?_ (connected _)
      apply (OAuthHandler.refreshTokens_refreshes.mono fun _ => noExchange_of_refreshes).andThen
      intro refreshed
      cases refreshed with
      | error e => rfl
      | ok done => exact (Program.performs_perform trivial).andThen fun t => connected t

theorem handleTraktLogout_bare : (s.handleTraktLogout r).Ensures NoExchange Bare := by
  have left : OAuthHandler.logout.Performs NoExchange := Program.performs_perform trivial
  unfold Server.handleTraktLogout
  exact Program.Ensures.ite (left.andThen fun _ => rfl) rfl

theorem handleTraktList_bare {fetch : Prog (Except String Json)}
    (fetches : fetch.Performs NoExchange) (failed : String) :
    (s.handleTraktList fetch failed r).Ensures NoExchange Bare := by
  unfold Server.handleTraktList
  refine Program.Ensures.ite rfl ?_
  apply (Store.isAuthenticated_looks.mono fun _ looks =>
    noExchange_of_refreshes (refreshes_of_looks looks)).andThen
  intro authenticated
  refine Program.Ensures.ite rfl ?_
  apply (Program.performs_perform trivial).andThen
  intro t
  cases t with
  | none => rfl
  | some t =>
      refine Program.Ensures.ite rfl ?_
      apply fetches.andThen
      intro list
      cases list <;> rfl

/-- Only a login and its callback may exchange a code or set a cookie. -/
theorem handle_bare {elsewhere : Endpoint → Response}
    (plain : ∀ endpoint, (elsewhere endpoint).cookies = []) {endpoint : Endpoint}
    (other : endpoint ≠ .traktLogin ∧ endpoint ≠ .traktCallback) :
    (s.handle elsewhere endpoint r).Ensures NoExchange Bare := by
  unfold Server.handle
  cases endpoint with
  | traktLogin => exact absurd rfl other.1
  | traktCallback => exact absurd rfl other.2
  | traktMe => exact handleTraktMe_bare s r
  | traktLogout => exact handleTraktLogout_bare s r
  | traktConfigGet => exact handleTraktConfigGet_bare s r
  | traktConfigSave => exact handleTraktConfigSave_bare s r
  | traktWatchlist =>
      apply handleTraktList_bare s r
      exact ((Client.getList_fetches _ _ _).bind fun _ => Program.performs_ret _).mono
        fun _ => noExchange_of_fetches
  | traktWatched =>
      apply handleTraktList_bare s r
      exact ((Client.getList_fetches _ _ _).bind fun _ => Program.performs_ret _).mono
        fun _ => noExchange_of_fetches
  | health => rfl
  | containers => exact plain .containers
  | containerLogs id => exact plain (.containerLogs id)
  | metrics => exact plain .metrics
  | metricsHistory => exact plain .metricsHistory
  | ws => exact plain .ws
  | static => exact plain .static

/-- The middleware lets a request through, or refuses it without a cookie. -/
theorem handler_bare (m : Middleware) {next : Handler}
    (follows : ∀ r, (next r).Ensures NoExchange Bare) :
    (m.handler next r).Ensures NoExchange Bare := by
  unfold Middleware.handler
  refine Program.Ensures.ite (follows _) ?_
  refine Program.Ensures.ite ?_ (Program.Ensures.ite (follows _) rfl)
  cases m.validateBasicAuth r with
  | none => rfl
  | some user => exact follows _

end Handlers

/-! ## The login and its callback -/

section Served

variable {i : Nat} {h : DialogHistory}

abbrev dialogLogic (i : Nat) : Logic Act Ans DialogHistory :=
  (dialogMachine.historyLogic i StateBound).actions

theorem stateBound_noExchange (h : DialogHistory) (a : Act) (silent : NoExchange a) :
    StateBound h (.act a) := by
  cases a with
  | tokenRequest body => exact fun exchange => absurd exchange silent
  | _ => trivial

/-- What performs actions without an exchange only adds them to the history. -/
theorem wp_noExchange {α : Type} {p : Prog α} {good : α → Prop}
    (ensures : p.Ensures NoExchange good) {Q : α → DialogHistory → Prop}
    (all : ∀ value more, good value → (∀ e ∈ more, ∃ a, e.act = .act a) → Q value (h ++ more)) :
    p.wp (dialogLogic i) Q h := by
  have holds : p.wp (dialogLogic i) (fun value _ => good value) h :=
    Program.wp_of_ensures ensures stateBound_noExchange fun _ _ good => good
  refine Program.wp_mono _ ?_ (Machine.wp_actions_frame holds)
  rintro value h' ⟨result, more, rfl, acts⟩
  exact all value more result acts

/-- The state in an authorization URL. -/
theorem authorizationURL_state (clientID redirectURI state : String) :
    queryParameter "state"
        (traktAuthURL ++ "?response_type=code&client_id=" ++ queryEscape clientID ++
          "&redirect_uri=" ++ queryEscape redirectURI ++ "&state=" ++ queryEscape state) =
      some state.toUTF8.toList := by
  rw [queryParameter_queryText traktAuthURL "state"
    [("response_type", "code"), ("client_id", clientID), ("redirect_uri", redirectURI),
      ("state", state)]]
  · rfl
  · have code : (queryEscape "code").toList = "code".toList := by decide +kernel
    simp [queryText, parameterText, code]
  · decide
  · simp
  · show ∀ name ∈ ["response_type", "client_id", "redirect_uri", "state"], PlainName name
    decide

theorem stated_bare {result : Except Fault Response} (bare : Bare result) :
    Stated h (Server.recovered result) := by
  rintro value ⟨cookie, member, -⟩
  rw [bare] at member
  cases member

/-- A login that sets a state has read it, and sends the browser to Trakt with it. -/
theorem handleTraktLogin_stated (s : Server) (r : Request) :
    (s.handleTraktLogin r).wp (dialogLogic i)
      (fun answer h' => Stated h' (Server.recovered answer)) h := by
  unfold Server.handleTraktLogin Server.oauthConfigured OAuthHandler.isConfigured
  cases s.traktOAuth with
  | false => exact stated_bare rfl
  | true =>
      simp only [Bool.not_true, Bool.false_eq_true, if_false, Program.wp_bind]
      apply Machine.wp_actions_perform trivial
      intro w env
      simp only [Program.pure_eq, Program.wp_ret, Program.wp_ite]
      split
      · exact stated_bare rfl
      · unfold generateState
        simp only [Program.wp_bind]
        apply Machine.wp_actions_perform trivial
        intro w₁ env₁
        have drawn : (machine.exec w₁ .randRead env₁).1 = env₁.rand := rfl
        rw [drawn]
        cases random : env₁.rand with
        | error e => exact stated_bare rfl
        | ok b =>
            simp only [Program.pure_eq, Program.wp_ret, Program.wp_bind]
            refine wp_noExchange (effectiveRedirect_noExchange s r).ensures ?_
            intro redirectURI more _ _
            cases redirectURI with
            | error fault => exact stated_bare rfl
            | ok redirectURI =>
                unfold OAuthHandler.buildAuthURL
                simp only [Program.wp_bind]
                apply Machine.wp_actions_perform trivial
                intro w₂ env₂
                rintro value ⟨cookie, member, -, -, rfl⟩
                obtain rfl := List.mem_singleton.mp member
                refine ⟨⟨dialogMachine.event i w₁ (.act .randRead) env₁, by simp, b, rfl, random,
                  rfl⟩, _, rfl, authorizationURL_state _ _ _⟩

/-- A request carries what its browser has kept. -/
theorem Request.cookie_withState (r : Request) (jar : Option String) :
    (r.withState jar).cookie Server.traktStateCookie = jar := by
  have others : (r.cookies.filter fun cookie => cookie.1 != Server.traktStateCookie).find?
      (fun cookie => cookie.1 == Server.traktStateCookie) = none := by
    rw [List.find?_eq_none]
    intro cookie member
    have named := (List.mem_filter.mp member).2
    simp only [bne_iff_ne, ne_eq] at named
    simpa using named
  rw [Request.cookie, Request.withState, List.find?_append, others]
  cases jar <;> simp

/-- The callback exchanges the code that comes with the state of the cookie. -/
theorem handleTraktCallback_bound (s : Server) {r : Request} {jar : Option String}
    (asked : lastAsked h = some (r.withState jar)) (callback : r.endpoint = .traktCallback)
    (kept : jar = none ∨ jar = stateKept h) :
    (s.handleTraktCallback (r.withState jar)).wp (dialogLogic i)
      (fun answer h' => Stated h' (Server.recovered answer)) h := by
  unfold Server.handleTraktCallback
  simp only [Program.wp_ite]
  split
  · exact stated_bare rfl
  · split
    · exact stated_bare rfl
    · rename_i returns
      rw [Bool.not_eq_true, Bool.not_eq_false'] at returns
      rw [Server.returnsState, Request.cookie_withState] at returns
      cases jar with
      | none => cases returns
      | some value =>
          simp only [Bool.and_eq_true, bne_iff_ne, ne_eq, beq_iff_eq] at returns
          obtain ⟨nonempty, same⟩ := returns
          have holding : stateKept h = some value := (kept.resolve_left (by simp)).symm
          rw [Program.wp_bind]
          refine wp_noExchange (effectiveRedirect_noExchange s _).ensures ?_
          intro redirectURI more _ acts
          cases redirectURI with
          | error fault => exact stated_bare rfl
          | ok redirectURI =>
              dsimp only
              rw [Program.wp_bind]
              apply OAuthHandler.exchangeCode_permitted
              · exact fun h' a aside => stateBound_noExchange h' a (noExchange_of_aside aside)
              · rintro creds h' ⟨w, env, rfl, rfl⟩ -
                have acts' : ∀ e ∈ more ++ [dialogMachine.event i w (.act .credsGet) env],
                    ∃ a, e.act = .act a := by
                  intro e member
                  rcases List.mem_append.mp member with early | last
                  · exact acts e early
                  · obtain rfl := List.mem_singleton.mp last
                    exact ⟨_, rfl⟩
                obtain ⟨asked', kept'⟩ := kept_actions (h := h) acts'
                rw [← List.append_assoc] at asked' kept'
                refine ⟨r.withState (some value), asked'.trans asked, callback, rfl, ?_, ?_⟩
                · rw [← same]
                  exact nonempty
                · rw [kept', holding]
                  exact congrArg some same
              · exact fun _ _ => trivial
              · intro result h'
                cases result with
                | error e => exact stated_bare rfl
                | ok done =>
                    rintro value ⟨cookie, member, -, lives, -⟩
                    obtain rfl := List.mem_singleton.mp member
                    simp [Server.clearedStateCookie] at lives

theorem serve_stated (s : Server) (m : Middleware) {cors : Request → Option Response}
    (plainCors : ∀ r answer, cors r = some answer → answer.cookies = []) (move : Move)
    {jar : Option String} (asked : lastAsked h = some (move.visit.request.withState jar))
    (kept : jar = none ∨ jar = stateKept h) :
    (s.serve m cors { move.visit with request := move.visit.request.withState jar }).wp
      (dialogLogic i) (fun answer h' => Stated h' answer) h := by
  unfold Server.serve
  dsimp only
  cases preflight : cors (move.visit.request.withState jar) with
  | some answer =>
      have bare : Bare (.ok answer) := plainCors _ answer preflight
      exact stated_bare bare
  | none =>
      simp only [Program.wp_bind, Program.pure_eq, Program.wp_ret]
      have elsewhere (r : Request) {endpoint : Endpoint}
          (other : endpoint ≠ .traktLogin ∧ endpoint ≠ .traktCallback) :
          (s.routed m move.visit.elsewhere endpoint r).Ensures NoExchange Bare := by
        unfold Server.routed
        split
        · exact handler_bare r m fun r => handle_bare s r move.plain other
        · exact handle_bare s r move.plain other
      by_cases login : (move.visit.request.withState jar).endpoint = .traktLogin
      · rw [login]
        exact handleTraktLogin_stated s _
      · by_cases callback : (move.visit.request.withState jar).endpoint = .traktCallback
        · rw [callback]
          exact handleTraktCallback_bound s asked callback kept
        · exact wp_noExchange (elsewhere _ ⟨login, callback⟩) fun _ _ bare _ => stated_bare bare

/-- A browser keeps what it was given, or loses it. -/
theorem browse_bound (s : Server) (m : Middleware) {cors : Request → Option Response}
    (plainCors : ∀ r answer, cors r = some answer → answer.cookies = [])
    (moves : List Dialog → Option Move) (n : Nat) {jar : Option String} (seen : List Dialog)
    (kept : jar = none ∨ jar = stateKept h) :
    (browse s m cors moves n jar seen).wp (dialogMachine.historyLogic i StateBound)
      (fun _ _ => True) h := by
  induction n generalizing jar seen h with
  | zero => trivial
  | succ n ih =>
      unfold browse
      cases moves seen with
      | none => trivial
      | some move =>
          dsimp only
          have held : (if move.forget then none else jar) = none ∨
              (if move.forget then none else jar) = stateKept h := by
            split
            · exact .inl rfl
            · exact kept
          generalize (if move.forget then none else jar) = jar at held
          rw [Program.wp_bind]
          refine Machine.wp_history_act.mpr ⟨trivial, fun w env => ?_⟩
          rw [Program.wp_ret, Program.wp_bind, Program.wp_visible]
          refine Program.wp_mono _ ?_ (Machine.wp_actions_frame (serve_stated s m plainCors move
            (lastAsked_asked _) (by simpa using held)))
          rintro answer h' ⟨stated, more, rfl, acts⟩
          rw [Program.wp_bind]
          refine Machine.wp_history_act.mpr ⟨stated, fun w' env' => ?_⟩
          apply ih
          rw [stateKept_answered, (kept_actions acts).2, stateKept_asked]
          rcases held with rfl | rfl
          · exact stateAfter_none _ answer
          · exact .inr rfl

end Served

/-! ## Runs -/

/-- The random bytes that an event has read. -/
def drawn (e : DialogStep) : Option (List UInt8) :=
  match e.act with
  | .act .randRead => e.env.rand.toOption
  | _ => none

/-- An exchange is made for a callback with a state that its browser has kept, and that no
other browser was given if random bytes do not repeat. -/
def ExchangeBound (pre : DialogHistory) (e : DialogStep) : Prop :=
  ∀ body, e.act = .act (.tokenRequest body) → body.grantType = "authorization_code" →
    ∃ r, lastAsked (own e.thread pre) = some r ∧ r.endpoint = .traktCallback ∧
      firstValue "code" r.query = body.code ∧ firstValue "state" r.query ≠ "" ∧
      stateKept (own e.thread pre) = some (firstValue "state" r.query) ∧
      Given (own e.thread pre) (firstValue "state" r.query) ∧
      ((pre.filterMap drawn).Nodup →
        ∀ j, Given (own j pre) (firstValue "state" r.query) → j = e.thread)

section Runs

variable {s : Server} {m : Middleware} {cors : Request → Option Response} {w : World}
  {browsers : List ((List Dialog → Option Move) × Nat)} {trace : DialogHistory}
  {c : Foundation.Config Spoken (Visible.Ans Ans Dialog) World}

theorem run_bound (plainCors : ∀ r answer, cors r = some answer → answer.cookies = [])
    {pre post : DialogHistory} {e : DialogStep}
    (run : dialogMachine.Run (startBrowsers s m cors w browsers) (pre ++ e :: post) c) :
    StateBound (own e.thread pre) e.act := by
  obtain ⟨p, found⟩ := run.thread_some (e := e) (by simp)
  have thread := found
  rw [startBrowsers, List.getElem?_map, Option.map_eq_some_iff] at thread
  obtain ⟨b, -, rfl⟩ := thread
  exact run.issued found (browse_bound s m plainCors b.1 b.2 [] (.inl rfl))

/-- What a browser was given was drawn for it. -/
theorem given_drawn (plainCors : ∀ r answer, cors r = some answer → answer.cookies = [])
    (run : dialogMachine.Run (startBrowsers s m cors w browsers) trace c) {j : Nat}
    {value : String} (given : Given (own j trace) value) :
    ∃ e ∈ trace, e.thread = j ∧ ∃ b, drawn e = some b ∧ value = rawURLEncode b := by
  obtain ⟨e, member, answer, act, set⟩ := given
  obtain ⟨shown, mine⟩ := List.mem_filter.mp member
  obtain rfl : e.thread = j := by simpa using mine
  obtain ⟨pre, post, rfl⟩ := List.append_of_mem shown
  have stated := run_bound plainCors run
  rw [act] at stated
  obtain ⟨⟨draw, drew, b, read, random, rfl⟩, -⟩ := stated value set
  obtain ⟨early, same⟩ := List.mem_filter.mp drew
  refine ⟨draw, List.mem_append_left _ early, by simpa using same, b, ?_, rfl⟩
  rw [drawn, read]
  dsimp only
  rw [random]
  rfl

theorem drawn_once {pre : DialogHistory} (fresh : (pre.filterMap drawn).Nodup) {e e' : DialogStep}
    (member : e ∈ pre) (member' : e' ∈ pre) {b : List UInt8} (drew : drawn e = some b)
    (drew' : drawn e' = some b) : e = e' := by
  by_contra different
  have : Std.Symm fun a a' : DialogStep =>
      ∀ b, drawn a = some b → ∀ b', drawn a' = some b' → b ≠ b' :=
    ⟨fun a a' apart b found b' found' same => apart b' found' b found same.symm⟩
  exact (List.pairwise_filterMap.mp fresh).forall member member' different b drew b drew' rfl

/-- **A login ends in the browser that began it.**  In every run, with any browsers and
order of their steps, each exchange answers a callback of a browser with the state that
this browser has kept from its own last login; no other browser was given that state,
unless random bytes have repeated. -/
theorem login_state_bound
    (plainCors : ∀ r answer, cors r = some answer → answer.cookies = [])
    (run : dialogMachine.Run (startBrowsers s m cors w browsers) trace c) :
    Everywhere ExchangeBound trace := by
  apply everywhere_of_at
  rintro pre e post rfl body request exchange
  have bound := run_bound plainCors run
  rw [request] at bound
  obtain ⟨r, asked, callback, code, nonempty, kept⟩ := bound exchange
  refine ⟨r, asked, callback, code, nonempty, kept, stateKept_given kept, ?_⟩
  intro fresh j given
  obtain ⟨c₁, -, first, -, -⟩ := run.at
  obtain ⟨mine, drew, thread, b, random, value⟩ :=
    given_drawn plainCors first (stateKept_given kept)
  obtain ⟨other, drew', thread', b', random', value'⟩ := given_drawn plainCors first given
  obtain rfl : b = b' := rawURLEncode_inj (value.symm.trans value')
  rw [← thread, ← thread', drawn_once fresh drew drew' random random']

end Runs

/-- A browser that logs in, and comes back with a code and the state it was given. -/
def loggingIn (seen : List Dialog) : Option Move :=
  let visit (path : String) (query : List (String × String)) : Move :=
    ⟨false, ⟨browserRequest "a.example" path query [], fun _ => answering 200 none,
      fun _ => Server.statusOk⟩, fun _ => rfl⟩
  match seen with
  | [] => some (visit "/api/auth/trakt/login" [])
  | [_, .answered answer] =>
      some (visit "/api/auth/trakt/callback" [("code", "code"),
        ("state", (stateAfter none answer).getD "")])
  | _ => none

/-- Two such browsers, taking turns. -/
def twoLogins : DialogHistory :=
  let turn (i : Nat) : Nat × Env :=
    (i, { answering 200 none with rand := .ok [1, 2, UInt8.ofNat i] })
  (dialogMachine.runFor (startBrowsers wired production (fun _ => none) noRedirect
    [(loggingIn, 2), (loggingIn, 2)]) ((List.replicate 10 [turn 0, turn 1]).flatten)).1

/-- The rule for them. -/
theorem login_state_bound_two :
    (twoLogins.filter fun e =>
      match e.act with
      | .act (.tokenRequest _) => true
      | _ => false).length = 2 ∧ Everywhere ExchangeBound twoLogins :=
  ⟨by decide +kernel, login_state_bound (by simp) (dialogMachine.run_runFor _ _)⟩

end VpsDashboard.Server
