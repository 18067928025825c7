/-
# VpsDashboard.Server.RedirectAgreement — the redirect URI of a login and of its callback

A login puts a redirect URI into the authorization URL, and the callback passes one to
the exchange.  Each of them works it out for itself, from the credentials at that moment
and from its own request.  Between the two a callback of someone else may record another
redirect URI, and the settings form may save one.

* `other_login_changes_redirect` — two browsers on different hosts log in; the callback
  of the second is done first, and the exchange of the first carries the redirect URI of
  the second;
* `exchange_redirect_agrees` — in every run in which the stored redirect URI does not
  change, noticeably for a browser, between its login and its callback (`Undisturbed`),
  every exchange carries the redirect URI of its own authorization URL.
-/
import VpsDashboard.Foundation.Outputs
import VpsDashboard.Foundation.Url
import VpsDashboard.Server.Actions
import VpsDashboard.Trakt.Restart
import VpsDashboard.Trakt.SharedRefresh

namespace VpsDashboard.Server

open Foundation Trakt

set_option autoImplicit false
set_option linter.dupNamespace false

/-! ## Browsers -/

/-- A browser that logs in: its request for the login, and the request that it comes back
with, which depends on what the login answered.  It names one host in both, over the
same connections and through the same proxies. -/
structure Browser where
  login : Request
  callback : Response → Request
  sameHost : ∀ answer, (callback answer).host = login.host
  sameTLS : ∀ answer, (callback answer).tls = login.tls
  sameProto : ∀ answer, headerValue "X-Forwarded-Proto" (callback answer).headers =
    headerValue "X-Forwarded-Proto" login.headers
  sameForwardedHost : ∀ answer, headerValue "X-Forwarded-Host" (callback answer).headers =
    headerValue "X-Forwarded-Host" login.headers

theorem Browser.callback_derivedRedirect (b : Browser) (answer : Response) :
    (b.callback answer).derivedRedirect = b.login.derivedRedirect := by
  simp only [Request.derivedRedirect, b.sameHost, b.sameTLS, b.sameProto, b.sameForwardedHost]

/-- Who visits: a browser that logs in, or someone who saves the settings. -/
inductive Visitor where
  | browser (b : Browser)
  | saveSettings (r : Request)

/-- The redirect URI that is derived from the requests of a browser. -/
def Visitor.derived : Visitor → Option String
  | .browser b => some b.login.derivedRedirect
  | .saveSettings _ => none

/-- The actions on the Trakt stores, and the answers to logins. -/
abbrev Shown := Visible Act Response

abbrev VisitProg (α : Type) := Program Shown (Visible.Ans Ans Response) α

@[reducible] def serverMachine : Machine Shown (Visible.Ans Ans Response) Env World :=
  machine.visible Response

abbrev VisitStep := Event Shown Env World
abbrev VisitHistory := List VisitStep

section Programs

variable (s : Server)

/-- The callback comes after the answer to the login. -/
def Browser.visit (b : Browser) : VisitProg Unit := do
  let answer := Server.recovered (← (s.handleTraktLogin b.login).visible)
  Program.output answer
  let _ ← (s.handleTraktCallback (b.callback answer)).visible
  return ()

def Visitor.program : Visitor → VisitProg Unit
  | .browser b => b.visit s
  | .saveSettings r => do
      let _ ← (s.handleTraktConfigSave r).visible
      return ()

def startVisits (w : World) (visitors : List Visitor) :
    Foundation.Config Shown (Visible.Ans Ans Response) World :=
  ⟨w, visitors.map (Visitor.program s)⟩

end Programs

/-! ## Authorization URLs and exchanges -/

/-- Where a login sends the browser. -/
def Response.authorizationURL (answer : Response) : Option String :=
  (answer.headers.find? fun header => header.1 == "Location").map Prod.snd

def answers (h : VisitHistory) : List Response :=
  h.filterMap fun e =>
    match e.act with
    | .out answer => some answer
    | _ => none

/-- The stored redirect URI at each reading of the credentials. -/
def redirectReads (h : VisitHistory) : List String :=
  h.filterMap fun e =>
    match e.act with
    | .act .credsGet => some e.before.creds.creds.redirectURI
    | _ => none

def exchangeRequest : Shown → Option TokenReq
  | .act (.tokenRequest body) => if body.grantType = "authorization_code" then some body else none
  | _ => none

theorem exchangeRequest_eq_some {a : Shown} {body : TokenReq}
    (request : exchangeRequest a = some body) : a = .act (.tokenRequest body) := by
  cases a with
  | out answer => cases request
  | act a =>
      cases a with
      | tokenRequest body' =>
          obtain ⟨-, same⟩ := Option.ite_none_right_eq_some.mp request
          obtain rfl := Option.some.inj same
          rfl
      | _ => cases request

/-- An exchange carries the redirect URI of the authorization URL that its browser was
sent to. -/
def ExchangeAgrees (pre : VisitHistory) (e : VisitStep) : Prop :=
  ∀ body ∈ exchangeRequest e.act, ∀ answer ∈ answers (own e.thread pre),
    ∀ url ∈ answer.authorizationURL,
      queryParameter "redirect_uri" url = some body.redirectURI.toUTF8.toList

/-- Every login of this history was sent to an authorization URL. -/
def Sent (h : VisitHistory) : Prop :=
  ∀ answer ∈ answers h, answer.authorizationURL.isSome = true

/-- The login of a browser has read the redirect URI, with its second reading of the
credentials, and the callback, with the fourth, has not. -/
def Awaiting (h : VisitHistory) : Prop :=
  Sent h ∧ ((redirectReads h).length = 2 ∨ (redirectReads h).length = 3)

/-- A change of the stored redirect URI that makes no difference to the browser from
whose requests this one is derived. -/
def Unnoticed (derived before after : String) : Prop :=
  before = after ∨ (before = "" ∧ after = derived) ∨ (before = derived ∧ after = "")

/-- While a browser is between its login and its callback, the stored redirect URI does
not change, or only from blank to the one derived from its requests, or back. -/
def Undisturbed (visitors : List Visitor) (trace : VisitHistory) : Prop :=
  Everywhere (fun pre e => ∀ i < visitors.length, ∀ derived ∈ visitors[i]?.bind Visitor.derived,
    Awaiting (own i pre) →
      Unnoticed derived e.before.creds.creds.redirectURI e.after.creds.creds.redirectURI) trace

instance (pre : VisitHistory) (e : VisitStep) : Decidable (ExchangeAgrees pre e) :=
  inferInstanceAs (Decidable (∀ body ∈ _, _))

instance (h : VisitHistory) : Decidable (Sent h) :=
  inferInstanceAs (Decidable (∀ answer ∈ _, _))

instance (h : VisitHistory) : Decidable (Awaiting h) := inferInstanceAs (Decidable (_ ∧ _))

instance (derived before after : String) : Decidable (Unnoticed derived before after) :=
  inferInstanceAs (Decidable (_ ∨ _))

instance (visitors : List Visitor) (trace : VisitHistory) : Decidable (Undisturbed visitors trace) :=
  inferInstanceAs (Decidable (Everywhere _ trace))

/-! ## What a browser exchanges -/

@[simp] theorem answers_nil : answers [] = [] := rfl

@[simp] theorem redirectReads_nil : redirectReads [] = [] := rfl

@[simp] theorem answers_append (left right : VisitHistory) :
    answers (left ++ right) = answers left ++ answers right := List.filterMap_append

@[simp] theorem redirectReads_append (left right : VisitHistory) :
    redirectReads (left ++ right) = redirectReads left ++ redirectReads right :=
  List.filterMap_append

section Events

variable (i : Nat) (w : World) (env : Env) (h : VisitHistory)

@[simp] theorem answers_act (a : Act) :
    answers (serverMachine.event i w (.act a) env :: h) = answers h := rfl

@[simp] theorem answers_out (answer : Response) :
    answers (serverMachine.event i w (.out answer) env :: h) = answer :: answers h := rfl

@[simp] theorem redirectReads_credsGet :
    redirectReads (serverMachine.event i w (.act .credsGet) env :: h) =
      w.creds.creds.redirectURI :: redirectReads h := rfl

@[simp] theorem redirectReads_randRead :
    redirectReads (serverMachine.event i w (.act .randRead) env :: h) = redirectReads h := rfl

@[simp] theorem redirectReads_out (answer : Response) :
    redirectReads (serverMachine.event i w (.out answer) env :: h) = redirectReads h := rfl

end Events

/-- The redirect URI for a request from which `derived` is derived. -/
def effective (derived stored : String) : String := if stored ≠ "" then stored else derived

/-- An exchange of a browser that has been sent somewhere: the URI in its authorization URL
is that of its second reading, the one of the exchange that of its fourth. -/
def exchangesAsRead (derived : String) (h : VisitHistory) : Shown → Prop
  | .act (.tokenRequest body) => ∀ answer ∈ answers h, ∀ url ∈ answer.authorizationURL,
      (∀ other ∈ answers h, other = answer) ∧
        ∃ asked back, (redirectReads h)[1]? = some asked ∧ (redirectReads h)[3]? = some back ∧
          queryParameter "redirect_uri" url = some (effective derived asked).toUTF8.toList ∧
          body.redirectURI = effective derived back
  | _ => True

section Functions

variable {i : Nat} {h : VisitHistory} {derived : String}

abbrev visitLogic (i : Nat) (derived : String) : Logic Act Ans VisitHistory :=
  (serverMachine.historyLogic i (exchangesAsRead derived)).actions

/-- The redirect URI that a handler works out is the one of its reading. -/
theorem effectiveRedirect_reads {s : Server} {r : Request}
    {Q : Except Fault String → VisitHistory → Prop}
    (fault : ∀ e, Q (.error e) h)
    (all : ∀ w env, Q (.ok (effective r.derivedRedirect w.creds.creds.redirectURI))
      (h ++ [serverMachine.event i w (.act .credsGet) env])) :
    (s.effectiveRedirect r).wp (visitLogic i derived) Q h := by
  unfold Server.effectiveRedirect
  rw [Program.wp_ite]
  split
  · exact fault _
  · apply Machine.wp_actions_perform trivial
    intro w env
    have read := all w env
    rw [effective] at read
    rw [Program.wp_ite]
    split
    · rename_i configured
      rwa [if_pos configured] at read
    · rename_i blank
      rwa [if_neg blank] at read

/-- The parameters of an authorization URL. -/
theorem authorizationURL_redirect (clientID redirectURI state : String) :
    queryParameter "redirect_uri"
        (traktAuthURL ++ "?response_type=code&client_id=" ++ queryEscape clientID ++
          "&redirect_uri=" ++ queryEscape redirectURI ++ "&state=" ++ queryEscape state) =
      some redirectURI.toUTF8.toList := by
  rw [queryParameter_queryText traktAuthURL "redirect_uri"
    [("response_type", "code"), ("client_id", clientID), ("redirect_uri", redirectURI),
      ("state", state)]]
  · rfl
  · have code : (queryEscape "code").toList = "code".toList := by decide +kernel
    simp [queryText, parameterText, code]
  · decide
  · simp
  · show ∀ name ∈ ["response_type", "client_id", "redirect_uri", "state"], PlainName name
    decide

/-- Where a login sends the browser, and what it has read by then. -/
theorem handleTraktLogin_reads (s : Server) (r : Request) :
    (s.handleTraktLogin r).wp (visitLogic i derived)
      (fun answer h => answers h = [] ∧ ∀ url ∈ (Server.recovered answer).authorizationURL,
        ∃ x asked z, redirectReads h = [x, asked, z] ∧
          queryParameter "redirect_uri" url =
            some (effective r.derivedRedirect asked).toUTF8.toList) [] := by
  have refused : ∀ text status, (httpError text status).authorizationURL = none := by
    intro text status
    rfl
  unfold Server.handleTraktLogin Server.oauthConfigured OAuthHandler.isConfigured
  cases s.traktOAuth with
  | false => simp [Server.recovered, refused]
  | true =>
      simp only [Bool.not_true, Bool.false_eq_true, if_false, Program.wp_bind]
      apply Machine.wp_actions_perform trivial
      intro w env
      simp only [Program.pure_eq, Program.wp_ret, Program.wp_ite]
      split
      · simp [Server.recovered, refused]
      · unfold generateState
        simp only [Program.wp_bind]
        apply Machine.wp_actions_perform trivial
        intro w₁ env₁
        dsimp only
        cases env₁.rand with
        | error e => simp [Server.recovered, refused]
        | ok bytes =>
            simp only [Program.pure_eq, Program.wp_ret, Program.wp_bind]
            refine effectiveRedirect_reads (fun fault => ?_) fun w₂ env₂ => ?_
            · refine ⟨by simp, fun url sent => ?_⟩
              cases sent
            · unfold OAuthHandler.buildAuthURL
              simp only [Program.wp_bind]
              apply Machine.wp_actions_perform trivial
              intro w₃ env₃
              refine ⟨by simp, fun url sent => ?_⟩
              obtain rfl := Option.some.inj sent
              exact ⟨_, _, _, rfl, authorizationURL_redirect _ _ _⟩

theorem exchangesAsRead_aside (h : VisitHistory) (a : Act) (aside : a.aside) :
    exchangesAsRead derived h (.act a) := by
  cases a <;> trivial

/-- The one token request of an exchange carries the redirect URI it was given. -/
theorem exchangeCode_exchanges {code uri : String}
    (may : ∀ w env, ∀ body : TokenReq, body.redirectURI = uri →
      exchangesAsRead derived (h ++ [serverMachine.event i w (.act .credsGet) env])
        (.act (.tokenRequest body)))
    {Q : Except String Unit → VisitHistory → Prop} (all : ∀ r h', Q r h') :
    (OAuthHandler.exchangeCode code uri).wp (visitLogic i derived) Q h := by
  apply OAuthHandler.exchangeCode_permitted
  · exact exchangesAsRead_aside
  · rintro creds h' ⟨w, env, rfl, rfl⟩
    exact may w env _ rfl
  · exact fun _ _ => trivial
  · exact all

theorem handleTraktCallback_exchanges (s : Server) {r : Request} {answer : Response}
    (shown : answers h = [answer])
    (sent : ∀ url ∈ answer.authorizationURL, ∃ x asked z, redirectReads h = [x, asked, z] ∧
      queryParameter "redirect_uri" url =
        some (effective r.derivedRedirect asked).toUTF8.toList) :
    (s.handleTraktCallback r).wp (visitLogic i r.derivedRedirect) (fun _ _ => True) h := by
  unfold Server.handleTraktCallback
  simp only [Program.wp_ite]
  split
  · trivial
  · split
    · trivial
    · rw [Program.wp_bind]
      refine effectiveRedirect_reads (fun fault => trivial) fun w env => ?_
      rw [Program.wp_bind]
      refine exchangeCode_exchanges (fun w' env' body carried => ?_) fun result _ => ?_
      · intro answer' mine url given
        simp only [answers_append, shown, answers_act, answers_nil, List.append_nil,
          List.mem_singleton] at mine ⊢
        subst mine
        obtain ⟨x, asked, z, read, named⟩ := sent url given
        refine ⟨fun _ same => same, asked, w.creds.creds.redirectURI, ?_, ?_, named, carried⟩
        · simp [read]
        · simp [read]
      · cases result <;> trivial

theorem Browser.visit_exchanges (s : Server) (b : Browser) :
    (b.visit s).wp (serverMachine.historyLogic i (exchangesAsRead b.login.derivedRedirect))
      (fun _ _ => True) [] := by
  unfold Browser.visit
  rw [Program.wp_bind, Program.wp_visible]
  refine Program.wp_mono _ ?_ (handleTraktLogin_reads s b.login)
  rintro result h ⟨silent, sent⟩
  rw [Program.wp_bind]
  refine Machine.wp_history_act.mpr ⟨trivial, fun w env => ?_⟩
  rw [Program.wp_ret, Program.wp_bind, Program.wp_visible]
  have shown : answers (h ++ [serverMachine.event i w (.out (Server.recovered result)) env]) =
      [Server.recovered result] := by
    rw [answers_append, silent]
    rfl
  rw [← b.callback_derivedRedirect (Server.recovered result)] at sent ⊢
  apply handleTraktCallback_exchanges s shown
  intro url given
  obtain ⟨x, asked, z, read, named⟩ := sent url given
  exact ⟨x, asked, z, by simp [read], named⟩

/-- Saving the settings exchanges nothing. -/
theorem saveSettings_exchanges (s : Server) (r : Request) (i : Nat) :
    ((Visitor.saveSettings r).program s).wp
      (serverMachine.historyLogic i fun _ a => exchangeRequest a = none) (fun _ _ => True) [] := by
  unfold Visitor.program
  rw [Program.wp_bind, Program.wp_visible]
  refine Program.wp_of_performs _ (s.handleTraktConfigSave_performs r) ?_ fun _ _ => trivial
  intro h a configures
  cases a with
  | tokenRequest => cases configures
  | _ => rfl

end Functions

/-! ## What a browser has read -/

theorem effective_unnoticed {derived before after : String}
    (unnoticed : Unnoticed derived before after) :
    effective derived after = effective derived before := by
  rcases unnoticed with rfl | ⟨rfl, rfl⟩ | ⟨rfl, rfl⟩
  · rfl
  · simp [effective]
  · simp [effective]

/-- As long as its callback has not read it, the browser would get the redirect URI that
its login has read; afterwards, its callback has got it. -/
structure Consistent (derived : String) (reads : List String) (stored : String) : Prop where
  waiting : ∀ asked, reads[1]? = some asked → reads.length ≤ 3 →
    effective derived stored = effective derived asked
  back : ∀ asked back, reads[1]? = some asked → reads[3]? = some back →
    effective derived back = effective derived asked

section Reads

variable {derived stored : String} {reads : List String}

theorem Consistent.read (consistent : Consistent derived reads stored) :
    Consistent derived (reads ++ [stored]) stored where
  waiting asked found short := by
    rw [List.length_append, List.length_singleton] at short
    rw [List.getElem?_append] at found
    split at found
    · exact consistent.waiting asked found (by omega)
    · rw [List.getElem?_singleton] at found
      split at found
      · cases found
        rfl
      · cases found
  back asked back found late := by
    rw [List.getElem?_append] at found late
    split at late
    · rw [if_pos (by omega)] at found
      exact consistent.back asked back found late
    · rw [List.getElem?_singleton] at late
      split at late
      · rw [if_pos (by omega)] at found
        cases late
        exact consistent.waiting asked found (by omega)
      · cases late

theorem Consistent.change {after : String} (consistent : Consistent derived reads stored)
    (quiet : reads.length = 2 ∨ reads.length = 3 → Unnoticed derived stored after) :
    Consistent derived reads after where
  waiting asked found short := by
    obtain ⟨long, -⟩ := List.getElem?_eq_some_iff.mp found
    rw [effective_unnoticed (quiet (by omega))]
    exact consistent.waiting asked found short
  back := consistent.back

/-- A step reads the credentials, and then it leaves them as they are, or does not. -/
theorem redirectReads_step {e : VisitStep}
    (done : e.after = (serverMachine.exec e.before e.act e.env).2) :
    (redirectReads [e] = [e.before.creds.creds.redirectURI] ∧ e.after = e.before) ∨
      redirectReads [e] = [] := by
  obtain ⟨thread, before, act, env, after⟩ := e
  cases act with
  | out answer => exact .inr rfl
  | act a =>
      cases a with
      | credsGet => exact .inl ⟨rfl, done⟩
      | _ => exact .inr rfl

/-- Each step of a run keeps what the browser `i` has read in agreement with what it would
get. -/
theorem consistent_step {i : Nat} {trace : VisitHistory} {e : VisitStep}
    (consistent : Consistent derived (redirectReads (own i trace)) e.before.creds.creds.redirectURI)
    (done : e.after = (serverMachine.exec e.before e.act e.env).2)
    (quiet : (redirectReads (own i trace)).length = 2 ∨ (redirectReads (own i trace)).length = 3 →
      Unnoticed derived e.before.creds.creds.redirectURI e.after.creds.creds.redirectURI) :
    Consistent derived (redirectReads (own i (trace ++ [e]))) e.after.creds.creds.redirectURI := by
  rw [own_concat]
  split
  · rw [redirectReads_append]
    rcases redirectReads_step done with ⟨read, same⟩ | unread
    · rw [read, same]
      exact consistent.read
    · rw [unread, List.append_nil]
      exact consistent.change quiet
  · exact consistent.change quiet

end Reads

/-! ## Runs -/

theorem Sent.before {i : Nat} {trace : VisitHistory} {e : VisitStep}
    (sent : Sent (own i (trace ++ [e]))) : Sent (own i trace) := by
  intro answer shown
  apply sent answer
  rw [own_append, answers_append]
  exact List.mem_append_left _ shown

section Runs

variable {s : Server} {w : World} {visitors : List Visitor} {trace : VisitHistory}
  {c : Foundation.Config Shown (Visible.Ans Ans Response) World}

theorem consistent_run (run : serverMachine.Run (startVisits s w visitors) trace c)
    (undisturbed : Undisturbed visitors trace) {i : Nat} {b : Browser}
    (visits : visitors[i]? = some (.browser b)) (sent : Sent (own i trace)) :
    Consistent b.login.derivedRedirect (redirectReads (own i trace))
      c.state.creds.creds.redirectURI := by
  induction run with
  | start =>
      refine ⟨fun asked found => ?_, fun asked back found => ?_⟩
      · cases found
      · cases found
  | @snoc trace c c' j env e run step ih =>
      obtain ⟨-, -, before, after, done⟩ := Machine.step_states step
      have earlier := ih undisturbed.prefix sent.before
      obtain ⟨inside, -⟩ := List.getElem?_eq_some_iff.mp visits
      rw [← before] at earlier
      rw [← after]
      apply consistent_step earlier done
      intro reads
      refine undisturbed.at i inside b.login.derivedRedirect ?_ ⟨sent.before, reads⟩
      rw [visits]
      rfl

theorem run_exchanges {pre post : VisitHistory} {e : VisitStep}
    (run : serverMachine.Run (startVisits s w visitors) (pre ++ e :: post) c) :
    (∃ b, visitors[e.thread]? = some (.browser b) ∧
      exchangesAsRead b.login.derivedRedirect (own e.thread pre) e.act) ∨
      exchangeRequest e.act = none := by
  obtain ⟨p, found⟩ := run.thread_some (e := e) (by simp)
  have thread := found
  rw [startVisits, List.getElem?_map, Option.map_eq_some_iff] at thread
  obtain ⟨visitor, visits, rfl⟩ := thread
  cases visitor with
  | browser b => exact .inl ⟨b, visits, run.issued found (b.visit_exchanges s)⟩
  | saveSettings r =>
      exact .inr (run.issued found (saveSettings_exchanges s r e.thread))

/-- **Exchanges carry the redirect URI of their authorization URL.**  In every run, with
any browsers, settings saves and order of their steps: if, between the login and the
callback of each browser, the stored redirect URI changes only in ways that make no
difference to it, every exchange carries the URI of its own login. -/
theorem exchange_redirect_agrees (run : serverMachine.Run (startVisits s w visitors) trace c)
    (undisturbed : Undisturbed visitors trace) : Everywhere ExchangeAgrees trace := by
  apply everywhere_of_at
  rintro pre e post rfl
  intro body request answer shown url given
  rcases run_exchanges run with ⟨b, visits, exchanges⟩ | none
  · obtain ⟨c₁, -, first, -, -⟩ := run.at
    rw [exchangeRequest_eq_some request] at exchanges
    obtain ⟨only, asked, back, read, late, named, carried⟩ := exchanges answer shown url given
    have sent : Sent (own e.thread pre) := by
      intro other also
      rw [only other also]
      exact Option.isSome_of_mem given
    have consistent := consistent_run first undisturbed.prefix visits sent
    rw [named, carried, consistent.back asked back read late]
  · rw [none] at request
    cases request

end Runs

/-! ## Two browsers -/

def browserRequest (host path : String) (query cookies : List (String × String)) : Request where
  method := .get
  path := path
  query := query
  headers := []
  cookies := cookies
  host := host
  tls := false
  body := none
  user := none

/-- A browser that brings back the state of its cookie, with a code. -/
def browserOn (host : String) : Browser where
  login := browserRequest host "/api/auth/trakt/login" [] []
  callback answer :=
    let cookies := answer.cookies.map fun cookie => (cookie.name, cookie.value)
    browserRequest host "/api/auth/trakt/callback"
      [("code", "code"), ("state", firstValue Server.traktStateCookie cookies)] cookies
  sameHost _ := rfl
  sameTLS _ := rfl
  sameProto _ := rfl
  sameForwardedHost _ := rfl

/-- Configured, without a redirect URI. -/
def noRedirect : World := .boot none "creds.json" none ⟨"id", "secret", ""⟩

/-- A whole login by visitor `i`, its answer included. -/
def loginBy (i : Nat) : List (Nat × Env) :=
  let quiet := answering 200 none
  [(i, quiet), (i, { quiet with rand := .ok [1, 2, 3] }), (i, quiet), (i, quiet), (i, quiet)]

/-- The callback of visitor `i`, up to the answer to its token request. -/
def exchangeBy (i : Nat) : List (Nat × Env) :=
  let quiet := answering 200 none
  [(i, quiet), (i, quiet), (i, newPair)]

/-- The redirect URI is recorded. -/
def recordBy (i : Nat) : List (Nat × Env) := [(i, answering 200 none)]

/-- Both log in, and the second is back first. -/
def overtaken : List (Nat × Env) :=
  loginBy 0 ++ loginBy 1 ++ exchangeBy 1 ++ recordBy 1 ++ exchangeBy 0

def visitsFor (visitors : List Visitor) (schedule : List (Nat × Env)) : VisitHistory :=
  (serverMachine.runFor (startVisits wired noRedirect visitors) schedule).1

def twoHosts : List Visitor := [.browser (browserOn "a.example"), .browser (browserOn "b.example")]

/-- The exchange of the first browser carries the redirect URI of the second. -/
theorem other_login_changes_redirect :
    ((visitsFor twoHosts overtaken).filterMap fun e => exchangeRequest e.act).map
        TokenReq.redirectURI = ["http://b.example/api/auth/trakt/callback",
          "http://b.example/api/auth/trakt/callback"] ∧
      ¬ Everywhere ExchangeAgrees (visitsFor twoHosts overtaken) :=
  ⟨by decide +kernel, by decide +kernel⟩

def oneHost : List Visitor := [.browser (browserOn "a.example"), .browser (browserOn "a.example")]

/-- The rule for two browsers on one host. -/
theorem exchange_redirect_agrees_one_host :
    ((visitsFor oneHost overtaken).filterMap fun e => exchangeRequest e.act).map
        TokenReq.redirectURI = ["http://a.example/api/auth/trakt/callback",
          "http://a.example/api/auth/trakt/callback"] ∧
      Everywhere ExchangeAgrees (visitsFor oneHost overtaken) :=
  ⟨by decide +kernel, exchange_redirect_agrees
    (serverMachine.run_runFor (startVisits wired noRedirect oneHost) overtaken)
    (by decide +kernel)⟩

end VpsDashboard.Server
