/-
# VpsDashboard.Trakt.Sessions — concurrent calls and what each does to the store

Any number of calls run on one `World` at once: data requests (`Client.get`),
`/me` refreshes (`refreshTokens`), logins (`exchangeCode`) and logouts.  A call
that arrives later is one that takes its first step later, so a fixed list of
calls and every order of their steps is every history of the server.

`Call.issues` is what one call can be seen to do from its own history, whatever
the others do in between:

* it clears the store only as a logout, or after it read the store and what it
  read was of no further use (`Spent`): there was nothing to refresh, the refresh
  sent with it was refused, or a request sent with it was answered 401;
* it stores tokens only as a login, or after it read tokens to refresh;
* a login never reads the store.
-/
import VpsDashboard.Foundation.Interleaving
import VpsDashboard.Trakt.Actions

namespace VpsDashboard.Trakt

open Foundation

set_option autoImplicit false

abbrev Step := Event Act Env World
abbrev History := List Step

/-! ## Calls -/

inductive Call where
  | data (url : String)
  | refresh
  | exchange (code redirectURI : String)
  | logout
deriving DecidableEq

def Call.isExchange : Call → Bool
  | .exchange _ _ => true
  | _ => false

def Call.program : Call → Prog Unit
  | .data url => do
      let _ ← Client.get url
      return ()
  | .refresh => do
      let _ ← OAuthHandler.refreshTokens
      return ()
  | .exchange code redirectURI => do
      let _ ← OAuthHandler.exchangeCode code redirectURI
      return ()
  | .logout => OAuthHandler.logout

/-- The calls before any of them has taken a step. -/
def start (w : World) (calls : List Call) : Config Act Ans World :=
  ⟨w, calls.map Call.program⟩

/-! ## Reading a history -/

/-- What the latest `Store.Get` of a history returned, if there was one. -/
def lastRead : History → Option (Option Tokens)
  | [] => none
  | e :: later =>
      (lastRead later).or (if e.act = .storeGet then some e.before.store.tokens else none)

@[simp] theorem lastRead_nil : lastRead [] = none := rfl

@[simp] theorem lastRead_cons (e : Step) (later : History) :
    lastRead (e :: later) =
      (lastRead later).or (if e.act = .storeGet then some e.before.store.tokens else none) := rfl

@[simp] theorem lastRead_append (h later : History) :
    lastRead (h ++ later) = (lastRead later).or (lastRead h) := by
  induction h with
  | nil => simp
  | cons e h ih => simp only [List.cons_append, lastRead_cons, ih, Option.or_assoc]

theorem lastRead_own_snoc (i : Nat) (trace : History) (e : Step) :
    lastRead (own i (trace ++ [e])) =
      if e.thread = i ∧ e.act = .storeGet then some e.before.store.tokens
      else lastRead (own i trace) := by
  rw [own_concat]
  by_cases mine : e.thread = i
  · by_cases reads : e.act = .storeGet <;> simp [mine, reads]
  · simp [mine]

/-- A refresh sent with the refresh token of `t`, and refused. -/
def refusedRefresh (t : Tokens) (e : Step) : Bool :=
  match e.act with
  | .tokenRequest body =>
      body.grantType == "refresh_token" && body.refreshToken == t.refreshToken &&
        !(readTokenAnswer e.env.http).isOk
  | _ => false

/-- A request sent with the access token of `t`, and answered 401. -/
def answered401 (t : Tokens) (e : Step) : Bool :=
  match e.act, e.env.http with
  | .apiGet _ _ bearer, .ok resp => bearer == t.accessToken && resp.status == 401
  | _, _ => false

/-- A request that used this very pair failed. -/
def UsedAndFailed (t : Tokens) (h : History) : Prop :=
  ∃ e ∈ h, refusedRefresh t e = true ∨ answered401 t e = true

/-- What was last read from the store is of no further use to this call. -/
def Spent (h : History) : Prop :=
  ∃ read, lastRead h = some read ∧
    ∀ t, read = some t → t.refreshToken = "" ∨ UsedAndFailed t h

/-- The actions a call may take after its own history `h`. -/
def Call.issues (call : Call) (h : History) : Act → Prop
  | .storeGet => call.isExchange = false
  | .storeClear => call = .logout ∨ Spent h
  | .storeSet _ => call.isExchange = true ∨ ∃ held, lastRead h = some (some held)
  | _ => True

abbrev Call.logic (call : Call) (i : Nat) : Logic Act Ans History :=
  machine.historyLogic i call.issues

/-! ## One function at a time -/

section Functions

variable {call : Call} {i : Nat} {h : History}

theorem Call.issues_aside (call : Call) (h : History) (a : Act) (aside : a.aside) :
    call.issues h a := by
  cases a <;> trivial

theorem Call.issues_looks (reads : call.isExchange = false) (h : History) (a : Act)
    (looks : a.looks) : call.issues h a := by
  cases a with
  | storeGet => exact reads
  | now => trivial
  | _ => cases looks

/-- A refresh that fails has spent what it read. -/
theorem refreshTokens_issues (reads : call.isExchange = false) :
    OAuthHandler.refreshTokens.wp (call.logic i) (fun r h' => ∀ e, r = .error e → Spent h') h := by
  refine OAuthHandler.refreshTokens_wp reads ?_ (fun _ _ _ => trivial) ?_
  · rintro _ _ _ ⟨w, env, rfl, rfl⟩ useless _ -
    exact ⟨w.store.tokens, by simp, fun t held => .inl (useless t held)⟩
  · rintro t _ c _ ⟨w, env, held, rfl⟩ - ⟨w₁, env₁, rfl, rfl⟩
    refine ⟨trivial, ?_⟩
    rintro _ _ ⟨w₂, env₂, rfl, rfl⟩
    have read : lastRead (h ++ [machine.event i w .storeGet env] ++
        [machine.event i w₁ .credsGet env₁] ++ [machine.event i w₂ (.tokenRequest
          (OAuthHandler.refreshBody w₁.creds.creds t.refreshToken)) env₂]) = some (some t) := by
      simpa using held.symm
    dsimp only
    cases answer : readTokenAnswer env₂.http with
    | error e =>
        intro _ _
        refine ⟨some t, read, ?_⟩
        rintro _ ⟨⟩
        refine .inr ⟨_, List.mem_concat_self, .inl ?_⟩
        simp [refusedRefresh, OAuthHandler.refreshBody, answer, Except.isOk, Except.toBool]
    | ok tokens => exact ⟨.inr ⟨t, read⟩, fun _ _ => nofun⟩

/-- This access token was in what was last read from the store. -/
def JustRead (token : String) (h : History) : Prop :=
  ∃ t, lastRead h = some (some t) ∧ t.accessToken = token

/-- A call that is no login makes its requests with what it has just read, and an answer 401
shows that it is spent. -/
theorem Call.dataLogic (reads : call.isExchange = false) (i : Nat) (url : String) :
    DataLogic (call.logic i) url Spent JustRead where
  looks := call.issues_looks reads
  credsGet _ := trivial
  refreshes _ := refreshTokens_issues reads
  finds h := by
    refine Store.getAccessToken_wp (call.issues_looks reads) (fun _ _ => nofun) ?_
    rintro t _ _ _ ⟨w, env, held, rfl⟩ ⟨w₁, env₁, rfl, rfl⟩ - _ ⟨⟩
    exact ⟨t, by simpa using held.symm, rfl⟩
  keeps := by
    rintro token h _ _ ⟨t, read, same⟩ ⟨w, env, rfl, rfl⟩
    exact ⟨t, by simpa using read, same⟩
  requests _ _ := trivial
  refused := by
    rintro _ h clientID resp _ ⟨t, read, rfl⟩ ⟨w, env, answered, rfl⟩ status
    refine ⟨some t, by simpa using read, ?_⟩
    rintro _ ⟨⟩
    refine .inr ⟨_, List.mem_concat_self, .inr ?_⟩
    have reply : env.http = .ok resp := answered.symm
    simp [answered401, reply, status]
  clears _ spent := .inr spent

theorem exchangeCode_issues {code uri : String} (login : call.isExchange = true) :
    (OAuthHandler.exchangeCode code uri).wp (call.logic i) (fun _ _ => True) h := by
  apply OAuthHandler.exchangeCode_permitted
  · exact call.issues_aside
  · exact fun _ _ _ => trivial
  · exact fun _ _ => .inl login
  · exact fun _ _ => trivial

end Functions

/-! ## Calls in a run -/

theorem Call.program_issues (call : Call) (i : Nat) (h : History) :
    call.program.wp (call.logic i) (fun _ _ => True) h := by
  cases call with
  | data url =>
      simp only [Call.program, Program.wp_bind]
      exact (Call.dataLogic rfl i url).get.wp fun _ _ => trivial
  | refresh =>
      simp only [Call.program, Program.wp_bind]
      exact Program.wp_mono _ (fun _ _ _ => trivial) (refreshTokens_issues rfl)
  | exchange code uri =>
      simp only [Call.program, Program.wp_bind]
      exact Program.wp_mono _ (fun _ _ _ => trivial) (exchangeCode_issues rfl)
  | logout => exact Machine.wp_history_act.mpr ⟨.inl rfl, fun _ _ => trivial⟩

/-- Every event of a run is one that its call may take at that point. -/
theorem run_issues {w : World} {calls : List Call} {pre post : History} {e : Step}
    {c : Config Act Ans World} (run : machine.Run (start w calls) (pre ++ e :: post) c) :
    ∃ call, calls[e.thread]? = some call ∧ call.issues (own e.thread pre) e.act := by
  obtain ⟨p, found⟩ := run.thread_some (e := e) (by simp)
  have thread := found
  rw [start, List.getElem?_map, Option.map_eq_some_iff] at thread
  obtain ⟨call, called, rfl⟩ := thread
  exact ⟨call, called, run.issued found (call.program_issues e.thread [])⟩

end VpsDashboard.Trakt
