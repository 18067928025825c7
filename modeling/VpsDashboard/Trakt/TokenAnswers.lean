/-
# VpsDashboard.Trakt.TokenAnswers — what each answer of the token endpoint leaves behind

`exchangeCode` and `refreshTokens` run alone, from any state and against any
answer of the token endpoint.  An answer that `readTokenAnswer` refuses — a
transport error, a status other than 200, a body that is no JSON or has a field
of the wrong kind — leaves the whole world as it was.  An accepted one is stored
as it is: `doTokenRequest` looks at no field, and a JSON object that lacks
`access_token` or `refresh_token` decodes to empty strings.

`tokenAnswers_allOrNothing_iff` is the exact condition under which a call is all or
nothing; `refresh_without_refresh_token` is a refresh that trades a working refresh
token for an empty one.
-/
import VpsDashboard.Trakt.OAuth

namespace VpsDashboard.Trakt

open Foundation

set_option autoImplicit false

/-! ## The credential side of an exchange -/

namespace CredentialStore

/-- Saving touches nothing but the credential file. -/
theorem save_wp {w : World} {Q : Unit → World → Prop}
    (kept : ∀ file, Q () { w with creds := { w.creds with file := file } }) :
    save.wp machine.stateLogic Q w := by
  unfold save
  simp only [Program.perform_bind, Machine.wp_state_act, machine_exec, exec, Program.wp_ite]
  intro _
  split
  · exact kept w.creds.file
  · exact Machine.wp_state_act.mpr fun _ => kept _

/-- Recording the redirect URI of a login keeps the token store and the client's
id and secret. -/
theorem setRedirectURI_wp {w : World} {uri : String} {Q : Unit → World → Prop}
    (kept : ∀ uri' file, Q () { w with creds :=
      { w.creds with creds := { w.creds.creds with redirectURI := uri' }, file := file } }) :
    (setRedirectURI uri).wp machine.stateLogic Q w := by
  unfold setRedirectURI
  split
  · exact kept w.creds.creds.redirectURI w.creds.file
  · simp only [Program.perform_bind, Machine.wp_state_act, Program.wp_ite]
    intro _
    split
    · exact save_wp fun file => kept uri file
    · exact kept uri w.creds.file

end CredentialStore

namespace OAuthHandler

theorem fetchUsername_wp {w : World} {token : String} {Q : Except String String → World → Prop}
    (kept : ∀ username, Q username w) : (fetchUsername token).wp machine.stateLogic Q w := by
  unfold fetchUsername
  simp only [Program.perform_bind, Machine.wp_state_act, machine_exec, exec]
  intro _ env
  cases env.http with
  | error e => exact kept _
  | ok resp => exact kept _

/-! ## One call, alone -/

/-- A refused answer ends the exchange at once; an accepted one ends in its tokens. -/
theorem exchangeCode_run (w : World) (code uri : String) (outside : Nat → Env) :
    match readTokenAnswer (outside 1).http with
    | .error e => (exchangeCode code uri).run machine w outside = (.error e, w)
    | .ok tokens =>
        ((exchangeCode code uri).run machine w outside).1 = .ok () ∧
          ∃ username, ((exchangeCode code uri).run machine w outside).2.store =
            w.store.set (storedTokens tokens username) := by
  cases answer : readTokenAnswer (outside 1).http with
  | error e => simp [exchangeCode, doTokenRequest, exec, answer]
  | ok tokens =>
      simp only [exchangeCode, doTokenRequest, Program.perform_bind, Program.act_bind,
        Program.run_act, machine_exec, exec, answer, Program.pure_eq, Program.ret_bind]
      apply Machine.wp_run (Q := fun (result : Except String Unit) (w' : World) =>
        result = .ok () ∧ ∃ username, w'.store = w.store.set (storedTokens tokens username))
      rw [Program.wp_bind]
      apply CredentialStore.setRedirectURI_wp
      intro uri' file
      rw [Program.wp_bind]
      apply fetchUsername_wp
      intro username
      exact Machine.wp_state_act.mpr fun _ => ⟨rfl, _, rfl⟩

/-- Without a refresh token nothing is sent; otherwise a refused answer leaves the
world alone and an accepted one replaces the tokens, username excepted. -/
theorem refreshTokens_run (w : World) (outside : Nat → Env) :
    match w.store.tokens with
    | none =>
        refreshTokens.run machine w outside = (.error "no refresh token available", w)
    | some t =>
        if t.refreshToken = "" then
          refreshTokens.run machine w outside = (.error "no refresh token available", w)
        else
          match readTokenAnswer (outside 2).http with
          | .error e => refreshTokens.run machine w outside = (.error e, w)
          | .ok tokens =>
              refreshTokens.run machine w outside =
                (.ok (), { w with store := w.store.set (storedTokens tokens t.username) }) := by
  cases held : w.store.tokens with
  | none => simp [refreshTokens, Store.get, held]
  | some t =>
      by_cases blank : t.refreshToken = ""
      · simp [refreshTokens, Store.get, held, blank]
      · cases answer : readTokenAnswer (outside 2).http with
        | error e => simp [refreshTokens, doTokenRequest, exec, Store.get, held, blank, answer]
        | ok tokens => simp [refreshTokens, doTokenRequest, exec, Store.get, held, blank, answer]

end OAuthHandler

/-! ## All or nothing -/

/-- Either an error that left everything as it was, or a success that left a
usable pair in the store. -/
def AllOrNothing (w : World) (done : Except String Unit × World) : Prop :=
  (∃ e, done.1 = .error e ∧ done.2 = w) ∨
    (done.1 = .ok () ∧ ∃ t, done.2.store.tokens = some t ∧
      t.accessToken ≠ "" ∧ t.refreshToken ≠ "")

/-- An answer of the token endpoint that is refused, or carries both tokens. -/
def Complete (answer : HttpResult) : Prop :=
  ∀ tokens, readTokenAnswer answer = .ok tokens →
    tokens.accessToken ≠ "" ∧ tokens.refreshToken ≠ ""

theorem exchangeCode_allOrNothing (w : World) (code uri : String) (outside : Nat → Env) :
    AllOrNothing w ((OAuthHandler.exchangeCode code uri).run machine w outside) ↔
      Complete (outside 1).http := by
  have done := OAuthHandler.exchangeCode_run w code uri outside
  cases answer : readTokenAnswer (outside 1).http with
  | error e =>
      rw [answer] at done
      simp only [AllOrNothing, Complete, done, answer]
      simp
  | ok tokens =>
      rw [answer] at done
      obtain ⟨accepted, username, stored⟩ := done
      simp only [AllOrNothing, Complete, accepted, stored, answer, Store.set_tokens]
      simp [OAuthHandler.storedTokens]

theorem refreshTokens_allOrNothing (w : World) (outside : Nat → Env) :
    AllOrNothing w (OAuthHandler.refreshTokens.run machine w outside) ↔
      ∀ t, w.store.tokens = some t → t.refreshToken ≠ "" → Complete (outside 2).http := by
  have done := OAuthHandler.refreshTokens_run w outside
  cases held : w.store.tokens with
  | none =>
      rw [held] at done
      simp [AllOrNothing, done]
  | some t =>
      rw [held] at done
      by_cases blank : t.refreshToken = ""
      · simp only [blank, if_true] at done
        simp [AllOrNothing, done, blank]
      · simp only [blank, if_false] at done
        cases answer : readTokenAnswer (outside 2).http with
        | error e =>
            rw [answer] at done
            simp [AllOrNothing, Complete, done, answer]
        | ok tokens =>
            rw [answer] at done
            simp [AllOrNothing, Complete, done, answer, blank, OAuthHandler.storedTokens]

/-- **When a login or a refresh is all or nothing.**  Exactly when the answer to
the token request it sends is refused or carries two non-empty tokens; a refresh
that finds no refresh token sends none. -/
theorem tokenAnswers_allOrNothing_iff (w : World) (code uri : String) (outside : Nat → Env) :
    (AllOrNothing w ((OAuthHandler.exchangeCode code uri).run machine w outside) ↔
      Complete (outside 1).http) ∧
    (AllOrNothing w (OAuthHandler.refreshTokens.run machine w outside) ↔
      ∀ t, w.store.tokens = some t → t.refreshToken ≠ "" → Complete (outside 2).http) :=
  ⟨exchangeCode_allOrNothing w code uri outside, refreshTokens_allOrNothing w outside⟩

/-- A session about to be refreshed, and an answer 200 with no `refresh_token`. -/
def sessionBeforeRefresh : World where
  store := ⟨some ⟨"access-1", "refresh-1", 0, "public", "alice"⟩,
    some ⟨"access-1", "refresh-1", 0, "public", "alice"⟩⟩
  creds := ⟨⟨"id", "secret", ""⟩, "/tmp/trakt_credentials.json", none⟩

def answerWithoutRefreshToken : Env where
  now := 0
  rand := .error "unused"
  http := .ok ⟨200, "", some (.obj
    [("access_token", .str "access-2"), ("expires_in", .int 7776000)]), none⟩

/-- The refresh succeeds and leaves the empty string where `refresh-1` was. -/
theorem refresh_without_refresh_token :
    ¬ AllOrNothing sessionBeforeRefresh
        (OAuthHandler.refreshTokens.run machine sessionBeforeRefresh
          fun _ => answerWithoutRefreshToken) ∧
      (OAuthHandler.refreshTokens.run machine sessionBeforeRefresh
          fun _ => answerWithoutRefreshToken).2.store.tokens.map (·.refreshToken) = some "" := by
  have answer : readTokenAnswer answerWithoutRefreshToken.http =
      .ok ⟨"access-2", "", 7776000, 0, "", ""⟩ := by rfl
  have done := OAuthHandler.refreshTokens_run sessionBeforeRefresh
    fun _ => answerWithoutRefreshToken
  simp only [sessionBeforeRefresh, answer] at done ⊢
  rw [if_neg (by decide)] at done
  simp [AllOrNothing, done, OAuthHandler.storedTokens]

end VpsDashboard.Trakt
