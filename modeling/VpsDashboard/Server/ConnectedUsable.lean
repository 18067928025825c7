/-
# VpsDashboard.Server.ConnectedUsable — a connected session and the lists behind it

`me` judges the session by its expiry, which it lets a refresh move; the two list
handlers ask for tokens that are not expired and for a username.  The username is what
`/users/settings` answered during the login, and a login stores its tokens without one
when that request fails.

* `nameless_login_unusable` — after such a login `me` answers that Trakt is connected,
  and both lists are refused for want of a username, which their requests do not use;
* `connected_usable_iff` — in any state, at any time: what `me` calls connected passes the
  guards of the lists if and only if the session has a username and, if `me` refreshes it,
  the new tokens are not already expired (`Lasting`).
-/
import VpsDashboard.Server.TraktRoutes
import VpsDashboard.Trakt.Restart
import VpsDashboard.Trakt.SharedRefresh

namespace VpsDashboard.Server

open Foundation Trakt

set_option autoImplicit false
set_option linter.dupNamespace false

/-! ## Connected and usable -/

/-- The body says that Trakt is connected. -/
def Response.saysConnected (answer : Response) : Bool :=
  match answer.body with
  | .json (.obj members) => members.any fun (name, value) =>
      match value with
      | .bool b => name == "connected" && b
      | _ => false
  | _ => false

def saysConnected : Except Fault Response → Bool
  | .ok answer => answer.saysConnected
  | .error _ => false

/-- The guard of a list handler answers the request. -/
def Refused (answer : Except Fault Response) : Prop :=
  answer = .ok (httpError "not authenticated" 401) ∨ answer = .ok (httpError "no username" 500)

/-- No time passes. -/
def frozen (now : Time) (outside : Nat → Env) : Nat → Env := fun n => { outside n with now := now }

@[simp] theorem frozen_now (now : Time) (outside : Nat → Env) (n : Nat) :
    (frozen now outside n).now = now := rfl

/-- What `me` answers at this time, and the state it leaves. -/
def askMe (w : World) (now : Time) (outside : Nat → Env) (r : Request) :
    Except Fault Response × World :=
  (wired.handleTraktMe r).run machine w (frozen now outside)

/-- If `me` answers that Trakt is connected, neither list is refused by its guard when it
is asked for next and at once. -/
def ConnectedUsable (w : World) (now : Time) (outside : Nat → Env) : Prop :=
  ∀ r r' outside', saysConnected (askMe w now outside r).1 = true →
    ¬ Refused ((wired.handleTraktWatchlist r').run machine (askMe w now outside r).2
        (frozen now outside')).1 ∧
      ¬ Refused ((wired.handleTraktWatched r').run machine (askMe w now outside r).2
        (frozen now outside')).1

/-- The session has a username; and if it has expired, and the token endpoint answers its
refresh with new tokens, these have not. -/
def Lasting (w : World) (now : Time) (reply : HttpResult) : Prop :=
  ∀ t, w.store.tokens = some t →
    if now.after t.expiresAt = true then
      t.refreshToken ≠ "" → ∀ tokens, readTokenAnswer reply = .ok tokens →
        t.username ≠ "" ∧
          now.after (Time.unixPlusSeconds tokens.createdAt tokens.expiresIn) = false
    else t.username ≠ ""

/-! ## The guards of the lists -/

/-- The tokens that the guards let through. -/
def Admits (w : World) (now : Time) : Prop :=
  ∃ t, w.store.tokens = some t ∧ now.after t.expiresAt = false ∧ t.username ≠ ""

theorem refused_unauthenticated : Refused (.ok (httpError "not authenticated" 401)) := .inl rfl

theorem refused_noUsername : Refused (.ok (httpError "no username" 500)) := .inr rfl

theorem not_refused_error {failed : String} (other : failed ++ "\n" ≠ "no username" ++ "\n") :
    ¬ Refused (.ok (httpError failed 500)) := by
  rintro (same | same)
  · simp [httpError] at same
  · exact other (by simpa [httpError] using same)

theorem not_refused_list (list : Json) : ¬ Refused (.ok (encodeJson list)) := by
  rintro (same | same) <;> simp [encodeJson, httpError] at same

/-- What a list handler answers, once it has passed its guard. -/
def listAnswer (failed : String) : Except String Json → Except Fault Response
  | .error _ => .ok (httpError failed 500)
  | .ok list => .ok (encodeJson list)

/-- The two checks of a list handler, with nothing in between. -/
theorem handleTraktList_run {fetch : Prog (Except String Json)} {failed : String} {w : World}
    {now : Time} (outside : Nat → Env) (r : Request) :
    ((wired.handleTraktList fetch failed r).run machine w (frozen now outside)).1 =
      match w.store.tokens with
      | none => .ok (httpError "not authenticated" 401)
      | some t =>
          if now.after t.expiresAt then .ok (httpError "not authenticated" 401)
          else if t.username = "" then .ok (httpError "no username" 500)
          else listAnswer failed
            (fetch.run machine w fun n => frozen now outside (n + 3)).1 := by
  unfold Server.handleTraktList Store.isAuthenticated
  cases held : w.store.tokens with
  | none => simp [wired, held]
  | some t =>
      cases late : now.after t.expiresAt with
      | true => simp [wired, held, late]
      | false =>
          by_cases nameless : t.username = ""
          · simp [wired, held, late, nameless]
          · simp only [wired, held, late, nameless, Bool.not_true, Bool.or_self, Bool.false_eq_true,
              if_false, Program.perform_bind, Program.act_bind, Program.run_act,
              Store.get_eq, frozen_now, Program.pure_eq, Program.ret_bind]
            have answer := Program.run_map machine fetch (listAnswer failed) w fun n =>
              frozen now outside (n + 3)
            refine Eq.trans ?_ (congrArg Prod.fst answer)
            congr 3
            funext result
            cases result <;> rfl

theorem handleTraktList_refused_iff {fetch : Prog (Except String Json)} {failed : String}
    (other : failed ++ "\n" ≠ "no username" ++ "\n") {w : World} {now : Time}
    (outside : Nat → Env) (r : Request) :
    Refused ((wired.handleTraktList fetch failed r).run machine w (frozen now outside)).1 ↔
      ¬ Admits w now := by
  rw [handleTraktList_run]
  cases held : w.store.tokens with
  | none => simp [Admits, held, refused_unauthenticated]
  | some t =>
      cases late : now.after t.expiresAt with
      | true => simp [Admits, held, late, refused_unauthenticated]
      | false =>
          by_cases nameless : t.username = ""
          · simp [Admits, held, late, nameless, refused_noUsername]
          · have admitted : Admits w now := ⟨t, held, late, nameless⟩
            simp only [late, nameless, Bool.false_eq_true, if_false, admitted, not_true_eq_false,
              iff_false]
            cases (fetch.run machine w fun n => frozen now outside (n + 3)).1 with
            | error e => exact not_refused_error other
            | ok list => exact not_refused_list list

/-! ## What `me` calls connected -/

theorem notConnected_saysConnected : saysConnected (.ok Server.notConnected) = false := by rfl

theorem connectedAs_saysConnected (t : Tokens) : saysConnected (Server.connectedAs (some t)) = true := by
  rfl

/-- `me` refreshes what has expired. -/
theorem askMe_eq (w : World) (now : Time) (outside : Nat → Env) (r : Request) :
    askMe w now outside r =
      match w.store.tokens with
      | none => (.ok Server.notConnected, w)
      | some t =>
          if now.after t.expiresAt then
            if t.refreshToken = "" then (.ok Server.notConnected, w)
            else
              match readTokenAnswer (outside 4).http with
              | .error _ => (.ok Server.notConnected, w)
              | .ok tokens =>
                  (Server.connectedAs (some (OAuthHandler.storedTokens tokens t.username)),
                    { w with store := w.store.set (OAuthHandler.storedTokens tokens t.username) })
          else (Server.connectedAs (some t), w) := by
  unfold askMe Server.handleTraktMe
  cases held : w.store.tokens with
  | none => simp [wired, held]
  | some t =>
      cases late : now.after t.expiresAt with
      | false => simp [wired, held, late]
      | true =>
          by_cases blank : t.refreshToken = ""
          · simp [wired, held, late, blank, OAuthHandler.refreshTokens]
          · cases answer : readTokenAnswer (outside 4).http with
            | error e =>
                simp [wired, held, late, blank, answer, frozen, OAuthHandler.refreshTokens,
                  OAuthHandler.doTokenRequest]
            | ok tokens =>
                simp [wired, held, late, blank, answer, frozen, OAuthHandler.refreshTokens,
                  OAuthHandler.doTokenRequest]

/-- Both lists have the guard in common. -/
theorem connectedUsable_iff_admits {w : World} {now : Time} {outside : Nat → Env} :
    ConnectedUsable w now outside ↔
      ∀ r, saysConnected (askMe w now outside r).1 = true → Admits (askMe w now outside r).2 now := by
  constructor
  · intro usable r connected
    by_contra refused
    apply (usable r r outside connected).1
    exact (handleTraktList_refused_iff (by decide) outside r).mpr refused
  · intro admits r r' outside' connected
    constructor
    · intro refused
      exact (handleTraktList_refused_iff (by decide) outside' r').mp refused (admits r connected)
    · intro refused
      exact (handleTraktList_refused_iff (by decide) outside' r').mp refused (admits r connected)

theorem admits_iff {w : World} {now : Time} {t : Tokens} (held : w.store.tokens = some t) :
    Admits w now ↔ now.after t.expiresAt = false ∧ t.username ≠ "" := by
  constructor
  · rintro ⟨t', held', good⟩
    obtain rfl := Option.some.inj (held.symm.trans held')
    exact good
  · intro good
    exact ⟨t, held, good⟩

/-- **Connected means usable, if and only if the session lasts.**  In any state of the
stores, at any time and whatever the token endpoint answers: what `me` calls connected
passes the guards of both lists if and only if the session has a username and, where `me`
has it refreshed, the new tokens are not expired. -/
theorem connected_usable_iff (w : World) (now : Time) (outside : Nat → Env) :
    ConnectedUsable w now outside ↔ Lasting w now (outside 4).http := by
  have : Nonempty Request := ⟨⟨.get, "/api/auth/trakt/me", [], [], [], "", false, none, none⟩⟩
  rw [connectedUsable_iff_admits]
  simp only [askMe_eq, forall_const, Lasting]
  cases held : w.store.tokens with
  | none => simp [notConnected_saysConnected]
  | some t =>
      cases late : now.after t.expiresAt with
      | false => simp [connectedAs_saysConnected, admits_iff held, late]
      | true =>
          by_cases blank : t.refreshToken = ""
          · simp [late, blank, notConnected_saysConnected]
          · cases answer : readTokenAnswer (outside 4).http with
            | error e => simp [late, blank, notConnected_saysConnected]
            | ok tokens =>
                have admits : ∀ new, Admits { w with store := w.store.set new } now ↔
                    now.after new.expiresAt = false ∧ new.username ≠ "" :=
                  fun new => admits_iff (w.store.set_tokens new)
                simp [late, blank, connectedAs_saysConnected, admits, OAuthHandler.storedTokens,
                  and_comm]

/-! ## A login without a username -/

/-- Trakt answers the token request, and has no settings to give. -/
def namelessAnswers : Nat → Env := fun n => if n = 1 then newPair else answering 500 none

/-- What a login leaves that gets no username. -/
def namelessLogin : World :=
  ((OAuthHandler.exchangeCode "code" "http://a.example/api/auth/trakt/callback").run machine
    (.boot none "creds.json" none ⟨"id", "secret", ""⟩) namelessAnswers).2

/-- The login succeeds and `me` calls it connected, but the lists are refused. -/
theorem nameless_login_unusable :
    namelessLogin.store.tokens.map Tokens.username = some "" ∧
      ¬ ConnectedUsable namelessLogin 0 namelessAnswers := by
  refine ⟨by decide +kernel, fun usable => ?_⟩
  have request : Request := ⟨.get, "/api/trakt/watchlist", [], [], [], "", false, none, none⟩
  exact (usable request request namelessAnswers (by rfl)).1 (.inr (by rfl))

end VpsDashboard.Server
