/-
# VpsDashboard.Server.ExpiredSession — the data routes and an expired pair

A data route looks at the expiry four times: its own guard does, then `RefreshIfNeeded`
with a margin of five minutes, which may replace the pair, and last `GetAccessToken`.
The guard comes first, so an expired pair never gets as far as the refresh.

* `expired_session_refused` — a pair that the token endpoint would refresh: `me` refreshes
  it, and both lists answer 401 without a request;
* `data_routes_refresh_iff` — for every pair with a refresh token and a username, and every
  time: if each refresh that is asked for succeeds, a route sends its one request with an
  access token that is not expired, and does not answer 401, if and only if the pair has
  not expired when the request arrives.
-/
import VpsDashboard.Server.ConnectedUsable

namespace VpsDashboard.Server

open Foundation Trakt

set_option autoImplicit false
set_option linter.dupNamespace false

/-! ## Requests to Trakt -/

def isApiGet : Act → Bool
  | .apiGet _ _ _ => true
  | _ => false

def apiRequests (trace : History) : History := trace.filter fun e => isApiGet e.act

@[simp] theorem apiRequests_nil : apiRequests [] = [] := rfl

@[simp] theorem apiRequests_cons (e : Step) (later : History) :
    apiRequests (e :: later) =
      if isApiGet e.act = true then e :: apiRequests later else apiRequests later :=
  List.filter_cons

@[simp] theorem apiRequests_append (left right : History) :
    apiRequests (left ++ right) = apiRequests left ++ apiRequests right :=
  List.filter_append left right

/-- Each request to the token endpoint is answered with a pair that has not expired. -/
def RefreshesSucceed (now : Time) (trace : History) : Prop :=
  ∀ e ∈ trace, ∀ body, e.act = .tokenRequest body →
    ∃ tokens, readTokenAnswer e.env.http = .ok tokens ∧
      now.after (Time.unixPlusSeconds tokens.createdAt tokens.expiresIn) = false

/-- The one request to the API carries the access token of the pair that is stored when it
is sent, and that pair has not expired. -/
def SentFresh (now : Time) (url : String) (trace : History) : Prop :=
  ∃ e t, apiRequests trace = [e] ∧ e.before.store.tokens = some t ∧
    now.after t.expiresAt = false ∧
    e.act = .apiGet url e.before.creds.creds.clientID t.accessToken

/-- The events of a handler that runs alone at this time. -/
def eventsOf (handler : Handler) (r : Request) (w : World) (now : Time) (outside : Nat → Env) :
    History :=
  machine.events 0 (handler r) w (frozen now outside)

/-- The handler sends its request with an unexpired token, and the session is not refused. -/
structure Served (handler : Handler) (url : String) (r : Request) (w : World) (now : Time)
    (outside : Nat → Env) : Prop where
  sent : SentFresh now url (eventsOf handler r w now outside)
  admitted : ((handler r).run machine w (frozen now outside)).1 ≠
    .ok (httpError "not authenticated" 401)

def watchlistURL : String := traktAPI ++ "/users/me/watchlist/movies"
def watchedURL : String := traktAPI ++ "/users/me/watched/movies"

/-! ## Sequences -/

section Sequences

variable {α β : Type} {p : Prog α} {f : α → Prog β} {w : World} {now : Time} {url : String}
  {outside : Nat → Env}

theorem RefreshesSucceed.first
    (succeed : RefreshesSucceed now (machine.events 0 (p >>= f) w outside)) :
    RefreshesSucceed now (machine.events 0 p w outside) := by
  obtain ⟨later, split⟩ := machine.events_bind 0 p f w outside
  rw [split] at succeed
  intro e member
  exact succeed e (List.mem_append_left _ member)

/-- What follows without a request of its own changes nothing. -/
theorem SentFresh.bind (sent : SentFresh now url (machine.events 0 p w outside))
    (quiet : ∀ value, (f value).Performs fun a => isApiGet a = false) :
    SentFresh now url (machine.events 0 (p >>= f) w outside) := by
  obtain ⟨e, t, one, rest⟩ := sent
  refine ⟨e, t, ?_, rest⟩
  obtain ⟨later, split⟩ := machine.events_bind 0 p f w outside
  have none : apiRequests (machine.events 0 (f (p.run machine w outside).1)
      (p.run machine w outside).2 later) = [] := by
    apply List.filter_eq_nil_iff.mpr
    intro e member
    simpa using machine.events_performs 0 (quiet _) member
  rw [split, apiRequests_append, one, none, List.append_nil]

end Sequences

/-! ## From the client to the handlers -/

section Routes

variable {w : World} {t : Tokens} {now : Time} {url : String} {outside : Nat → Env}

/-- With a pair that has not expired the client sends its request, after a refresh if
there are five minutes left or less. -/
theorem do_sends (held : w.store.tokens = some t) (refreshable : t.refreshToken ≠ "")
    (live : now.after t.expiresAt = false)
    (succeed : RefreshesSucceed now (machine.events 0 (Client.do' url) w (frozen now outside))) :
    SentFresh now url (machine.events 0 (Client.do' url) w (frozen now outside)) := by
  unfold Client.do' OAuthHandler.refreshIfNeeded Store.needsRefresh Store.getAccessToken
    OAuthHandler.refreshTokens OAuthHandler.doTokenRequest at succeed ⊢
  cases soon : Time.after (now + 5 * Time.minute) t.expiresAt with
  | false => simp [held, soon, live, SentFresh, isApiGet]
  | true =>
      cases answer : readTokenAnswer (outside 4).http with
      | error e =>
          obtain ⟨tokens, accepted, -⟩ := succeed
            (machine.event 0 w (.tokenRequest (OAuthHandler.refreshBody w.creds.creds
              t.refreshToken)) (frozen now outside 4))
            (by simp [held, soon, refreshable]) _ rfl
          simp [frozen, answer] at accepted
      | ok tokens =>
          obtain ⟨tokens', accepted, fresh⟩ := succeed
            (machine.event 0 w (.tokenRequest (OAuthHandler.refreshBody w.creds.creds
              t.refreshToken)) (frozen now outside 4))
            (by simp [held, soon, refreshable]) _ rfl
          obtain rfl : tokens = tokens' := by simpa [frozen, answer] using accepted
          simp [held, soon, refreshable, frozen, answer, fresh, SentFresh, isApiGet,
            OAuthHandler.storedTokens]

/-- What is done with the answer sends nothing. -/
theorem get_sends (held : w.store.tokens = some t) (refreshable : t.refreshToken ≠ "")
    (live : now.after t.expiresAt = false)
    (succeed : RefreshesSucceed now (machine.events 0 (Client.get url) w (frozen now outside))) :
    SentFresh now url (machine.events 0 (Client.get url) w (frozen now outside)) := by
  unfold Client.get at succeed ⊢
  apply SentFresh.bind (do_sends held refreshable live succeed.first)
  intro result
  cases result with
  | error e => exact Program.performs_ret _
  | ok resp =>
      have clears : (perform .storeClear).Performs fun a => isApiGet a = false :=
        Program.performs_perform rfl
      refine Program.Performs.ite (Program.Performs.ite ?_ (Program.performs_ret _)) ?_
      · exact clears.bind fun _ => Program.performs_ret _
      · cases resp.readError <;> exact Program.performs_ret _

/-- A list as a handler fetches it. -/
def fetchList {α : Type} (url : String) (zero : α) (element : Json.Decoder α)
    (json : Option (List α) → Json) : Prog (Except String Json) := do
  return (← Client.getList url zero element).map json

section Lists

variable {α : Type} {zero : α} {element : Json.Decoder α} {json : Option (List α) → Json}
  {failed : String} {r : Request}

theorem fetchList_sends (held : w.store.tokens = some t) (refreshable : t.refreshToken ≠ "")
    (live : now.after t.expiresAt = false)
    (succeed : RefreshesSucceed now
      (machine.events 0 (fetchList url zero element json) w (frozen now outside))) :
    SentFresh now url
      (machine.events 0 (fetchList url zero element json) w (frozen now outside)) := by
  unfold fetchList Client.getList at succeed ⊢
  apply SentFresh.bind
  · apply SentFresh.bind (get_sends held refreshable live succeed.first.first)
    intro data
    cases data <;> exact Program.performs_ret _
  · exact fun _ => Program.performs_ret _

/-- The events of a list handler whose guard has let the request through. -/
theorem handleTraktList_events (fetch : Prog (Except String Json)) (failed : String) (r : Request)
    (outside : Nat → Env) (held : w.store.tokens = some t) (named : t.username ≠ "")
    (live : now.after t.expiresAt = false) :
    ∃ f : Except String Json → Prog (Except Fault Response),
      (∀ result, (f result).Performs fun a => isApiGet a = false) ∧
      eventsOf (wired.handleTraktList fetch failed) r w now outside =
        [machine.event 0 w .storeGet (frozen now outside 0),
          machine.event 0 w .now (frozen now outside 1),
          machine.event 0 w .storeGet (frozen now outside 2)] ++
        machine.events 0 (fetch >>= f) w (frozen now fun n => outside (n + 3)) := by
  -- What follows the fetch is read off the handler.
  refine ⟨?_, ?quiet, ?whole⟩
  case whole =>
    unfold eventsOf Server.handleTraktList Store.isAuthenticated
    simp only [wired, held, live, named, Bool.not_true, Bool.or_self, Bool.false_eq_true, if_false,
      Program.perform_bind, Program.act_bind, Machine.events_act, Store.get_eq, frozen_now,
      Program.pure_eq, Program.ret_bind]
    rfl
  case quiet =>
    intro result
    cases result <;> exact Program.performs_ret _

/-- A list handler serves a session exactly as long as it has not expired. -/
theorem served_iff (held : w.store.tokens = some t) (refreshable : t.refreshToken ≠ "")
    (named : t.username ≠ "")
    (succeed : RefreshesSucceed now (eventsOf
      (wired.handleTraktList (fetchList url zero element json) failed) r w now outside)) :
    Served (wired.handleTraktList (fetchList url zero element json) failed) url r w now outside ↔
      now.after t.expiresAt = false := by
  constructor
  · rintro ⟨-, admitted⟩
    rw [handleTraktList_run, held] at admitted
    by_contra late
    simp [late] at admitted
  · intro live
    constructor
    · obtain ⟨f, quiet, whole⟩ := handleTraktList_events (fetchList url zero element json) failed r
        outside held named live
      rw [whole] at succeed ⊢
      have fetched : RefreshesSucceed now (machine.events 0 (fetchList url zero element json >>= f)
          w (frozen now fun n => outside (n + 3))) :=
        fun e member => succeed e (List.mem_append_right _ member)
      have sent := (fetchList_sends held refreshable live fetched.first).bind quiet
      simpa [SentFresh, isApiGet] using sent
    · rw [handleTraktList_run, held]
      simp only [live, named, Bool.false_eq_true, if_false]
      cases (Program.run machine (fetchList url zero element json) w _).1 <;>
        simp [listAnswer, httpError, encodeJson]

end Lists

/-- **A data route serves a session until it has expired.**  For every stored pair with a
refresh token and a username, and every time, before or after the expiry: if each refresh
that is asked for succeeds, a route sends its one request with an unexpired access token and
does not answer 401, if and only if the pair has not expired by then. -/
theorem data_routes_refresh_iff (held : w.store.tokens = some t) (refreshable : t.refreshToken ≠ "")
    (named : t.username ≠ "") (now : Time) (outside : Nat → Env) (r : Request) :
    (RefreshesSucceed now (eventsOf wired.handleTraktWatchlist r w now outside) →
      (Served wired.handleTraktWatchlist watchlistURL r w now outside ↔
        now.after t.expiresAt = false)) ∧
    (RefreshesSucceed now (eventsOf wired.handleTraktWatched r w now outside) →
      (Served wired.handleTraktWatched watchedURL r w now outside ↔
        now.after t.expiresAt = false)) := by
  constructor
  · intro succeed
    exact served_iff held refreshable named succeed
  · intro succeed
    exact served_iff held refreshable named succeed

end Routes

/-! ## A pair that has expired -/

/-- Whatever is asked is answered with a pair that lasts three months. -/
def renewing : Nat → Env := fun _ => newPair

theorem renewing_succeeds {handler : Handler} {r : Request} {w : World} {now : Time}
    (early : now.after (90 * 24 * 60 * Time.minute) = false) :
    RefreshesSucceed now (eventsOf handler r w now renewing) := by
  intro e member body _
  obtain ⟨n, same⟩ := machine.events_env 0 member
  rw [same]
  exact ⟨_, rfl, early⟩

/-- Two minutes later than `expiring`, at a token endpoint that accepts every refresh: `me`
refreshes the pair, but the lists answer 401 and send nothing. -/
theorem expired_session_refused :
    (∃ t, expiring.store.tokens = some t ∧ t.refreshToken ≠ "" ∧ t.username ≠ "") ∧
      (∃ tokens, readTokenAnswer newPair.http = .ok tokens ∧
        Time.after (2 * Time.minute)
          (Time.unixPlusSeconds tokens.createdAt tokens.expiresIn) = false) ∧
      (∀ r, saysConnected (askMe expiring (2 * Time.minute) renewing r).1 = true) ∧
      ∀ r, apiRequests (eventsOf wired.handleTraktWatchlist r expiring (2 * Time.minute)
          renewing) = [] ∧
        ¬ Served wired.handleTraktWatchlist watchlistURL r expiring (2 * Time.minute) renewing ∧
        apiRequests (eventsOf wired.handleTraktWatched r expiring (2 * Time.minute)
          renewing) = [] ∧
        ¬ Served wired.handleTraktWatched watchedURL r expiring (2 * Time.minute) renewing := by
  refine ⟨⟨_, rfl, by decide, by decide⟩, ⟨_, rfl, by decide⟩, fun r => by rfl, fun r => ?_⟩
  refine ⟨by rfl, fun served => ?_, by rfl, fun served => ?_⟩
  · exact served.admitted (by rfl)
  · exact served.admitted (by rfl)

/-- The rule at a pair that is about to expire. -/
theorem data_routes_refresh_expiring :
    Served wired.handleTraktWatchlist watchlistURL (.plain "/api/trakt/watchlist") expiring 0
        renewing ∧
      Served wired.handleTraktWatched watchedURL (.plain "/api/trakt/watched") expiring 0
        renewing := by
  have held : expiring.store.tokens =
      some ⟨"access-1", "refresh-1", Time.minute, "public", "alice"⟩ := rfl
  constructor
  · exact ((data_routes_refresh_iff held (by decide) (by decide) 0 renewing _).1
      (renewing_succeeds (by decide))).mpr (by decide)
  · exact ((data_routes_refresh_iff held (by decide) (by decide) 0 renewing _).2
      (renewing_succeeds (by decide))).mpr (by decide)

end VpsDashboard.Server
