/-
# VpsDashboard.Trakt.SharedRefresh — who may remove a token pair from the store

A pair that a refresh or a login has stored should stay until a logout, or until
a request that used that very pair has failed (`RemovedOnlyByUser`).  The code
checks the store, sends its request and clears the store in separate steps, and
it clears whatever the store holds by then.

* `shared_refresh_clears_new_pair` — two data requests see one expiring pair;
  the refresh of the first succeeds and its new pair is stored, the refresh of
  the second is refused because the refresh token is used up, and its `Clear`
  removes the new pair.
* `removed_only_by_user` — in every run in which a request never clears a pair
  stored after it last read the store (`ClearsWhatItRead`), a pair is removed
  only by a logout or by a failed request that used it.
-/
import VpsDashboard.Trakt.Sessions

namespace VpsDashboard.Trakt

open Foundation

set_option autoImplicit false

/-! ## Writes and removals -/

/-- Both tokens are there. -/
def Tokens.IsPair (t : Tokens) : Prop := t.accessToken ≠ "" ∧ t.refreshToken ≠ ""

/-- A refresh or an exchange stored these tokens earlier. -/
def Written (t : Tokens) (pre : History) : Prop := ∃ e ∈ pre, e.act = .storeSet t

/-- The store becomes empty while it holds these tokens. -/
def Removal (t : Tokens) (e : Step) : Prop :=
  e.before.store.tokens = some t ∧ e.after.store.tokens = none

/-- A stored pair is removed only by a logout, or by the failure of a request that
itself used that very pair. -/
def RemovedOnlyByUser (calls : List Call) (trace : History) : Prop :=
  Everywhere (fun pre e => ∀ t, t.IsPair → Written t pre → Removal t e →
    calls[e.thread]? = some .logout ∨ UsedAndFailed t (own e.thread pre)) trace

/-- Whether, in a history with its latest event first, tokens were stored after
thread `i` last read the store. -/
def overwritten (i : Nat) : History → Bool
  | [] => false
  | e :: earlier =>
      match e.act with
      | .storeSet _ => true
      | .storeGet => if e.thread = i then false else overwritten i earlier
      | _ => overwritten i earlier

/-- A request that clears the store finds it empty, or not written since the
request last read it. -/
def ClearsWhatItRead (calls : List Call) (trace : History) : Prop :=
  Everywhere (fun pre e => e.act = .storeClear → calls[e.thread]? ≠ some .logout →
    e.before.store.tokens = none ∨ overwritten e.thread pre.reverse = false) trace

instance (calls : List Call) (trace : History) : Decidable (ClearsWhatItRead calls trace) :=
  inferInstanceAs (Decidable (Everywhere _ trace))

/-! ## What a thread last read is what the store holds -/

/-- Until the next write the store holds what a thread last read, or nothing. -/
theorem current_or_gone {w : World} {calls : List Call} {trace : History}
    {c : Config Act Ans World} (run : machine.Run (start w calls) trace c) {i : Nat}
    {read : Option Tokens} (found : lastRead (own i trace) = some read)
    (untouched : overwritten i trace.reverse = false) :
    c.state.store.tokens = read ∨ c.state.store.tokens = none := by
  induction run with
  | start => simp at found
  | @snoc trace c' c'' j env e run step ih =>
      obtain ⟨-, -, before, after, done⟩ := Machine.step_states step
      rw [lastRead_own_snoc] at found
      rw [List.reverse_concat] at untouched
      rw [← after, done]
      cases kind : e.act with
      | storeSet t => simp [overwritten, kind] at untouched
      | storeClear => right; rfl
      | storeGet =>
          by_cases mine : e.thread = i
          · left
            simpa [mine, kind] using found
          · simp only [mine, false_and, if_false] at found
            simp only [overwritten, kind, mine, if_false] at untouched
            simpa [before] using ih found untouched
      | _ =>
          simp only [kind, reduceCtorEq, and_false, if_false] at found
          simp only [overwritten, kind] at untouched
          simpa [before] using ih found untouched

/-- **A pair outlives the requests that did not use it.**  In every run in which a
request that clears the store finds it empty or not written since it last read
it, a stored pair is removed only by a logout or by the failure of a request that
used that pair. -/
theorem removed_only_by_user {w : World} {calls : List Call} {trace : History}
    {c : Config Act Ans World} (run : machine.Run (start w calls) trace c)
    (cautious : ClearsWhatItRead calls trace) : RemovedOnlyByUser calls trace := by
  apply everywhere_of_at
  intro pre e post split t pair _ removal
  subst split
  have done : e.after = (exec e.before e.act e.env).2 := run.event_after (by simp)
  have clears : e.act = .storeClear := exec_empties removal.1 (done ▸ removal.2)
  obtain ⟨call, called, issued⟩ := run_issues run
  rw [clears] at issued
  rcases issued with rfl | ⟨read, found, spent⟩
  · exact .inl called
  · by_cases logout : calls[e.thread]? = some .logout
    · exact .inl logout
    · right
      obtain ⟨c₁, _, earlier, step, -⟩ := run.at
      have before := (Machine.step_states step).2.2.1
      have held : c₁.state.store.tokens = some t := by rw [← before]; exact removal.1
      have untouched : overwritten e.thread pre.reverse = false := by
        rcases cautious.at clears logout with gone | untouched
        · rw [removal.1] at gone; cases gone
        · exact untouched
      rcases current_or_gone earlier found untouched with same | gone
      · rcases spent t (by rw [← same, held]) with blank | used
        · exact absurd blank pair.2
        · exact used
      · rw [held] at gone; cases gone

/-! ## Two data requests and one refresh token -/

/-- The refresh tokens that the endpoint accepted. -/
def acceptedRefreshes (trace : History) : List String :=
  trace.filterMap fun e =>
    match e.act, readTokenAnswer e.env.http with
    | .tokenRequest body, .ok _ =>
        if body.grantType = "refresh_token" then some body.refreshToken else none
    | _, _ => none

/-- The pairs that the endpoint gave out. -/
def issuedPairs (trace : History) : List (String × String) :=
  trace.filterMap fun e =>
    match e.act, readTokenAnswer e.env.http with
    | .tokenRequest _, .ok tokens => some (tokens.accessToken, tokens.refreshToken)
    | _, _ => none

/-- An endpoint that accepts each refresh token at most once and answers with a
fresh pair. -/
structure RotatingEndpoint (w : World) (trace : History) : Prop where
  once : (acceptedRefreshes trace).Nodup
  whole : ∀ pair ∈ issuedPairs trace, pair.1 ≠ "" ∧ pair.2 ≠ ""
  freshAccess : (w.store.tokens.toList.map (·.accessToken) ++
    (issuedPairs trace).map Prod.fst).Nodup
  freshRefresh : (w.store.tokens.toList.map (·.refreshToken) ++
    (issuedPairs trace).map Prod.snd).Nodup

/-- A pair that expires within five minutes of the clock's zero. -/
def expiring : World where
  store := ⟨some ⟨"access-1", "refresh-1", Time.minute, "public", "alice"⟩,
    some ⟨"access-1", "refresh-1", Time.minute, "public", "alice"⟩⟩
  creds := ⟨⟨"id", "secret", ""⟩, "", none⟩

def newPair : Env := answering 200 (some (.obj
  [("access_token", .str "access-2"), ("refresh_token", .str "refresh-2"),
   ("expires_in", .int 7776000), ("created_at", .int 0)]))

def twoRequests : List Call :=
  [.data "https://api.trakt.tv/users/me/watchlist/movies",
   .data "https://api.trakt.tv/users/me/watched/movies"]

/-- Both requests find the pair expiring and read it; request 0 refreshes it and
stores the new pair, then request 1 sends the same refresh token, is refused and
clears the store. -/
def overlappingRefreshes : List (Nat × Env) :=
  let quiet := answering 401 none
  [(0, quiet), (0, quiet), (0, quiet), (1, quiet), (1, quiet), (1, quiet),
   (0, quiet), (0, newPair), (0, quiet), (1, quiet), (1, quiet), (1, quiet), (0, quiet)]

/-- Two parallel data requests, as the frontend sends them, end with no session
although one of their refreshes succeeded. -/
theorem shared_refresh_clears_new_pair :
    ∃ trace c, machine.Run (start expiring twoRequests) trace c ∧
      RotatingEndpoint expiring trace ∧ issuedPairs trace = [("access-2", "refresh-2")] ∧
      c.state.store = ⟨none, none⟩ ∧ c.threads = [.ret (), .ret ()] ∧
      ¬ RemovedOnlyByUser twoRequests trace := by
  refine ⟨_, _, machine.run_runFor _ overlappingRefreshes, ?_, by rfl, by rfl, by rfl, ?_⟩
  · exact ⟨by decide, by decide, by decide, by decide⟩
  · intro removed
    have justified := removed.get (n := 11) (by rfl)
      (OAuthHandler.storedTokens ⟨"access-2", "refresh-2", 7776000, 0, "", ""⟩ "alice")
      ⟨by decide, by decide⟩ ⟨_, List.mem_of_getElem? (i := 8) (by rfl), by rfl⟩
      ⟨by rfl, by rfl⟩
    revert justified
    unfold UsedAndFailed
    decide

def rejectedAfterRefresh : List (Nat × Env) :=
  let quiet := answering 401 none
  [(0, quiet), (0, quiet), (0, quiet), (0, quiet), (0, newPair), (0, quiet), (0, quiet),
   (0, quiet), (0, quiet), (0, quiet), (0, quiet)]

/-- The rule at a request that refreshes the pair, is answered 401 with the new
access token and clears it. -/
theorem own_rejection_removes_pair :
    (machine.runFor (start expiring [.data "https://api.trakt.tv/users/settings"])
        rejectedAfterRefresh).2.state.store.tokens = none ∧
      RemovedOnlyByUser [.data "https://api.trakt.tv/users/settings"]
        (machine.runFor (start expiring [.data "https://api.trakt.tv/users/settings"])
          rejectedAfterRefresh).1 :=
  ⟨by rfl, removed_only_by_user (machine.run_runFor _ _) (by decide)⟩

end VpsDashboard.Trakt
