/-
# VpsDashboard.Trakt.LogoutRace — calls that outlive a logout

After a logout the store should hold no tokens, in memory and on disk, until a
login that began after the logout stores new ones (`LogoutFinal`).  A refresh and
a login hold no lock and no generation between reading what they start from and
their final `Set`.

* `calls_survive_logout` — a refresh and a login that were under way when the store
  was cleared put tokens back into it;
* `logout_final` — in every run in which no call stores tokens across a logout
  (`StoresWithinSession`), a logout is final.
-/
import VpsDashboard.Trakt.SharedRefresh

namespace VpsDashboard.Trakt

open Foundation

set_option autoImplicit false

/-! ## Final logouts -/

def isLogout (calls : List Call) (e : Step) : Bool :=
  e.act == .storeClear && calls[e.thread]? == some .logout

def Act.storesTokens : Act → Bool
  | .storeSet _ => true
  | _ => false

/-- A login that had not begun in `pre` stored tokens in `later`. -/
def FreshLogin (calls : List Call) (pre later : History) : Prop :=
  ∃ e ∈ later, e.act.storesTokens = true ∧ calls[e.thread]?.any Call.isExchange = true ∧
    (own e.thread pre).isEmpty = true

/-- Since each logout of the trace a fresh login has stored tokens, or there are
none in memory and no token file. -/
def LogoutFinal (calls : List Call) (trace : History) (s : Store) : Prop :=
  ∀ pre e later, trace = pre ++ e :: later → isLogout calls e = true →
    FreshLogin calls pre later ∨ s = ⟨none, none⟩

theorem LogoutFinal.get {calls : List Call} {events : History} {s : Store}
    (final : LogoutFinal calls events s) {n : Nat} {e : Step} (found : events[n]? = some e)
    (logout : isLogout calls e = true) :
    FreshLogin calls (events.take n) (events.drop (n + 1)) ∨ s = ⟨none, none⟩ := by
  obtain ⟨inside, rfl⟩ := List.getElem?_eq_some_iff.mp found
  refine final _ _ _ ?_ logout
  rw [← List.drop_eq_getElem_cons inside, List.take_append_drop]

/-- Whether, in a history with its latest event first, a logout has cleared the
store since call `i` began and since it last read the store. -/
def loggedOutSince (calls : List Call) (i : Nat) : History → Bool
  | [] => false
  | e :: earlier =>
      if e.thread = i ∧ e.act = .storeGet then false
      else if isLogout calls e then !(own i earlier).isEmpty
      else loggedOutSince calls i earlier

/-- No logout falls between the moment a login begins, or a refresh reads the
tokens to refresh, and the moment it stores the new ones. -/
def StoresWithinSession (calls : List Call) (trace : History) : Prop :=
  Everywhere (fun pre e => e.act.storesTokens = true →
    loggedOutSince calls e.thread pre.reverse = false) trace

instance (calls : List Call) (trace : History) : Decidable (StoresWithinSession calls trace) :=
  inferInstanceAs (Decidable (Everywhere _ trace))

/-! ## What holds after a logout -/

/-- After a logout that followed `pre`, with no fresh login since: the store is
empty, and every call that could still store tokens has been logged out. -/
structure AfterLogout (calls : List Call) (pre trace : History) (s : Store) : Prop where
  empty : s = ⟨none, none⟩
  readers : ∀ i t, lastRead (own i trace) = some (some t) →
    loggedOutSince calls i trace.reverse = true
  logins : ∀ i, calls[i]?.any Call.isExchange = true → own i pre ≠ [] →
    own i trace ≠ [] ∧ loggedOutSince calls i trace.reverse = true

theorem own_reverse (i : Nat) (trace : History) :
    (own i trace.reverse).isEmpty = (own i trace).isEmpty := by
  simp [own, List.filter_reverse]

theorem own_ne_nil_of_lastRead {i : Nat} {trace : History} {read : Option Tokens}
    (found : lastRead (own i trace) = some read) : own i trace ≠ [] := by
  intro none
  simp [none] at found

theorem afterLogout_start {calls : List Call} {pre : History} {e : Step} {s : Store}
    (logout : isLogout calls e = true) (empty : s = ⟨none, none⟩) :
    AfterLogout calls pre (pre ++ [e]) s := by
  have clears : e.act = .storeClear := by
    simp only [isLogout, Bool.and_eq_true, beq_iff_eq] at logout
    exact logout.1
  have since : ∀ i, own i pre ≠ [] → loggedOutSince calls i (pre ++ [e]).reverse = true := by
    intro i begun
    rw [List.reverse_concat, loggedOutSince, if_neg (by simp [clears]), if_pos logout, own_reverse]
    simpa using begun
  refine ⟨empty, fun i t found => ?_, fun i _ begun => ⟨?_, since i begun⟩⟩
  · rw [lastRead_own_snoc, if_neg (by simp [clears])] at found
    exact since i (own_ne_nil_of_lastRead found)
  · rw [own_append]
    exact List.append_ne_nil_of_left_ne_nil begun _

/-- An event that stores no tokens keeps the store empty and every call logged out. -/
theorem afterLogout_step {calls : List Call} {pre trace : History} {e : Step}
    (held : AfterLogout calls pre trace e.before.store)
    (done : e.after = (exec e.before e.act e.env).2) (quiet : e.act.storesTokens = false)
    (reads : e.act = .storeGet → calls[e.thread]?.any Call.isExchange = false) :
    AfterLogout calls pre (trace ++ [e]) e.after.store := by
  have since : ∀ i, (e.thread = i → e.act ≠ .storeGet) → own i trace ≠ [] →
      loggedOutSince calls i trace.reverse = true →
      loggedOutSince calls i (trace ++ [e]).reverse = true := by
    intro i noRead begun before
    rw [List.reverse_concat, loggedOutSince, if_neg fun own => noRead own.1 own.2]
    split
    · rw [own_reverse]
      simpa using begun
    · exact before
  constructor
  case empty =>
    rw [done]
    cases kind : e.act with
    | storeClear => rfl
    | storeSet t => simp [Act.storesTokens, kind] at quiet
    | _ => exact held.empty
  case readers =>
    intro i t found
    rw [lastRead_own_snoc] at found
    by_cases mine : e.thread = i ∧ e.act = .storeGet
    · rw [if_pos mine, held.empty] at found
      simp at found
    · rw [if_neg mine] at found
      exact since i (fun same get => mine ⟨same, get⟩) (own_ne_nil_of_lastRead found)
        (held.readers i t found)
  case logins =>
    intro i login begun
    obtain ⟨already, before⟩ := held.logins i login begun
    refine ⟨?_, since i ?_ already before⟩
    · rw [own_append]
      exact List.append_ne_nil_of_left_ne_nil already _
    · rintro rfl get
      rw [reads get] at login
      cases login

/-- Whatever follows a logout, a fresh login has stored tokens or all of the above
still holds. -/
theorem afterLogout_run {w : World} {calls : List Call} {pre later : History} {e : Step}
    {c : Config Act Ans World} (run : machine.Run (start w calls) (pre ++ e :: later) c)
    (logout : isLogout calls e = true)
    (within : StoresWithinSession calls (pre ++ e :: later)) :
    FreshLogin calls pre later ∨
      AfterLogout calls pre (pre ++ e :: later) c.state.store := by
  induction later using List.reverseRecOn generalizing c with
  | nil =>
      right
      obtain ⟨c', _, step⟩ := run.last
      obtain ⟨-, -, -, after, done⟩ := Machine.step_states step
      apply afterLogout_start logout
      simp only [isLogout, Bool.and_eq_true, beq_iff_eq] at logout
      rw [← after, done, logout.1]
      rfl
  | append_singleton later f ih =>
      have whole : pre ++ e :: (later ++ [f]) = (pre ++ e :: later) ++ [f] := by simp
      rw [whole] at run within ⊢
      obtain ⟨c', earlier, step⟩ := run.last
      obtain ⟨-, -, before, after, done⟩ := Machine.step_states step
      obtain ⟨call, called, issued⟩ := run_issues run
      rcases ih earlier within.prefix with ⟨login, member, stored⟩ | held
      · exact .inl ⟨login, List.mem_append_left _ member, stored⟩
      rw [← before] at held
      cases stores : f.act.storesTokens with
      | false =>
          right
          rw [← after]
          apply afterLogout_step held done stores
          intro get
          rw [get] at issued
          simp [called, show call.isExchange = false from issued]
      | true =>
          have current : loggedOutSince calls f.thread (pre ++ e :: later).reverse = false :=
            within.at stores
          cases kind : f.act with
          | storeSet t =>
              rw [kind] at issued
              rcases issued with login | ⟨read, found⟩
              · left
                refine ⟨f, by simp, stores, by simp [called, login], ?_⟩
                rw [List.isEmpty_iff]
                by_contra begun
                have past := (held.logins f.thread (by simp [called, login]) begun).2
                rw [current] at past
                cases past
              · have past := held.readers f.thread read found
                rw [current] at past
                cases past
          | _ => simp [Act.storesTokens, kind] at stores

/-- **A logout is final.**  In every run in which no logout falls between the moment
a login begins, or a refresh reads its tokens, and the moment it stores new ones,
the store and its file hold nothing after a logout until a login that began later
stores its tokens. -/
theorem logout_final {w : World} {calls : List Call} {trace : History}
    {c : Config Act Ans World} (run : machine.Run (start w calls) trace c)
    (within : StoresWithinSession calls trace) : LogoutFinal calls trace c.state.store := by
  rintro pre e later rfl logout
  exact (afterLogout_run run logout within).imp id fun held => held.empty

/-! ## Calls under way at a logout -/

/-- A refresh has its answer, the logout clears the store, the refresh stores it. -/
def refreshAcrossLogout : List (Nat × Env) :=
  let quiet := answering 401 none
  [(0, quiet), (0, quiet), (0, newPair), (1, quiet), (0, quiet)]

/-- A login waits for the username of its new tokens while the logout clears the
store. -/
def loginAcrossLogout : List (Nat × Env) :=
  let quiet := answering 401 none
  [(0, quiet), (0, newPair), (0, quiet), (1, quiet), (0, quiet), (0, quiet), (0, quiet)]

theorem calls_survive_logout :
    ¬ LogoutFinal [.refresh, .logout]
        (machine.runFor (start expiring [.refresh, .logout]) refreshAcrossLogout).1
        (machine.runFor (start expiring [.refresh, .logout]) refreshAcrossLogout).2.state.store ∧
      ¬ LogoutFinal [.exchange "code" "", .logout]
        (machine.runFor (start expiring [.exchange "code" "", .logout]) loginAcrossLogout).1
        (machine.runFor (start expiring [.exchange "code" "", .logout])
          loginAcrossLogout).2.state.store := by
  constructor
  · intro final
    rcases final.get (n := 3) (by rfl) (by rfl) with login | empty
    · revert login
      unfold FreshLogin
      decide
    · revert empty
      decide
  · intro final
    rcases final.get (n := 3) (by rfl) (by rfl) with login | empty
    · revert login
      unfold FreshLogin
      decide
    · revert empty
      decide

/-- A refresh that is over, a logout, and a login that begins after it. -/
def loginAfterLogout : List (Nat × Env) :=
  let quiet := answering 401 none
  [(0, quiet), (0, quiet), (0, newPair), (0, quiet), (1, quiet), (2, quiet), (2, newPair),
   (2, quiet), (2, quiet), (2, quiet)]

/-- The rule where the tokens present at the end come from the later login. -/
theorem login_after_logout :
    (machine.runFor (start expiring [.refresh, .logout, .exchange "code" ""])
        loginAfterLogout).2.state.store.tokens ≠ none ∧
      LogoutFinal [.refresh, .logout, .exchange "code" ""]
        (machine.runFor (start expiring [.refresh, .logout, .exchange "code" ""])
          loginAfterLogout).1
        (machine.runFor (start expiring [.refresh, .logout, .exchange "code" ""])
          loginAfterLogout).2.state.store :=
  ⟨by decide, logout_final (machine.run_runFor _ _) (by decide)⟩

end VpsDashboard.Trakt
