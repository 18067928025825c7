/-
# VpsDashboard.Server.MeRace — the second reading of `me`

`me` reads the store, refreshes what has expired and reads the store again; it looks for
missing tokens after the first reading only.  Between its `Set` and the second reading any
other request may clear the store: a logout, a data request that is answered 401, or one
whose own refresh fails.

* `me_reads_username_of_nil` — a logout falls between the two, and `me` dereferences nil;
* `me_reads_username_of_tokens` — in every run of any requests in which, whenever `me` reads
  again after its own `Set`, the store has not been cleared last (`RefilledBeforeReread`),
  no request dereferences nil.
-/
import VpsDashboard.Foundation.Outputs
import VpsDashboard.Server.ConnectedUsable
import VpsDashboard.Trakt.Actions
import VpsDashboard.Trakt.SharedRefresh

namespace VpsDashboard.Server

open Foundation Trakt

set_option autoImplicit false
set_option linter.dupNamespace false

/-! ## Requests and their answers -/

/-- A request for `me`, or any other call that uses the token store. -/
inductive SessionCall where
  | me (r : Request)
  | call (c : Call)

def SessionCall.isMe : SessionCall → Bool
  | .me _ => true
  | .call _ => false

/-- The actions on the stores, and what `me` answers. -/
abbrev Answered := Visible Act (Except Fault Response)

abbrev AnsweredAns : Answered → Type := Visible.Ans Ans (Except Fault Response)

@[reducible] def sessionMachine : Machine Answered AnsweredAns Env World :=
  machine.visible (Except Fault Response)

abbrev SessionStep := Event Answered Env World
abbrev SessionHistory := List SessionStep

def SessionCall.program (s : Server) : SessionCall → Program Answered AnsweredAns Unit
  | .me r => do
      let answer ← (s.handleTraktMe r).visible
      Program.output answer
  | .call c => c.program.visible

def startSessions (s : Server) (w : World) (calls : List SessionCall) :
    Foundation.Config Answered AnsweredAns World :=
  ⟨w, calls.map (SessionCall.program s)⟩

/-! ## Faults, readings and writes -/

/-- A handler has dereferenced nil. -/
def faults : Answered → Bool
  | .out (.error _) => true
  | _ => false

def readsStore : Answered → Bool
  | .act .storeGet => true
  | _ => false

/-- Whether an action leaves tokens in the store, if it writes it. -/
def storeWrite : Answered → Option Bool
  | .act (.storeSet _) => some true
  | .act .storeClear => some false
  | _ => none

def storeWrites (h : SessionHistory) : List Bool := h.filterMap fun e => storeWrite e.act

@[simp] theorem storeWrites_append (left right : SessionHistory) :
    storeWrites (left ++ right) = storeWrites left ++ storeWrites right := List.filterMap_append

@[simp] theorem storeWrites_nil : storeWrites [] = [] := rfl

@[simp] theorem storeWrites_cons (e : SessionStep) (later : SessionHistory) :
    storeWrites (e :: later) = (storeWrite e.act).toList ++ storeWrites later := by
  cases write : storeWrite e.act <;> simp [storeWrites, write]

/-- Whenever `me` reads the store after it has itself stored tokens, whoever wrote the
store last has not cleared it. -/
def RefilledBeforeReread (calls : List SessionCall) (trace : SessionHistory) : Prop :=
  Everywhere (fun pre e => calls[e.thread]?.any SessionCall.isMe = true →
    readsStore e.act = true → true ∈ storeWrites (own e.thread pre) →
      (storeWrites pre).getLast? ≠ some false) trace

instance (calls : List SessionCall) (trace : SessionHistory) :
    Decidable (RefilledBeforeReread calls trace) :=
  inferInstanceAs (Decidable (Everywhere _ trace))

/-! ## What the store holds -/

/-- A write leaves tokens or not, anything else leaves the store as it is. -/
theorem storeWrite_exec (w : World) (a : Answered) (env : Env) :
    match storeWrite a with
    | some true => (sessionMachine.exec w a env).2.store.tokens ≠ none
    | some false => (sessionMachine.exec w a env).2.store.tokens = none
    | none => (sessionMachine.exec w a env).2.store = w.store := by
  cases a with
  | out answer => rfl
  | act a => cases a <;> simp [storeWrite, Machine.visible]

/-- The latest write says whether there are tokens. -/
theorem stored_of_last {s : Server} {w : World} {calls : List SessionCall} {trace : SessionHistory}
    {c : Foundation.Config Answered AnsweredAns World}
    (run : sessionMachine.Run (startSessions s w calls) trace c)
    (last : (storeWrites trace).getLast? = some true) : c.state.store.tokens ≠ none := by
  induction run with
  | start => simp [storeWrites] at last
  | @snoc trace c' c'' i env e run step ih =>
      obtain ⟨-, -, before, after, done⟩ := Machine.step_states step
      have effect := storeWrite_exec e.before e.act e.env
      rw [← done, after] at effect
      cases write : storeWrite e.act with
      | none =>
          simp [write] at last effect
          rw [effect, before]
          exact ih last
      | some filled =>
          cases filled with
          | true => simpa [write] using effect
          | false => simp [write] at last

/-! ## When `me` faults -/

/-- The latest thing the call did was to read an empty store, and it had stored tokens. -/
def RereadNothing (h : SessionHistory) : Prop :=
  ∃ earlier e, h = earlier ++ [e] ∧ readsStore e.act = true ∧ e.before.store.tokens = none ∧
    true ∈ storeWrites earlier

/-- Only `me` dereferences nil, and only after such a reading. -/
def SessionCall.issues (call : SessionCall) (h : SessionHistory) (a : Answered) : Prop :=
  faults a = true → call.isMe = true ∧ RereadNothing h

section Functions

variable {call : SessionCall} {i : Nat} {h : SessionHistory}

abbrev SessionCall.logic (call : SessionCall) (i : Nat) : Logic Act Ans SessionHistory :=
  (sessionMachine.historyLogic i call.issues).actions

theorem SessionCall.issues_act (call : SessionCall) (h : SessionHistory) (a : Act) :
    call.issues h (.act a) := nofun

/-- A refresh that succeeds has stored tokens. -/
theorem refreshTokens_stores {Q : Except String Unit → SessionHistory → Prop}
    (failed : ∀ e h', Q (.error e) h') (done : ∀ h', true ∈ storeWrites h' → Q (.ok ()) h') :
    OAuthHandler.refreshTokens.wp (call.logic i) Q h := by
  refine OAuthHandler.refreshTokens_wp (call.issues_act _ _) (fun _ e h' _ _ => failed e h')
    (fun _ _ _ => call.issues_act _ _) fun t _ c _ _ _ _ => ⟨call.issues_act _ _, ?_⟩
  intro answer h₃ _
  cases readTokenAnswer answer with
  | error e => exact failed e h₃
  | ok tokens =>
      refine ⟨call.issues_act _ _, ?_⟩
      rintro h₄ ⟨w, env, -, rfl⟩
      exact done _ (by simp [storeWrite])

theorem handleTraktMe_issues (s : Server) (r : Request) (me : call.isMe = true) :
    (s.handleTraktMe r).wp (call.logic i) (fun answer h' => call.issues h' (.out answer)) h := by
  unfold Server.handleTraktMe
  rw [Program.wp_ite]
  split
  · exact nofun
  · apply Machine.wp_actions_perform (call.issues_act _ _)
    intro w env
    simp only [Store.get_eq]
    cases w.store.tokens with
    | none => exact nofun
    | some t =>
        apply Machine.wp_actions_perform (call.issues_act _ _)
        intro w' env'
        rw [Program.wp_ite]
        split
        · rw [Program.wp_bind]
          refine refreshTokens_stores (fun e h' => nofun) fun h' stored => ?_
          apply Machine.wp_actions_perform (call.issues_act _ _)
          intro w'' env''
          simp only [Store.get_eq]
          cases held : w''.store.tokens with
          | none => exact fun _ => ⟨me, h', _, rfl, rfl, held, stored⟩
          | some t' => exact nofun
        · exact nofun

theorem SessionCall.program_issues (s : Server) (call : SessionCall) (i : Nat) :
    (call.program s).wp (sessionMachine.historyLogic i call.issues) (fun _ _ => True) [] := by
  cases call with
  | me r =>
      unfold SessionCall.program
      rw [Program.wp_bind, Program.wp_visible]
      refine Program.wp_mono _ ?_ (handleTraktMe_issues s r rfl)
      intro answer h' asRead
      exact Machine.wp_history_act.mpr ⟨asRead, fun _ _ => trivial⟩
  | call c =>
      unfold SessionCall.program
      rw [Program.wp_visible]
      apply Program.wp_of_performs (fun _ => True) c.program.performs_all
      · exact fun _ _ _ => nofun
      · exact fun _ _ => trivial

end Functions

/-! ## Runs -/

section Runs

variable {s : Server} {w : World} {calls : List SessionCall} {trace : SessionHistory}
  {c : Foundation.Config Answered AnsweredAns World}

theorem run_faults {pre post : SessionHistory} {e : SessionStep}
    (run : sessionMachine.Run (startSessions s w calls) (pre ++ e :: post) c)
    (fault : faults e.act = true) :
    calls[e.thread]?.any SessionCall.isMe = true ∧ RereadNothing (own e.thread pre) := by
  obtain ⟨p, found⟩ := run.thread_some (e := e) (by simp)
  have thread := found
  rw [startSessions, List.getElem?_map, Option.map_eq_some_iff] at thread
  obtain ⟨call, called, rfl⟩ := thread
  obtain ⟨me, reread⟩ := run.issued found (call.program_issues s e.thread) fault
  exact ⟨by simp [called, me], reread⟩

/-- **`me` reads the username of tokens.**  In every run, with any requests and order of
their steps, from any state of the store: if the store has not been cleared last whenever
`me` reads it again after its own `Set`, no request dereferences nil. -/
theorem me_reads_username_of_tokens
    (run : sessionMachine.Run (startSessions s w calls) trace c)
    (refilled : RefilledBeforeReread calls trace) : ∀ e ∈ trace, faults e.act = false := by
  intro e member
  obtain ⟨pre, post, rfl⟩ := List.append_of_mem member
  by_contra fault
  rw [Bool.not_eq_false] at fault
  obtain ⟨me, earlier, read, mine, reads, nothing, stored⟩ := run_faults run fault
  obtain ⟨same, left, right, rfl, rfl⟩ := own_eq_concat mine
  rw [List.append_assoc] at run refilled
  have kept : (storeWrites left).getLast? ≠ some false := by
    apply refilled.at (by rwa [same]) reads
    rwa [same]
  have last : (storeWrites left).getLast? = some true := by
    have written : true ∈ storeWrites left := by
      obtain ⟨write, inside, filled⟩ := List.mem_filterMap.mp stored
      exact List.mem_filterMap.mpr ⟨write, (List.mem_filter.mp inside).1, filled⟩
    cases latest : (storeWrites left).getLast? with
    | none => simp [List.getLast?_eq_none_iff.mp latest] at written
    | some filled =>
        cases filled with
        | true => rfl
        | false => exact absurd latest kept
  obtain ⟨c₁, _, first, step, -⟩ := run.at
  apply stored_of_last first last
  rw [← (Machine.step_states step).2.2.1]
  exact nothing

end Runs

/-! ## A logout in between -/

/-- Two minutes later: the pair of `expiring` has expired. -/
def late : Env := { answering 200 none with now := 2 * Time.minute }

/-- `me` refreshes, up to its `Set`. -/
def refreshing : List (Nat × Env) :=
  [(0, late), (0, late), (0, late), (0, late), (0, newPair), (0, late)]

def meAndLogout : List SessionCall := [.me (.plain "/api/auth/trakt/me"), .call .logout]

def sessionsFor (calls : List SessionCall) (schedule : List (Nat × Env)) : SessionHistory :=
  (sessionMachine.runFor (startSessions wired expiring calls) schedule).1

/-- The logout is done between the `Set` of `me` and its second reading. -/
theorem me_reads_username_of_nil :
    ∃ e ∈ sessionsFor meAndLogout (refreshing ++ [(1, late), (0, late), (0, late)]),
      e.thread = 0 ∧ faults e.act = true :=
  ⟨_, List.mem_of_getElem? (i := 8) rfl, rfl, rfl⟩

/-- The rule when the logout is done after it. -/
theorem me_reads_username_before_logout :
    (sessionsFor meAndLogout (refreshing ++ [(0, late), (1, late), (0, late)])).any
      (fun e => faults e.act) = false := by
  rw [List.any_eq_false]
  intro e member
  rw [Bool.not_eq_true]
  exact me_reads_username_of_tokens
    (sessionMachine.run_runFor (startSessions wired expiring meAndLogout)
      (refreshing ++ [(0, late), (1, late), (0, late)])) (by decide) e member

end VpsDashboard.Server
