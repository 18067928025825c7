/-
# VpsDashboard.Frontend.TwoSessions — the session of the Crosswatch widget, held twice

`CrosswatchWidget` calls `useTraktAuth` for the name it shows and for its buttons, and
`useCrosswatch` calls it again for `hasTrakt`, which decides what is shown.  Each call has a
state of its own: it asks `/me` once, when it is mounted, and `logout` resets only the state
of the call it was taken from, which is the first.

* `disconnect_keeps_connected_view` — both copies are connected, the button is pressed and
  the logout is done: the copies differ, and the connected view stays;
* `sessions_agree_iff` — in every run in which the server answers both copies alike
  (`Steady`): the copies agree whenever nothing is in flight, and no connected view outlasts
  a logout, if and only if no logout is answered while the widget is mounted.
-/
import VpsDashboard.Foundation.Guarded

namespace VpsDashboard.Frontend

open Foundation

set_option autoImplicit false

/-! ## One call of the hook -/

structure TraktAuthState where
  connected : Bool
  username : String
deriving DecidableEq

/-- What comes back from `/me`: nothing, an error status, a body that is not read, or the
session. -/
inductive MeResponse where
  | failed
  | refused
  | unreadable
  | session (connected : Bool) (username : Option String)
deriving DecidableEq

/-- A request for `/me`: on its way, or answered by the server and on its way back. -/
inductive MeRequest where
  | sent
  | served (res : MeResponse)
deriving DecidableEq

/-- The state of one call of `useTraktAuth`. -/
structure TraktAuth where
  auth : TraktAuthState
  loading : Bool
  request : Option MeRequest
deriving DecidableEq

namespace TraktAuth

/-- The effect has sent the request. -/
def mount : TraktAuth := ⟨⟨false, ""⟩, true, some .sent⟩

/-- `checkAuth` from the response on. -/
def checkAuth (h : TraktAuth) : MeResponse → TraktAuth
  | .failed | .unreadable => ⟨⟨false, ""⟩, false, none⟩
  | .refused => ⟨h.auth, false, none⟩
  | .session connected username => ⟨⟨connected, username.getD ""⟩, false, none⟩

/-- `logout` after its request. -/
def loggedOut (h : TraktAuth) : TraktAuth := { h with auth := ⟨false, ""⟩ }

end TraktAuth

/-! ## The widget -/

/-- Which call of the hook: that of the widget, or that of `useCrosswatch`. -/
inductive Hook where
  | own
  | crosswatch
deriving DecidableEq

/-- `logouts` counts the logout requests in flight. -/
structure SessionWidget where
  own : TraktAuth
  crosswatch : TraktAuth
  logouts : Nat
deriving DecidableEq

namespace SessionWidget

def mount : SessionWidget := ⟨.mount, .mount, 0⟩

def hook (w : SessionWidget) : Hook → TraktAuth
  | .own => w.own
  | .crosswatch => w.crosswatch

def setHook (w : SessionWidget) (h : TraktAuth) : Hook → SessionWidget
  | .own => { w with own := h }
  | .crosswatch => { w with crosswatch := h }

/-- What decides between the connected view and the other. -/
def hasTrakt (w : SessionWidget) : Bool := w.crosswatch.auth.connected

def Quiet (w : SessionWidget) : Prop :=
  w.own.request = none ∧ w.crosswatch.request = none ∧ w.logouts = 0

@[simp] theorem hook_setHook (w : SessionWidget) (h : TraktAuth) (k k' : Hook) :
    (w.setHook h k).hook k' = if k' = k then h else w.hook k' := by
  cases k <;> cases k' <;> rfl

@[simp] theorem setHook_logouts (w : SessionWidget) (h : TraktAuth) (k : Hook) :
    (w.setHook h k).logouts = w.logouts := by
  cases k <;> rfl

end SessionWidget

/-- `me` is what the server would answer now, and `widget` the widget while it is mounted. -/
structure SessionPage where
  me : MeResponse
  widget : Option SessionWidget
deriving DecidableEq

inductive SessionAction where
  | mount
  | unmount
  /-- A login, a logout or an expiry changes what the server answers. -/
  | server (me : MeResponse)
  /-- The server answers a request for `/me`. -/
  | serve (k : Hook)
  /-- The answer arrives. -/
  | deliver (k : Hook)
  | login
  | logout
  /-- The request of `logout` is answered, or fails. -/
  | logoutDone
  | logoutFailed
deriving DecidableEq

namespace SessionPage

def step (s : SessionPage) : SessionAction → Option SessionPage
  | .mount => if s.widget = none then some { s with widget := some .mount } else none
  | .unmount => some { s with widget := none }
  | .server me => some { s with me := me }
  | .serve k => do
      let w ← s.widget
      match (w.hook k).request with
      | some .sent =>
          return { s with widget := w.setHook { w.hook k with request := some (.served s.me) } k }
      | _ => none
  | .deliver k => do
      let w ← s.widget
      match (w.hook k).request with
      | some (.served res) => return { s with widget := w.setHook ((w.hook k).checkAuth res) k }
      | _ => none
  | .login => do
      let w ← s.widget
      -- the browser leaves the page
      if w.hasTrakt then none else return { s with widget := none }
  | .logout => do
      let w ← s.widget
      if w.hasTrakt then return { s with widget := some { w with logouts := w.logouts + 1 } }
      else none
  | .logoutDone => do
      let w ← s.widget
      if w.logouts = 0 then none
      else return { s with widget := some { w with
        own := w.own.loggedOut, logouts := w.logouts - 1 } }
  | .logoutFailed => do
      let w ← s.widget
      if w.logouts = 0 then none
      else return { s with widget := some { w with logouts := w.logouts - 1 } }

def initial (me : MeResponse) : SessionPage := ⟨me, none⟩

end SessionPage

open SessionPage

/-! ## Agreement -/

/-- The server does not change its answer between those to the two calls. -/
def Steady (s : SessionPage) : SessionAction → Prop
  | .server me => me = s.me ∨
      ∀ w ∈ s.widget, (w.own.request = some .sent ↔ w.crosswatch.request = some .sent)
  | _ => True

instance (s : SessionPage) (a : SessionAction) : Decidable (Steady s a) :=
  match a with
  | .server _ => inferInstanceAs (Decidable (_ ∨ _))
  | .mount | .unmount | .serve _ | .deliver _ | .login | .logout | .logoutDone | .logoutFailed =>
      inferInstanceAs (Decidable True)

/-- The two copies agree once nothing is in flight. -/
def SessionPage.Agrees (s : SessionPage) : Prop :=
  ∀ w ∈ s.widget, w.Quiet → w.own.auth.connected = w.hasTrakt

/-- In every state of the run the copies agree, and a widget that has been logged out does
not show the connected view. -/
def Coherent (me : MeResponse) (actions : List SessionAction) : Prop :=
  ∀ first later, actions = first ++ later → ∀ s ∈ Guarded.steps step (initial me) first,
    s.Agrees ∧ (first.getLast? = some .logoutDone → ∀ w ∈ s.widget, w.hasTrakt = false)

/-! ## Both copies are given one answer -/

/-- The call has been given this answer, or will be when it arrives. -/
def TraktAuth.Given (h : TraktAuth) (res : MeResponse) : Prop :=
  h = { TraktAuth.mount with request := some (.served res) } ∨ h = TraktAuth.mount.checkAuth res

/-- There is one answer that each call has been given, or would be given now. -/
def SessionWidget.OneAnswer (w : SessionWidget) (me : MeResponse) : Prop :=
  ∃ res, ∀ k, (w.hook k).Given res ∨ (w.hook k = .mount ∧ res = me)

/-- The copy that decides what is shown is connected only once it has its answer, and is
connected while a logout is in flight. -/
def SessionWidget.ShownConnected (w : SessionWidget) : Prop :=
  (w.hasTrakt = true → w.crosswatch.request = none) ∧ (w.logouts ≠ 0 → w.hasTrakt = true)

@[simp] theorem checkAuth_request (h : TraktAuth) (res : MeResponse) :
    (h.checkAuth res).request = none := by
  cases res <;> rfl

theorem TraktAuth.Given.answered {h : TraktAuth} {res : MeResponse} (given : h.Given res) :
    h.request ≠ some .sent := by
  rcases given with rfl | rfl <;> simp

/-- The answer that arrives is the one that was given. -/
theorem TraktAuth.Given.deliver {h : TraktAuth} {res res' : MeResponse} (given : h.Given res)
    (served : h.request = some (.served res')) : (h.checkAuth res').Given res := by
  rcases given with rfl | rfl
  · obtain rfl : res = res' := by simpa using served
    right
    cases res <;> rfl
  · simp at served

theorem oneAnswer_mount (me : MeResponse) : SessionWidget.mount.OneAnswer me := by
  refine ⟨me, fun k => .inr ⟨?_, rfl⟩⟩
  cases k <;> rfl

section Steps

variable {w : SessionWidget} {me : MeResponse} {k : Hook}

theorem SessionWidget.OneAnswer.server {me' : MeResponse} (one : w.OneAnswer me)
    (alike : w.own.request = some .sent ↔ w.crosswatch.request = some .sent) :
    w.OneAnswer me' := by
  obtain ⟨res, each⟩ := one
  by_cases sent : w.own.request = some .sent
  · refine ⟨me', fun k => .inr ⟨?_, rfl⟩⟩
    have waits : (w.hook k).request = some .sent := by
      cases k with
      | own => exact sent
      | crosswatch => exact alike.mp sent
    rcases each k with given | ⟨fresh, -⟩
    · exact absurd waits given.answered
    · exact fresh
  · refine ⟨res, fun k => .inl ?_⟩
    have answered : (w.hook k).request ≠ some .sent := by
      cases k with
      | own => exact sent
      | crosswatch => exact fun waits => sent (alike.mpr waits)
    rcases each k with given | ⟨fresh, -⟩
    · exact given
    · rw [fresh] at answered
      exact absurd rfl answered

theorem SessionWidget.OneAnswer.serve (one : w.OneAnswer me)
    (sent : (w.hook k).request = some .sent) :
    (w.setHook { w.hook k with request := some (.served me) } k).OneAnswer me := by
  obtain ⟨res, each⟩ := one
  refine ⟨res, fun k' => ?_⟩
  rw [hook_setHook]
  split
  · rcases each k with given | ⟨fresh, rfl⟩
    · exact absurd sent given.answered
    · exact .inl (.inl (by rw [fresh]))
  · exact each k'

theorem SessionWidget.OneAnswer.deliver {res : MeResponse} (one : w.OneAnswer me)
    (served : (w.hook k).request = some (.served res)) :
    (w.setHook ((w.hook k).checkAuth res) k).OneAnswer me := by
  obtain ⟨res', each⟩ := one
  refine ⟨res', fun k' => ?_⟩
  rw [hook_setHook]
  split
  · rcases each k with given | ⟨fresh, -⟩
    · exact .inl (given.deliver served)
    · rw [fresh] at served
      cases served
  · exact each k'

/-- How many logouts are in flight does not matter. -/
theorem SessionWidget.OneAnswer.counted (one : w.OneAnswer me) (n : Nat) :
    { w with logouts := n }.OneAnswer me := by
  obtain ⟨res, each⟩ := one
  refine ⟨res, fun k => ?_⟩
  cases k with
  | own => exact each .own
  | crosswatch => exact each .crosswatch

/-- Once both have their answer, the copies are equal. -/
theorem SessionWidget.OneAnswer.agree (one : w.OneAnswer me) (quiet : w.Quiet) :
    w.own = w.crosswatch := by
  obtain ⟨res, each⟩ := one
  have settled : ∀ k, (w.hook k).request = none → w.hook k = TraktAuth.mount.checkAuth res := by
    intro k done
    rcases each k with (waiting | given) | ⟨fresh, -⟩
    · rw [waiting] at done
      cases done
    · exact given
    · rw [fresh] at done
      cases done
  exact (settled .own quiet.1).trans (settled .crosswatch quiet.2.1).symm

end Steps

/-! ## Steps of the page -/

/-- What an action makes of a widget that stays mounted. -/
def Becomes (s : SessionPage) (w : SessionWidget) (s' : SessionPage) (w' : SessionWidget) :
    SessionAction → Prop
  | .mount | .unmount | .login => False
  | .server me => w' = w ∧ s'.me = me
  | .serve k => s'.me = s.me ∧ (w.hook k).request = some .sent ∧
      w' = w.setHook { w.hook k with request := some (.served s.me) } k
  | .deliver k => s'.me = s.me ∧ ∃ res, (w.hook k).request = some (.served res) ∧
      w' = w.setHook ((w.hook k).checkAuth res) k
  | .logout => s'.me = s.me ∧ w.hasTrakt = true ∧ w' = { w with logouts := w.logouts + 1 }
  | .logoutDone => s'.me = s.me ∧ w.logouts ≠ 0 ∧
      w' = { w with own := w.own.loggedOut, logouts := w.logouts - 1 }
  | .logoutFailed => s'.me = s.me ∧ w.logouts ≠ 0 ∧ w' = { w with logouts := w.logouts - 1 }

theorem step_becomes {s s' : SessionPage} {a : SessionAction} {w' : SessionWidget}
    (stepped : step s a = some s') (mounted : s'.widget = some w') :
    (a = .mount ∧ w' = .mount ∧ s'.me = s.me) ∨ ∃ w, s.widget = some w ∧ Becomes s w s' w' a := by
  obtain ⟨me, widget⟩ := s
  cases a with
  | mount =>
      simp only [step] at stepped
      split at stepped
      · obtain rfl := Option.some.inj stepped
        exact .inl ⟨rfl, (Option.some.inj mounted).symm, rfl⟩
      · cases stepped
  | unmount =>
      obtain rfl := Option.some.inj stepped
      cases mounted
  | server me' =>
      obtain rfl := Option.some.inj stepped
      exact .inr ⟨w', mounted, rfl, rfl⟩
  | serve k =>
      obtain ⟨w, found, rest⟩ := Option.bind_eq_some_iff.mp stepped
      split at rest
      · rename_i sent
        obtain rfl := Option.some.inj rest
        exact .inr ⟨w, found, rfl, sent, (Option.some.inj mounted).symm⟩
      · cases rest
  | deliver k =>
      obtain ⟨w, found, rest⟩ := Option.bind_eq_some_iff.mp stepped
      split at rest
      · rename_i res served
        obtain rfl := Option.some.inj rest
        exact .inr ⟨w, found, rfl, res, served, (Option.some.inj mounted).symm⟩
      · cases rest
  | login =>
      obtain ⟨w, found, rest⟩ := Option.bind_eq_some_iff.mp stepped
      split at rest
      · cases rest
      · obtain rfl := Option.some.inj rest
        cases mounted
  | logout =>
      obtain ⟨w, found, rest⟩ := Option.bind_eq_some_iff.mp stepped
      split at rest
      · rename_i shown
        obtain rfl := Option.some.inj rest
        exact .inr ⟨w, found, rfl, shown, (Option.some.inj mounted).symm⟩
      · cases rest
  | logoutDone =>
      obtain ⟨w, found, rest⟩ := Option.bind_eq_some_iff.mp stepped
      split at rest
      · cases rest
      · rename_i flying
        obtain rfl := Option.some.inj rest
        exact .inr ⟨w, found, rfl, flying, (Option.some.inj mounted).symm⟩
  | logoutFailed =>
      obtain ⟨w, found, rest⟩ := Option.bind_eq_some_iff.mp stepped
      split at rest
      · cases rest
      · rename_i flying
        obtain rfl := Option.some.inj rest
        exact .inr ⟨w, found, rfl, flying, (Option.some.inj mounted).symm⟩

/-- A logout that is done has been taken from a mounted widget. -/
theorem step_logoutDone {s s' : SessionPage} (stepped : step s .logoutDone = some s') :
    ∃ w, s'.widget = some w := by
  obtain ⟨w, -, rest⟩ := Option.bind_eq_some_iff.mp stepped
  split at rest
  · cases rest
  · obtain rfl := Option.some.inj rest
    exact ⟨_, rfl⟩

section Invariants

variable {s s' : SessionPage} {a : SessionAction}

/-- As long as no logout is done, both copies stay with their one answer. -/
theorem oneAnswer_step (one : ∀ w ∈ s.widget, w.OneAnswer s.me) (steady : Steady s a)
    (other : a ≠ .logoutDone) (stepped : step s a = some s') :
    ∀ w ∈ s'.widget, w.OneAnswer s'.me := by
  intro w' mounted
  rcases step_becomes stepped mounted with ⟨-, rfl, -⟩ | ⟨w, found, becomes⟩
  · exact oneAnswer_mount _
  · have before := one w found
    cases a with
    | mount | unmount | login => exact becomes.elim
    | server me =>
        obtain ⟨rfl, same⟩ := becomes
        rcases steady with rfl | alike
        · rwa [same]
        · exact before.server (alike _ found)
    | serve k =>
        obtain ⟨same, sent, rfl⟩ := becomes
        rw [same]
        exact before.serve sent
    | deliver k =>
        obtain ⟨same, res, served, rfl⟩ := becomes
        rw [same]
        exact before.deliver served
    | logout =>
        obtain ⟨same, -, rfl⟩ := becomes
        rw [same]
        exact before.counted _
    | logoutDone => exact absurd rfl other
    | logoutFailed =>
        obtain ⟨same, -, rfl⟩ := becomes
        rw [same]
        exact before.counted _

theorem shownConnected_step (shown : ∀ w ∈ s.widget, w.ShownConnected)
    (stepped : step s a = some s') : ∀ w ∈ s'.widget, w.ShownConnected := by
  intro w' mounted
  rcases step_becomes stepped mounted with ⟨-, rfl, -⟩ | ⟨w, found, becomes⟩
  · exact ⟨nofun, fun flying => absurd rfl flying⟩
  · obtain ⟨answered, connected⟩ := shown w found
    cases a with
    | mount | unmount | login => exact becomes.elim
    | server me =>
        obtain ⟨rfl, -⟩ := becomes
        exact ⟨answered, connected⟩
    | serve k =>
        obtain ⟨-, sent, rfl⟩ := becomes
        cases k with
        | own => exact ⟨answered, connected⟩
        | crosswatch =>
            refine ⟨fun shown => ?_, connected⟩
            have none := answered shown
            rw [SessionWidget.hook, none] at sent
            cases sent
    | deliver k =>
        obtain ⟨-, res, served, rfl⟩ := becomes
        cases k with
        | own => exact ⟨answered, connected⟩
        | crosswatch =>
            refine ⟨fun _ => checkAuth_request _ _, fun flying => ?_⟩
            have none := answered (connected flying)
            rw [SessionWidget.hook, none] at served
            cases served
    | logout =>
        obtain ⟨-, shown, rfl⟩ := becomes
        exact ⟨answered, fun _ => shown⟩
    | logoutDone =>
        obtain ⟨-, flying, rfl⟩ := becomes
        exact ⟨answered, fun _ => connected flying⟩
    | logoutFailed =>
        obtain ⟨-, flying, rfl⟩ := becomes
        exact ⟨answered, fun _ => connected flying⟩

/-- A logout leaves the connected view as it is. -/
theorem logoutDone_hasTrakt (shown : ∀ w ∈ s.widget, w.ShownConnected)
    (stepped : step s .logoutDone = some s') : ∃ w, s'.widget = some w ∧ w.hasTrakt = true := by
  obtain ⟨w', mounted⟩ := step_logoutDone stepped
  rcases step_becomes stepped mounted with ⟨impossible, -⟩ | ⟨w, found, -, flying, rfl⟩
  · cases impossible
  · exact ⟨_, mounted, (shown w found).2 flying⟩

/-- At first there is no widget. -/
theorem widget_initial {me : MeResponse} {P : SessionWidget → Prop} :
    ∀ w ∈ (initial me).widget, P w :=
  fun w mounted => absurd mounted (Option.not_mem_none w)

end Invariants

/-! ## Runs -/

/-- **The two copies of the session agree, if and only if no logout is done.**  In every run
of the page, from any answer of the server, in which the server answers both copies alike:
the copies agree whenever nothing is in flight and a logged out widget does not show the
connected view, if and only if no logout is answered while the widget is mounted. -/
theorem sessions_agree_iff {me : MeResponse} {actions : List SessionAction} {s : SessionPage}
    (ran : Guarded.steps step (initial me) actions = some s)
    (steady : Guarded.Meets step Steady (initial me) actions) :
    Coherent me actions ↔ .logoutDone ∉ actions := by
  constructor
  · intro coherent done
    obtain ⟨first, later, rfl⟩ := List.append_of_mem done
    rw [Guarded.steps_append] at ran
    obtain ⟨s₁, earlier, rest⟩ := Option.bind_eq_some_iff.mp ran
    obtain ⟨s₂, stepped, -⟩ := Option.bind_eq_some_iff.mp rest
    have shown : ∀ w ∈ s₁.widget, w.ShownConnected :=
      Guarded.steps_invariant (P := fun s => ∀ w ∈ s.widget, w.ShownConnected)
        shownConnected_step widget_initial earlier
    obtain ⟨w, mounted, connected⟩ := logoutDone_hasTrakt shown stepped
    have reached : Guarded.steps step (initial me) (first ++ [.logoutDone]) = some s₂ :=
      Guarded.steps_trans earlier (by rw [Guarded.steps, stepped]; rfl)
    have hidden := (coherent (first ++ [.logoutDone]) later (by simp) s₂ reached).2
      (List.getLast?_concat ..) w mounted
    rw [connected] at hidden
    cases hidden
  · rintro none first later rfl s₁ reached
    have before : ∀ a ∈ first, a ≠ .logoutDone := by
      rintro a member rfl
      exact none (List.mem_append_left _ member)
    have one : ∀ w ∈ s₁.widget, w.OneAnswer s₁.me :=
      Guarded.steps_invariant_of (P := fun s => ∀ w ∈ s.widget, w.OneAnswer s.me)
        (fun one meets stepped => oneAnswer_step one meets.1 meets.2 stepped)
        widget_initial ((Guarded.meets_append.mp steady).1.and before) reached
    constructor
    · intro w mounted quiet
      rw [(one w mounted).agree quiet]
      rfl
    · intro last
      exact absurd rfl (before _ (List.mem_of_getLast? last))

/-! ## A logout through the widget -/

/-- The widget is mounted, and both calls are answered. -/
def bothAnswered : List SessionAction :=
  [.mount, .serve .own, .serve .crosswatch, .deliver .own, .deliver .crosswatch]

def signedIn : MeResponse := .session true (some "alice")

/-- The button is pressed; the server clears the session and answers. -/
def disconnect : List SessionAction := [.logout, .server (.session false none), .logoutDone]

/-- Nothing is in flight, the copies differ, and the connected view stays. -/
theorem disconnect_keeps_connected_view :
    Guarded.Meets step Steady (initial signedIn) (bothAnswered ++ disconnect) ∧
      (∃ w, Guarded.steps step (initial signedIn) (bothAnswered ++ disconnect) =
          some ⟨.session false none, some w⟩ ∧
        w.Quiet ∧ w.own.auth = ⟨false, ""⟩ ∧ w.hasTrakt = true) ∧
      ¬ Coherent signedIn (bothAnswered ++ disconnect) := by
  refine ⟨by decide, ⟨_, rfl, ⟨rfl, rfl, rfl⟩, rfl, rfl⟩, fun coherent => ?_⟩
  have agree := (coherent (bothAnswered ++ disconnect) [] (by simp) _ rfl).1 _ rfl ⟨rfl, rfl, rfl⟩
  cases agree

/-- The rule for a widget that is not logged out. -/
theorem sessions_agree_both_answered : Coherent signedIn bothAnswered :=
  (sessions_agree_iff (s := ⟨signedIn, _⟩) rfl (by decide)).mpr (by decide)

end VpsDashboard.Frontend
