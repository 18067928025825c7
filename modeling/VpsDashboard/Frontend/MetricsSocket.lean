/-
# VpsDashboard.Frontend.MetricsSocket — the socket of the metrics and its reconnect timer

`useMetricsSocket` keeps its socket in one ref and its reconnect timer in another.  The
cleanup of its effect clears that timer and closes that socket, but the close event comes
later, when the hook is unmounted or, under `StrictMode`, mounted again: it then empties
the ref of a newer socket and arms a timer that no cleanup will clear.

* `one_live_socket` — at most one socket is connecting or open and none is created after
  the last unmount, in every run in which no close event empties the ref of another live
  socket and no timer fires while the hook is unmounted or its socket is connecting;
* `untimely_breaks` — every other step breaks this, at once or when the timer it has
  armed fires;
* `late_close_event_reconnects` — one mount and unmount are enough, and so is what
  `StrictMode` does;
* `socket_reconnects` — a mounted hook without a live socket gets one, after boundedly
  many of the close events and timers that are to come.

A socket that is asked to close is closing.  Messages change neither sockets nor timers
and are left out.
-/
import VpsDashboard.Foundation.Guarded

namespace VpsDashboard.Frontend

open Foundation

set_option autoImplicit false

/-! ## Sockets -/

/-- `readyState`. -/
inductive ReadyState where
  | connecting
  | opened
  | closing
  | closed
deriving DecidableEq

namespace ReadyState

/-- Connecting or open, and not asked to close. -/
def live : ReadyState → Bool
  | .connecting => true
  | .opened => true
  | _ => false

/-- `ws.close()`. -/
def close : ReadyState → ReadyState
  | .closed => .closed
  | _ => .closing

theorem close_live (r : ReadyState) : r.close.live = false := by
  cases r <;> rfl

end ReadyState

inductive ConnectionState where
  | connecting
  | connected
  | disconnected
deriving DecidableEq

/-- Whether socket `i` of the list is live. -/
def liveAt (sockets : List ReadyState) (i : Nat) : Bool :=
  match sockets[i]? with
  | some r => r.live
  | none => false

theorem liveAt_some {sockets : List ReadyState} {i : Nat} {r : ReadyState}
    (found : sockets[i]? = some r) : liveAt sockets i = r.live := by
  rw [liveAt, found]

/-- A socket that is replaced by one that is not live, or was live before. -/
theorem liveAt_set {sockets : List ReadyState} {i j : Nat} {r r' : ReadyState}
    (found : sockets[i]? = some r) (kept : r'.live = true → r.live = true)
    (live : liveAt (sockets.set i r') j = true) : liveAt sockets j = true := by
  obtain ⟨inside, -⟩ := List.getElem?_eq_some_iff.mp found
  by_cases same : i = j
  · subst same
    rw [liveAt_some (List.getElem?_set_self inside)] at live
    rw [liveAt_some found]
    exact kept live
  · rwa [liveAt, List.getElem?_set_ne same] at live

theorem liveAt_set_self {sockets : List ReadyState} {i : Nat} {r r' : ReadyState}
    (found : sockets[i]? = some r) : liveAt (sockets.set i r') i = r'.live := by
  obtain ⟨inside, -⟩ := List.getElem?_eq_some_iff.mp found
  exact liveAt_some (List.getElem?_set_self inside)

theorem liveAt_new (sockets : List ReadyState) :
    liveAt (sockets ++ [.connecting]) sockets.length = true :=
  liveAt_some List.getElem?_concat_length

theorem liveAt_append {sockets : List ReadyState} {i : Nat} (live : liveAt sockets i = true) :
    liveAt (sockets ++ [.connecting]) i = true := by
  unfold liveAt at live ⊢
  split at live
  · rename_i r found
    obtain ⟨inside, -⟩ := List.getElem?_eq_some_iff.mp found
    rw [List.getElem?_append_left inside, found]
    exact live
  · cases live

theorem liveAt_of_append {sockets : List ReadyState} {i : Nat}
    (live : liveAt (sockets ++ [.connecting]) i = true) :
    liveAt sockets i = true ∨ i = sockets.length := by
  by_cases inside : i < sockets.length
  · rw [liveAt, List.getElem?_append_left inside] at live
    exact .inl live
  · unfold liveAt at live
    split at live
    · rename_i r found
      obtain ⟨within, -⟩ := List.getElem?_eq_some_iff.mp found
      rw [List.length_append, List.length_singleton] at within
      exact .inr (by omega)
    · cases live

/-! ## The hook -/

/-- `timers` says of each timer that was set whether it is still to fire. -/
structure MetricsSocket where
  mounted : Bool
  connection : ConnectionState
  wsRef : Option Nat
  reconnectRef : Option Nat
  sockets : List ReadyState
  timers : List Bool
deriving DecidableEq

/-- The effect of a mount and its cleanup, the events of socket `i`, the close handshake
that the server starts, and the firing of timer `t`. -/
inductive SocketAction where
  | mount
  | unmount
  | opened (i : Nat)
  | error (i : Nat)
  | serverCloses (i : Nat)
  | closed (i : Nat)
  | fire (t : Nat)
deriving DecidableEq

namespace MetricsSocket

def initial : MetricsSocket := ⟨false, .connecting, none, none, [], []⟩

/-- `wsRef.current?.readyState`. -/
def readyState (s : MetricsSocket) : Option ReadyState := s.wsRef.bind fun i => s.sockets[i]?

def connect (s : MetricsSocket) : MetricsSocket :=
  if s.readyState = some .opened then s
  else { s with
    connection := .connecting
    wsRef := some s.sockets.length
    sockets := s.sockets ++ [.connecting] }

def onclose (s : MetricsSocket) : MetricsSocket := { s with
  connection := .disconnected
  wsRef := none
  reconnectRef := some s.timers.length
  timers := s.timers ++ [true] }

def cleanup (s : MetricsSocket) : MetricsSocket := { s with
  timers :=
    match s.reconnectRef with
    | none => s.timers
    | some t => s.timers.set t false
  sockets :=
    match s.wsRef with
    | none => s.sockets
    | some i => s.sockets.modify i ReadyState.close }

def step (s : MetricsSocket) : SocketAction → Option MetricsSocket
  | .mount => if s.mounted then none else some { s.connect with mounted := true }
  | .unmount => if s.mounted then some { s.cleanup with mounted := false } else none
  | .opened i =>
      if s.sockets[i]? = some .connecting then
        some { s with connection := .connected, sockets := s.sockets.set i .opened }
      else none
  | .error i => do
      let r ← s.sockets[i]?
      if r = .closed then none else some { s with sockets := s.sockets.set i r.close }
  | .serverCloses i => do
      let r ← s.sockets[i]?
      if r.live then some { s with sockets := s.sockets.set i .closing } else none
  | .closed i => do
      let r ← s.sockets[i]?
      if r = .closed then none else some { s with sockets := s.sockets.set i .closed }.onclose
  | .fire t =>
      if s.timers[t]? = some true then some { s with timers := s.timers.set t false }.connect
      else none

/-- At most one socket is live. -/
def AtMostOne (s : MetricsSocket) : Prop :=
  ∀ i j, liveAt s.sockets i = true → liveAt s.sockets j = true → i = j

/-- No close event empties the ref of another, live socket, and a timer fires only while
the hook is mounted and its socket is not connecting. -/
def Timely (s : MetricsSocket) : SocketAction → Prop
  | .closed i => ∀ j ∈ s.wsRef, j = i ∨ liveAt s.sockets j = false
  | .fire _ => s.mounted = true ∧ s.readyState ≠ some .connecting
  | _ => True

instance (s : MetricsSocket) (a : SocketAction) : Decidable (s.Timely a) :=
  match a with
  | .closed i => inferInstanceAs (Decidable (∀ j ∈ s.wsRef, j = i ∨ liveAt s.sockets j = false))
  | .fire _ => inferInstanceAs (Decidable (s.mounted = true ∧ s.readyState ≠ some .connecting))
  | .mount | .unmount | .opened _ | .error _ | .serverCloses _ => isTrue trivial

/-! ## The invariant -/

/-- Only the socket in the ref can be live, and only while the hook is mounted. -/
structure OneLive (s : MetricsSocket) : Prop where
  current : ∀ i, liveAt s.sockets i = true → s.wsRef = some i
  unmounted : s.mounted = false → ∀ i, liveAt s.sockets i = false

variable {s s' : MetricsSocket}

theorem oneLive_initial : initial.OneLive := ⟨nofun, fun _ _ => rfl⟩

theorem OneLive.atMostOne (one : s.OneLive) : s.AtMostOne := by
  intro i j left right
  exact Option.some.inj ((one.current i left).symm.trans (one.current j right))

theorem readyState_of_live {i : Nat} (current : s.wsRef = some i) (live : liveAt s.sockets i = true) :
    s.readyState = some .connecting ∨ s.readyState = some .opened := by
  rw [readyState, current, Option.bind_some]
  unfold liveAt at live
  split at live
  · rename_i r found
    rw [found]
    cases r with
    | connecting => exact .inl rfl
    | opened => exact .inr rfl
    | closing => cases live
    | closed => cases live
  · cases live

/-- Unless the socket in the ref is open, `connect` adds one socket and puts it there. -/
theorem connect_new (blocked : s.readyState ≠ some .opened) :
    s.connect = { s with
      connection := .connecting, wsRef := some s.sockets.length,
      sockets := s.sockets ++ [.connecting] } := if_neg blocked

/-- When no socket is live, the one that `connect` adds is the only one. -/
theorem oneLive_connect (none_live : ∀ i, liveAt s.sockets i = false) :
    { s.connect with mounted := true }.OneLive := by
  have blocked : s.readyState ≠ some .opened := by
    intro open'
    obtain ⟨i, current, found⟩ := Option.bind_eq_some_iff.mp open'
    have live := liveAt_some found
    rw [none_live i] at live
    cases live
  rw [connect_new blocked]
  refine ⟨fun i live => ?_, nofun⟩
  rcases liveAt_of_append live with old | rfl
  · rw [none_live i] at old
    cases old
  · rfl

/-- A step that makes no socket live and keeps the ref and the mount. -/
theorem OneLive.shrink (one : s.OneLive) {sockets : List ReadyState} (connection : ConnectionState)
    (kept : ∀ i, liveAt sockets i = true → liveAt s.sockets i = true) :
    { s with connection := connection, sockets := sockets }.OneLive := by
  refine ⟨fun i live => one.current i (kept i live), fun gone i => ?_⟩
  by_contra live
  have before := kept i (by simpa using live)
  rw [one.unmounted gone i] at before
  cases before

theorem liveAt_cleanup (one : s.OneLive) (i : Nat) : liveAt s.cleanup.sockets i = false := by
  by_contra live
  have open' : liveAt s.cleanup.sockets i = true := by simpa using live
  unfold cleanup at open'
  dsimp only at open'
  split at open'
  · rename_i empty
    rw [one.current i open'] at empty
    cases empty
  · rename_i j current
    unfold liveAt at open'
    split at open'
    · rename_i r found
      rw [List.getElem?_modify] at found
      obtain ⟨old, there, same⟩ := Option.map_eq_some_iff.mp found
      by_cases mine : j = i
      · rw [if_pos mine] at same
        subst same
        rw [ReadyState.close_live] at open'
        cases open'
      · rw [if_neg mine] at same
        subst same
        have held := one.current i ((liveAt_some there).trans open')
        exact mine (Option.some.inj (current.symm.trans held))
    · cases open'

theorem connect_mounted (s : MetricsSocket) : s.connect.mounted = s.mounted := by
  unfold connect
  split <;> rfl

theorem step_mount (stepped : s.step .mount = some s') :
    s.mounted = false ∧ s' = { s.connect with mounted := true } := by
  simp only [step] at stepped
  split at stepped
  · cases stepped
  · rename_i gone
    exact ⟨by simpa using gone, (Option.some.inj stepped).symm⟩

theorem step_unmount (stepped : s.step .unmount = some s') :
    s' = { s.cleanup with mounted := false } := by
  simp only [step] at stepped
  split at stepped
  · exact (Option.some.inj stepped).symm
  · cases stepped

/-- The other events of a socket replace it by one that is live only if it was. -/
theorem step_event {a : SocketAction} {i : Nat}
    (event : a = .opened i ∨ a = .error i ∨ a = .serverCloses i) (stepped : s.step a = some s') :
    ∃ connection r r', s.sockets[i]? = some r ∧ (r'.live = true → r.live = true) ∧
      s' = { s with connection := connection, sockets := s.sockets.set i r' } := by
  rcases event with rfl | rfl | rfl
  · simp only [step] at stepped
    split at stepped
    · rename_i found
      exact ⟨.connected, .connecting, .opened, found, fun _ => rfl, (Option.some.inj stepped).symm⟩
    · cases stepped
  · obtain ⟨r, found, rest⟩ := Option.bind_eq_some_iff.mp stepped
    split at rest
    · cases rest
    · refine ⟨s.connection, r, r.close, found, fun live => ?_, (Option.some.inj rest).symm⟩
      rw [ReadyState.close_live] at live
      cases live
  · obtain ⟨r, found, rest⟩ := Option.bind_eq_some_iff.mp stepped
    split at rest
    · exact ⟨s.connection, r, .closing, found, nofun, (Option.some.inj rest).symm⟩
    · cases rest

theorem step_closed {i : Nat} (stepped : s.step (.closed i) = some s') :
    ∃ r, s.sockets[i]? = some r ∧ s' = { s with sockets := s.sockets.set i .closed }.onclose := by
  obtain ⟨r, found, rest⟩ := Option.bind_eq_some_iff.mp stepped
  split at rest
  · cases rest
  · exact ⟨r, found, (Option.some.inj rest).symm⟩

theorem step_fire {t : Nat} (stepped : s.step (.fire t) = some s') :
    s' = { s with timers := s.timers.set t false }.connect := by
  simp only [step] at stepped
  split at stepped
  · exact (Option.some.inj stepped).symm
  · cases stepped

theorem OneLive.event {a : SocketAction} {i : Nat} (one : s.OneLive)
    (event : a = .opened i ∨ a = .error i ∨ a = .serverCloses i) (stepped : s.step a = some s') :
    s'.OneLive := by
  obtain ⟨connection, r, r', found, kept, rfl⟩ := step_event event stepped
  exact one.shrink connection fun j live => liveAt_set found kept live

/-- After the close event of the socket in the ref, or of any while the one in the ref is
not live, no socket is live. -/
theorem OneLive.closed {i : Nat} (one : s.OneLive) (timely : s.Timely (.closed i))
    (stepped : s.step (.closed i) = some s') : s'.OneLive := by
  obtain ⟨r, found, rfl⟩ := step_closed stepped
  have never : ReadyState.closed.live = true → r.live = true := nofun
  have none_live : ∀ j, liveAt (s.sockets.set i .closed) j = false := by
    intro j
    by_contra live
    have open' : liveAt (s.sockets.set i .closed) j = true := by simpa using live
    have before : liveAt s.sockets j = true := liveAt_set found never open'
    rcases timely j (one.current j before) with rfl | dead
    · rw [liveAt_set_self found] at open'
      cases open'
    · rw [dead] at before
      cases before
  refine ⟨fun j live => ?_, fun _ => none_live⟩
  rw [onclose] at live
  rw [none_live j] at live
  cases live

theorem OneLive.fire {t : Nat} (one : s.OneLive) (timely : s.Timely (.fire t))
    (stepped : s.step (.fire t) = some s') : s'.OneLive := by
  obtain ⟨mounted, settled⟩ := timely
  obtain rfl := step_fire stepped
  by_cases open' : s.readyState = some .opened
  · have unchanged : { s with timers := s.timers.set t false }.connect =
        { s with timers := s.timers.set t false } := if_pos open'
    rw [unchanged]
    exact ⟨one.current, one.unmounted⟩
  · have none_live : ∀ i, liveAt s.sockets i = false := by
      intro i
      by_contra live
      have held := one.current i (by simpa using live)
      rcases readyState_of_live held (by simpa using live) with connecting | opened
      · exact settled connecting
      · exact open' opened
    have one' := oneLive_connect (s := { s with timers := s.timers.set t false }) none_live
    refine ⟨one'.current, fun gone => ?_⟩
    rw [connect_mounted] at gone
    rw [show s.mounted = false from gone] at mounted
    cases mounted

theorem OneLive.step {a : SocketAction} (one : s.OneLive) (timely : s.Timely a)
    (stepped : s.step a = some s') : s'.OneLive := by
  cases a with
  | mount =>
      obtain ⟨gone, rfl⟩ := step_mount stepped
      exact oneLive_connect (one.unmounted gone)
  | unmount =>
      obtain rfl := step_unmount stepped
      refine ⟨fun i live => ?_, fun _ i => liveAt_cleanup one i⟩
      rw [liveAt_cleanup one i] at live
      cases live
  | opened i => exact one.event (.inl rfl) stepped
  | error i => exact one.event (.inr (.inl rfl)) stepped
  | serverCloses i => exact one.event (.inr (.inr rfl)) stepped
  | closed i => exact one.closed timely stepped
  | fire t => exact one.fire timely stepped

theorem oneLive_steps {actions : List SocketAction}
    (timely : Guarded.Meets step Timely initial actions)
    (ran : Guarded.steps step initial actions = some s) : s.OneLive :=
  Guarded.steps_invariant_of (fun one timely stepped => one.step timely stepped) oneLive_initial
    timely ran

/-! ## After the last unmount -/

/-- While the hook is unmounted only a mount creates a socket. -/
theorem unmounted_step {a : SocketAction} (gone : s.mounted = false) (timely : s.Timely a)
    (other : a ≠ .mount) (stepped : s.step a = some s') :
    s'.mounted = false ∧ s'.sockets.length = s.sockets.length := by
  have event : ∀ i, a = .opened i ∨ a = .error i ∨ a = .serverCloses i →
      s'.mounted = false ∧ s'.sockets.length = s.sockets.length := by
    intro i event
    obtain ⟨_, _, _, -, -, rfl⟩ := step_event event stepped
    exact ⟨gone, List.length_set⟩
  cases a with
  | mount => exact absurd rfl other
  | unmount => simp [step, gone] at stepped
  | opened i => exact event i (.inl rfl)
  | error i => exact event i (.inr (.inl rfl))
  | serverCloses i => exact event i (.inr (.inr rfl))
  | closed i =>
      obtain ⟨r, -, rfl⟩ := step_closed stepped
      exact ⟨gone, List.length_set⟩
  | fire t =>
      rw [timely.1] at gone
      cases gone

theorem unmounted_steps {later : List SocketAction} (gone : s.mounted = false)
    (timely : Guarded.Meets step Timely s later) (unmounted : .mount ∉ later)
    (ran : Guarded.steps step s later = some s') : s'.sockets.length = s.sockets.length := by
  induction later generalizing s with
  | nil =>
      obtain rfl := Option.some.inj ran
      rfl
  | cons a later ih =>
      obtain ⟨next, stepped, rest⟩ := Option.bind_eq_some_iff.mp ran
      have other : a ≠ .mount := fun same => unmounted (same ▸ List.mem_cons_self)
      obtain ⟨still, same⟩ := unmounted_step gone timely.1 other stepped
      rw [← same]
      exact ih still (timely.2 next stepped)
        (fun member => unmounted (List.mem_cons_of_mem a member)) rest

/-! ## Every run -/

/-- **At most one metrics socket is live** at any time, and after the last unmount none is
created, in every run with no late close event and no late timer. -/
theorem one_live_socket {actions : List SocketAction}
    (timely : Guarded.Meets step Timely initial actions)
    (ran : Guarded.steps step initial actions = some s) :
    s.AtMostOne ∧ ∀ before after s₁, actions = before ++ .unmount :: after → .mount ∉ after →
      Guarded.steps step initial (before ++ [.unmount]) = some s₁ →
        s.sockets.length = s₁.sockets.length := by
  refine ⟨(oneLive_steps timely ran).atMostOne, fun before after s₁ whole last reached => ?_⟩
  have split : actions = (before ++ [.unmount]) ++ after := by simpa using whole
  rw [split] at timely ran
  rw [Guarded.steps_append, reached] at ran
  obtain ⟨s₀, -, unmounting⟩ :=
    Option.bind_eq_some_iff.mp ((Guarded.steps_append _ _ _).symm.trans reached)
  have gone : s₁.mounted = false := by
    obtain ⟨next, stepped, done⟩ := Option.bind_eq_some_iff.mp unmounting
    obtain rfl := Option.some.inj done
    rw [step_unmount stepped]
  exact unmounted_steps gone ((Guarded.meets_append.mp timely).2 s₁ reached) last ran

/-- The server closes the connection; the hook reconnects, and is unmounted while the new
socket is connecting. -/
theorem reconnect_one_live :
    AtMostOne ⟨false, .connecting, some 1, some 0, [.closed, .closing], [false]⟩ := by
  have ran : Guarded.steps step initial
      [.mount, .opened 0, .serverCloses 0, .closed 0, .fire 0, .unmount] =
        some ⟨false, .connecting, some 1, some 0, [.closed, .closing], [false]⟩ := by decide
  exact (one_live_socket (by decide) ran).1

/-! ## A late close event, or a late timer -/

/-- Two live sockets, or a socket created by a step other than a mount while the hook is
unmounted. -/
def Breaks (s : MetricsSocket) (a : SocketAction) (s' : MetricsSocket) : Prop :=
  ¬ s'.AtMostOne ∨ (s.mounted = false ∧ a ≠ .mount ∧ s.sockets.length < s'.sockets.length)

/-- A second socket beside a live one. -/
theorem connect_two {i : Nat} (live : liveAt s.sockets i = true)
    (blocked : s.readyState ≠ some .opened) : ¬ s.connect.AtMostOne := by
  intro one
  rw [connect_new blocked] at one
  have same := one i s.sockets.length (liveAt_append live) (liveAt_new s.sockets)
  subst same
  rw [liveAt, List.getElem?_eq_none (Nat.le_refl _)] at live
  cases live

/-- **Every other step breaks it**, at once or when the timer it has armed fires. -/
theorem untimely_breaks {actions : List SocketAction} {a : SocketAction}
    (timely : Guarded.Meets step Timely initial actions)
    (ran : Guarded.steps step initial actions = some s) (stepped : s.step a = some s')
    (untimely : ¬ s.Timely a) :
    Breaks s a s' ∨ ∃ t s'', s'.step (.fire t) = some s'' ∧ Breaks s' (.fire t) s'' := by
  have one := oneLive_steps timely ran
  cases a with
  | closed i =>
      right
      simp only [Timely, not_forall, not_or, Bool.not_eq_false] at untimely
      obtain ⟨j, -, other, live⟩ := untimely
      obtain ⟨r, found, rfl⟩ := step_closed stepped
      have live' : liveAt (s.sockets.set i .closed) j = true := by
        rwa [liveAt, List.getElem?_set_ne (Ne.symm other)]
      refine ⟨s.timers.length, _, if_pos List.getElem?_concat_length, .inl ?_⟩
      exact connect_two (i := j) live' nofun
  | fire t =>
      left
      obtain rfl := step_fire stepped
      by_cases mounted : s.mounted = true
      · have connecting : s.readyState = some .connecting := by
          by_contra other
          exact untimely ⟨mounted, other⟩
        obtain ⟨i, current, found⟩ := Option.bind_eq_some_iff.mp connecting
        have blocked : s.readyState ≠ some .opened := by
          rw [connecting]
          exact nofun
        exact .inl (connect_two (s := { s with timers := s.timers.set t false })
          (liveAt_some found) blocked)
      · have gone : s.mounted = false := by simpa using mounted
        have blocked : s.readyState ≠ some .opened := by
          intro open'
          obtain ⟨i, current, found⟩ := Option.bind_eq_some_iff.mp open'
          have live := liveAt_some found
          rw [one.unmounted gone i] at live
          cases live
        refine .inr ⟨gone, nofun, ?_⟩
        rw [connect_new (s := { s with timers := s.timers.set t false }) blocked]
        simp
  | mount => exact absurd trivial untimely
  | unmount => exact absurd trivial untimely
  | opened i => exact absurd trivial untimely
  | error i => exact absurd trivial untimely
  | serverCloses i => exact absurd trivial untimely

/-- The close event of the socket that the cleanup has closed arms a timer, and the timer
creates a socket after the last unmount.  Under `StrictMode` the hook is mounted again by
then: the event empties the ref of the second socket, and the timer creates a third. -/
theorem late_close_event_reconnects :
    (Guarded.steps step initial [.mount, .opened 0, .unmount, .closed 0]).map sockets =
        some [.closed] ∧
      (Guarded.steps step initial [.mount, .opened 0, .unmount, .closed 0, .fire 0]).map sockets =
        some [.closed, .connecting] ∧
      ∃ s, Guarded.steps step initial [.mount, .unmount, .mount, .closed 0, .fire 0] = some s ∧
        s.sockets = [.closed, .connecting, .connecting] ∧ ¬ s.AtMostOne := by
  refine ⟨by decide, by decide, _, rfl, rfl, fun one => ?_⟩
  have same := one 1 2 rfl rfl
  cases same

/-! ## Reconnecting -/

def anyLive (sockets : List ReadyState) : Prop := ∃ i, liveAt sockets i = true

/-- A close event that is to come, or a timer that is to fire. -/
def isOwn : SocketAction → Bool
  | .closed _ | .fire _ => true
  | _ => false

/-- A socket is not closed, or a timer is set. -/
def awake (sockets : List ReadyState) (timers : List Bool) : Prop :=
  (∃ (i : Nat) (r : ReadyState), sockets[i]? = some r ∧ r ≠ .closed) ∨
    ∃ t : Nat, timers[t]? = some true

/-- The close events to come, each with the timer it will set, and the timers. -/
def pending (s : MetricsSocket) : Nat :=
  2 * s.sockets.countP (fun r => r != ReadyState.closed) + s.timers.countP id

theorem countP_set_no {α : Type} {p : α → Bool} {l : List α} {i : Nat} {x a : α}
    (found : l[i]? = some x) (yes : p x = true) (no : p a = false) :
    (l.set i a).countP p + 1 = l.countP p := by
  obtain ⟨inside, rfl⟩ := List.getElem?_eq_some_iff.mp found
  have counted : 0 < l.countP p := List.countP_pos_iff.mpr ⟨_, List.getElem_mem inside, yes⟩
  rw [List.countP_set inside, yes, no]
  simp
  omega

/-- After `connect` a socket is live. -/
theorem connect_live (s : MetricsSocket) : anyLive s.connect.sockets := by
  by_cases blocked : s.readyState = some .opened
  · obtain ⟨i, current, found⟩ := Option.bind_eq_some_iff.mp blocked
    rw [connect, if_pos blocked]
    exact ⟨i, liveAt_some found⟩
  · rw [connect_new blocked]
    exact ⟨_, liveAt_new s.sockets⟩

theorem awake_of_live {sockets : List ReadyState} (live : anyLive sockets) (timers : List Bool) :
    awake sockets timers := by
  obtain ⟨i, live⟩ := live
  unfold liveAt at live
  split at live
  · rename_i r found
    refine .inl ⟨i, r, found, ?_⟩
    rintro rfl
    cases live
  · cases live

/-- A mounted hook never sleeps. -/
theorem awake_step {a : SocketAction} (stepped : s.step a = some s') (mounted : s'.mounted = true) :
    awake s'.sockets s'.timers := by
  have replaced {i : Nat} {r r' : ReadyState} (found : s.sockets[i]? = some r)
      (unclosed : r' ≠ .closed) : awake (s.sockets.set i r') s.timers := by
    obtain ⟨inside, -⟩ := List.getElem?_eq_some_iff.mp found
    exact .inl ⟨i, r', List.getElem?_set_self inside, unclosed⟩
  cases a with
  | mount =>
      obtain ⟨-, rfl⟩ := step_mount stepped
      exact awake_of_live (connect_live s) _
  | unmount =>
      rw [step_unmount stepped] at mounted
      cases mounted
  | closed i =>
      obtain ⟨r, -, rfl⟩ := step_closed stepped
      exact .inr ⟨s.timers.length, List.getElem?_concat_length⟩
  | fire t =>
      rw [step_fire stepped]
      exact awake_of_live (connect_live _) _
  | opened i =>
      simp only [step] at stepped
      split at stepped
      · rename_i found
        obtain rfl := Option.some.inj stepped
        exact replaced found (by decide)
      · cases stepped
  | error i =>
      obtain ⟨r, found, rest⟩ := Option.bind_eq_some_iff.mp stepped
      split at rest
      · cases rest
      · rename_i unclosed
        obtain rfl := Option.some.inj rest
        refine replaced found ?_
        cases r with
        | closed => exact absurd rfl unclosed
        | _ => decide
  | serverCloses i =>
      obtain ⟨r, found, rest⟩ := Option.bind_eq_some_iff.mp stepped
      split at rest
      · obtain rfl := Option.some.inj rest
        exact replaced found (by decide)
      · cases rest

/-- A close event or a timer leads to a live socket, or is one of those that were pending. -/
theorem own_step {a : SocketAction} (own : isOwn a = true) (stepped : s.step a = some s') :
    s'.mounted = s.mounted ∧ (anyLive s'.sockets ∨ s'.pending + 1 = s.pending) := by
  cases a with
  | closed i =>
      obtain ⟨r, found, rest⟩ := Option.bind_eq_some_iff.mp stepped
      split at rest
      · cases rest
      · rename_i unclosed
        obtain rfl := Option.some.inj rest
        have spent := countP_set_no (p := fun r => r != ReadyState.closed) (a := ReadyState.closed)
          found (by simpa using unclosed) rfl
        refine ⟨rfl, .inr ?_⟩
        simp only [pending, onclose, List.countP_append, List.countP_singleton, id, if_true]
        omega
  | fire t =>
      rw [step_fire stepped, connect_mounted]
      exact ⟨rfl, .inl (connect_live _)⟩
  | _ => cases own

/-- As long as no socket is live, every own step is one of those that were pending. -/
theorem own_steps {actions : List SocketAction} (own : actions.all isOwn = true)
    (went : Guarded.steps step s actions = some s') :
    (∃ first later m, actions = first ++ later ∧ Guarded.steps step s first = some m ∧
        anyLive m.sockets) ∨
      s'.mounted = s.mounted ∧ s'.pending + actions.length = s.pending := by
  induction actions generalizing s with
  | nil =>
      obtain rfl := Option.some.inj went
      exact .inr ⟨rfl, rfl⟩
  | cons a actions ih =>
      rw [List.all_cons, Bool.and_eq_true] at own
      obtain ⟨middle, stepped, rest⟩ := Option.bind_eq_some_iff.mp went
      obtain ⟨mounted, live | spent⟩ := own_step own.1 stepped
      · left
        exact ⟨[a], actions, middle, rfl, Guarded.steps_cons stepped [], live⟩
      · rcases ih own.2 rest with ⟨first, later, m, rfl, reached, live⟩ | ⟨mounted', counted⟩
        · exact .inl ⟨a :: first, later, m, rfl, (Guarded.steps_cons stepped first).trans reached,
            live⟩
        · right
          rw [mounted', mounted, List.length_cons]
          exact ⟨rfl, by omega⟩

/-- **The hook reconnects.**  From every state of a mounted hook, whatever has happened
before, the close events and timers that are pending, in any order, lead to a live socket:
until there is one, each of them is one fewer to come, and another one can happen. -/
theorem socket_reconnects {before actions : List SocketAction}
    (ran : Guarded.steps step initial before = some s) (mounted : s.mounted = true)
    (own : actions.all isOwn = true) (went : Guarded.steps step s actions = some s') :
    (∃ first later m, actions = first ++ later ∧ Guarded.steps step s first = some m ∧
        anyLive m.sockets) ∨
      s'.pending + actions.length = s.pending ∧ ∃ a, isOwn a = true ∧ (s'.step a).isSome = true := by
  rcases own_steps own went with live | ⟨stays, counted⟩
  · exact .inl live
  · refine .inr ⟨counted, ?_⟩
    have asleep : initial.mounted = true → awake initial.sockets initial.timers := nofun
    have whole : Guarded.steps step initial (before ++ actions) = some s' := by
      rw [Guarded.steps_append, ran]
      exact went
    have kept := Guarded.steps_invariant
      (P := fun s => s.mounted = true → awake s.sockets s.timers)
      (fun _ stepped => awake_step stepped) asleep whole
    rcases kept (stays.trans mounted) with ⟨i, r, found, unclosed⟩ | ⟨t, set⟩
    · refine ⟨.closed i, rfl, ?_⟩
      rw [step, found]
      simp [unclosed]
    · refine ⟨.fire t, rfl, ?_⟩
      simp [step, set]

/-- The server closes, and the close event has come: the timer is to fire. -/
theorem socket_reconnects_timer :
    ∃ s, Guarded.steps step initial [.mount, .opened 0, .serverCloses 0] = some s ∧
      ∃ s', Guarded.steps step s [.closed 0] = some s' ∧
        ((∃ first later m, [SocketAction.closed 0] = first ++ later ∧
            Guarded.steps step s first = some m ∧ anyLive m.sockets) ∨
          s'.pending + 1 = s.pending ∧ ∃ a, isOwn a = true ∧ (s'.step a).isSome = true) := by
  have ran : Guarded.steps step initial [.mount, .opened 0, .serverCloses 0] =
      some ⟨true, .connected, some 0, none, [.closing], []⟩ := rfl
  exact ⟨_, ran, _, rfl, socket_reconnects ran rfl rfl rfl⟩

end MetricsSocket

end VpsDashboard.Frontend
