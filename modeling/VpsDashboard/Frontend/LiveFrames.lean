/-
# VpsDashboard.Frontend.LiveFrames — the frames on their way from the hub to the page

The hub of the server and `useMetricsSocket` of the page together.  A socket of the page
becomes a connection of the hub when `ServeWS` has upgraded it; what the write pump of the
connection has taken arrives as messages, in order, for as long as the socket is open; each
message is shown.  Frames are dropped where a queue is full, connections break at any time,
and after a close event a timer opens the next socket, which is a new connection to the hub.

`frames_in_order` — in every run of both, with any other clients: as long as the close
events and timers of the hook come in time (`MetricsSocket.Timely`), the frames that the
page has shown, over all its sockets, are an in-order part of the frames that the hub has
started to send, each at most once.  So the page never goes back to an older frame, and
never shows one twice.
-/
import VpsDashboard.Frontend.MetricsSocket
import VpsDashboard.Server.HubInvariant
import Mathlib.Logic.Function.Basic

namespace VpsDashboard.Frontend

open Foundation
open Server (Client ClientId Hub)

set_option autoImplicit false

variable {α : Type}

/-! ## What the hub does to a connection -/

/-- The frames that the hub has started to send, the one in hand among them. -/
def started (hub : Hub α) : List α :=
  match hub.phase with
  | .idle => hub.processed
  | .sending message _ => hub.processed ++ [message]

/-- A connection after a step: it has taken more frames or none, and from its registration
on, which is at the end of the frames so far, it is registered. -/
structure Follows (client client' : Client α) (frames : List α) : Prop where
  taken : client.taken <+: client'.taken
  stays : client.registered = true → client'.registered = true ∧ client'.since = client.since
  joins : client.registered = false → client'.registered = true → client'.since = frames.length

theorem Follows.same {client client' : Client α} {frames : List α}
    (taken : client.taken <+: client'.taken) (registered : client'.registered = client.registered)
    (since : client'.since = client.since) : Follows client client' frames where
  taken := taken
  stays was := ⟨registered.trans was, since⟩
  joins wasNot is := by
    rw [registered, wasNot] at is
    cases is

theorem follows_refl (client : Client α) (frames : List α) : Follows client client frames :=
  .same (List.prefix_refl _) rfl rfl

/-- Every connection follows, and nothing that was started is taken back. -/
def Advances (hub hub' : Hub α) : Prop :=
  started hub <+: started hub' ∧
    ∀ c client, hub.conns c = some client →
      ∃ client', hub'.conns c = some client' ∧ Follows client client' (started hub')

section HubSteps

variable {hub hub' : Hub α} {c : ClientId} {client client' : Client α}

theorem advances_conns (frames : started hub <+: started hub') (conns : hub'.conns = hub.conns) :
    Advances hub hub' :=
  ⟨frames, fun _ client found => ⟨client, conns ▸ found, follows_refl _ _⟩⟩

theorem advances_setConn (found : hub.conns c = some client) (same : started hub' = started hub)
    (conns : hub'.conns = (hub.setConn c client').conns)
    (follows : Follows client client' (started hub)) : Advances hub hub' := by
  refine ⟨by rw [same], fun other holder held => ?_⟩
  by_cases mine : other = c
  · subst mine
    obtain rfl : client = holder := Option.some.inj (found.symm.trans held)
    exact ⟨client', by simp [conns, Hub.setConn], same ▸ follows⟩
  · exact ⟨holder, by simp [conns, Hub.setConn, mine, held], follows_refl _ _⟩

theorem remove_advances (found : hub.conns c = some client) {fromReadPump : Bool}
    (requested : Hub.request client fromReadPump = some client')
    (removed : hub.remove c client' = .ok hub') : Advances hub hub' := by
  obtain ⟨-, registered, -, taken, since, -⟩ := Server.request_some requested
  have prefixed : client.taken <+: client'.taken := by rw [taken]
  unfold Hub.remove at removed
  split at removed
  · split at removed
    · cases removed
    · obtain rfl := Except.ok.inj removed
      exact advances_setConn found rfl rfl (.same prefixed registered since)
  · obtain rfl := Except.ok.inj removed
    exact advances_setConn found rfl rfl (.same prefixed registered since)

theorem offer_advances (found : hub.conns c = some client) {message : α}
    {remaining : Finset ClientId} (sending : hub.phase = .sending message remaining)
    (offered : hub.offer c client message remaining = .ok hub') : Advances hub hub' := by
  have still : ∀ client' : Client α,
      started { hub.setConn c client' with phase := .sending message (remaining.erase c) } =
        started hub := by
    intro client'
    rw [started, started, sending]
    rfl
  unfold Hub.offer at offered
  split at offered
  · cases offered
  · obtain rfl := Except.ok.inj offered
    exact advances_setConn found (still _) rfl (.same (List.prefix_refl _) rfl rfl)
  · obtain rfl := Except.ok.inj offered
    exact advances_setConn found (still _) rfl (.same (List.prefix_refl _) rfl rfl)

theorem receive_advances (found : hub.conns c = some client) (frame : Option α)
    (send : Channel 8 α) (written : Bool) :
    Advances hub (hub.setConn c (Hub.writeFrame client send frame written)) := by
  refine advances_setConn found rfl rfl (.same ?_ ?_ ?_)
  · cases frame with
    | none => exact List.prefix_refl _
    | some frame => exact List.prefix_append _ _
  · cases frame <;> rfl
  · cases frame <;> rfl

theorem step_advances {action : Server.Action α}
    (stepped : Server.step hub action = some (.ok hub')) : Advances hub hub' := by
  have takes := Server.takes_of_step stepped
  cases action with
  | connect c =>
      obtain ⟨absent, same⟩ := takes
      obtain rfl := Except.ok.inj same
      refine ⟨List.prefix_refl _, fun other holder held => ⟨holder, ?_, follows_refl _ _⟩⟩
      have different : other ≠ c := by
        rintro rfl
        rw [absent] at held
        cases held
      simp [Hub.setConn, different, held]
  | register c =>
      obtain ⟨client, idle, found, waiting, same⟩ := takes
      obtain rfl := Except.ok.inj same
      refine advances_setConn found rfl rfl ⟨List.prefix_refl _, ?_, ?_⟩
      · intro was
        rw [waiting] at was
        cases was
      · intro _ _
        rw [started, idle]
  | startPumps c =>
      obtain ⟨client, found, -, -, same⟩ := takes
      obtain rfl := Except.ok.inj same
      exact advances_setConn found rfl rfl (.same (List.prefix_refl _) rfl rfl)
  | readFails c =>
      obtain ⟨client, found, -, same⟩ := takes
      obtain rfl := Except.ok.inj same
      exact advances_setConn found rfl rfl (.same (List.prefix_refl _) rfl rfl)
  | unregister c fromReadPump =>
      obtain ⟨client, client', -, found, requested, same⟩ := takes
      exact remove_advances found requested same.symm
  | broadcast data =>
      cases data with
      | none =>
          obtain rfl := Except.ok.inj takes
          exact advances_conns (List.prefix_refl _) rfl
      | some data =>
          have sent : hub.broadcastFrame data = .ok hub' := takes.symm
          unfold Hub.broadcastFrame at sent
          split at sent
          · cases sent
          · obtain rfl := Except.ok.inj sent
            exact advances_conns (List.prefix_refl _) rfl
  | take =>
      obtain ⟨message, broadcast, idle, -, same⟩ := takes
      obtain rfl := Except.ok.inj same
      refine advances_conns ?_ rfl
      rw [started, started, idle]
      exact List.prefix_append _ _
  | offer c =>
      obtain ⟨message, remaining, client, sending, found, -, same⟩ := takes
      exact offer_advances found sending same.symm
  | finish =>
      obtain ⟨message, sending, same⟩ := takes
      obtain rfl := Except.ok.inj same
      refine advances_conns ?_ rfl
      rw [started, started, sending]
  | receive c written =>
      obtain ⟨client, frame, send, found, -, -, same⟩ := takes
      obtain rfl := Except.ok.inj same
      exact receive_advances found frame send written
  | pingFails c =>
      obtain ⟨client, found, -, same⟩ := takes
      obtain rfl := Except.ok.inj same
      exact advances_setConn found rfl rfl (.same (List.prefix_refl _) rfl rfl)

/-- What a registered connection has taken comes after the frames before it. -/
theorem taken_sublist (inv : hub.Inv) (found : hub.conns c = some client) :
    client.taken.Sublist ((started hub).drop client.since) := by
  have offered : hub.offered c <+: started hub := by
    rw [Hub.offered, started]
    cases hub.phase with
    | idle => exact List.prefix_refl _
    | sending message remaining =>
        dsimp only
        split
        · exact List.prefix_append _ _
        · exact List.prefix_refl _
  have delivered : client.taken.Sublist client.delivered := List.sublist_append_left _ _
  exact (delivered.trans (inv.good c client found).ordered).trans (offered.sublist.drop _)

end HubSteps

/-! ## Server and page -/

/-- `conn` and `handled` say of each socket which connection of the hub it is, and how many
of its messages have been handled; `shown` are the frames that `setFrame` was given. -/
structure LiveFrames (α : Type) where
  hub : Hub α
  hook : MetricsSocket
  conn : Nat → Option ClientId
  handled : Nat → Nat
  shown : List α

/-- A step of the server, of the hook, the upgrade of a socket by `ServeWS`, and the next
message of a socket. -/
inductive LiveAction (α : Type) where
  | server (a : Server.Action α)
  | hook (a : SocketAction)
  | upgrade (i : Nat) (c : ClientId)
  | message (i : Nat)

namespace LiveFrames

def initial : LiveFrames α := ⟨Server.newHub, .initial, fun _ => none, fun _ => 0, []⟩

def serve (s : LiveFrames α) (a : Server.Action α) : Option (LiveFrames α) :=
  match Server.step s.hub a with
  | some (.ok hub) => some { s with hub := hub }
  | _ => none

/-- `onmessage`, with a frame of the hub. -/
def onmessage (s : LiveFrames α) (i : Nat) (frame : α) : LiveFrames α := { s with
  handled := Function.update s.handled i (s.handled i + 1)
  shown := s.shown ++ [frame] }

/-- `ServeWS` has upgraded socket `i`: it is the new connection `c` of the hub. -/
def upgraded (s : LiveFrames α) (i : Nat) (c : ClientId) : LiveFrames α := { s with
  hub := s.hub.setConn c .new
  conn := Function.update s.conn i (some c) }

def step (s : LiveFrames α) : LiveAction α → Option (LiveFrames α)
  | .server a => s.serve a
  | .hook a => (s.hook.step a).map fun hook => { s with hook := hook }
  | .upgrade i c =>
      if i < s.hook.sockets.length ∧ s.conn i = none then
        if (s.hub.conns c).isNone then some (s.upgraded i c) else none
      else none
  | .message i =>
      if s.hook.sockets[i]? = some .opened then do
        let c ← s.conn i
        let client ← s.hub.conns c
        let frame ← client.taken[s.handled i]?
        return s.onmessage i frame
      else none

/-- The close events and the timers of the hook come in time. -/
def Timely (s : LiveFrames α) : LiveAction α → Prop
  | .hook a => s.hook.Timely a
  | _ => True

instance (s : LiveFrames α) (a : LiveAction α) : Decidable (s.Timely a) :=
  match a with
  | .hook a => inferInstanceAs (Decidable (s.hook.Timely a))
  | .server _ | .upgrade _ _ | .message _ => isTrue trivial

/-! ## The invariant -/

/-- What is shown are the messages of this socket, after frames from before its connection
was registered. -/
structure Current (s : LiveFrames α) (i : Nat) : Prop where
  waiting : s.conn i = none → s.handled i = 0
  connected : ∀ c client, s.conn i = some c → s.hub.conns c = some client →
    s.handled i ≤ client.taken.length ∧
      ∃ before, s.shown = before ++ client.taken.take (s.handled i) ∧
        (client.registered = true → before.Sublist ((started s.hub).take client.since))

structure Ordered (s : LiveFrames α) : Prop where
  hub : s.hub.Inv
  one : s.hook.OneLive
  all : s.shown.Sublist (started s.hub)
  known : ∀ i c, s.conn i = some c → s.hub.conns c ≠ none
  fresh : ∀ i, s.hook.sockets.length ≤ i → s.conn i = none ∧ s.handled i = 0
  current : ∀ i, liveAt s.hook.sockets i = true → Current s i

variable {s s' : LiveFrames α}

theorem ordered_initial : (initial : LiveFrames α).Ordered where
  hub := .newHub
  one := MetricsSocket.oneLive_initial
  all := List.nil_sublist _
  known i c found := by cases found
  fresh i _ := ⟨rfl, rfl⟩
  current i live := by cases live

theorem serve_eq_some {a : Server.Action α} (served : s.serve a = some s') :
    ∃ hub, Server.step s.hub a = some (.ok hub) ∧ s' = { s with hub := hub } := by
  unfold serve at served
  split at served
  · rename_i hub stepped
    exact ⟨hub, stepped, (Option.some.inj served).symm⟩
  · cases served

/-- A connection that moves on keeps what was shown before it. -/
theorem Current.advance {i : Nat} (current : Current s i) {hub : Hub α}
    (advances : Advances s.hub hub) (all : s.shown.Sublist (started hub))
    (known : ∀ c, s.conn i = some c → s.hub.conns c ≠ none) :
    Current { s with hub := hub } i where
  waiting := current.waiting
  connected c client' conn found' := by
    obtain ⟨client, found⟩ := Option.ne_none_iff_exists'.mp (known c conn)
    obtain ⟨follower, there, follows⟩ := advances.2 c client found
    obtain rfl : follower = client' := Option.some.inj (there.symm.trans found')
    obtain ⟨within, before, shown, early⟩ := current.connected c client conn found
    obtain ⟨more, longer⟩ := follows.taken
    refine ⟨?_, before, ?_, fun registered => ?_⟩
    · show s.handled i ≤ follower.taken.length
      rw [← longer, List.length_append]
      omega
    · show s.shown = before ++ follower.taken.take (s.handled i)
      rw [← longer, List.take_append_of_le_length within]
      exact shown
    · cases was : client.registered with
      | true =>
          rw [(follows.stays was).2]
          exact (early was).trans (advances.1.take _).sublist
      | false =>
          rw [follows.joins was registered]
          have start : before.Sublist s.shown := shown ▸ List.sublist_append_left _ _
          simpa using start.trans all

theorem Ordered.serve (ordered : s.Ordered) {a : Server.Action α} (served : s.serve a = some s') :
    s'.Ordered := by
  obtain ⟨hub, stepped, rfl⟩ := serve_eq_some served
  have advances := step_advances stepped
  obtain ⟨hub', same, inv⟩ := Server.step_inv ordered.hub stepped
  obtain rfl := Except.ok.inj same
  have all := ordered.all.trans advances.1.sublist
  refine ⟨inv, ordered.one, all, fun i c conn => ?_, ordered.fresh, fun i live =>
    (ordered.current i live).advance advances all (ordered.known i)⟩
  obtain ⟨client, found⟩ := Option.ne_none_iff_exists'.mp (ordered.known i c conn)
  obtain ⟨client', there, -⟩ := advances.2 c client found
  rw [there]
  exact Option.some_ne_none _

/-! ### The hook -/

theorem liveAt_modify_close {sockets : List ReadyState} {i j : Nat}
    (live : liveAt (sockets.modify j ReadyState.close) i = true) : liveAt sockets i = true := by
  unfold liveAt at live ⊢
  rw [List.getElem?_modify] at live
  cases found : sockets[i]? with
  | none => simp [found] at live
  | some r =>
      by_cases same : j = i
      · simp [found, same, ReadyState.close_live] at live
      · simpa [found, same] using live

/-- Sockets are never taken away, and a socket is live only if it was or is new. -/
structure Grows (h h' : MetricsSocket) : Prop where
  length : h.sockets.length ≤ h'.sockets.length
  live : ∀ i, liveAt h'.sockets i = true → liveAt h.sockets i = true ∨ h.sockets.length ≤ i

theorem connect_grows (h : MetricsSocket) : Grows h h.connect := by
  unfold MetricsSocket.connect
  split
  · exact ⟨Nat.le_refl _, fun _ live => .inl live⟩
  · refine ⟨by simp, fun i live => ?_⟩
    rcases liveAt_of_append live with old | rfl
    · exact .inl old
    · exact .inr (Nat.le_refl _)

/-- A socket that becomes another one, live only if the old one was. -/
theorem set_grows {h : MetricsSocket} {i : Nat} {r r' : ReadyState} (found : h.sockets[i]? = some r)
    (kept : r'.live = true → r.live = true) {h' : MetricsSocket}
    (sockets : h'.sockets = h.sockets.set i r') : Grows h h' := by
  refine ⟨by simp [sockets], fun j live => .inl ?_⟩
  rw [sockets] at live
  exact liveAt_set found kept live

theorem hook_grows {h h' : MetricsSocket} {a : SocketAction} (stepped : h.step a = some h') :
    Grows h h' := by
  have event : ∀ {i}, a = .opened i ∨ a = .error i ∨ a = .serverCloses i → Grows h h' := by
    intro i kind
    obtain ⟨connection, r, r', found, kept, rfl⟩ := MetricsSocket.step_event kind stepped
    exact set_grows found kept rfl
  cases a with
  | mount =>
      obtain ⟨-, rfl⟩ := MetricsSocket.step_mount stepped
      exact ⟨(connect_grows h).length, (connect_grows h).live⟩
  | unmount =>
      obtain rfl := MetricsSocket.step_unmount stepped
      cases current : h.wsRef with
      | none => exact ⟨by simp [MetricsSocket.cleanup, current], fun i live => .inl (by
          simpa [MetricsSocket.cleanup, current] using live)⟩
      | some j =>
          refine ⟨by simp [MetricsSocket.cleanup, current], fun i live => .inl ?_⟩
          have closing : liveAt (h.sockets.modify j ReadyState.close) i = true := by
            simpa [MetricsSocket.cleanup, current] using live
          exact liveAt_modify_close closing
  | opened i => exact event (.inl rfl)
  | error i => exact event (.inr (.inl rfl))
  | serverCloses i => exact event (.inr (.inr rfl))
  | closed i =>
      obtain ⟨r, found, rfl⟩ := MetricsSocket.step_closed stepped
      have never : ReadyState.closed.live = true → r.live = true := by simp [ReadyState.live]
      exact set_grows found never rfl
  | fire t =>
      obtain rfl := MetricsSocket.step_fire stepped
      have grows := connect_grows { h with timers := h.timers.set t false }
      exact ⟨grows.length, grows.live⟩

theorem Ordered.hook (ordered : s.Ordered) {a : SocketAction} (timely : s.hook.Timely a)
    {hook : MetricsSocket} (stepped : s.hook.step a = some hook) :
    ({ s with hook := hook } : LiveFrames α).Ordered := by
  have grows := hook_grows stepped
  refine ⟨ordered.hub, ordered.one.step timely stepped, ordered.all, ordered.known, fun i above =>
    ordered.fresh i (Nat.le_trans grows.length above), fun i live => ?_⟩
  rcases grows.live i live with was | new
  · exact ⟨(ordered.current i was).waiting, (ordered.current i was).connected⟩
  · obtain ⟨unconnected, none⟩ := ordered.fresh i new
    refine ⟨fun _ => none, fun c client conn _ => ?_⟩
    rw [show s.conn i = some c from conn] at unconnected
    cases unconnected

/-! ### Upgrades and messages -/

theorem upgraded_conn_self (s : LiveFrames α) (i : Nat) (c : ClientId) :
    (s.upgraded i c).conn i = some c := Function.update_self _ _ _

theorem upgraded_conn_other (s : LiveFrames α) {i j : Nat} (different : j ≠ i) (c : ClientId) :
    (s.upgraded i c).conn j = s.conn j := Function.update_of_ne different _ _

theorem upgraded_conns_self (s : LiveFrames α) (i : Nat) (c : ClientId) :
    (s.upgraded i c).hub.conns c = some .new := by
  simp [upgraded, Hub.setConn]

theorem Ordered.upgrade {i : Nat} {c : ClientId} (inside : i < s.hook.sockets.length)
    (unconnected : s.conn i = none)
    (after : ({ s with hub := s.hub.setConn c .new } : LiveFrames α).Ordered) :
    (s.upgraded i c).Ordered := by
  refine ⟨after.hub, after.one, after.all, fun j d conn => ?_, fun j above => ?_, fun j live => ?_⟩
  · by_cases mine : j = i
    · subst mine
      obtain rfl : c = d := Option.some.inj ((upgraded_conn_self s j c).symm.trans conn)
      rw [upgraded_conns_self]
      exact Option.some_ne_none _
    · exact after.known j d ((upgraded_conn_other s mine c).symm.trans conn)
  · have different : j ≠ i := by
      rintro rfl
      exact absurd inside (Nat.not_lt.mpr above)
    rw [upgraded_conn_other s different]
    exact after.fresh j above
  · have kept := after.current j live
    by_cases mine : j = i
    · subst mine
      have none : (s.upgraded j c).handled j = 0 := kept.waiting unconnected
      refine ⟨fun _ => none, fun d client conn found => ?_⟩
      obtain rfl : c = d := Option.some.inj ((upgraded_conn_self s j c).symm.trans conn)
      obtain rfl : .new = client := Option.some.inj ((upgraded_conns_self s j c).symm.trans found)
      rw [none]
      exact ⟨Nat.zero_le _, s.shown, (List.append_nil _).symm, by simp [Client.new]⟩
    · exact ⟨fun conn => kept.waiting ((upgraded_conn_other s mine c).symm.trans conn),
        fun d client conn found =>
          kept.connected d client ((upgraded_conn_other s mine c).symm.trans conn) found⟩

/-- The next message of the live socket comes after all that is shown. -/
theorem Ordered.onmessage (ordered : s.Ordered) {i : Nat} {c : ClientId} {client : Client α}
    {frame : α} (opened : s.hook.sockets[i]? = some .opened) (conn : s.conn i = some c)
    (found : s.hub.conns c = some client) (taken : client.taken[s.handled i]? = some frame) :
    (s.onmessage i frame).Ordered := by
  have live : liveAt s.hook.sockets i = true := liveAt_some opened
  have inside : i < s.hook.sockets.length := (List.getElem?_eq_some_iff.mp opened).1
  obtain ⟨within, same⟩ := List.getElem?_eq_some_iff.mp taken
  obtain ⟨-, before, shown, early⟩ := (ordered.current i live).connected c client conn found
  have longer : s.shown ++ [frame] = before ++ client.taken.take (s.handled i + 1) := by
    rw [shown, List.append_assoc, List.take_add_one, taken]
    rfl
  have registered : client.registered = true := by
    by_contra missing
    have none := ((ordered.hub.good c client found).unregistered (by simpa using missing)).2.2.2.2
    rw [none] at taken
    cases taken
  have all : (s.shown ++ [frame]).Sublist (started s.hub) := by
    rw [longer, ← List.take_append_drop client.since (started s.hub)]
    exact (early registered).append
      ((List.take_sublist _ _).trans (taken_sublist ordered.hub found))
  refine ⟨ordered.hub, ordered.one, all, ordered.known, fun j above => ?_, fun j other => ?_⟩
  · have different : j ≠ i := by
      rintro rfl
      exact absurd inside (Nat.not_lt.mpr above)
    refine ⟨(ordered.fresh j above).1, ?_⟩
    show Function.update s.handled i (s.handled i + 1) j = 0
    rw [Function.update_of_ne different]
    exact (ordered.fresh j above).2
  · obtain rfl : j = i := ordered.one.atMostOne j i other live
    refine ⟨fun empty => ?_, fun d client' conn' found' => ?_⟩
    · rw [show s.conn j = none from empty] at conn
      cases conn
    · obtain rfl : c = d := Option.some.inj (conn.symm.trans conn')
      obtain rfl : client = client' := Option.some.inj (found.symm.trans found')
      have counted : (s.onmessage j frame).handled j = s.handled j + 1 := Function.update_self _ _ _
      rw [counted]
      exact ⟨within, before, longer, early⟩

theorem Ordered.step {a : LiveAction α} (ordered : s.Ordered) (timely : s.Timely a)
    (stepped : s.step a = some s') : s'.Ordered := by
  cases a with
  | server a => exact ordered.serve stepped
  | hook a =>
      obtain ⟨hook, moved, rfl⟩ := Option.map_eq_some_iff.mp stepped
      exact ordered.hook timely moved
  | upgrade i c =>
      obtain ⟨⟨inside, unconnected⟩, rest⟩ := Option.ite_none_right_eq_some.mp stepped
      obtain ⟨absent, same⟩ := Option.ite_none_right_eq_some.mp rest
      obtain rfl := Option.some.inj same
      have connected : s.serve (.connect c) = some { s with hub := s.hub.setConn c .new } := by
        simp [LiveFrames.serve, Server.step, Option.isNone_iff_eq_none.mp absent]
      exact Ordered.upgrade inside unconnected (ordered.serve connected)
  | message i =>
      obtain ⟨opened, rest⟩ := Option.ite_none_right_eq_some.mp stepped
      obtain ⟨c, conn, rest⟩ := Option.bind_eq_some_iff.mp rest
      obtain ⟨client, found, rest⟩ := Option.bind_eq_some_iff.mp rest
      obtain ⟨frame, taken, rest⟩ := Option.bind_eq_some_iff.mp rest
      obtain rfl := Option.some.inj rest
      exact ordered.onmessage opened conn found taken

/-- **The page never goes back.**  In every run of the server and the page, with any other
clients, connections that break and frames that are dropped: if the close events and the
timers of the hook come in time, what the page has shown, over all its sockets, is an
in-order part of the frames that the hub has started to send, each at most once. -/
theorem frames_in_order (actions : List (LiveAction α))
    (timely : Guarded.Meets step Timely initial actions)
    (ran : Guarded.steps step initial actions = some s) :
    s.shown.Sublist (started s.hub) :=
  (Guarded.steps_invariant_of Ordered.step ordered_initial timely ran).all

/-! ## Two sockets -/

/-- The hub sends one frame to these clients, whose write pumps take it. -/
def sendTo (clients : List ClientId) (frame : Nat) : List (LiveAction Nat) :=
  [.server (.broadcast (some frame)), .server .take] ++
    clients.map (fun c => .server (.offer c)) ++ [.server .finish] ++
    clients.map (fun c => .server (.receive c true))

/-- Socket `i` becomes connection `c`. -/
def joining (i : Nat) (c : ClientId) : List (LiveAction Nat) :=
  [.upgrade i c, .hook (.opened i), .server (.register c), .server (.startPumps c)]

/-- The connection breaks; the hub sends a frame before the next socket is there. -/
def reconnectRun : List (LiveAction Nat) :=
  .hook .mount :: joining 0 0 ++ sendTo [0] 1 ++ [.message 0, .hook (.serverCloses 0),
    .hook (.closed 0), .server (.readFails 0), .server (.unregister 0 true)] ++ sendTo [] 2 ++
    .hook (.fire 0) :: joining 1 1 ++ sendTo [1] 3 ++ [.message 1]

def reconnected : LiveFrames Nat := (Guarded.steps step initial reconnectRun).getD initial

/-- The rule for them: the page has missed a frame and goes on with the next. -/
theorem frames_in_order_reconnected :
    reconnected.shown = [1, 3] ∧ started reconnected.hub = [1, 2, 3] ∧
      reconnected.shown.Sublist (started reconnected.hub) :=
  ⟨by rfl, by rfl, frames_in_order reconnectRun (by decide +kernel) (by rfl)⟩

/-- A late close event of the first socket of a `StrictMode` mount leaves two open sockets;
the slower one takes the page back. -/
def strictRun : List (LiveAction Nat) :=
  [.hook .mount, .hook .unmount, .hook .mount, .hook (.closed 0), .hook (.fire 0)] ++
    joining 1 1 ++ joining 2 2 ++ sendTo [1, 2] 1 ++ sendTo [1, 2] 2 ++
    [.message 1, .message 1, .message 2]

example : (Guarded.steps step initial strictRun).map shown = some [1, 2, 1] := by rfl

end LiveFrames

end VpsDashboard.Frontend
