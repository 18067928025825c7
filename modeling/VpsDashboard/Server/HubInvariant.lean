/-
# VpsDashboard.Server.HubInvariant — no panic and no silent gap

One invariant ties a client's place in the set, its channel, the requests to
remove it and the frames it has received together (`Client.Good`, `Hub.Inv`).
Every step keeps it, and no step from a hub that has it panics (`step_inv`).

* `hub_channels_safe` — a channel is closed at most once, nothing is sent on a
  closed channel, and a registered client is in the set exactly while its channel
  is open;
* `hub_delivery` — what a client has received and what waits in its buffer is an
  in-order part of the frames offered since it registered, and all of them unless
  the client has been removed or a request to remove it is on its way.
-/
import VpsDashboard.Server.Hub

namespace VpsDashboard.Server

open Foundation

set_option autoImplicit false

variable {α : Type}

/-- The frames whose turn at client `c` has come: those that are processed, and the
one the hub is working on once `c` is no longer among the clients that remain. -/
def Hub.offered (hub : Hub α) (c : ClientId) : List α :=
  match hub.phase with
  | .idle => hub.processed
  | .sending message remaining =>
      if c ∈ remaining then hub.processed else hub.processed ++ [message]

theorem Hub.offered_idle {hub : Hub α} (idle : hub.phase = .idle) (c : ClientId) :
    hub.offered c = hub.processed := by
  rw [Hub.offered, idle]

theorem Hub.offered_sending {hub : Hub α} {message : α} {remaining : Finset ClientId}
    (sending : hub.phase = .sending message remaining) (c : ClientId) :
    hub.offered c = if c ∈ remaining then hub.processed else hub.processed ++ [message] := by
  rw [Hub.offered, sending]

/-- What its write pump has taken, then what waits in its buffer. -/
def Client.delivered (client : Client α) : List α := client.taken ++ client.send.buffer

/-- What holds of a client that is in the set or not, after these frames. -/
structure Client.Good (client : Client α) (member : Prop) (offered : List α) : Prop where
  membership : client.registered = true → (member ↔ client.send.closed = false)
  unregistered : client.registered = false →
    ¬ member ∧ client.send = .make 8 α ∧ client.readPump = .notStarted ∧ client.evictions = 0 ∧
      client.taken = []
  closings : client.closings = if client.send.closed then 1 else 0
  since : client.since ≤ offered.length
  ordered : client.delivered.Sublist (offered.drop client.since)
  complete : member → client.pending = false → client.delivered = offered.drop client.since

structure Hub.Inv (hub : Hub α) : Prop where
  good : ∀ c client, hub.conns c = some client → client.Good (c ∈ hub.clients) (hub.offered c)
  known : ∀ c, c ∈ hub.clients → hub.conns c ≠ none
  remaining : ∀ message remaining, hub.phase = .sending message remaining → remaining ⊆ hub.clients
  queue : hub.broadcast.closed = false

namespace Client.Good

variable {client : Client α} {member : Prop} {offered : List α}

theorem registered_of_member (good : client.Good member offered) (inside : member) :
    client.registered = true := by
  by_contra missing
  exact (good.unregistered (by simpa using missing)).1 inside

theorem open_of_member (good : client.Good member offered) (inside : member) :
    client.send.closed = false :=
  (good.membership (good.registered_of_member inside)).mp inside

/-- A client outside the set sees more frames go by without receiving them. -/
theorem pass (good : client.Good member offered) (outside : ¬ member) (frame : α) :
    client.Good member (offered ++ [frame]) where
  membership := good.membership
  unregistered := good.unregistered
  closings := good.closings
  since := by
    have since := good.since
    rw [List.length_append]
    omega
  ordered := by
    rw [List.drop_append_of_le_length good.since]
    exact good.ordered.trans (List.sublist_append_left _ _)
  complete inside := absurd inside outside

theorem new : (Client.new : Client α).Good False offered where
  membership := nofun
  unregistered _ := ⟨id, rfl, rfl, rfl, rfl⟩
  closings := rfl
  since := Nat.zero_le _
  ordered := List.nil_sublist _
  complete := False.elim

/-- A registered client whose pumps move on, with a request more or fewer to remove it. -/
theorem pumps (good : client.Good member offered) {client' : Client α}
    (registered : client.registered = true) (registered' : client'.registered = true)
    (send : client'.send = client.send) (taken : client'.taken = client.taken)
    (since : client'.since = client.since) (closings : client'.closings = client.closings)
    (pending : member → client'.pending = false → client.pending = false) :
    client'.Good member offered where
  membership _ := by
    rw [send]
    exact good.membership registered
  unregistered missing := by
    rw [registered'] at missing
    cases missing
  closings := by rw [closings, send, good.closings]
  since := by rw [since]; exact good.since
  ordered := by
    rw [Client.delivered, send, taken, since]
    exact good.ordered
  complete inside none := by
    rw [Client.delivered, send, taken, since]
    exact good.complete inside (pending inside none)

theorem writePump (good : client.Good member offered) (pump : WritePump) :
    ({ client with writePump := pump } : Client α).Good member offered :=
  ⟨good.membership, good.unregistered, good.closings, good.since, good.ordered, good.complete⟩

end Client.Good

/-! ## One client changes -/

/-- A step that changes client `c`, and nothing that the others can see. -/
theorem Hub.Inv.change {hub hub' : Hub α} (inv : hub.Inv) {c : ClientId} {client : Client α}
    (conns : hub'.conns = (hub.setConn c client).conns)
    (members : ∀ other, other ≠ c → (other ∈ hub'.clients ↔ other ∈ hub.clients))
    (offered : ∀ other, other ≠ c → hub'.offered other = hub.offered other)
    (good : client.Good (c ∈ hub'.clients) (hub'.offered c))
    (remaining : ∀ message remaining, hub'.phase = .sending message remaining →
      remaining ⊆ hub'.clients)
    (queue : hub'.broadcast = hub.broadcast) : hub'.Inv where
  good other holder := by
    intro found
    rw [conns] at found
    by_cases same : other = c
    · subst same
      obtain rfl : client = holder := by simpa [Hub.setConn] using found
      exact good
    · have before : hub.conns other = some holder := by simpa [Hub.setConn, same] using found
      rw [offered other same]
      have kept := inv.good other holder before
      rwa [← members other same] at kept
  known other inside := by
    rw [conns]
    by_cases same : other = c
    · simp [Hub.setConn, same]
    · simpa [Hub.setConn, same] using inv.known other ((members other same).mp inside)
  remaining := remaining
  queue := by rw [queue]; exact inv.queue

/-- A step that changes client `c` only, and neither the set nor the frames. -/
theorem Hub.Inv.setConn {hub : Hub α} (inv : hub.Inv) {c : ClientId} {client : Client α}
    (good : client.Good (c ∈ hub.clients) (hub.offered c)) : (hub.setConn c client).Inv :=
  inv.change rfl (fun _ _ => Iff.rfl) (fun _ _ => rfl) good inv.remaining rfl

theorem Hub.Inv.newHub : (newHub : Hub α).Inv where
  good c client found := by cases found
  known c inside := by simp [Server.newHub] at inside
  remaining message remaining sending := by cases sending
  queue := rfl

section Steps

variable {hub : Hub α} {c : ClientId} {client : Client α}

theorem connect_inv (inv : hub.Inv) (absent : hub.conns c = none) :
    (hub.setConn c .new).Inv := by
  have outside : c ∉ hub.clients := fun inside => inv.known c inside absent
  apply inv.setConn
  rw [show (c ∈ hub.clients) = False from eq_false outside]
  exact .new

theorem register_inv (inv : hub.Inv) (found : hub.conns c = some client)
    (idle : hub.phase = .idle) (waiting : client.registered = false) :
    ({ hub.setConn c { client with registered := true, since := hub.processed.length } with
        clients := insert c hub.clients } : Hub α).Inv := by
  have good := inv.good c client found
  obtain ⟨-, fresh, started, none, taken⟩ := good.unregistered waiting
  refine inv.change rfl ?_ ?_ ?_ ?_ rfl
  · intro other different
    simp [different]
  · intro other different
    rfl
  · have offered : hub.offered c = hub.processed := Hub.offered_idle idle c
    constructor
    · intro _
      simp [fresh]
    · nofun
    · exact good.closings
    · exact Nat.le_of_eq (congrArg List.length offered).symm
    · rw [Client.delivered, fresh, taken]
      exact List.nil_sublist _
    · intro _ _
      rw [Client.delivered, fresh, taken]
      have none : (hub.offered c).drop hub.processed.length = [] := by
        rw [offered, List.drop_length]
      exact none.symm
  · intro message remaining sending
    rw [show hub.phase = _ from sending] at idle
    cases idle

theorem startPumps_inv (inv : hub.Inv) (found : hub.conns c = some client)
    (registered : client.registered = true) (waiting : client.readPump = .notStarted) :
    (hub.setConn c { client with readPump := .reading, writePump := .running }).Inv := by
  refine inv.setConn ((inv.good c client found).pumps registered registered rfl rfl rfl rfl ?_)
  intro _ none
  simpa [Client.pending, waiting] using none

theorem readFails_inv (inv : hub.Inv) (found : hub.conns c = some client)
    (reading : client.readPump = .reading) :
    (hub.setConn c { client with readPump := .unregistering }).Inv := by
  have good := inv.good c client found
  have registered : client.registered = true := by
    by_contra missing
    have waiting := (good.unregistered (by simpa using missing)).2.2.1
    rw [reading] at waiting
    cases waiting
  refine inv.setConn (good.pumps registered registered rfl rfl rfl rfl ?_)
  intro _ none
  simp [Client.pending] at none

/-- A request is one of those that were pending, and touches only the pumps. -/
theorem request_some {fromReadPump : Bool} {client' : Client α}
    (requested : Hub.request client fromReadPump = some client') :
    client.pending = true ∧ client'.registered = client.registered ∧ client'.send = client.send ∧
      client'.taken = client.taken ∧ client'.since = client.since ∧
      client'.closings = client.closings := by
  unfold Hub.request at requested
  split at requested
  · split at requested
    · rename_i waiting
      obtain rfl := Option.some.inj requested
      exact ⟨by simp [Client.pending, waiting], rfl, rfl, rfl, rfl, rfl⟩
    · cases requested
  · split at requested
    · rename_i waiting
      obtain rfl := Option.some.inj requested
      exact ⟨by simp [Client.pending, waiting], rfl, rfl, rfl, rfl, rfl⟩
    · cases requested

theorem Client.Good.registered_of_pending {member : Prop} {offered : List α}
    (good : client.Good member offered) (pending : client.pending = true) :
    client.registered = true := by
  by_contra missing
  obtain ⟨-, -, started, none, -⟩ := good.unregistered (by simpa using missing)
  simp [Client.pending, started, none] at pending

theorem remove_member (inside : c ∈ hub.clients) (isOpen : client.send.closed = false) :
    hub.remove c client = .ok { hub.setConn c { client with
        send := { client.send with closed := true }, closings := client.closings + 1 } with
      clients := hub.clients.erase c } := by
  rw [Hub.remove, if_pos inside, Channel.close_open isOpen]

/-- Removing a client closes a channel that is open, or does nothing. -/
theorem remove_inv (inv : hub.Inv) (found : hub.conns c = some client) (idle : hub.phase = .idle)
    {fromReadPump : Bool} {client' : Client α}
    (requested : Hub.request client fromReadPump = some client') :
    ∃ hub', hub.remove c client' = .ok hub' ∧ hub'.Inv := by
  have good := inv.good c client found
  obtain ⟨pending, registered', send, taken, since, closings⟩ := request_some requested
  have registered := good.registered_of_pending pending
  rw [registered] at registered'
  by_cases inside : c ∈ hub.clients
  · have isOpen : client'.send.closed = false := by
      rw [send]
      exact good.open_of_member inside
    refine ⟨_, remove_member inside isOpen, ?_⟩
    refine inv.change rfl ?_ (fun _ _ => rfl) ?_ ?_ rfl
    · intro other different
      simp [different]
    · have outside : ¬ c ∈ hub.clients.erase c := by simp
      constructor
      · intro _
        simp
      · intro missing
        rw [show client'.registered = false from missing] at registered'
        cases registered'
      · have before := good.closings
        rw [good.open_of_member inside] at before
        simp [closings, before]
      · show client'.since ≤ _
        rw [since]
        exact good.since
      · show (client'.taken ++ client'.send.buffer).Sublist (List.drop client'.since _)
        rw [taken, send, since]
        exact good.ordered
      · intro member
        exact absurd member outside
    · intro message remaining sending
      rw [show hub.phase = _ from sending] at idle
      cases idle
  · refine ⟨hub.setConn c client', ?_, ?_⟩
    · rw [Hub.remove, if_neg inside]
    · exact inv.setConn (good.pumps registered registered' send taken since closings
        fun member => absurd member inside)

theorem broadcastFrame_inv (inv : hub.Inv) (data : α) :
    ∃ hub', hub.broadcastFrame data = .ok hub' ∧ hub'.Inv := by
  rcases Channel.send_open inv.queue data with ⟨queue, sent, -, isOpen⟩ | full
  · refine ⟨{ hub with broadcast := queue }, ?_, inv.good, inv.known, inv.remaining, isOpen⟩
    rw [Hub.broadcastFrame, sent]
  · refine ⟨hub, ?_, inv⟩
    rw [Hub.broadcastFrame, full]

/-- The frame that the hub takes has come for the clients outside the set only. -/
theorem take_inv (inv : hub.Inv) (idle : hub.phase = .idle) {message : α}
    {queue : Channel 16 α} (received : hub.broadcast.receive = some (some message, queue)) :
    ({ hub with broadcast := queue, phase := .sending message hub.clients } : Hub α).Inv := by
  constructor
  · intro other holder found
    have good := inv.good other holder found
    rw [Hub.offered_idle idle] at good
    rw [Hub.offered_sending rfl]
    by_cases inside : other ∈ hub.clients
    · rw [if_pos inside]
      exact good
    · rw [if_neg inside]
      exact good.pass inside message
  · exact inv.known
  · intro message' remaining sending
    obtain ⟨-, rfl⟩ := Phase.sending.inj sending
    exact Finset.Subset.refl _
  · rw [(Channel.receive_some received).2]
    exact inv.queue

/-- The frame reaches the client's buffer, or a goroutine sets out to unregister it. -/
theorem Client.Good.offered {processed : List α} (good : client.Good True processed)
    {client' : Client α} {message : α} (registered : client'.registered = true)
    (since : client'.since = client.since) (closings : client'.closings = client.closings)
    (isOpen : client'.send.closed = false)
    (taken : client'.delivered = client.delivered ++ [message] ∧
        (client'.pending = false → client.pending = false) ∨
      client'.delivered = client.delivered ∧ client'.pending = true) :
    client'.Good True (processed ++ [message]) := by
  have longer : (processed ++ [message]).drop client.since =
      processed.drop client.since ++ [message] := List.drop_append_of_le_length good.since
  constructor
  · intro _
    simp [isOpen]
  · intro missing
    rw [registered] at missing
    cases missing
  · have before := good.closings
    rw [good.open_of_member trivial] at before
    rw [closings, before, isOpen]
  · have bound := good.since
    rw [since, List.length_append]
    omega
  · rw [since, longer]
    rcases taken with ⟨more, -⟩ | ⟨same, -⟩
    · rw [more]
      exact good.ordered.append (List.Sublist.refl _)
    · rw [same]
      exact good.ordered.trans (List.sublist_append_left _ _)
  · intro _ none
    rw [since, longer]
    rcases taken with ⟨more, before⟩ | ⟨-, pending⟩
    · rw [more, good.complete trivial (before none)]
    · rw [pending] at none
      cases none

theorem offer_inv (inv : hub.Inv) (found : hub.conns c = some client) {message : α}
    {remaining : Finset ClientId} (sending : hub.phase = .sending message remaining)
    (turn : c ∈ remaining) :
    ∃ hub', hub.offer c client message remaining = .ok hub' ∧ hub'.Inv := by
  have inside : c ∈ hub.clients := inv.remaining _ _ sending turn
  have good := inv.good c client found
  have registered := good.registered_of_member inside
  have isOpen := good.open_of_member inside
  rw [Hub.offered_sending sending, if_pos turn, eq_true inside] at good
  -- whatever becomes of the client, the loop goes on to the others
  have next : ∀ client', client'.Good True (hub.processed ++ [message]) →
      ({ hub.setConn c client' with phase := .sending message (remaining.erase c) } :
        Hub α).Inv := by
    intro client' good'
    refine inv.change rfl (fun _ _ => Iff.rfl) ?_ ?_ ?_ rfl
    · intro other different
      rw [Hub.offered_sending rfl, Hub.offered_sending sending]
      simp [different, Hub.setConn]
    · rw [Hub.offered_sending rfl, if_neg (by simp)]
      show client'.Good (c ∈ hub.clients) _
      rw [eq_true inside]
      exact good'
    · intro message' remaining' sending'
      obtain ⟨-, rfl⟩ := Phase.sending.inj sending'
      exact (Finset.erase_subset _ _).trans (inv.remaining _ _ sending)
  rcases Channel.send_open isOpen message with ⟨send, sent, buffer, stillOpen⟩ | full
  · refine ⟨{ hub.setConn c { client with send := send } with
      phase := .sending message (remaining.erase c) }, ?_, next _ ?_⟩
    · rw [Hub.offer, sent]
    · refine good.offered registered rfl rfl stillOpen (.inl ⟨?_, id⟩)
      rw [Client.delivered, Client.delivered, buffer, List.append_assoc]
  · refine ⟨{ hub.setConn c { client with evictions := client.evictions + 1 } with
      phase := .sending message (remaining.erase c) }, ?_, next _ ?_⟩
    · rw [Hub.offer, full]
    · refine good.offered registered rfl rfl isOpen (.inr ⟨rfl, ?_⟩)
      simp [Client.pending]

theorem finish_inv (inv : hub.Inv) {message : α} (sending : hub.phase = .sending message ∅) :
    ({ hub with phase := .idle, processed := hub.processed ++ [message] } : Hub α).Inv := by
  constructor
  · intro other holder found
    have good := inv.good other holder found
    rw [Hub.offered_sending sending, if_neg (by simp)] at good
    rw [Hub.offered_idle rfl]
    exact good
  · exact inv.known
  · nofun
  · exact inv.queue

theorem receive_inv (inv : hub.Inv) (found : hub.conns c = some client)
    {frame : Option α} {send : Channel 8 α}
    (received : client.send.receive = some (frame, send)) (written : Bool) :
    (hub.setConn c (Hub.writeFrame client send frame written)).Inv := by
  have good := inv.good c client found
  apply inv.setConn
  cases frame with
  | none =>
      obtain rfl := Channel.receive_none received
      exact good.writePump .done
  | some frame =>
      obtain ⟨buffer, closed⟩ := Channel.receive_some received
      have same : (Hub.writeFrame client send (some frame) written).delivered =
          client.delivered := by
        simp [Client.delivered, Hub.writeFrame, buffer]
      constructor
      · intro registered
        rw [good.membership registered]
        simp [Hub.writeFrame, closed]
      · intro missing
        have fresh := (good.unregistered missing).2.1
        rw [fresh, Channel.make_buffer] at buffer
        cases buffer
      · have before := good.closings
        simpa [Hub.writeFrame, closed] using before
      · exact good.since
      · rw [same]
        exact good.ordered
      · intro inside none
        rw [same]
        exact good.complete inside none

theorem pingFails_inv (inv : hub.Inv) (found : hub.conns c = some client) :
    (hub.setConn c { client with writePump := .done }).Inv :=
  inv.setConn ((inv.good c client found).writePump .done)

end Steps

/-! ## Every step -/

/-- No step from a hub with the invariant panics, and every step keeps it. -/
theorem step_inv {hub : Hub α} {action : Action α} {result : Except Panic (Hub α)}
    (inv : hub.Inv) (stepped : step hub action = some result) :
    ∃ hub', result = .ok hub' ∧ hub'.Inv := by
  have takes := takes_of_step stepped
  cases action with
  | connect c =>
      obtain ⟨absent, same⟩ := takes
      exact ⟨_, same, connect_inv inv absent⟩
  | register c =>
      obtain ⟨client, idle, found, waiting, same⟩ := takes
      exact ⟨_, same, register_inv inv found idle waiting⟩
  | startPumps c =>
      obtain ⟨client, found, registered, ready, same⟩ := takes
      exact ⟨_, same, startPumps_inv inv found registered ready⟩
  | readFails c =>
      obtain ⟨client, found, reading, same⟩ := takes
      exact ⟨_, same, readFails_inv inv found reading⟩
  | unregister c fromReadPump =>
      obtain ⟨client, client', idle, found, requested, same⟩ := takes
      obtain ⟨hub', removed, inv'⟩ := remove_inv inv found idle requested
      exact ⟨hub', same.trans removed, inv'⟩
  | broadcast data =>
      cases data with
      | none => exact ⟨hub, takes, inv⟩
      | some data =>
          obtain ⟨hub', sent, inv'⟩ := broadcastFrame_inv inv data
          exact ⟨hub', takes.trans sent, inv'⟩
  | take =>
      obtain ⟨message, broadcast, idle, received, same⟩ := takes
      exact ⟨_, same, take_inv inv idle received⟩
  | offer c =>
      obtain ⟨message, remaining, client, sending, found, turn, same⟩ := takes
      obtain ⟨hub', offered, inv'⟩ := offer_inv inv found sending turn
      exact ⟨hub', same.trans offered, inv'⟩
  | finish =>
      obtain ⟨message, sending, same⟩ := takes
      exact ⟨_, same, finish_inv inv sending⟩
  | receive c written =>
      obtain ⟨client, frame, send, found, -, received, same⟩ := takes
      exact ⟨_, same, receive_inv inv found received written⟩
  | pingFails c =>
      obtain ⟨client, found, -, same⟩ := takes
      exact ⟨_, same, pingFails_inv inv found⟩

theorem reachable_inv {hub : Hub α} (reached : Reachable hub) : hub.Inv := by
  induction reached with
  | start => exact .newHub
  | step _ stepped ih =>
      obtain ⟨hub', same, inv⟩ := step_inv ih stepped
      obtain rfl := Except.ok.inj same
      exact inv

/-- **The hub does not panic.**  From no reachable hub does a step send on a closed
channel or close one again; every channel has been closed at most once, and a
registered client is in the set exactly while its channel is open. -/
theorem hub_channels_safe {hub : Hub α} (reached : Reachable hub) :
    (∀ action panic, step hub action ≠ some (.error panic)) ∧
      ∀ c client, hub.conns c = some client → client.closings ≤ 1 ∧
        (client.registered = true → (c ∈ hub.clients ↔ client.send.closed = false)) := by
  have inv := reachable_inv reached
  constructor
  · intro action panic stepped
    obtain ⟨_, same, _⟩ := step_inv inv stepped
    cases same
  · intro c client found
    have good := inv.good c client found
    refine ⟨?_, good.membership⟩
    rw [good.closings]
    split <;> omega

/-- A client that reads nothing while the hub processes ten frames. -/
def slowClient : List (Action Nat) :=
  [.connect 0, .register 0, .startPumps 0] ++
    (List.range 10).flatMap fun frame => [.broadcast (some frame), .take, .offer 0, .finish]

/-- The hub receives one request to remove it, with two more on their way. -/
def evictedHub : Hub Nat :=
  (run newHub (slowClient ++ [.readFails 0, .unregister 0 false])).getD newHub

theorem evictedHub_reached : Reachable evictedHub :=
  reachable_run .start
    (show run newHub (slowClient ++ [.readFails 0, .unregister 0 false]) = some evictedHub from rfl)

/-- The rule at a hub that has closed a channel whose client it is asked to remove
twice more. -/
theorem evictedHub_safe :
    (∃ client, evictedHub.conns 0 = some client ∧ client.closings = 1 ∧ client.evictions = 1 ∧
        client.readPump = .unregistering) ∧
      ∀ action panic, step evictedHub action ≠ some (.error panic) :=
  ⟨⟨_, rfl, rfl, rfl, rfl⟩, (hub_channels_safe evictedHub_reached).1⟩

/-- **No silent gap.**  What a client has received, followed by what waits in its
buffer, is an in-order part of the frames offered since it registered, each at most
once; if one of them is missing, the client has been removed or a request to remove
it is pending. -/
theorem hub_delivery {hub : Hub α} (reached : Reachable hub) {c : ClientId} {client : Client α}
    (found : hub.conns c = some client) :
    client.delivered.Sublist ((hub.offered c).drop client.since) ∧
      (client.delivered ≠ (hub.offered c).drop client.since →
        c ∉ hub.clients ∨ client.pending = true) := by
  have good := (reachable_inv reached).good c client found
  refine ⟨good.ordered, fun missing => ?_⟩
  by_cases inside : c ∈ hub.clients
  · right
    by_contra none
    exact missing (good.complete inside (by simpa using none))
  · exact .inl inside

def slowHub : Hub Nat := (run newHub slowClient).getD newHub

theorem slowHub_reached : Reachable slowHub := 
  reachable_run .start (show run newHub slowClient = some slowHub from rfl)

/-- The rule at a client that has missed two frames: it is about to be removed. -/
theorem slowHub_delivery :
    ∃ client, slowHub.conns 0 = some client ∧ client.delivered = [0, 1, 2, 3, 4, 5, 6, 7] ∧
      slowHub.offered 0 = [0, 1, 2, 3, 4, 5, 6, 7, 8, 9] ∧
      (0 ∉ slowHub.clients ∨ client.pending = true) :=
  ⟨_, rfl, rfl, rfl, (hub_delivery slowHub_reached rfl).2 (by decide)⟩

end VpsDashboard.Server
