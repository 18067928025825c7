/-
# VpsDashboard.Server.HubRest — the hub and the pumps come to rest

Once no connection is made, no frame is broadcast and no connection fails, only
the program's own steps are left (`Hub.own`): the hub's, what `ServeWS` and the write
pumps do with what the hub gave them, and the end of a read on a connection that the
write pump has closed.  Whatever their order,

* each of them uses up some of the work that is left (`Hub.work`), so that no run of
  them is longer than that;
* the frames that were accepted stay, in their order (`Hub.outstanding`);
* where none of them can be taken, nothing waits for the hub, both pumps of a client in
  the set run, and both pumps of a removed client have ended (`Hub.AtRest`).

No step of the hub waits for a client, so a client whose connection stalls keeps
neither the others nor the hub from getting there.
-/
import VpsDashboard.Server.HubInvariant
import Mathlib.Algebra.Order.BigOperators.Group.Finset

namespace VpsDashboard.Server

open Foundation

set_option autoImplicit false

variable {α : Type}

/-- The steps that no new connection, frame or failure of a connection causes.  A write
pump that ends closes the connection, which ends the read. -/
def Hub.own (hub : Hub α) : Action α → Bool
  | .register _ | .startPumps _ | .unregister _ _ | .take | .offer _ | .finish => true
  | .receive _ _ => true
  | .readFails c => (hub.conns c).any fun client => client.writePump = .done
  | .connect _ | .broadcast _ | .pingFails _ => false

/-- The hub after these of its own steps. -/
def ownRun (hub : Hub α) : List (Action α) → Option (Hub α)
  | [] => some hub
  | action :: later =>
      if hub.own action then
        match step hub action with
        | some (.ok hub') => ownRun hub' later
        | _ => none
      else none

/-! ## The work that is left -/

/-- The clients that the frame in hand has not come to. -/
def Hub.remaining (hub : Hub α) : Finset ClientId :=
  match hub.phase with
  | .idle => ∅
  | .sending _ remaining => remaining

/-- The steps of a read pump and of its write pump's start. -/
def ReadPump.work : ReadPump → Nat
  | .notStarted => 4
  | .reading => 2
  | .unregistering => 1
  | .done => 0

/-- The steps that a client may still need: each queued frame can cost two, an offer
and what becomes of it. -/
def Client.work (client : Client α) (queued : Nat) (member turn : Bool) : Nat :=
  (if client.registered then 0 else 2 * queued + 1) + (if member then 2 * queued else 0) +
    (if turn then 2 else 0) + client.evictions + client.readPump.work +
    client.send.buffer.length + if client.writePump = .running then 1 else 0

def Hub.workAt (hub : Hub α) (c : ClientId) : Nat :=
  match hub.conns c with
  | none => 0
  | some client =>
      client.work hub.broadcast.buffer.length (c ∈ hub.clients) (c ∈ hub.remaining)

def Hub.handling (hub : Hub α) : Nat :=
  match hub.phase with
  | .idle => 0
  | .sending _ _ => 1

/-- The steps that may still be taken, `conns` being where the connections are. -/
def Hub.work (hub : Hub α) (conns : Finset ClientId) : Nat :=
  2 * hub.broadcast.buffer.length + hub.handling + ∑ c ∈ conns, hub.workAt c

/-- Every connection is among these. -/
def Hub.Within (hub : Hub α) (conns : Finset ClientId) : Prop :=
  ∀ c, c ∉ conns → hub.conns c = none

/-- The frames that were accepted: those that are processed, the one in hand, those
in the queue. -/
def Hub.outstanding (hub : Hub α) : List α :=
  match hub.phase with
  | .idle => hub.processed ++ hub.broadcast.buffer
  | .sending message _ => hub.processed ++ message :: hub.broadcast.buffer

theorem Hub.Within.mem {hub : Hub α} {conns : Finset ClientId} (within : hub.Within conns)
    {c : ClientId} {client : Client α} (found : hub.conns c = some client) : c ∈ conns := by
  by_contra outside
  rw [within c outside] at found
  cases found

theorem Hub.workAt_some {hub : Hub α} {c : ClientId} {client : Client α}
    (found : hub.conns c = some client) :
    hub.workAt c =
      client.work hub.broadcast.buffer.length (c ∈ hub.clients) (c ∈ hub.remaining) := by
  rw [Hub.workAt, found]

/-- What a step of one client leaves of the work: less at the client, no more at the
others. -/
theorem Hub.work_lt {hub hub' : Hub α} {conns : Finset ClientId} {c : ClientId}
    (known : c ∈ conns)
    (rest : 2 * hub'.broadcast.buffer.length + hub'.handling ≤
      2 * hub.broadcast.buffer.length + hub.handling)
    (others : ∀ other, other ≠ c → hub'.workAt other ≤ hub.workAt other)
    (less : hub'.workAt c < hub.workAt c) : hub'.work conns < hub.work conns := by
  have sums : ∑ other ∈ conns, hub'.workAt other < ∑ other ∈ conns, hub.workAt other := by
    apply Finset.sum_lt_sum
    · intro other _
      by_cases same : other = c
      · subst same
        omega
      · exact others other same
    · exact ⟨c, known, less⟩
  unfold Hub.work
  omega

/-- The connection of another client, its place in the set and its turn are as they
were. -/
theorem Hub.workAt_congr {hub hub' : Hub α} {other : ClientId}
    (conns : hub'.conns other = hub.conns other)
    (queue : hub'.broadcast.buffer = hub.broadcast.buffer)
    (members : other ∈ hub'.clients ↔ other ∈ hub.clients)
    (turns : other ∈ hub'.remaining ↔ other ∈ hub.remaining) :
    hub'.workAt other = hub.workAt other := by
  unfold Hub.workAt
  rw [conns, queue]
  simp only [members, turns]

theorem Hub.setConn_other (hub : Hub α) {c other : ClientId} (client : Client α)
    (different : other ≠ c) : (hub.setConn c client).conns other = hub.conns other := by
  simp [Hub.setConn, different]

theorem Hub.setConn_same (hub : Hub α) (c : ClientId) (client : Client α) :
    (hub.setConn c client).conns c = some client := by
  simp [Hub.setConn]

/-! ## What each step leaves -/

/-- What a step of the program does to the work, the connections and the frames. -/
structure Hub.Spends (hub hub' : Hub α) : Prop where
  within : ∀ conns, hub.Within conns → hub'.Within conns
  work : ∀ conns, hub.Within conns → hub'.work conns < hub.work conns
  outstanding : hub'.outstanding = hub.outstanding

section Spending

variable {hub hub' : Hub α} {c : ClientId} {client client' : Client α}

/-- A step that changes the connection of `c`, and neither the frames nor the turns of
the others. -/
theorem Hub.Spends.change (found : hub.conns c = some client)
    (conns : hub'.conns = (hub.setConn c client').conns)
    (queue : hub'.broadcast = hub.broadcast) (handling : hub'.handling = hub.handling)
    (members : ∀ other, other ≠ c → (other ∈ hub'.clients ↔ other ∈ hub.clients))
    (turns : ∀ other, other ≠ c → (other ∈ hub'.remaining ↔ other ∈ hub.remaining))
    (outstanding : hub'.outstanding = hub.outstanding)
    (less : client'.work hub.broadcast.buffer.length (c ∈ hub'.clients) (c ∈ hub'.remaining) <
      client.work hub.broadcast.buffer.length (c ∈ hub.clients) (c ∈ hub.remaining)) :
    hub.Spends hub' where
  within places within other outside := by
    have different : other ≠ c := by
      rintro rfl
      exact outside (within.mem found)
    rw [conns, hub.setConn_other client' different]
    exact within other outside
  work places within := by
    apply Hub.work_lt (within.mem found)
    · rw [queue, handling]
    · intro other different
      apply Nat.le_of_eq
      apply Hub.workAt_congr _ (by rw [queue]) (members other different) (turns other different)
      rw [conns, hub.setConn_other client' different]
    · have found' : hub'.conns c = some client' := by rw [conns, hub.setConn_same]
      rw [Hub.workAt_some found', Hub.workAt_some found, queue]
      exact less
  outstanding := outstanding

/-- A step that changes the connection of `c` and nothing else. -/
theorem Hub.Spends.setConn (found : hub.conns c = some client)
    (less : ∀ (queued : Nat) (member turn : Bool),
      client'.work queued member turn < client.work queued member turn) :
    hub.Spends (hub.setConn c client') :=
  .change found rfl rfl rfl (fun _ _ => Iff.rfl) (fun _ _ => Iff.rfl) rfl (less _ _ _)

theorem register_spends (inv : hub.Inv) (found : hub.conns c = some client)
    (idle : hub.phase = .idle) (waiting : client.registered = false) :
    hub.Spends
      { hub.setConn c { client with registered := true, since := hub.processed.length } with
        clients := insert c hub.clients } := by
  have outside := ((inv.good c client found).unregistered waiting).1
  refine Hub.Spends.change found rfl rfl rfl ?_ (fun _ _ => Iff.rfl) rfl ?_
  · intro other different
    simp [different]
  · simp only [Hub.remaining, Hub.setConn, idle, outside]
    simp [Client.work, waiting]

theorem startPumps_spends (found : hub.conns c = some client)
    (waiting : client.readPump = .notStarted) :
    hub.Spends (hub.setConn c { client with readPump := .reading, writePump := .running }) := by
  apply Hub.Spends.setConn found
  intro queued member turn
  simp only [Client.work, waiting, ReadPump.work]
  split <;> simp <;> omega

theorem readFails_spends (found : hub.conns c = some client)
    (reading : client.readPump = .reading) :
    hub.Spends (hub.setConn c { client with readPump := .unregistering }) := by
  apply Hub.Spends.setConn found
  intro queued member turn
  simp only [Client.work, reading, ReadPump.work]
  omega

/-- A request that the hub receives is one fewer. -/
theorem request_work {fromReadPump : Bool}
    (requested : Hub.request client fromReadPump = some client') (queued : Nat)
    (member turn : Bool) :
    client'.work queued member turn < client.work queued member turn := by
  unfold Hub.request at requested
  split at requested
  · split at requested
    · rename_i waiting
      obtain rfl := Option.some.inj requested
      simp [Client.work, waiting, ReadPump.work]
    · cases requested
  · split at requested
    · rename_i waiting
      obtain rfl := Option.some.inj requested
      simp only [Client.work]
      omega
    · cases requested

/-- A client outside the set needs no more steps than inside it. -/
theorem Client.work_outside (client : Client α) (queued : Nat) (member turn : Bool) :
    client.work queued false turn ≤ client.work queued member turn := by
  simp only [Client.work]
  simp

theorem remove_spends (found : hub.conns c = some client)
    (less : ∀ (queued : Nat) (member turn : Bool),
      client'.work queued member turn < client.work queued member turn)
    (removed : hub.remove c client' = .ok hub') : hub.Spends hub' := by
  unfold Hub.remove at removed
  split at removed
  · split at removed
    · cases removed
    · rename_i send closed
      obtain rfl := Except.ok.inj removed
      have buffer : send.buffer = client'.send.buffer := by
        unfold Channel.close at closed
        split at closed
        · cases closed
        · obtain rfl := Except.ok.inj closed
          rfl
      refine Hub.Spends.change found rfl rfl rfl ?_ (fun _ _ => Iff.rfl) rfl ?_
      · intro other different
        simp [different]
      · have same : ({ client' with send := send, closings := client'.closings + 1 } :
            Client α).work hub.broadcast.buffer.length =
          client'.work hub.broadcast.buffer.length := by
          funext member turn
          simp [Client.work, buffer]
        rw [same, show decide (c ∈ hub.clients.erase c) = false by simp]
        exact (client'.work_outside _ _ _).trans_lt (less _ _ _)
  · obtain rfl := Except.ok.inj removed
    exact .setConn found less

/-- A frame that is taken comes off the queue and has its turn at every client in the
set: that costs a client what the queued frame did. -/
theorem take_spends (idle : hub.phase = .idle) {message : α} {queue : Channel 16 α}
    (received : hub.broadcast.receive = some (some message, queue)) :
    hub.Spends { hub with broadcast := queue, phase := .sending message hub.clients } := by
  have buffer := (Channel.receive_some received).1
  constructor
  · exact fun _ within => within
  · intro conns _
    have each : ∑ c ∈ conns, Hub.workAt
          { hub with broadcast := queue, phase := .sending message hub.clients } c ≤
        ∑ c ∈ conns, hub.workAt c := by
      apply Finset.sum_le_sum
      intro c _
      unfold Hub.workAt
      simp only [Hub.remaining, idle, buffer]
      split
      · exact Nat.le_refl _
      · simp only [Client.work, List.length_cons]
        by_cases inside : c ∈ hub.clients <;> simp [inside] <;> split <;> omega
    unfold Hub.work
    simp only [Hub.handling, idle, buffer, List.length_cons]
    omega
  · simp [Hub.outstanding, idle, buffer]

theorem offer_spends (inv : hub.Inv) (found : hub.conns c = some client) {message : α}
    {remaining : Finset ClientId} (sending : hub.phase = .sending message remaining)
    (turn : c ∈ remaining) (offered : hub.offer c client message remaining = .ok hub') :
    hub.Spends hub' := by
  have inside : c ∈ hub.clients := inv.remaining _ _ sending turn
  have isOpen := (inv.good c client found).open_of_member inside
  -- whatever becomes of the client, its turn is over and one step of it is left
  have next : ∀ later : Client α,
      (∀ (queued : Nat), later.work queued true false < client.work queued true true) →
      hub.Spends { hub.setConn c later with phase := .sending message (remaining.erase c) } := by
    intro later less
    refine Hub.Spends.change found rfl rfl ?_ (fun _ _ => Iff.rfl) ?_ ?_ ?_
    · simp [Hub.handling, sending]
    · intro other different
      simp [Hub.remaining, sending, different]
    · simp [Hub.outstanding, sending, Hub.setConn]
    · have now : decide (c ∈ hub.remaining) = true := by simpa [Hub.remaining, sending] using turn
      have after : decide (c ∈ ({ hub.setConn c later with
          phase := .sending message (remaining.erase c) } : Hub α).remaining) = false := by
        simp [Hub.remaining]
      have member : decide (c ∈ hub.clients) = true := by simpa using inside
      rw [now, after, member]
      show later.work _ (decide (c ∈ hub.clients)) false < _
      rw [member]
      exact less _
  unfold Hub.offer at offered
  rcases Channel.send_open isOpen message with ⟨send, sent, buffer, -⟩ | full
  · simp only [sent] at offered
    obtain rfl := Except.ok.inj offered
    apply next
    intro queued
    simp only [Client.work, buffer, List.length_append, List.length_singleton]
    simp
    omega
  · simp only [full] at offered
    obtain rfl := Except.ok.inj offered
    apply next
    intro queued
    simp only [Client.work]
    simp
    omega

theorem finish_spends {message : α} (sending : hub.phase = .sending message ∅) :
    hub.Spends { hub with phase := .idle, processed := hub.processed ++ [message] } := by
  constructor
  · exact fun _ within => within
  · intro conns _
    have each : ∀ c, Hub.workAt
        { hub with phase := .idle, processed := hub.processed ++ [message] } c = hub.workAt c := by
      intro c
      refine Hub.workAt_congr rfl rfl Iff.rfl ?_
      simp [Hub.remaining, sending]
    unfold Hub.work
    simp only [each]
    simp [Hub.handling, sending]
  · simp [Hub.outstanding, sending]

theorem receive_spends (found : hub.conns c = some client) (running : client.writePump = .running)
    {frame : Option α} {send : Channel 8 α} (received : client.send.receive = some (frame, send))
    (written : Bool) : hub.Spends (hub.setConn c (Hub.writeFrame client send frame written)) := by
  apply Hub.Spends.setConn found
  intro queued member turn
  cases frame with
  | none =>
      obtain rfl := Channel.receive_none received
      simp only [Hub.writeFrame, Client.work, running]
      exact Nat.lt_succ_self _
  | some frame =>
      have buffer := (Channel.receive_some received).1
      cases written <;> simp +arith [Hub.writeFrame, Client.work, running, buffer]

end Spending

/-- **Every step of the program uses up work** and keeps the accepted frames. -/
theorem own_spends {hub hub' : Hub α} {action : Action α} (inv : hub.Inv)
    (own : hub.own action = true) (stepped : step hub action = some (.ok hub')) :
    hub.Spends hub' := by
  have takes := takes_of_step stepped
  cases action with
  | connect c => cases own
  | broadcast data => cases own
  | pingFails c => cases own
  | readFails c =>
      obtain ⟨client, found, reading, same⟩ := takes
      obtain rfl := Except.ok.inj same
      exact readFails_spends found reading
  | register c =>
      obtain ⟨client, idle, found, waiting, same⟩ := takes
      obtain rfl := Except.ok.inj same
      exact register_spends inv found idle waiting
  | startPumps c =>
      obtain ⟨client, found, -, ready, same⟩ := takes
      obtain rfl := Except.ok.inj same
      exact startPumps_spends found ready
  | unregister c fromReadPump =>
      obtain ⟨client, client', -, found, requested, same⟩ := takes
      exact remove_spends found (request_work requested) same.symm
  | take =>
      obtain ⟨message, broadcast, idle, received, same⟩ := takes
      obtain rfl := Except.ok.inj same
      exact take_spends idle received
  | offer c =>
      obtain ⟨message, remaining, client, sending, found, turn, same⟩ := takes
      exact offer_spends inv found sending turn same.symm
  | finish =>
      obtain ⟨message, sending, same⟩ := takes
      obtain rfl := Except.ok.inj same
      exact finish_spends sending
  | receive c written =>
      obtain ⟨client, frame, send, found, running, received, same⟩ := takes
      obtain rfl := Except.ok.inj same
      exact receive_spends found running received written

/-! ## The pumps of a client -/

/-- The two pumps start together, and the hub has dropped the client of a read pump
that has ended. -/
structure Client.Paired (client : Client α) (member : Prop) : Prop where
  started : client.readPump = .notStarted ↔ client.writePump = .notStarted
  dropped : client.readPump = .done → ¬ member

/-- That holds of every client, and there have been finitely many. -/
structure Hub.Paired (hub : Hub α) : Prop where
  pairs : ∀ c client, hub.conns c = some client → client.Paired (c ∈ hub.clients)
  finite : ∃ conns, hub.Within conns

section Pairing

variable {hub hub' : Hub α} {c : ClientId} {client client' : Client α}

theorem Hub.Paired.change (paired : hub.Paired)
    (conns : hub'.conns = (hub.setConn c client').conns)
    (members : ∀ other, other ≠ c → (other ∈ hub'.clients ↔ other ∈ hub.clients))
    (pair : client'.Paired (c ∈ hub'.clients)) : hub'.Paired := by
  constructor
  · intro other holder found
    rw [conns] at found
    by_cases same : other = c
    · subst same
      obtain rfl := Option.some.inj ((hub.setConn_same other client').symm.trans found)
      exact pair
    · rw [hub.setConn_other client' same] at found
      have before := paired.pairs other holder found
      rwa [← members other same] at before
  · obtain ⟨before, within⟩ := paired.finite
    refine ⟨insert c before, ?_⟩
    intro other outside
    rw [Finset.mem_insert, not_or] at outside
    rw [conns, hub.setConn_other client' outside.1]
    exact within other outside.2

theorem Hub.Paired.setConn (paired : hub.Paired) (pair : client'.Paired (c ∈ hub.clients)) :
    (hub.setConn c client').Paired :=
  paired.change rfl (fun _ _ => Iff.rfl) pair

/-- Where the pumps stand is all that the pairing looks at. -/
theorem Client.Paired.same {member : Prop} (pair : client.Paired member)
    (readPump : client'.readPump = client.readPump)
    (writePump : client'.writePump = client.writePump) : client'.Paired member := by
  constructor
  · rw [readPump, writePump]
    exact pair.started
  · rw [readPump]
    exact pair.dropped

/-- A request that is received leaves the write pump; the read pump's is its last step. -/
theorem request_pumps {fromReadPump : Bool}
    (requested : Hub.request client fromReadPump = some client') :
    client'.writePump = client.writePump ∧
      (client'.readPump = client.readPump ∨
        client.readPump = .unregistering ∧ client'.readPump = .done) := by
  unfold Hub.request at requested
  split at requested
  · split at requested
    · rename_i waiting
      obtain rfl := Option.some.inj requested
      exact ⟨rfl, .inr ⟨waiting, rfl⟩⟩
    · cases requested
  · split at requested
    · obtain rfl := Option.some.inj requested
      exact ⟨rfl, .inl rfl⟩
    · cases requested

theorem remove_paired (paired : hub.Paired) (found : hub.conns c = some client)
    {fromReadPump : Bool} (requested : Hub.request client fromReadPump = some client')
    (removed : hub.remove c client' = .ok hub') : hub'.Paired := by
  have pair := paired.pairs c client found
  have started : client'.readPump = .notStarted ↔ client'.writePump = .notStarted := by
    obtain ⟨writePump, readPump | ⟨waiting, done⟩⟩ := request_pumps requested
    · rw [readPump, writePump]
      exact pair.started
    · have before := pair.started
      rw [waiting] at before
      rw [done, writePump]
      simpa using before
  unfold Hub.remove at removed
  split at removed
  · split at removed
    · cases removed
    · obtain rfl := Except.ok.inj removed
      refine paired.change rfl ?_ ⟨started, fun _ => ?_⟩
      · intro other different
        simp [different]
      · simp
  · rename_i outside
    obtain rfl := Except.ok.inj removed
    exact paired.setConn ⟨started, fun _ => outside⟩

theorem offer_paired (paired : hub.Paired) (found : hub.conns c = some client) {message : α}
    {remaining : Finset ClientId} (offered : hub.offer c client message remaining = .ok hub') :
    hub'.Paired := by
  have pair := paired.pairs c client found
  unfold Hub.offer at offered
  split at offered
  · cases offered
  · obtain rfl := Except.ok.inj offered
    exact paired.change rfl (fun _ _ => Iff.rfl) (pair.same rfl rfl)
  · obtain rfl := Except.ok.inj offered
    exact paired.change rfl (fun _ _ => Iff.rfl) (pair.same rfl rfl)

end Pairing

theorem step_paired {hub hub' : Hub α} {action : Action α} (inv : hub.Inv) (paired : hub.Paired)
    (stepped : step hub action = some (.ok hub')) : hub'.Paired := by
  have takes := takes_of_step stepped
  cases action with
  | connect c =>
      obtain ⟨-, same⟩ := takes
      obtain rfl := Except.ok.inj same
      exact paired.setConn ⟨by simp [Client.new], by simp [Client.new]⟩
  | register c =>
      obtain ⟨client, -, found, waiting, same⟩ := takes
      obtain rfl := Except.ok.inj same
      have started := ((inv.good c client found).unregistered waiting).2.2.1
      refine paired.change rfl ?_ ⟨(paired.pairs c client found).started, ?_⟩
      · intro other different
        simp [different]
      · intro done
        rw [show client.readPump = _ from done] at started
        cases started
  | startPumps c =>
      obtain ⟨client, -, -, -, same⟩ := takes
      obtain rfl := Except.ok.inj same
      exact paired.setConn ⟨by simp, by simp⟩
  | readFails c =>
      obtain ⟨client, found, reading, same⟩ := takes
      obtain rfl := Except.ok.inj same
      have started := (paired.pairs c client found).started
      rw [reading] at started
      exact paired.setConn ⟨by simpa using started, by simp⟩
  | unregister c fromReadPump =>
      obtain ⟨client, client', -, found, requested, same⟩ := takes
      exact remove_paired paired found requested same.symm
  | broadcast data =>
      cases data with
      | none =>
          obtain rfl := Except.ok.inj takes
          exact paired
      | some data =>
          have sent : hub.broadcastFrame data = .ok hub' := takes.symm
          unfold Hub.broadcastFrame at sent
          split at sent
          · cases sent
          · obtain rfl := Except.ok.inj sent
            exact ⟨paired.pairs, paired.finite⟩
  | take =>
      obtain ⟨message, broadcast, -, -, same⟩ := takes
      obtain rfl := Except.ok.inj same
      exact ⟨paired.pairs, paired.finite⟩
  | offer c =>
      obtain ⟨message, remaining, client, -, found, -, same⟩ := takes
      exact offer_paired paired found same.symm
  | finish =>
      obtain ⟨message, -, same⟩ := takes
      obtain rfl := Except.ok.inj same
      exact ⟨paired.pairs, paired.finite⟩
  | receive c written =>
      obtain ⟨client, frame, send, found, running, -, same⟩ := takes
      obtain rfl := Except.ok.inj same
      have pair := paired.pairs c client found
      have reading := mt pair.started.mp
      rw [running] at reading
      apply paired.setConn
      cases frame with
      | none => exact ⟨by simpa [Hub.writeFrame] using reading (by simp), pair.dropped⟩
      | some frame =>
          cases written with
          | true => exact pair.same rfl rfl
          | false => exact ⟨by simpa [Hub.writeFrame] using reading (by simp), pair.dropped⟩
  | pingFails c =>
      obtain ⟨client, found, running, same⟩ := takes
      obtain rfl := Except.ok.inj same
      have pair := paired.pairs c client found
      have reading := mt pair.started.mp
      rw [running] at reading
      exact paired.setConn ⟨by simpa using reading (by simp), pair.dropped⟩

theorem reachable_paired {hub : Hub α} (reached : Reachable hub) : hub.Paired := by
  induction reached with
  | start =>
      constructor
      · intro c client found
        cases found
      · exact ⟨∅, fun _ _ => rfl⟩
  | step before stepped ih => exact step_paired (reachable_inv before) ih stepped

/-! ## Where no step is left -/

/-- What is left of a client whose goroutines have nothing to do. -/
structure Client.Settled (client : Client α) (member : Prop) (processed : List α) : Prop where
  registered : client.registered = true
  quiet : client.pending = false
  /-- In the set both pumps run, and every frame since the registration has been received. -/
  served : member → client.readPump = .reading ∧ client.writePump = .running ∧
    client.taken = processed.drop client.since
  /-- Outside the set no pump is left behind. -/
  ended : ¬ member → client.readPump = .done ∧ client.writePump = .done

structure Hub.AtRest (hub : Hub α) : Prop where
  idle : hub.phase = .idle
  queue : hub.broadcast.buffer = []
  settled : ∀ c client, hub.conns c = some client →
    client.Settled (c ∈ hub.clients) hub.processed

/-- The program has no step to take. -/
def Hub.Stuck (hub : Hub α) : Prop :=
  ∀ action : Action α, hub.own action = true → step hub action = none

section Rest

variable {hub : Hub α} {c : ClientId} {client : Client α}

/-- A hub with a frame in hand can offer it, or is done with it. -/
theorem Hub.Stuck.idle (stuck : hub.Stuck) (inv : hub.Inv) : hub.phase = .idle := by
  cases sending : hub.phase with
  | idle => rfl
  | sending message remaining =>
      rcases remaining.eq_empty_or_nonempty with rfl | ⟨c, turn⟩
      · have ended := stuck .finish rfl
        simp [step, sending] at ended
      · have known := inv.known c (inv.remaining _ _ sending turn)
        obtain ⟨client, found⟩ := Option.ne_none_iff_exists'.mp known
        have offered := stuck (.offer c) rfl
        simp [step, sending, found, turn] at offered

theorem Hub.Stuck.queue (stuck : hub.Stuck) (inv : hub.Inv) : hub.broadcast.buffer = [] := by
  have idle := stuck.idle inv
  have taken := stuck .take rfl
  cases received : hub.broadcast.receive with
  | none => exact (Channel.receive_waits received).1
  | some answer =>
      obtain ⟨_ | message, queue⟩ := answer
      · exact Channel.receive_ended received
      · simp [step, idle, received] at taken

theorem Hub.Stuck.registered (stuck : hub.Stuck) (inv : hub.Inv)
    (found : hub.conns c = some client) : client.registered = true := by
  have idle := stuck.idle inv
  have registered := stuck (.register c) rfl
  simpa [step, idle, found] using registered

theorem Hub.Stuck.started (stuck : hub.Stuck) (inv : hub.Inv)
    (found : hub.conns c = some client) : client.readPump ≠ .notStarted := by
  intro waiting
  have registered := stuck.registered inv found
  have started := stuck (.startPumps c) rfl
  simp [step, found, registered, waiting] at started

theorem Hub.Stuck.quiet (stuck : hub.Stuck) (inv : hub.Inv)
    (found : hub.conns c = some client) : client.pending = false := by
  have idle := stuck.idle inv
  have ofRead := stuck (.unregister c true) rfl
  have ofSlow := stuck (.unregister c false) rfl
  by_cases waiting : client.readPump = .unregistering
  · simp [step, idle, found, Hub.request, waiting] at ofRead
  · by_cases evicted : 0 < client.evictions
    · simp [step, idle, found, Hub.request, evicted] at ofSlow
    · simp [Client.pending, waiting]
      omega

/-- A write pump that has nothing to receive waits at an open channel. -/
theorem Hub.Stuck.waits (stuck : hub.Stuck) (found : hub.conns c = some client)
    (running : client.writePump = .running) :
    client.send.buffer = [] ∧ client.send.closed = false := by
  have received := stuck (.receive c true) rfl
  cases answer : client.send.receive with
  | none => exact Channel.receive_waits answer
  | some frame => simp [step, found, running, answer] at received

/-- Where the write pump has ended, so has the read pump. -/
theorem Hub.Stuck.readPump (stuck : hub.Stuck) (inv : hub.Inv)
    (found : hub.conns c = some client) (closed : client.writePump = .done) :
    client.readPump = .done := by
  cases pump : client.readPump with
  | notStarted => exact absurd pump (stuck.started inv found)
  | reading =>
      have failed := stuck (.readFails c) (by simp [Hub.own, found, closed])
      simp [step, found, pump] at failed
  | unregistering =>
      have quiet := stuck.quiet inv found
      simp [Client.pending, pump] at quiet
  | done => rfl

theorem Hub.Stuck.settled (stuck : hub.Stuck) (inv : hub.Inv) (paired : hub.Paired)
    (found : hub.conns c = some client) : client.Settled (c ∈ hub.clients) hub.processed := by
  have good := inv.good c client found
  rw [Hub.offered_idle (stuck.idle inv)] at good
  have pair := paired.pairs c client found
  have registered := stuck.registered inv found
  have quiet := stuck.quiet inv found
  have started := mt pair.started.mpr (stuck.started inv found)
  constructor
  case registered => exact registered
  case quiet => exact quiet
  case served =>
    intro inside
    have reads : client.readPump ≠ .done := fun done => pair.dropped done inside
    have running : client.writePump = .running := by
      cases pump : client.writePump with
      | notStarted => exact absurd pump started
      | running => rfl
      | done => exact absurd (stuck.readPump inv found pump) reads
    have reading : client.readPump = .reading := by
      cases pump : client.readPump with
      | notStarted => exact absurd pump (stuck.started inv found)
      | reading => rfl
      | unregistering => simp [Client.pending, pump] at quiet
      | done => exact absurd pump reads
    have all := good.complete inside quiet
    rw [Client.delivered, (stuck.waits found running).1, List.append_nil] at all
    exact ⟨reading, running, all⟩
  case ended =>
    intro outside
    have closed : client.send.closed ≠ false := mt (good.membership registered).mpr outside
    have ended : client.writePump = .done := by
      cases pump : client.writePump with
      | notStarted => exact absurd pump started
      | running => exact absurd (stuck.waits found pump).2 closed
      | done => rfl
    exact ⟨stuck.readPump inv found ended, ended⟩

end Rest

theorem Hub.Stuck.atRest {hub : Hub α} (stuck : hub.Stuck) (reached : Reachable hub) :
    hub.AtRest where
  idle := stuck.idle (reachable_inv reached)
  queue := stuck.queue (reachable_inv reached)
  settled _ _ found := stuck.settled (reachable_inv reached) (reachable_paired reached) found

/-- A run of the program's own steps costs a step of work each and loses no frame. -/
theorem ownRun_spends {hub hub' : Hub α} {actions : List (Action α)} {conns : Finset ClientId}
    (reached : Reachable hub) (within : hub.Within conns)
    (ran : ownRun hub actions = some hub') :
    Reachable hub' ∧ hub'.work conns + actions.length ≤ hub.work conns ∧
      hub'.outstanding = hub.outstanding := by
  induction actions generalizing hub with
  | nil =>
      obtain rfl := Option.some.inj ran
      exact ⟨reached, Nat.le_refl _, rfl⟩
  | cons action later ih =>
      rw [ownRun] at ran
      split at ran
      · rename_i own
        split at ran
        · rename_i next stepped
          have spends := own_spends (reachable_inv reached) own stepped
          have less := spends.work conns within
          obtain ⟨reached', work, outstanding⟩ :=
            ih (reached.step stepped) (spends.within conns within) ran
          refine ⟨reached', ?_, outstanding.trans spends.outstanding⟩
          rw [List.length_cons]
          omega
        · cases ran
      · cases ran

/-- **The hub comes to rest.**  From every reachable hub the program's own steps, in
any order, are boundedly many and keep the accepted frames; where they end, the queue
is processed, every client in the set is served and has received every frame since it was
registered, and no goroutine waits for the hub or outlives its client's removal. -/
theorem hub_comes_to_rest {hub : Hub α} (reached : Reachable hub) :
    ∃ bound, ∀ actions hub', ownRun hub actions = some hub' →
      actions.length ≤ bound ∧ hub'.outstanding = hub.outstanding ∧
        ((∃ action hub'', hub'.own action = true ∧ step hub' action = some (.ok hub'')) ∨
          hub'.AtRest) := by
  obtain ⟨conns, within⟩ := (reachable_paired reached).finite
  refine ⟨hub.work conns, ?_⟩
  intro actions hub' ran
  obtain ⟨reached', work, outstanding⟩ := ownRun_spends reached within ran
  refine ⟨by omega, outstanding, ?_⟩
  by_cases stuck : hub'.Stuck
  · exact .inr (stuck.atRest reached')
  · left
    simp only [Hub.Stuck, not_forall] at stuck
    obtain ⟨action, own, enabled⟩ := stuck
    obtain ⟨result, stepped⟩ := Option.ne_none_iff_exists'.mp enabled
    obtain ⟨hub'', rfl, -⟩ := step_inv (reachable_inv reached') stepped
    exact ⟨action, hub'', own, stepped⟩

/-- What is left to do at a hub that a slow client has missed two frames of: the hub removes the
client, which takes what it was sent and closes its connection; then its read fails, and the
hub hears of it twice more. -/
def slowClientLeaves : List (Action Nat) :=
  .unregister 0 false :: List.replicate 9 (.receive 0 true) ++
    [.readFails 0, .unregister 0 true, .unregister 0 false]

/-- The rule at that hub: both pumps of the removed client end. -/
theorem slowHub_rest : ∃ hub', ownRun slowHub slowClientLeaves = some hub' ∧
    hub'.outstanding = List.range 10 ∧
    (hub'.conns 0).map (fun client => (client.readPump, client.writePump)) = some (.done, .done) ∧
    ((∃ action hub'', hub'.own action = true ∧ step hub' action = some (.ok hub'')) ∨
      hub'.AtRest) := by
  have ends : ((ownRun slowHub slowClientLeaves).map fun hub' => (hub'.outstanding,
      (hub'.conns 0).map fun client => (client.readPump, client.writePump))) =
        some (List.range 10, some (.done, .done)) := by
    rfl
  obtain ⟨hub', ran, left⟩ := Option.map_eq_some_iff.mp ends
  obtain ⟨bound, rest⟩ := hub_comes_to_rest slowHub_reached
  exact ⟨hub', ran, congrArg Prod.fst left, congrArg Prod.snd left,
    (rest slowClientLeaves hub' ran).2.2⟩

end VpsDashboard.Server
