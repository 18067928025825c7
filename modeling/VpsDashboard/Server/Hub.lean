/-
# VpsDashboard.Server.Hub — the fan-out of metric frames to the sockets

`Hub.Run` is one goroutine that receives registrations, unregister requests and
frames, and offers every frame to every client without blocking.  Around it run
`ServeWS`, the two pumps of every client and, for every frame a client could not
take, a goroutine that asks for the client's removal.  An `Action` is one step of
any of them; between two steps of one goroutine the others may take any number.

A registration and an unregister request are unbuffered sends: the sender waits
until the hub receives.  The hub holds its lock while it changes the client set
and closes a channel, so that is one step.  The order in which it visits the
clients of a frame is that of a Go map, which is any order.

`processed`, `taken`, `since` and `closings` record the run and steer nothing.
-/
import VpsDashboard.Foundation.Channel
import Mathlib.Data.Finset.Basic

namespace VpsDashboard.Server

open Foundation

set_option autoImplicit false

abbrev ClientId := Nat

inductive ReadPump where
  | notStarted
  | reading
  | unregistering
  | done
deriving DecidableEq

inductive WritePump where
  | notStarted
  | running
  | done
deriving DecidableEq

/-- A `Client` and its goroutines. -/
structure Client (α : Type) where
  send : Channel 8 α
  /-- The hub has received its registration. -/
  registered : Bool
  readPump : ReadPump
  writePump : WritePump
  /-- Goroutines of the slow-client branch that wait to unregister it. -/
  evictions : Nat
  /-- The frames its write pump has received. -/
  taken : List α
  /-- How many frames the hub had processed when it was registered. -/
  since : Nat
  closings : Nat

/-- What the hub goroutine is doing: waiting in its `select`, or offering a frame
to the clients that remain. -/
inductive Phase (α : Type) where
  | idle
  | sending (message : α) (remaining : Finset ClientId)

structure Hub (α : Type) where
  conns : ClientId → Option (Client α)
  clients : Finset ClientId
  broadcast : Channel 16 α
  phase : Phase α
  /-- The frames that have been offered to every client. -/
  processed : List α

inductive Action (α : Type) where
  /-- `ServeWS` has upgraded a connection and waits to register it. -/
  | connect (c : ClientId)
  | register (c : ClientId)
  | startPumps (c : ClientId)
  | readFails (c : ClientId)
  /-- The hub receives the request of the read pump, or of a slow-client goroutine. -/
  | unregister (c : ClientId) (fromReadPump : Bool)
  /-- `Broadcast`, with what `json.Marshal` returned. -/
  | broadcast (data : Option α)
  | take
  | offer (c : ClientId)
  | finish
  /-- The write pump receives from `send`, and writes with or without success. -/
  | receive (c : ClientId) (written : Bool)
  | pingFails (c : ClientId)

variable {α : Type}

def Client.new : Client α where
  send := .make 8 α
  registered := false
  readPump := .notStarted
  writePump := .notStarted
  evictions := 0
  taken := []
  since := 0
  closings := 0

/-- A goroutine waits to unregister the client. -/
def Client.pending (client : Client α) : Bool :=
  client.readPump = .unregistering ∨ 0 < client.evictions

def newHub : Hub α where
  conns _ := none
  clients := ∅
  broadcast := .make 16 α
  phase := .idle
  processed := []

namespace Hub

def setConn (hub : Hub α) (c : ClientId) (client : Client α) : Hub α :=
  { hub with conns := fun other => if other = c then some client else hub.conns other }

/-- The request of a goroutine that waits to unregister the client, if there is one. -/
def request (client : Client α) (fromReadPump : Bool) : Option (Client α) :=
  if fromReadPump then
    if client.readPump = .unregistering then some { client with readPump := .done } else none
  else if 0 < client.evictions then some { client with evictions := client.evictions - 1 }
  else none

/-- The `unregister` case of `Run`: only a client that is still there is removed
and its channel closed. -/
def remove (hub : Hub α) (c : ClientId) (client : Client α) : Except Panic (Hub α) :=
  if c ∈ hub.clients then
    match client.send.close with
    | .error panic => .error panic
    | .ok send =>
        .ok { hub.setConn c { client with send := send, closings := client.closings + 1 } with
          clients := hub.clients.erase c }
  else .ok (hub.setConn c client)

/-- One turn of the loop over the clients of a frame. -/
def offer (hub : Hub α) (c : ClientId) (client : Client α) (message : α)
    (remaining : Finset ClientId) : Except Panic (Hub α) :=
  match client.send.send message with
  | .error panic => .error panic
  | .ok (true, send) =>
      .ok { hub.setConn c { client with send := send } with
        phase := .sending message (remaining.erase c) }
  | .ok (false, _) =>
      .ok { hub.setConn c { client with evictions := client.evictions + 1 } with
        phase := .sending message (remaining.erase c) }

def broadcastFrame (hub : Hub α) (data : α) : Except Panic (Hub α) :=
  match hub.broadcast.send data with
  | .error panic => .error panic
  | .ok (_, broadcast) => .ok { hub with broadcast := broadcast }

/-- What the write pump makes of a receive: it ends when the channel is closed, or
when the frame cannot be written. -/
def writeFrame (client : Client α) (send : Channel 8 α) (frame : Option α) (written : Bool) :
    Client α :=
  match frame with
  | none => { client with send := send, writePump := .done }
  | some frame =>
      { client with
        send := send
        taken := client.taken ++ [frame]
        writePump := if written then client.writePump else .done }

end Hub

open Hub in
/-- The step of an action: none when its goroutine cannot take it, a panic when it
ends the process. -/
def step (hub : Hub α) (action : Action α) : Option (Except Panic (Hub α)) :=
  match action with
  | .connect c =>
      match hub.conns c with
      | some _ => none
      | none => some (.ok (hub.setConn c .new))
  | .register c =>
      match hub.phase, hub.conns c with
      | .idle, some client =>
          if client.registered then none
          else
            some (.ok { hub.setConn c
                { client with registered := true, since := hub.processed.length } with
              clients := insert c hub.clients })
      | _, _ => none
  | .startPumps c =>
      match hub.conns c with
      | some client =>
          if client.registered ∧ client.readPump = .notStarted then
            some (.ok (hub.setConn c { client with readPump := .reading, writePump := .running }))
          else none
      | none => none
  | .readFails c =>
      match hub.conns c with
      | some client =>
          if client.readPump = .reading then
            some (.ok (hub.setConn c { client with readPump := .unregistering }))
          else none
      | none => none
  | .unregister c fromReadPump =>
      match hub.phase, hub.conns c with
      | .idle, some client =>
          match request client fromReadPump with
          | some client' => some (hub.remove c client')
          | none => none
      | _, _ => none
  | .broadcast data =>
      match data with
      | none => some (.ok hub)
      | some data => some (hub.broadcastFrame data)
  | .take =>
      match hub.phase, hub.broadcast.receive with
      | .idle, some (some message, broadcast) =>
          some (.ok { hub with broadcast := broadcast, phase := .sending message hub.clients })
      | _, _ => none
  | .offer c =>
      match hub.phase, hub.conns c with
      | .sending message remaining, some client =>
          if c ∈ remaining then some (hub.offer c client message remaining) else none
      | _, _ => none
  | .finish =>
      match hub.phase with
      | .sending message remaining =>
          if remaining = ∅ then
            some (.ok { hub with phase := .idle, processed := hub.processed ++ [message] })
          else none
      | .idle => none
  | .receive c written =>
      match hub.conns c with
      | some client =>
          if client.writePump = .running then
            match client.send.receive with
            | some (frame, send) =>
                some (.ok (hub.setConn c (writeFrame client send frame written)))
            | none => none
          else none
      | none => none
  | .pingFails c =>
      match hub.conns c with
      | some client =>
          if client.writePump = .running then
            some (.ok (hub.setConn c { client with writePump := .done }))
          else none
      | none => none

/-- What an action that its goroutine could take has found, and what came of it. -/
def Hub.Takes (hub : Hub α) (result : Except Panic (Hub α)) : Action α → Prop
  | .connect c => hub.conns c = none ∧ result = .ok (hub.setConn c .new)
  | .register c => ∃ client, hub.phase = .idle ∧ hub.conns c = some client ∧
      client.registered = false ∧
      result = .ok { hub.setConn c
          { client with registered := true, since := hub.processed.length } with
        clients := insert c hub.clients }
  | .startPumps c => ∃ client, hub.conns c = some client ∧ client.registered = true ∧
      client.readPump = .notStarted ∧
      result = .ok (hub.setConn c { client with readPump := .reading, writePump := .running })
  | .readFails c => ∃ client, hub.conns c = some client ∧ client.readPump = .reading ∧
      result = .ok (hub.setConn c { client with readPump := .unregistering })
  | .unregister c fromReadPump => ∃ client client', hub.phase = .idle ∧
      hub.conns c = some client ∧ Hub.request client fromReadPump = some client' ∧
      result = hub.remove c client'
  | .broadcast none => result = .ok hub
  | .broadcast (some data) => result = hub.broadcastFrame data
  | .take => ∃ message broadcast, hub.phase = .idle ∧
      hub.broadcast.receive = some (some message, broadcast) ∧
      result = .ok { hub with broadcast := broadcast, phase := .sending message hub.clients }
  | .offer c => ∃ message remaining client, hub.phase = .sending message remaining ∧
      hub.conns c = some client ∧ c ∈ remaining ∧ result = hub.offer c client message remaining
  | .finish => ∃ message, hub.phase = .sending message ∅ ∧
      result = .ok { hub with phase := .idle, processed := hub.processed ++ [message] }
  | .receive c written => ∃ client frame send, hub.conns c = some client ∧
      client.writePump = .running ∧ client.send.receive = some (frame, send) ∧
      result = .ok (hub.setConn c (Hub.writeFrame client send frame written))
  | .pingFails c => ∃ client, hub.conns c = some client ∧ client.writePump = .running ∧
      result = .ok (hub.setConn c { client with writePump := .done })

theorem takes_of_step {hub : Hub α} {action : Action α} {result : Except Panic (Hub α)}
    (stepped : step hub action = some result) : hub.Takes result action := by
  cases action with
  | connect c =>
      simp only [step] at stepped
      split at stepped
      · cases stepped
      · rename_i absent
        exact ⟨absent, (Option.some.inj stepped).symm⟩
  | register c =>
      simp only [step] at stepped
      split at stepped
      · rename_i client idle found
        obtain ⟨waiting, same⟩ := Option.ite_none_left_eq_some.mp stepped
        exact ⟨client, idle, found, by simpa using waiting, (Option.some.inj same).symm⟩
      · cases stepped
  | startPumps c =>
      simp only [step] at stepped
      split at stepped
      · rename_i client found
        obtain ⟨ready, same⟩ := Option.ite_none_right_eq_some.mp stepped
        exact ⟨client, found, ready.1, ready.2, (Option.some.inj same).symm⟩
      · cases stepped
  | readFails c =>
      simp only [step] at stepped
      split at stepped
      · rename_i client found
        obtain ⟨reading, same⟩ := Option.ite_none_right_eq_some.mp stepped
        exact ⟨client, found, reading, (Option.some.inj same).symm⟩
      · cases stepped
  | unregister c fromReadPump =>
      simp only [step] at stepped
      split at stepped
      · rename_i client idle found
        split at stepped
        · rename_i client' requested
          exact ⟨client, client', idle, found, requested, (Option.some.inj stepped).symm⟩
        · cases stepped
      · cases stepped
  | broadcast data =>
      cases data with
      | none => exact (Option.some.inj stepped).symm
      | some data => exact (Option.some.inj stepped).symm
  | take =>
      simp only [step] at stepped
      split at stepped
      · rename_i message broadcast idle received
        exact ⟨message, broadcast, idle, received, (Option.some.inj stepped).symm⟩
      · cases stepped
  | offer c =>
      simp only [step] at stepped
      split at stepped
      · rename_i message remaining client sending found
        obtain ⟨turn, same⟩ := Option.ite_none_right_eq_some.mp stepped
        exact ⟨message, remaining, client, sending, found, turn, (Option.some.inj same).symm⟩
      · cases stepped
  | finish =>
      simp only [step] at stepped
      split at stepped
      · rename_i message remaining sending
        obtain ⟨rfl, same⟩ := Option.ite_none_right_eq_some.mp stepped
        exact ⟨message, sending, (Option.some.inj same).symm⟩
      · cases stepped
  | receive c written =>
      simp only [step] at stepped
      split at stepped
      · rename_i client found
        obtain ⟨running, received⟩ := Option.ite_none_right_eq_some.mp stepped
        split at received
        · rename_i frame send arrived
          exact ⟨client, frame, send, found, running, arrived, (Option.some.inj received).symm⟩
        · cases received
      · cases stepped
  | pingFails c =>
      simp only [step] at stepped
      split at stepped
      · rename_i client found
        obtain ⟨running, same⟩ := Option.ite_none_right_eq_some.mp stepped
        exact ⟨client, found, running, (Option.some.inj same).symm⟩
      · cases stepped

/-- The hubs that some run from a new hub arrives at. -/
inductive Reachable : Hub α → Prop
  | start : Reachable newHub
  | step {hub hub' : Hub α} {action : Action α} (reached : Reachable hub)
      (stepped : step hub action = some (.ok hub')) : Reachable hub'

/-- The hub after a list of actions, none when one of them cannot be taken or panics. -/
def run (hub : Hub α) : List (Action α) → Option (Hub α)
  | [] => some hub
  | action :: later =>
      match step hub action with
      | some (.ok hub') => run hub' later
      | _ => none

theorem reachable_run {hub hub' : Hub α} {actions : List (Action α)} (reached : Reachable hub)
    (ran : run hub actions = some hub') : Reachable hub' := by
  induction actions generalizing hub with
  | nil =>
      obtain rfl := Option.some.inj ran
      exact reached
  | cons action later ih =>
      rw [run] at ran
      split at ran
      · rename_i next stepped
        exact ih (reached.step stepped) ran
      · cases ran

end VpsDashboard.Server
