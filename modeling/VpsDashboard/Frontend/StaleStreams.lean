/-
# VpsDashboard.Frontend.StaleStreams — log streams that outlive their container

Every `start` of `useLogStream` is an asynchronous body of its own, and all of them
write to the same three state cells.  `stop` aborts the controller of the newest body:
the promise that body awaits is rejected unless it has settled before, and either way
the body goes on in a later step, after the next `start` has set the cells up.

* `superseded_undisturbed_iff` — after a `start`, no step of an earlier body changes
  the cells and the new stream keeps `streaming` set while it is open, whatever happens
  next, exactly when the earlier bodies had all returned;
* `container_switch_disturbs` — they have not when the container is switched while its
  log is streamed: the `finally` of the old body clears `streaming` under the new one,
  and a chunk or an error that came in just before the switch is shown with it.

A promise settles in one step (`arrive`) and the body that awaits it goes on in another
(`resume`).
-/
import VpsDashboard.Foundation.Guarded
import VpsDashboard.Frontend.LogStream

namespace VpsDashboard.Frontend

open Foundation Server

set_option autoImplicit false

/-! ## Bodies -/

/-- What a promise rejects with: the `AbortError`, or an error with a message. -/
inductive JsError where
  | abort
  | other (message : String)
deriving DecidableEq

/-- What `fetch` resolves with, before the body is read. -/
structure LogResponse where
  status : Nat
  hasBody : Bool
deriving DecidableEq

def LogResponse.ok (r : LogResponse) : Bool := decide (200 ≤ r.status ∧ r.status ≤ 299)

/-- Where a body of `start` is: at the promise of `fetch` or of `reader.read()`, each with
what it has settled with if it has, or past its `finally`. -/
inductive LogAwait where
  | fetch (settled : Option (Except JsError LogResponse))
  | read (decoder : TextDecoder) (buffer : List Char)
      (settled : Option (Except JsError (Option Bytes)))
  | returned

/-- One call of `start`, with the signal of its controller. -/
structure LogBody where
  url : String
  aborted : Bool
  awaits : LogAwait

structure LogCells where
  lines : Option (List (List Char))
  streaming : Bool
  error : Option String
deriving DecidableEq

/-- What happens to the promise that a body awaits; `read none` is the end of the stream. -/
inductive LogArrival where
  | response (r : LogResponse)
  | read (value : Option Bytes)
  | failed (message : String)

namespace LogAwait

/-- A pending promise is rejected by the abort of its signal. -/
def abort : LogAwait → LogAwait
  | .fetch none => .fetch (some (.error .abort))
  | .read decoder buffer none => .read decoder buffer (some (.error .abort))
  | awaits => awaits

def settle : LogAwait → LogArrival → Option LogAwait
  | .fetch none, .response r => some (.fetch (some (.ok r)))
  | .fetch none, .failed message => some (.fetch (some (.error (.other message))))
  | .read decoder buffer none, .read value => some (.read decoder buffer (some (.ok value)))
  | .read decoder buffer none, .failed message =>
      some (.read decoder buffer (some (.error (.other message))))
  | _, _ => none

/-- The promise has not settled. -/
def pending : LogAwait → Bool
  | .fetch none => true
  | .read _ _ none => true
  | _ => false

def hasReturned : LogAwait → Bool
  | .returned => true
  | _ => false

end LogAwait

namespace LogBody

def abort (b : LogBody) : LogBody := { b with aborted := true, awaits := b.awaits.abort }

/-- `catch`, when something is thrown, and `finally`. -/
def leave (b : LogBody) (cells : LogCells) (thrown : Option JsError) : LogCells × LogBody :=
  let error :=
    match thrown with
    | some (.other message) => some message
    | _ => cells.error
  ({ cells with error := error, streaming := false }, { b with awaits := .returned })

/-- `await reader.read()`; reading from an aborted response is rejected at once. -/
def read (b : LogBody) (decoder : TextDecoder) (buffer : List Char) : LogBody :=
  { b with awaits := .read decoder buffer (if b.aborted then some (.error .abort) else none) }

variable (parse : List Char → Option (List Char))

/-- The body from the promise that has settled to its next `await`, or to its end. -/
def resume (b : LogBody) (cells : LogCells) : Option (LogCells × LogBody) :=
  match b.awaits with
  | .fetch (some (.ok r)) =>
      if !r.ok then some (b.leave cells (some (.other ("HTTP " ++ toString r.status))))
      else if !r.hasBody then some (b.leave cells (some (.other "No response body")))
      else some (cells, b.read .new [])
  | .fetch (some (.error e)) => some (b.leave cells (some e))
  | .read decoder buffer (some (.ok (some value))) =>
      let s := LogStreamState.feed parse ⟨decoder, buffer, cells.lines⟩ value
      some ({ cells with lines := s.lines }, b.read s.decoder s.buffer)
  | .read _ _ (some (.ok none)) => some (b.leave cells none)
  | .read _ _ (some (.error e)) => some (b.leave cells (some e))
  | _ => none

end LogBody

/-! ## The hook -/

/-- The cells, the body whose controller is in `abortRef`, and the bodies in the order of
their start. -/
structure LogHook where
  cells : LogCells
  abortRef : Option Nat
  bodies : List LogBody

inductive LogAction where
  | start (id : String)
  | stop
  | arrive (i : Nat) (arrival : LogArrival)
  | resume (i : Nat)

/-- The effect of a render with this container; its cleanup is `stop`. -/
def LogAction.effect : Option String → List LogAction
  | none => []
  | some id => if id = "" then [] else [.start id]

namespace LogHook

def mounted : LogHook := ⟨⟨some [], false, none⟩, none, []⟩

def stop (s : LogHook) : LogHook where
  cells := { s.cells with streaming := false }
  abortRef := none
  bodies :=
    match s.abortRef with
    | none => s.bodies
    | some i => s.bodies.modify i LogBody.abort

def start (s : LogHook) (id : String) : LogHook where
  cells := ⟨some [], true, none⟩
  abortRef := some s.stop.bodies.length
  bodies := s.stop.bodies ++
    [⟨"/api/containers/" ++ id ++ "/logs?stream=true&tail=200", false, .fetch none⟩]

variable (parse : List Char → Option (List Char))

def step (s : LogHook) : LogAction → Option LogHook
  | .start id => some (s.start id)
  | .stop => some s.stop
  | .arrive i arrival => do
      let b ← s.bodies[i]?
      let awaits ← b.awaits.settle arrival
      return { s with bodies := s.bodies.set i { b with awaits := awaits } }
  | .resume i => do
      let b ← s.bodies[i]?
      let (cells, b') ← b.resume parse s.cells
      return { s with cells := cells, bodies := s.bodies.set i b' }

/-- The stream of body `i` is open and has not been stopped. -/
def Streams (s : LogHook) (i : Nat) : Prop :=
  ∃ b, s.bodies[i]? = some b ∧ b.awaits.hasReturned = false ∧ b.aborted = false

/-- Whatever happens after `s`, no body before the `n`-th changes the cells, and
`streaming` is set as long as the `n`-th streams. -/
def Undisturbed (n : Nat) (s : LogHook) : Prop :=
  ∀ later s', Guarded.steps (step parse) s later = some s' →
    (∀ i < n, ∀ s'', step parse s' (.resume i) = some s'' → s''.cells = s'.cells) ∧
      (s'.Streams n → s'.cells.streaming = true)

end LogHook

/-! ## One body -/

namespace LogAwait

theorem abort_pending (awaits : LogAwait) : awaits.abort.pending = false := by
  unfold abort
  split <;> simp_all [pending]

theorem abort_hasReturned (awaits : LogAwait) : awaits.abort.hasReturned = awaits.hasReturned := by
  unfold abort
  split <;> rfl

/-- Only a pending promise settles, and its body goes on waiting. -/
theorem settle_some {awaits awaits' : LogAwait} {arrival : LogArrival}
    (settled : awaits.settle arrival = some awaits') :
    awaits.pending = true ∧ awaits'.pending = false ∧ awaits'.hasReturned = false := by
  unfold settle at settled
  split at settled <;> cases settled <;> exact ⟨rfl, rfl, rfl⟩

end LogAwait

namespace LogBody

variable {parse : List Char → Option (List Char)} {b b' : LogBody} {cells cells' : LogCells}

/-- A resumed body either ends, and clears `streaming`, or awaits the next read; an
aborted body is rejected there. -/
theorem resume_some (resumed : b.resume parse cells = some (cells', b')) :
    b'.aborted = b.aborted ∧
      ((b'.awaits = .returned ∧ cells'.streaming = false) ∨
        (cells'.streaming = cells.streaming ∧ ∃ decoder buffer,
          b'.awaits = .read decoder buffer (if b.aborted then some (.error .abort) else none))) := by
  unfold resume at resumed
  split at resumed
  · split at resumed
    · cases resumed
      exact ⟨rfl, .inl ⟨rfl, rfl⟩⟩
    · split at resumed
      · cases resumed
        exact ⟨rfl, .inl ⟨rfl, rfl⟩⟩
      · cases resumed
        exact ⟨rfl, .inr ⟨rfl, _, _, rfl⟩⟩
  · cases resumed
    exact ⟨rfl, .inl ⟨rfl, rfl⟩⟩
  · cases resumed
    exact ⟨rfl, .inr ⟨rfl, _, _, rfl⟩⟩
  · cases resumed
    exact ⟨rfl, .inl ⟨rfl, rfl⟩⟩
  · cases resumed
    exact ⟨rfl, .inl ⟨rfl, rfl⟩⟩
  · cases resumed

/-- A body whose promise has settled can go on. -/
theorem resume_isSome (parse : List Char → Option (List Char)) (cells : LogCells)
    (settled : b.awaits.pending = false) (running : b.awaits.hasReturned = false) :
    (b.resume parse cells).isSome = true := by
  obtain ⟨url, aborted, awaits⟩ := b
  rcases awaits with (_ | e | r) | ⟨decoder, buffer, _ | e | _ | value⟩ | _
  · cases settled
  · rfl
  · simp only [resume]
    split
    · rfl
    · split <;> rfl
  · cases settled
  · rfl
  · rfl
  · rfl
  · cases running

theorem resume_returned (parse : List Char → Option (List Char)) (cells : LogCells)
    (returned : b.awaits.hasReturned = true) : b.resume parse cells = none := by
  unfold resume
  split <;> simp_all [LogAwait.hasReturned]

end LogBody

/-! ## What every step keeps -/

namespace LogHook

/-- The controller in `abortRef` is the one of the newest body, all others have been
aborted, and no promise of an aborted body is pending. -/
structure Tracked (s : LogHook) : Prop where
  newest : ∀ i, s.abortRef = some i → i + 1 = s.bodies.length
  aborted : ∀ (i : Nat) (b : LogBody), s.bodies[i]? = some b → s.abortRef ≠ some i →
    b.aborted = true
  settled : ∀ (i : Nat) (b : LogBody), s.bodies[i]? = some b → b.aborted = true →
    b.awaits.pending = false

variable {parse : List Char → Option (List Char)} {s s' : LogHook} {i : Nat}

theorem tracked_mounted : mounted.Tracked := ⟨nofun, nofun, nofun⟩

theorem stop_bodies (s : LogHook) (i : Nat) :
    s.stop.bodies[i]? =
      s.bodies[i]?.map fun b => if s.abortRef = some i then b.abort else b := by
  unfold stop
  dsimp only
  split
  · rename_i none
    simp [none]
  · rename_i j held
    rw [List.getElem?_modify, held]
    by_cases same : j = i
    · simp [same]
    · simp [same]

theorem stop_length (s : LogHook) : s.stop.bodies.length = s.bodies.length := by
  unfold stop
  dsimp only
  split
  · rfl
  · exact List.length_modify ..

theorem Tracked.stop_aborted (tracked : s.Tracked) {b : LogBody}
    (found : s.stop.bodies[i]? = some b) :
    b.aborted = true ∧ b.awaits.pending = false := by
  rw [stop_bodies] at found
  obtain ⟨old, there, rfl⟩ := Option.map_eq_some_iff.mp found
  by_cases held : s.abortRef = some i
  · rw [if_pos held]
    exact ⟨rfl, LogAwait.abort_pending old.awaits⟩
  · rw [if_neg held]
    have aborted := tracked.aborted i old there held
    exact ⟨aborted, tracked.settled i old there aborted⟩

theorem Tracked.stop (tracked : s.Tracked) : s.stop.Tracked where
  newest _ held := by cases held
  aborted _ _ found _ := (tracked.stop_aborted found).1
  settled _ _ found _ := (tracked.stop_aborted found).2

/-- A start adds one body to the ones that it stops. -/
theorem start_bodies (s : LogHook) (id : String) (i : Nat) {b : LogBody}
    (found : (s.start id).bodies[i]? = some b) :
    s.stop.bodies[i]? = some b ∨
      (i = s.bodies.length ∧ b.aborted = false ∧ b.awaits = .fetch none) := by
  unfold start at found
  dsimp only at found
  rw [List.getElem?_append] at found
  split at found
  · exact .inl found
  · rename_i later
    obtain ⟨at_end, same⟩ := List.getElem?_eq_some_iff.mp found
    rw [List.length_singleton] at at_end
    subst same
    refine .inr ⟨?_, by simp, by simp⟩
    rw [stop_length] at later at_end
    omega

theorem start_length (s : LogHook) (id : String) :
    (s.start id).bodies.length = s.bodies.length + 1 := by
  simp [start, stop_length]

theorem Tracked.start (tracked : s.Tracked) (id : String) : (s.start id).Tracked where
  newest i held := by
    obtain rfl : s.stop.bodies.length = i := Option.some.inj held
    rw [start_length, stop_length]
  aborted i b found other := by
    rcases start_bodies s id i found with old | ⟨rfl, -, -⟩
    · exact (tracked.stop_aborted old).1
    · exact absurd (congrArg some (stop_length s)) other
  settled i b found aborted := by
    rcases start_bodies s id i found with old | ⟨-, fresh, -⟩
    · exact (tracked.stop_aborted old).2
    · rw [fresh] at aborted
      cases aborted

/-- The two steps that a body takes: its promise settles, or it goes on. -/
theorem step_arrive {arrival : LogArrival} (stepped : step parse s (.arrive i arrival) = some s') :
    ∃ b awaits, s.bodies[i]? = some b ∧ b.awaits.settle arrival = some awaits ∧
      s' = { s with bodies := s.bodies.set i { b with awaits := awaits } } := by
  obtain ⟨b, found, rest⟩ := Option.bind_eq_some_iff.mp stepped
  obtain ⟨awaits, settled, same⟩ := Option.bind_eq_some_iff.mp rest
  exact ⟨b, awaits, found, settled, (Option.some.inj same).symm⟩

theorem step_resume (stepped : step parse s (.resume i) = some s') :
    ∃ b cells b', s.bodies[i]? = some b ∧ b.resume parse s.cells = some (cells, b') ∧
      s' = { s with cells := cells, bodies := s.bodies.set i b' } := by
  obtain ⟨b, found, rest⟩ := Option.bind_eq_some_iff.mp stepped
  obtain ⟨⟨cells, b'⟩, resumed, same⟩ := Option.bind_eq_some_iff.mp rest
  exact ⟨b, cells, b', found, resumed, (Option.some.inj same).symm⟩

theorem resume_step {b b' : LogBody} {cells : LogCells} (found : s.bodies[i]? = some b)
    (resumed : b.resume parse s.cells = some (cells, b')) :
    step parse s (.resume i) = some { s with cells := cells, bodies := s.bodies.set i b' } := by
  rw [step, found, Option.bind_eq_bind, Option.bind_some, resumed]
  rfl

/-- Replacing a body by one that is aborted when it was, and settled then. -/
theorem Tracked.set (tracked : s.Tracked) {b b' : LogBody} (cells : LogCells)
    (found : s.bodies[i]? = some b) (aborted : b'.aborted = b.aborted)
    (settled : b'.aborted = true → b'.awaits.pending = false) :
    Tracked { s with cells := cells, bodies := s.bodies.set i b' } := by
  obtain ⟨inside, -⟩ := List.getElem?_eq_some_iff.mp found
  refine ⟨fun j held => by simpa using tracked.newest j held, fun j c there other => ?_,
    fun j c there gone => ?_⟩
  · by_cases same : i = j
    · subst same
      obtain rfl : b' = c := by simpa [inside] using there
      rw [aborted]
      exact tracked.aborted i b found other
    · rw [List.getElem?_set_ne same] at there
      exact tracked.aborted j c there other
  · by_cases same : i = j
    · subst same
      obtain rfl : b' = c := by simpa [inside] using there
      exact settled gone
    · rw [List.getElem?_set_ne same] at there
      exact tracked.settled j c there gone

theorem Tracked.step {a : LogAction} (tracked : s.Tracked) (stepped : s.step parse a = some s') :
    s'.Tracked := by
  cases a with
  | start id =>
      obtain rfl := Option.some.inj stepped
      exact tracked.start id
  | stop =>
      obtain rfl := Option.some.inj stepped
      exact tracked.stop
  | arrive i arrival =>
      obtain ⟨b, awaits, found, settled, rfl⟩ := step_arrive stepped
      exact tracked.set s.cells found rfl fun _ => (LogAwait.settle_some settled).2.1
  | resume i =>
      obtain ⟨b, cells, b', found, resumed, rfl⟩ := step_resume stepped
      obtain ⟨same, ends⟩ := LogBody.resume_some resumed
      refine tracked.set cells found same fun aborted => ?_
      rcases ends with ⟨returned, -⟩ | ⟨-, decoder, buffer, reads⟩
      · rw [returned]
        rfl
      · rw [reads, if_pos (same.symm.trans aborted)]
        rfl

theorem tracked_steps {actions : List LogAction}
    (ran : Guarded.steps (step parse) mounted actions = some s) : s.Tracked :=
  Guarded.steps_invariant (fun tracked stepped => tracked.step stepped) tracked_mounted ran

/-! ## When the earlier bodies have returned -/

/-- The bodies before the `n`-th have returned, and it keeps `streaming` set. -/
structure Alone (n : Nat) (s : LogHook) : Prop where
  tracked : s.Tracked
  started : n < s.bodies.length
  returned : ∀ (i : Nat) (b : LogBody), i < n → s.bodies[i]? = some b →
    b.awaits.hasReturned = true
  streaming : s.Streams n → s.cells.streaming = true

variable {n : Nat}

/-- What has returned stays so when it is stopped. -/
theorem stop_hasReturned (returned : ∀ (i : Nat) (b : LogBody), i < n → s.bodies[i]? = some b →
    b.awaits.hasReturned = true) {b : LogBody} (before : i < n)
    (found : s.stop.bodies[i]? = some b) : b.awaits.hasReturned = true := by
  rw [stop_bodies] at found
  obtain ⟨old, there, rfl⟩ := Option.map_eq_some_iff.mp found
  have done := returned i old before there
  split
  · exact (LogAwait.abort_hasReturned old.awaits).trans done
  · exact done

theorem alone_start (tracked : s.Tracked)
    (returned : ∀ (i : Nat) (b : LogBody), i < s.bodies.length → s.bodies[i]? = some b →
      b.awaits.hasReturned = true) (id : String) : Alone s.bodies.length (s.start id) where
  tracked := tracked.start id
  started := by
    rw [start_length]
    omega
  returned i b before found := by
    rcases start_bodies s id i found with old | ⟨at_end, -⟩
    · exact stop_hasReturned returned before old
    · omega
  streaming _ := rfl

theorem Alone.start (alone : s.Alone n) (id : String) : (s.start id).Alone n where
  tracked := alone.tracked.start id
  started := by
    rw [start_length]
    exact Nat.lt_succ_of_lt alone.started
  returned i b before found := by
    have := alone.started
    rcases start_bodies s id i found with old | ⟨at_end, -⟩
    · exact stop_hasReturned alone.returned before old
    · omega
  streaming _ := rfl

theorem Alone.stop (alone : s.Alone n) : s.stop.Alone n where
  tracked := alone.tracked.stop
  started := by
    rw [stop_length]
    exact alone.started
  returned _ _ before found := stop_hasReturned alone.returned before found
  streaming := by
    rintro ⟨b, found, -, live⟩
    rw [(alone.tracked.stop_aborted found).1] at live
    cases live

/-- A step of a body that has not returned is a step of the `n`-th or of a later one. -/
theorem Alone.not_before (alone : s.Alone n) {b : LogBody} (found : s.bodies[i]? = some b)
    (running : b.awaits.hasReturned = false) : n ≤ i := by
  by_contra before
  rw [alone.returned i b (by omega) found] at running
  cases running

/-- Once a later one has started, the `n`-th does not stream. -/
theorem Alone.not_streams (alone : s.Alone n) {b : LogBody} (later : n < i)
    (found : s.bodies[i]? = some b) : ¬ s.Streams n := by
  rintro ⟨c, there, -, live⟩
  have other : s.abortRef ≠ some n := by
    intro held
    have last := alone.tracked.newest n held
    obtain ⟨inside, -⟩ := List.getElem?_eq_some_iff.mp found
    omega
  rw [alone.tracked.aborted n c there other] at live
  cases live

/-- A step of one body leaves the others as they are. -/
theorem Alone.set (alone : s.Alone n) {b b' : LogBody} {cells : LogCells} (from_n : n ≤ i)
    (found : s.bodies[i]? = some b)
    (tracked : Tracked { s with cells := cells, bodies := s.bodies.set i b' })
    (streams : b'.awaits.hasReturned = false → b'.aborted = false →
      s.Streams i ∧ (s.cells.streaming = true → cells.streaming = true)) :
    Alone n { s with cells := cells, bodies := s.bodies.set i b' } where
  tracked := tracked
  started := by
    rw [List.length_set]
    exact alone.started
  returned j c before there := by
    rw [List.getElem?_set_ne (by omega)] at there
    exact alone.returned j c before there
  streaming := by
    rintro ⟨c, there, running, live⟩
    obtain ⟨inside, -⟩ := List.getElem?_eq_some_iff.mp found
    rcases Nat.eq_or_lt_of_le from_n with rfl | later
    · obtain rfl : b' = c := by simpa [inside] using there
      obtain ⟨streamed, kept⟩ := streams running live
      exact kept (alone.streaming streamed)
    · rw [List.getElem?_set_ne (by omega)] at there
      exact absurd ⟨c, there, running, live⟩ (alone.not_streams later found)

theorem Alone.step {a : LogAction} (alone : s.Alone n) (stepped : s.step parse a = some s') :
    s'.Alone n := by
  have tracked := alone.tracked.step stepped
  cases a with
  | start id =>
      obtain rfl := Option.some.inj stepped
      exact alone.start id
  | stop =>
      obtain rfl := Option.some.inj stepped
      exact alone.stop
  | arrive i arrival =>
      obtain ⟨b, awaits, found, settled, rfl⟩ := step_arrive stepped
      have running : b.awaits.hasReturned = false := by
        have pending := (LogAwait.settle_some settled).1
        cases reached : b.awaits <;> simp_all [LogAwait.pending, LogAwait.hasReturned]
      exact alone.set (alone.not_before found running) found tracked fun _ live =>
        ⟨⟨b, found, running, live⟩, fun held => held⟩
  | resume i =>
      obtain ⟨b, cells, b', found, resumed, rfl⟩ := step_resume stepped
      obtain ⟨same, ends⟩ := LogBody.resume_some resumed
      have running : b.awaits.hasReturned = false := by
        by_contra returned
        rw [LogBody.resume_returned parse s.cells (by simpa using returned)] at resumed
        cases resumed
      refine alone.set (alone.not_before found running) found tracked fun open' live =>
        ⟨⟨b, found, running, same.symm.trans live⟩, fun held => ?_⟩
      rcases ends with ⟨returned, -⟩ | ⟨kept, -⟩
      · rw [returned] at open'
        cases open'
      · exact kept.trans held

theorem Alone.undisturbed (alone : s.Alone n) : Undisturbed parse n s := by
  intro later s' ran
  have alone' : s'.Alone n := Guarded.steps_invariant (fun alone stepped => alone.step stepped) alone ran
  refine ⟨fun i before s'' stepped => ?_, alone'.streaming⟩
  obtain ⟨b, cells, b', found, resumed, -⟩ := step_resume stepped
  rw [LogBody.resume_returned parse s'.cells (alone'.returned i b before found)] at resumed
  cases resumed

/-! ## When one of them has not -/

/-- A body that awaits something when another one starts clears `streaming` later, at the
latest when the read after its settled promise is rejected. -/
theorem start_disturbs (tracked : s.Tracked) (id : String) {b : LogBody}
    (found : s.bodies[i]? = some b) (running : b.awaits.hasReturned = false) :
    ¬ Undisturbed parse s.bodies.length (s.start id) := by
  intro undisturbed
  obtain ⟨before, -⟩ := List.getElem?_eq_some_iff.mp found
  obtain ⟨c, there, open'⟩ : ∃ c, s.stop.bodies[i]? = some c ∧ c.awaits.hasReturned = false := by
    rw [stop_bodies, found]
    refine ⟨_, rfl, ?_⟩
    split
    · exact (LogAwait.abort_hasReturned b.awaits).trans running
    · exact running
  obtain ⟨gone, settled⟩ := tracked.stop_aborted there
  have inStart : (s.start id).bodies[i]? = some c := by
    rw [start, List.getElem?_append_left (by rw [stop_length]; exact before)]
    exact there
  obtain ⟨⟨cells, c'⟩, resumed⟩ := Option.isSome_iff_exists.mp
    (LogBody.resume_isSome parse (s.start id).cells settled open')
  have first := resume_step inStart resumed
  obtain rfl : cells = (s.start id).cells := (undisturbed [] _ rfl).1 i before _ first
  obtain ⟨-, ⟨-, cleared⟩ | ⟨-, decoder, buffer, reads⟩⟩ := LogBody.resume_some resumed
  · cases cleared
  · rw [gone, if_pos rfl] at reads
    have ran : Guarded.steps (step parse) (s.start id) [.resume i] =
        some { s.start id with cells := (s.start id).cells, bodies := (s.start id).bodies.set i c' } :=
      Guarded.steps_cons first []
    obtain ⟨inside, -⟩ := List.getElem?_eq_some_iff.mp inStart
    have rejected : c'.resume parse (s.start id).cells =
        some (c'.leave (s.start id).cells (some .abort)) := by
      rw [LogBody.resume, reads]
    have second := resume_step (s := { s.start id with bodies := (s.start id).bodies.set i c' })
      (List.getElem?_set_self inside) rejected
    have cleared := congrArg LogCells.streaming ((undisturbed _ _ ran).1 i before _ second)
    cases cleared

/-! ## Every start -/

/-- **A superseded stream does not disturb its successor**: after a `start`, in whatever
order the steps of all bodies and further calls follow, no earlier body changes the
cells and `streaming` stays set while the new stream is open and has not been stopped,
exactly when all earlier bodies had returned by then. -/
theorem superseded_undisturbed_iff {actions : List LogAction}
    (ran : Guarded.steps (step parse) mounted actions = some s) (id : String) :
    Undisturbed parse s.bodies.length (s.start id) ↔
      ∀ b ∈ s.bodies, b.awaits.hasReturned = true := by
  have tracked := tracked_steps ran
  constructor
  · intro undisturbed b member
    obtain ⟨i, found⟩ := List.mem_iff_getElem?.mp member
    by_contra running
    exact start_disturbs tracked id found (by simpa using running) undisturbed
  · intro returned
    apply Alone.undisturbed
    exact alone_start tracked (fun i b _ found => returned b (List.mem_of_getElem? found)) id

/-- The cells after these steps, with `JSON.parse` for strings. -/
def cellsAfter (actions : List LogAction) : Option LogCells :=
  (Guarded.steps (step JsonString.parseString) mounted actions).map cells

/-- The view of container `a`, whose log is being streamed. -/
def opened : List LogAction :=
  LogAction.effect (some "a") ++ [.arrive 0 (.response ⟨200, true⟩), .resume 0]

/-- The container is switched to `b`. -/
def switched : List LogAction := .stop :: LogAction.effect (some "b")

/-- The bytes of `data: "old"` and two line breaks. -/
def oldEvent : Bytes := [100, 97, 116, 97, 58, 32, 34, 111, 108, 100, 34, 10, 10]

/-- The stream of `a` has ended before the switch. -/
theorem ended_stream_undisturbed :
    Undisturbed JsonString.parseString 1
      (start ⟨⟨some [], false, none⟩, none,
        [⟨"/api/containers/a/logs?stream=true&tail=200", true, .returned⟩]⟩ "b") := by
  have ran : Guarded.steps (step JsonString.parseString) mounted
      (opened ++ [.arrive 0 (.read none), .resume 0, .stop]) =
        some ⟨⟨some [], false, none⟩, none,
          [⟨"/api/containers/a/logs?stream=true&tail=200", true, .returned⟩]⟩ := by rfl
  exact (superseded_undisturbed_iff ran "b").mpr (by simp [LogAwait.hasReturned])

/-- The stream of `a` is open at the switch.  Its rejected read ends in a `finally` that
clears `streaming` while the stream of `b` is open.  A chunk that came in just before the
switch is shown as a line of `b`, and so is the error of a refused response. -/
theorem container_switch_disturbs :
    cellsAfter (opened ++ switched) = some ⟨some [], true, none⟩ ∧
      cellsAfter (opened ++ switched ++ [.resume 0]) = some ⟨some [], false, none⟩ ∧
      cellsAfter (opened ++ [.arrive 0 (.read (some oldEvent))] ++ switched ++ [.resume 0]) =
        some ⟨some [['o', 'l', 'd']], true, none⟩ ∧
      cellsAfter (LogAction.effect (some "a") ++ [.arrive 0 (.response ⟨500, true⟩)] ++ switched ++
        [.resume 0]) = some ⟨some [], false, some "HTTP 500"⟩ ∧
      ∃ s, Guarded.steps (step JsonString.parseString) mounted (opened ++ [.stop]) = some s ∧
        ¬ Undisturbed JsonString.parseString s.bodies.length (s.start "b") := by
  refine ⟨by decide +kernel, by decide +kernel, by decide +kernel, by decide +kernel, ?_⟩
  obtain ⟨s, ran, b, found, running⟩ : ∃ s : LogHook,
      Guarded.steps (step JsonString.parseString) mounted (opened ++ [.stop]) = some s ∧
        ∃ b, s.bodies[0]? = some b ∧ b.awaits.hasReturned = false := ⟨_, rfl, _, rfl, rfl⟩
  exact ⟨s, ran, start_disturbs (tracked_steps ran) "b" found running⟩

end LogHook

end VpsDashboard.Frontend
