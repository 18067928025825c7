/-
# VpsDashboard.Trakt.CredentialFile — the credentials in memory and on disk

`Update` and `SetRedirectURI` change the credentials under the lock and then call
`save`, which takes a snapshot under the lock and writes it after the lock is
released.  The three steps of one call interleave with those of the others.

A version counts the changes: `snapshotVersion` is how many changes the latest
snapshot of a call has seen, `fileVersion` how many the file has.

* `stale_snapshot_written_last` — a call whose snapshot is older than the file
  writes it over the newer one;
* `file_holds_credentials` — in every run in which no write takes the file back to
  an older version (`WritesInOrder`), the file holds the credentials in memory as
  soon as all calls have returned and one of them has written.
-/
import VpsDashboard.Trakt.Sessions

namespace VpsDashboard.Trakt

open Foundation

set_option autoImplicit false

/-! ## Calls -/

inductive CredentialCall where
  | update (c : Credentials)
  | setRedirectURI (uri : String)
deriving DecidableEq

def CredentialCall.program : CredentialCall → Prog Unit
  | .update c => CredentialStore.update c
  | .setRedirectURI uri => CredentialStore.setRedirectURI uri

/-- The calls before any of them has taken a step. -/
def startCredentials (w : World) (calls : List CredentialCall) : Config Act Ans World :=
  ⟨w, calls.map CredentialCall.program⟩

/-! ## Versions

The functions of this section read a history with its latest event first. -/

def changed (e : Step) : Bool := e.before.creds.creds != e.after.creds.creds

def Act.writesFile : Act → Bool
  | .credsWriteFile _ => true
  | _ => false

def changes : History → Nat
  | [] => 0
  | e :: earlier => if changed e then changes earlier + 1 else changes earlier

/-- The changes before the latest snapshot of call `i`. -/
def snapshotVersion (i : Nat) : History → Nat
  | [] => 0
  | e :: earlier =>
      if e.thread = i ∧ e.act = .credsSnapshot then changes earlier else snapshotVersion i earlier

/-- The version of the snapshot that was written last. -/
def fileVersion : History → Nat
  | [] => 0
  | e :: earlier =>
      if e.act.writesFile then snapshotVersion e.thread earlier else fileVersion earlier

/-- The call that made the latest change. -/
def lastChanger : History → Option Nat
  | [] => none
  | e :: earlier => if changed e then some e.thread else lastChanger earlier

/-- No write replaces the file by a snapshot older than the one it holds. -/
def WritesInOrder (trace : History) : Prop :=
  Everywhere (fun pre e => e.act.writesFile = true →
    fileVersion pre.reverse ≤ snapshotVersion e.thread pre.reverse) trace

instance (trace : History) : Decidable (WritesInOrder trace) :=
  inferInstanceAs (Decidable (Everywhere _ trace))

theorem snapshotVersion_le_changes (i : Nat) (h : History) :
    snapshotVersion i h ≤ changes h := by
  induction h with
  | nil => exact Nat.le_refl 0
  | cons e earlier ih =>
      simp only [snapshotVersion, changes]
      split <;> split <;> omega

theorem fileVersion_le_changes (h : History) : fileVersion h ≤ changes h := by
  induction h with
  | nil => exact Nat.le_refl 0
  | cons e earlier ih =>
      have seen := snapshotVersion_le_changes e.thread earlier
      simp only [fileVersion, changes]
      split <;> split <;> omega

theorem changes_eq_zero {h : History} (none : lastChanger h = none) : changes h = 0 := by
  induction h with
  | nil => rfl
  | cons e earlier ih =>
      simp only [lastChanger] at none
      simp only [changes]
      split at none
      · cases none
      · rename_i unchanged
        rw [if_neg unchanged]
        exact ih none

theorem lastChanger_mem {h : History} {i : Nat} (last : lastChanger h = some i) :
    ∃ e ∈ h, e.thread = i := by
  induction h with
  | nil => simp [lastChanger] at last
  | cons e earlier ih =>
      simp only [lastChanger] at last
      split at last
      · exact ⟨e, by simp, Option.some.inj last⟩
      · obtain ⟨f, member, thread⟩ := ih last
        exact ⟨f, List.mem_cons_of_mem _ member, thread⟩

/-! ## What one call still has to do -/

/-- A change is to be followed by a snapshot, a snapshot by a write, unless the
store has no file. -/
inductive Owed where
  | nothing
  | snapshot
  | write
deriving DecidableEq

def Owed.next (before : Owed) (e : Step) : Owed :=
  if changed e then .snapshot
  else
    match e.act with
    | .credsSnapshot => if e.before.creds.filePath = "" then .nothing else .write
    | .credsWriteFile _ => .nothing
    | _ => before

def owed (h : History) : Owed := h.foldl Owed.next .nothing

@[simp] theorem owed_nil : owed [] = .nothing := rfl

@[simp] theorem owed_concat (h : History) (e : Step) : owed (h ++ [e]) = (owed h).next e := by
  simp [owed]

/-- The latest snapshot of a history. -/
def lastSnapshot (h : History) : Option Credentials :=
  h.foldl (fun data e => if e.act = .credsSnapshot then some e.before.creds.creds else data) none

@[simp] theorem lastSnapshot_nil : lastSnapshot [] = none := rfl

@[simp] theorem lastSnapshot_concat (h : History) (e : Step) :
    lastSnapshot (h ++ [e]) =
      if e.act = .credsSnapshot then some e.before.creds.creds else lastSnapshot h := by
  simp [lastSnapshot]

theorem owed_own_concat (i : Nat) (trace : History) (e : Step) :
    owed (own i (trace ++ [e])) =
      if e.thread = i then (owed (own i trace)).next e else owed (own i trace) := by
  rw [own_concat]
  split
  · exact owed_concat _ e
  · rfl

theorem lastSnapshot_own_concat (i : Nat) (trace : History) (e : Step) :
    lastSnapshot (own i (trace ++ [e])) =
      if e.thread = i ∧ e.act = .credsSnapshot then some e.before.creds.creds
      else lastSnapshot (own i trace) := by
  rw [own_concat]
  by_cases mine : e.thread = i
  · simp only [mine, if_true, true_and, lastSnapshot_concat]
  · simp only [mine, if_false, false_and]

/-- A call writes its latest snapshot, and only when it owes a write. -/
def writesItsSnapshot (h : History) : Act → Prop
  | .credsWriteFile data => owed h = .write ∧ lastSnapshot h = some data
  | _ => True

section Functions

variable {i : Nat} {h : History} {Q : Unit → History → Prop}

/-- `save` leaves nothing to do, whatever was owed before it. -/
theorem save_settles (done : ∀ h', owed h' = .nothing → Q () h') :
    CredentialStore.save.wp (machine.historyLogic i writesItsSnapshot) Q h := by
  unfold CredentialStore.save
  apply Machine.wp_perform trivial
  intro s env
  have unchanged : changed (machine.event i s .credsSnapshot env) = false := by simp [changed]
  rw [Program.wp_ite]
  split
  · rename_i noFile
    apply done _
    rw [owed_concat, Owed.next, unchanged]
    exact if_pos noFile
  · rename_i file
    have write : owed (h ++ [machine.event i s .credsSnapshot env]) = .write := by
      rw [owed_concat, Owed.next, unchanged]
      exact if_neg file
    refine Machine.wp_history_act.mpr ⟨⟨write, by simp⟩, fun s' env' => done _ ?_⟩
    rw [owed_concat]
    simp [Owed.next, changed]

theorem update_settles {c : Credentials} (done : ∀ h', owed h' = .nothing → Q () h') :
    (CredentialStore.update c).wp (machine.historyLogic i writesItsSnapshot) Q h := by
  unfold CredentialStore.update
  exact Machine.wp_perform trivial fun s env => save_settles done

/-- A redirect URI that changes nothing is not saved, and owes nothing. -/
theorem setRedirectURI_settles {uri : String} (nothing : owed h = .nothing)
    (done : ∀ h', owed h' = .nothing → Q () h') :
    (CredentialStore.setRedirectURI uri).wp (machine.historyLogic i writesItsSnapshot) Q h := by
  unfold CredentialStore.setRedirectURI
  rw [Program.wp_ite]
  split
  · exact done _ nothing
  · apply Machine.wp_perform trivial
    intro s env
    rw [Program.wp_ite]
    split
    · exact save_settles done
    · rename_i same
      have uri : s.creds.creds.redirectURI = uri := by
        simpa [CredentialStore.setRedirectURILocked] using same
      apply done _
      rw [owed_concat, nothing]
      simp [Owed.next, changed, CredentialStore.setRedirectURILocked, ← uri]

end Functions

theorem CredentialCall.program_settles (call : CredentialCall) (i : Nat) :
    call.program.wp (machine.historyLogic i writesItsSnapshot) (fun _ h => owed h = .nothing) [] := by
  cases call with
  | update c => exact update_settles fun _ settled => settled
  | setRedirectURI uri => exact setRedirectURI_settles rfl fun _ settled => settled

/-! ## What holds after every step -/

/-- What the call that made the latest change has done about it. -/
def Settled (i : Nat) (trace : History) (path : String) : Prop :=
  match owed (own i trace) with
  | .snapshot => True
  | .write => snapshotVersion i trace.reverse = changes trace.reverse
  | .nothing => path = "" ∨ fileVersion trace.reverse = changes trace.reverse

/-- Snapshots and files of the latest version hold the credentials in memory, and
the call that made the latest change is bringing them there. -/
structure Tracked (trace : History) (cs : CredentialStore) : Prop where
  snapshot : ∀ i data, lastSnapshot (own i trace) = some data →
    snapshotVersion i trace.reverse = changes trace.reverse → data = cs.creds
  file : (∃ e ∈ trace, e.act.writesFile = true) →
    fileVersion trace.reverse = changes trace.reverse → cs.file = some cs.creds
  path : (∃ i, owed (own i trace) = .write) ∨ (∃ e ∈ trace, e.act.writesFile = true) →
    cs.filePath ≠ ""
  settled : ∀ i, lastChanger trace.reverse = some i → Settled i trace cs.filePath

theorem exec_filePath (w : World) (a : Act) (env : Env) :
    (exec w a env).2.creds.filePath = w.creds.filePath := by
  cases a <;> rfl

/-- Snapshots and writes of the file change no credentials. -/
theorem changed_acts {e : Step} (done : e.after = (exec e.before e.act e.env).2)
    (change : changed e = true) : e.act ≠ .credsSnapshot ∧ e.act.writesFile = false := by
  cases kind : e.act with
  | credsSnapshot =>
      have same : e.after = e.before := by rw [done, kind]
      simp [changed, same] at change
  | credsWriteFile data =>
      have same : e.after.creds.creds = e.before.creds.creds := by rw [done, kind]
      simp [changed, same] at change
  | _ => exact ⟨nofun, rfl⟩

section Step

variable {trace : History} {e : Step}

/-- A change makes every snapshot, and the file, out of date. -/
theorem tracked_change (held : Tracked trace e.before.creds)
    (done : e.after = (exec e.before e.act e.env).2) (change : changed e = true) :
    Tracked (trace ++ [e]) e.after.creds := by
  obtain ⟨noSnapshot, noWrite⟩ := changed_acts done change
  have path : e.after.creds.filePath = e.before.creds.filePath := by rw [done, exec_filePath]
  constructor
  case snapshot =>
    intro i data _ current
    have seen := snapshotVersion_le_changes i trace.reverse
    simp only [List.reverse_concat, snapshotVersion, noSnapshot, and_false, if_false, changes,
      change, if_true] at current
    omega
  case file =>
    intro _ current
    have seen := fileVersion_le_changes trace.reverse
    simp only [List.reverse_concat, fileVersion, noWrite, changes, change, if_true,
      Bool.false_eq_true, if_false] at current
    omega
  case path =>
    intro busy
    rw [path]
    refine held.path (busy.imp ?_ ?_)
    · rintro ⟨i, owes⟩
      rw [owed_own_concat] at owes
      split at owes
      · simp [Owed.next, change] at owes
      · exact ⟨i, owes⟩
    · rintro ⟨f, member, writes⟩
      rcases List.mem_append.mp member with earlier | now
      · exact ⟨f, earlier, writes⟩
      · obtain rfl := List.mem_singleton.mp now
        rw [noWrite] at writes
        cases writes
  case settled =>
    intro i last
    simp only [List.reverse_concat, lastChanger, change, if_true, Option.some.injEq] at last
    have owes : owed (own i (trace ++ [e])) = .snapshot := by
      rw [owed_own_concat, if_pos last, Owed.next, if_pos change]
    rw [Settled, owes]
    trivial

theorem tracked_snapshot (held : Tracked trace e.before.creds)
    (done : e.after = (exec e.before e.act e.env).2) (kind : e.act = .credsSnapshot) :
    Tracked (trace ++ [e]) e.after.creds := by
  have same : e.after = e.before := by rw [done, kind]
  have unchanged : changed e = false := by simp [changed, same]
  have noWrite : e.act.writesFile = false := by rw [kind]; rfl
  rw [same]
  constructor
  case snapshot =>
    intro i data found current
    rw [lastSnapshot_own_concat] at found
    simp only [List.reverse_concat, snapshotVersion, changes, unchanged, Bool.false_eq_true,
      if_false] at current
    by_cases mine : e.thread = i
    · simp only [mine, kind, and_self, if_true, Option.some.injEq] at found
      exact found.symm
    · simp only [mine, false_and, if_false] at found current
      exact held.snapshot i data found current
  case file =>
    intro wrote current
    simp only [List.reverse_concat, fileVersion, noWrite, changes, unchanged, Bool.false_eq_true,
      if_false] at current
    refine held.file ?_ current
    simpa [noWrite] using wrote
  case path =>
    intro busy
    rcases busy with ⟨i, owes⟩ | wrote
    · rw [owed_own_concat] at owes
      split at owes
      · simp only [Owed.next, unchanged, Bool.false_eq_true, if_false, kind] at owes
        intro noFile
        rw [if_pos noFile] at owes
        cases owes
      · exact held.path (.inl ⟨i, owes⟩)
    · exact held.path (.inr (by simpa [noWrite] using wrote))
  case settled =>
    intro i last
    simp only [List.reverse_concat, lastChanger, unchanged, Bool.false_eq_true, if_false] at last
    have before := held.settled i last
    by_cases mine : e.thread = i
    · have current : snapshotVersion i (trace ++ [e]).reverse = changes (trace ++ [e]).reverse := by
        simp [snapshotVersion, changes, unchanged, mine, kind]
      rw [Settled, owed_own_concat, if_pos mine, Owed.next, unchanged, kind]
      by_cases noFile : e.before.creds.filePath = ""
      · simp [noFile]
      · simpa [noFile] using current
    · rw [Settled, owed_own_concat, if_neg mine]
      simpa [Settled, snapshotVersion, fileVersion, changes, mine, noWrite, unchanged] using before

theorem tracked_write (held : Tracked trace e.before.creds)
    (done : e.after = (exec e.before e.act e.env).2) {data : Credentials}
    (kind : e.act = .credsWriteFile data) (owes : owed (own e.thread trace) = .write)
    (latest : lastSnapshot (own e.thread trace) = some data)
    (ordered : fileVersion trace.reverse ≤ snapshotVersion e.thread trace.reverse) :
    Tracked (trace ++ [e]) e.after.creds := by
  have after : e.after.creds = { e.before.creds with file := some data } := by rw [done, kind]
  have unchanged : changed e = false := by simp [changed, after]
  have writes : e.act.writesFile = true := by rw [kind]; rfl
  have path := held.path (.inl ⟨_, owes⟩)
  have seen := snapshotVersion_le_changes e.thread trace.reverse
  rw [after]
  constructor
  case path => exact fun _ => path
  case snapshot =>
    intro i data' found current
    rw [lastSnapshot_own_concat] at found
    simp only [kind, reduceCtorEq, and_false, if_false] at found
    apply held.snapshot i data' found
    simpa [snapshotVersion, changes, unchanged, kind] using current
  case file =>
    intro _ current
    have current : snapshotVersion e.thread trace.reverse = changes trace.reverse := by
      simpa [fileVersion, writes, changes, unchanged] using current
    exact congrArg some (held.snapshot e.thread data latest current)
  case settled =>
    intro i last
    simp only [List.reverse_concat, lastChanger, unchanged, Bool.false_eq_true, if_false] at last
    have before := held.settled i last
    by_cases mine : e.thread = i
    · subst mine
      rw [Settled, owes] at before
      rw [Settled, owed_own_concat, if_pos rfl, Owed.next, unchanged, kind]
      right
      simpa [fileVersion, writes, changes, unchanged] using before
    · rw [Settled] at before ⊢
      rw [owed_own_concat, if_neg mine]
      cases rest : owed (own i trace) with
      | snapshot => trivial
      | write =>
          rw [rest] at before
          simpa [snapshotVersion, changes, unchanged, mine] using before
      | nothing =>
          rw [rest] at before
          right
          have current : fileVersion trace.reverse = changes trace.reverse :=
            before.resolve_left path
          simp only [List.reverse_concat, fileVersion, writes, changes, unchanged, if_true,
            Bool.false_eq_true, if_false]
          omega

/-- What neither changes, snapshots nor writes the credentials keeps everything. -/
theorem tracked_other (held : Tracked trace e.before.creds)
    (done : e.after = (exec e.before e.act e.env).2) (unchanged : changed e = false)
    (noSnapshot : e.act ≠ .credsSnapshot) (noWrite : e.act.writesFile = false) :
    Tracked (trace ++ [e]) e.after.creds := by
  have same : e.after.creds = e.before.creds := by
    have creds : e.before.creds.creds = e.after.creds.creds := by simpa [changed] using unchanged
    rw [done] at creds ⊢
    cases kind : e.act with
    | credsUpdate c =>
        rw [kind] at creds
        exact congrArg (fun c => { e.before.creds with creds := c }) creds.symm
    | credsSetRedirectURI uri =>
        rw [kind] at creds
        exact congrArg (fun c => { e.before.creds with creds := c }) creds.symm
    | credsWriteFile data => simp [kind, Act.writesFile] at noWrite
    | _ => rfl
  have next : ∀ before : Owed, before.next e = before := by
    intro before
    rw [Owed.next, unchanged]
    cases kind : e.act with
    | credsSnapshot => exact absurd kind noSnapshot
    | credsWriteFile data => simp [kind, Act.writesFile] at noWrite
    | _ => rfl
  have owes : ∀ i, owed (own i (trace ++ [e])) = owed (own i trace) := by
    intro i
    rw [owed_own_concat, next, ite_self]
  have seen : ∀ i, snapshotVersion i (trace ++ [e]).reverse = snapshotVersion i trace.reverse := by
    intro i
    simp [snapshotVersion, noSnapshot]
  have counted : changes (trace ++ [e]).reverse = changes trace.reverse := by
    simp [changes, unchanged]
  have written : fileVersion (trace ++ [e]).reverse = fileVersion trace.reverse := by
    simp [fileVersion, noWrite]
  have writers : (∃ f ∈ trace ++ [e], f.act.writesFile = true) →
      ∃ f ∈ trace, f.act.writesFile = true := by
    simp [noWrite]
  rw [same]
  constructor
  case snapshot =>
    intro i data found current
    rw [lastSnapshot_own_concat, if_neg (by simp [noSnapshot])] at found
    rw [seen, counted] at current
    exact held.snapshot i data found current
  case file =>
    intro wrote current
    rw [written, counted] at current
    exact held.file (writers wrote) current
  case path =>
    intro busy
    refine held.path (busy.imp ?_ writers)
    rintro ⟨i, write⟩
    exact ⟨i, (owes i).symm.trans write⟩
  case settled =>
    intro i last
    simp only [List.reverse_concat, lastChanger, unchanged, Bool.false_eq_true, if_false] at last
    rw [Settled, owes, seen, counted, written]
    exact held.settled i last

end Step

/-! ## Whole runs -/

theorem credential_threads {w : World} {calls : List CredentialCall} {i : Nat} {p : Prog Unit}
    (found : (startCredentials w calls).threads[i]? = some p) :
    p.wp (machine.historyLogic i writesItsSnapshot) (fun _ h => owed h = .nothing) [] := by
  rw [startCredentials, List.getElem?_map, Option.map_eq_some_iff] at found
  obtain ⟨call, -, rfl⟩ := found
  exact call.program_settles i

theorem tracked_run {w : World} {calls : List CredentialCall} {trace : History}
    {c : Config Act Ans World} (run : machine.Run (startCredentials w calls) trace c)
    (ordered : WritesInOrder trace) : Tracked trace c.state.creds := by
  induction run with
  | start =>
      constructor
      case snapshot =>
        intro i data found
        simp at found
      case file =>
        intro wrote
        simp at wrote
      case path =>
        intro busy
        simp at busy
      case settled =>
        intro i last
        simp [lastChanger] at last
  | @snoc trace c' c'' i env e run step ih =>
      have held := ih ordered.prefix
      obtain ⟨-, -, before, after, done⟩ := Machine.step_states step
      rw [← before] at held
      rw [← after]
      by_cases change : changed e = true
      · exact tracked_change held done change
      · have unchanged : changed e = false := by simpa using change
        cases kind : e.act with
        | credsSnapshot => exact tracked_snapshot held done kind
        | credsWriteFile data =>
            obtain ⟨p, found⟩ := (run.snoc step).thread_some (e := e) (by simp)
            have issued := (run.snoc step).issued found (credential_threads found)
            rw [kind] at issued
            exact tracked_write held done kind issued.1 issued.2 (ordered.at (by rw [kind]; rfl))
        | _ => exact tracked_other held done unchanged (by simp [kind]) (by simp [kind, Act.writesFile])

/-- **No credential update is lost on disk.**  In every run in which no write takes
the file back to an older version, the file holds the credentials in memory once
all calls have returned and one of them has written. -/
theorem file_holds_credentials {w : World} {calls : List CredentialCall} {trace : History}
    {c : Config Act Ans World} (run : machine.Run (startCredentials w calls) trace c)
    (returned : ∀ p ∈ c.threads, p = .ret ()) (wrote : ∃ e ∈ trace, e.act.writesFile = true)
    (ordered : WritesInOrder trace) : c.state.creds.file = some c.state.creds.creds := by
  have held := tracked_run run ordered
  apply held.file wrote
  cases last : lastChanger trace.reverse with
  | none =>
      have seen := fileVersion_le_changes trace.reverse
      have counted := changes_eq_zero last
      omega
  | some i =>
      obtain ⟨e, member, rfl⟩ := lastChanger_mem last
      obtain ⟨p, found⟩ := run.thread_some (List.mem_reverse.mp member)
      obtain ⟨p', left, rest⟩ := run.thread found (credential_threads found)
      obtain rfl := returned p' (List.mem_of_getElem? left)
      have settled := held.settled _ last
      rw [Settled, (Program.wp_ret _ _ _ _).mp rest] at settled
      exact settled.resolve_left (held.path (.inr wrote))

/-! ## Two overlapping calls -/

def savedCredentials : World where
  store := ⟨none, none⟩
  creds := ⟨⟨"id", "secret", ""⟩, "trakt-credentials.json", none⟩

/-- A login records its redirect URI while the settings page saves a new client. -/
def loginAndUpdate : List CredentialCall :=
  [.setRedirectURI "https://dash.example/callback",
   .update ⟨"id-2", "secret-2", "https://dash.example/callback"⟩]

/-- Call 0 takes its snapshot, call 1 changes the credentials and writes them, then
call 0 writes its snapshot. -/
def staleSnapshotLast : List (Nat × Env) :=
  let quiet := answering 200 none
  [(0, quiet), (0, quiet), (1, quiet), (1, quiet), (1, quiet), (0, quiet)]

theorem stale_snapshot_written_last :
    ∃ trace c, machine.Run (startCredentials savedCredentials loginAndUpdate) trace c ∧
      c.threads = [.ret (), .ret ()] ∧ (∃ e ∈ trace, e.act.writesFile = true) ∧
      c.state.creds.creds = ⟨"id-2", "secret-2", "https://dash.example/callback"⟩ ∧
      c.state.creds.file = some ⟨"id", "secret", "https://dash.example/callback"⟩ :=
  ⟨_, _, machine.run_runFor _ staleSnapshotLast, by rfl, by decide, by rfl, by rfl⟩

def writesInTurn : List (Nat × Env) :=
  let quiet := answering 200 none
  [(0, quiet), (1, quiet), (0, quiet), (0, quiet), (1, quiet), (1, quiet)]

/-- The rule where both changes come first and both snapshots hold both of them. -/
theorem overlapping_writes_in_order :
    (machine.runFor (startCredentials savedCredentials loginAndUpdate)
        writesInTurn).2.state.creds.file =
      some (machine.runFor (startCredentials savedCredentials loginAndUpdate)
        writesInTurn).2.state.creds.creds :=
  file_holds_credentials (machine.run_runFor _ _) (by
    have done : (machine.runFor (startCredentials savedCredentials loginAndUpdate)
        writesInTurn).2.threads = [.ret (), .ret ()] := by rfl
    simp [done]) (by decide) (by decide)

end VpsDashboard.Trakt
