/-
# VpsDashboard.Trakt.EnvironmentDefaults — values of the environment that outlive it

`save` writes the whole record in memory, the values of the environment among it, and
the next process reads them back as if someone had entered them.

* `rotated_secret_ignored` — after one save of the client id, a new secret in the
  environment has no effect;
* `environment_defaults_iff` — over any sequence of processes on one file, which does
  not exist at first, the fields that no call has supplied read as each process's
  environment has them if and only if no process that writes the file leaves behind a
  value that a later environment changes (`Unchanged`).
-/
import VpsDashboard.Trakt.CredentialFile
import VpsDashboard.Trakt.Restart

namespace VpsDashboard.Trakt

open Foundation

set_option autoImplicit false

/-! ## Processes -/

/-- The environment of a process, and the calls that change its credentials. -/
structure ProcessRun where
  env : Credentials
  calls : List CredentialCall

/-- The call supplies a value for the field. -/
def CredentialCall.supplies (f : CredentialField) : CredentialCall → Bool
  | .update c =>
      match f with
      | .clientID => true
      | .clientSecret => trimSpace c.clientSecret != ""
      | .redirectURI => true
  | .setRedirectURI uri =>
      match f with
      | .redirectURI => uri != ""
      | _ => false

def ProcessRun.supplies (f : CredentialField) (run : ProcessRun) : Bool :=
  run.calls.any (CredentialCall.supplies f)

/-- The call writes the file of the store. -/
def CredentialStore.saves (cs : CredentialStore) : CredentialCall → Bool
  | .update _ => cs.filePath != ""
  | .setRedirectURI uri => cs.filePath != "" && (uri != "" && cs.creds.redirectURI != uri)

section Runs

variable (outside : Nat → Env) (filePath : String)

/-- The stores after one call, made with no other call around. -/
def afterCall (w : World) (call : CredentialCall) : World :=
  (call.program.run machine w outside).2

def afterCalls (w : World) (calls : List CredentialCall) : World :=
  calls.foldl (afterCall outside) w

/-- Whether some call of the list writes the file. -/
def anySaves (w : World) : List CredentialCall → Bool
  | [] => false
  | call :: later => w.creds.saves call || anySaves (afterCall outside w call) later

/-- The stores of a process as it starts on this file. -/
def ProcessRun.start (file : Option Credentials) (run : ProcessRun) : World :=
  .boot none filePath file run.env

/-- What is in the file after these processes, the first of which finds none. -/
def fileAfter (past : List ProcessRun) : Option Credentials :=
  past.foldl (fun file run => (afterCalls outside (run.start filePath file) run.calls).creds.file) none

/-- Whether a process that starts on this file writes it. -/
def ProcessRun.writes (file : Option Credentials) (run : ProcessRun) : Bool :=
  anySaves outside (run.start filePath file) run.calls

/-- No call of these processes has supplied the field. -/
def Unsupplied (f : CredentialField) (past : List ProcessRun) : Prop :=
  ∀ run ∈ past, run.supplies f = false

instance (f : CredentialField) (past : List ProcessRun) : Decidable (Unsupplied f past) :=
  inferInstanceAs (Decidable (∀ run ∈ past, _))

/-- A field that was never supplied reads, as the process starts, as its environment
has it. -/
def ReadsEnvironment (past : List ProcessRun) (run : ProcessRun) : Prop :=
  ∀ f, Unsupplied f past →
    (run.start filePath (fileAfter outside filePath past)).creds.creds.field f = run.env.field f

/-- One of these processes, which wrote the file. -/
def Wrote (past : List ProcessRun) (writer : ProcessRun) : Prop :=
  ∃ before after, past = before ++ writer :: after ∧
    writer.writes outside filePath (fileAfter outside filePath before) = true

/-- Every process that wrote the file had, in its environment, the value of this one for
the fields that were never supplied, unless it had none. -/
def Unchanged (past : List ProcessRun) (run : ProcessRun) : Prop :=
  ∀ f, Unsupplied f past → ∀ writer, Wrote outside filePath past writer →
    writer.env.field f ≠ "" → run.env.field f = writer.env.field f

end Runs

/-! ## One call -/

/-- The locked change of a call. -/
def CredentialStore.change (cs : CredentialStore) : CredentialCall → CredentialStore
  | .update c => cs.updateLocked c
  | .setRedirectURI uri => if uri = "" then cs else (cs.setRedirectURILocked uri).2

theorem CredentialStore.change_filePath (cs : CredentialStore) (call : CredentialCall) :
    (cs.change call).filePath = cs.filePath := by
  cases call with
  | update c => rfl
  | setRedirectURI uri =>
      rw [change]
      split <;> rfl

section Calls

variable {outside : Nat → Env} {filePath : String} {f : CredentialField}

theorem save_run (outside : Nat → Env) (w : World) :
    (CredentialStore.save.run machine w outside).2 = { w with creds := { w.creds with
      file := if w.creds.filePath != "" then some w.creds.creds else w.creds.file } } := by
  obtain ⟨store, creds, filePath, file⟩ := w
  by_cases path : filePath = ""
  · subst path
    rfl
  · simp [CredentialStore.save, path]
    rfl

/-- A call changes the credentials and then writes all of them, if it writes. -/
theorem afterCall_creds (outside : Nat → Env) (w : World) (call : CredentialCall) :
    (afterCall outside w call).creds = { w.creds.change call with
      file := if w.creds.saves call then some (w.creds.change call).creds else w.creds.file } := by
  cases call with
  | update c =>
      exact congrArg World.creds (save_run (fun n => outside (n + 1))
        { w with creds := w.creds.updateLocked c })
  | setRedirectURI uri =>
      by_cases blank : uri = ""
      · simp [afterCall, CredentialCall.program, CredentialStore.setRedirectURI,
          CredentialStore.change, CredentialStore.saves, blank]
      by_cases same : w.creds.creds.redirectURI = uri
      · simp [afterCall, CredentialCall.program, CredentialStore.setRedirectURI,
          CredentialStore.setRedirectURILocked, CredentialStore.change, CredentialStore.saves, blank,
          same]
      · have run : afterCall outside w (.setRedirectURI uri) =
            (CredentialStore.save.run machine
              { w with creds := (w.creds.setRedirectURILocked uri).2 } fun n => outside (n + 1)).2 := by
          simp [afterCall, CredentialCall.program, CredentialStore.setRedirectURI,
            CredentialStore.setRedirectURILocked, blank, same]
        rw [run, save_run]
        simp [CredentialStore.change, CredentialStore.saves, CredentialStore.setRedirectURILocked,
          blank, same]

theorem change_field (cs : CredentialStore) {call : CredentialCall}
    (unsupplied : call.supplies f = false) : (cs.change call).creds.field f = cs.creds.field f := by
  cases call with
  | update c =>
      cases f with
      | clientID => cases unsupplied
      | clientSecret =>
          have blank : trimSpace c.clientSecret = "" := by
            simpa [CredentialCall.supplies] using unsupplied
          simp [CredentialStore.change, CredentialStore.updateLocked, Credentials.field, blank]
      | redirectURI => cases unsupplied
  | setRedirectURI uri =>
      rw [CredentialStore.change]
      split
      · rfl
      · rename_i given
        cases f with
        | redirectURI => simp [CredentialCall.supplies, given] at unsupplied
        | _ => rfl

/-! ## One process -/

/-- What the calls of a process leave of a field that none of them supplies: the value in
memory stays, and it is what the file has once one of them has written it. -/
theorem afterCalls_field (outside : Nat → Env) (w : World) (calls : List CredentialCall)
    (unsupplied : calls.any (CredentialCall.supplies f) = false) :
    (afterCalls outside w calls).creds.creds.field f = w.creds.creds.field f ∧
      if anySaves outside w calls then
        ∃ c, (afterCalls outside w calls).creds.file = some c ∧ c.field f = w.creds.creds.field f
      else (afterCalls outside w calls).creds.file = w.creds.file := by
  induction calls generalizing w with
  | nil => exact ⟨rfl, rfl⟩
  | cons call later ih =>
      rw [List.any_cons, Bool.or_eq_false_iff] at unsupplied
      have creds := afterCall_creds outside w call
      have kept : (afterCall outside w call).creds.creds.field f = w.creds.creds.field f := by
        rw [creds]
        exact change_field w.creds unsupplied.1
      obtain ⟨memory, file⟩ := ih (afterCall outside w call) unsupplied.2
      refine ⟨memory.trans kept, ?_⟩
      show if (w.creds.saves call || anySaves outside (afterCall outside w call) later) = true then _
        else _
      cases rest : anySaves outside (afterCall outside w call) later with
      | true =>
          rw [rest, if_pos rfl] at file
          rw [Bool.or_true, if_pos rfl]
          obtain ⟨c, written, value⟩ := file
          exact ⟨c, written, value.trans kept⟩
      | false =>
          rw [rest, if_neg Bool.false_ne_true] at file
          rw [Bool.or_false]
          have same : (afterCalls outside w (call :: later)).creds.file =
              (afterCall outside w call).creds.file := file
          split
          · rename_i saves
            refine ⟨(w.creds.change call).creds, ?_, change_field w.creds unsupplied.1⟩
            rw [same, creds, if_pos saves]
          · rename_i saves
            rw [same, creds, if_neg saves]

theorem change_saves_filePath (cs : CredentialStore) (call : CredentialCall)
    (noFile : cs.filePath = "") : cs.saves call = false := by
  cases call <;> simp [CredentialStore.saves, noFile]

/-- Without a path nothing is written. -/
theorem anySaves_noFile (w : World) (calls : List CredentialCall) (noFile : w.creds.filePath = "") :
    anySaves outside w calls = false := by
  induction calls generalizing w with
  | nil => rfl
  | cons call later ih =>
      have path : (afterCall outside w call).creds.filePath = "" := by
        rw [afterCall_creds]
        exact (CredentialStore.change_filePath w.creds call).trans noFile
      rw [anySaves, change_saves_filePath w.creds call noFile, ih _ path, Bool.or_false]

/-- What the process starts with, in a field. -/
theorem start_field (filePath : String) (f : CredentialField) (file : Option Credentials)
    (run : ProcessRun) :
    (run.start filePath file).creds.creds.field f =
      if fileField filePath file f ≠ "" then fileField filePath file f else run.env.field f :=
  newCredentialStore_field filePath file run.env f

theorem fileAfter_concat (past : List ProcessRun) (run : ProcessRun) :
    fileAfter outside filePath (past ++ [run]) =
      (afterCalls outside (run.start filePath (fileAfter outside filePath past))
        run.calls).creds.file := by
  rw [fileAfter, List.foldl_append]
  rfl

/-- What a process leaves in the file of a field that it does not supply. -/
theorem fileField_concat {past : List ProcessRun} {run : ProcessRun}
    (unsupplied : run.supplies f = false) :
    fileField filePath (fileAfter outside filePath (past ++ [run])) f =
      if run.writes outside filePath (fileAfter outside filePath past) then
        (run.start filePath (fileAfter outside filePath past)).creds.creds.field f
      else fileField filePath (fileAfter outside filePath past) f := by
  obtain ⟨-, file⟩ := afterCalls_field outside
    (run.start filePath (fileAfter outside filePath past)) run.calls unsupplied
  rw [fileAfter_concat]
  split
  · rename_i writes
    have path : filePath ≠ "" := by
      intro noFile
      rw [ProcessRun.writes, anySaves_noFile _ _ ((newCredentialStore_filePath _ _ _).trans noFile)]
        at writes
      cases writes
    rw [ProcessRun.writes] at writes
    rw [writes, if_pos rfl] at file
    obtain ⟨c, written, value⟩ := file
    rw [written, fileField, CredentialStore.readFile, if_neg path]
    exact value
  · rename_i still
    rw [ProcessRun.writes] at still
    rw [if_neg still] at file
    rw [file]
    exact congrArg (fileField filePath · f) (newCredentialStore_file _ _ _)

/-! ## Many processes -/

theorem unsupplied_concat {past : List ProcessRun} {run : ProcessRun} :
    Unsupplied f (past ++ [run]) ↔ Unsupplied f past ∧ run.supplies f = false := by
  simp [Unsupplied, or_imp, forall_and]

theorem wrote_concat {past : List ProcessRun} {run writer : ProcessRun} :
    Wrote outside filePath (past ++ [run]) writer ↔
      Wrote outside filePath past writer ∨
        writer = run ∧ run.writes outside filePath (fileAfter outside filePath past) = true := by
  constructor
  · rintro ⟨before, after, split, writes⟩
    cases after using List.reverseRecOn with
    | nil =>
        obtain ⟨rfl, last⟩ := List.append_inj' split rfl
        obtain rfl : run = writer := List.head_eq_of_cons_eq last
        exact .inr ⟨rfl, writes⟩
    | append_singleton after x =>
        rw [← List.cons_append, ← List.append_assoc] at split
        obtain ⟨rfl, -⟩ := List.append_inj' split rfl
        exact .inl ⟨before, after, rfl, writes⟩
  · rintro (⟨before, after, rfl, writes⟩ | ⟨rfl, writes⟩)
    · exact ⟨before, after ++ [run], by simp, writes⟩
    · exact ⟨past, [], rfl, writes⟩

/-- As long as every process has read its environment, the file holds what the writers
had in theirs: they all had the same, but for those that had none. -/
theorem fileField_writers {past : List ProcessRun}
    (reads : Everywhere (ReadsEnvironment outside filePath) past) (unsupplied : Unsupplied f past) :
    (∀ writer, Wrote outside filePath past writer → writer.env.field f ≠ "" →
      writer.env.field f = fileField filePath (fileAfter outside filePath past) f) ∧
    (fileField filePath (fileAfter outside filePath past) f ≠ "" →
      ∃ writer, Wrote outside filePath past writer ∧
        writer.env.field f = fileField filePath (fileAfter outside filePath past) f) := by
  induction past using List.reverseRecOn with
  | nil =>
      have empty : fileField filePath (fileAfter outside filePath []) f = "" := by
        rw [fileAfter, List.foldl_nil, fileField, CredentialStore.readFile, ite_self]
      refine ⟨?_, fun filled => absurd empty filled⟩
      rintro writer ⟨before, after, split, -⟩
      exact absurd split (by simp)
  | append_singleton past run ih =>
      obtain ⟨earlier, free⟩ := unsupplied_concat.mp unsupplied
      obtain ⟨same, held⟩ := ih reads.prefix earlier
      have here : (run.start filePath (fileAfter outside filePath past)).creds.creds.field f =
          run.env.field f := reads.at f earlier
      have read := start_field filePath f (fileAfter outside filePath past) run
      rw [here] at read
      rw [fileField_concat free, here]
      cases writes : run.writes outside filePath (fileAfter outside filePath past) with
      | true =>
          rw [if_pos rfl]
          refine ⟨fun writer wrote filled => ?_,
            fun _ => ⟨run, wrote_concat.mpr (.inr ⟨rfl, writes⟩), rfl⟩⟩
          rcases wrote_concat.mp wrote with before | ⟨rfl, -⟩
          · have value := same writer before filled
            rw [if_pos (value ▸ filled)] at read
            exact value.trans read.symm
          · rfl
      | false =>
          rw [if_neg Bool.false_ne_true]
          refine ⟨fun writer wrote filled => ?_, fun filled => ?_⟩
          · rcases wrote_concat.mp wrote with before | ⟨-, does⟩
            · exact same writer before filled
            · rw [writes] at does
              cases does
          · obtain ⟨writer, wrote, value⟩ := held filled
            exact ⟨writer, wrote_concat.mpr (.inl wrote), value⟩

/-- One more process, after processes that have all read their environments. -/
theorem readsEnvironment_iff {past : List ProcessRun} {run : ProcessRun}
    (reads : Everywhere (ReadsEnvironment outside filePath) past) :
    ReadsEnvironment outside filePath past run ↔ Unchanged outside filePath past run := by
  refine forall_congr' fun f => imp_congr_right fun unsupplied => ?_
  obtain ⟨same, held⟩ := fileField_writers reads unsupplied
  rw [start_field]
  split
  · rename_i filled
    obtain ⟨writer, wrote, value⟩ := held filled
    constructor
    · intro stored other wrote' given
      exact stored.symm.trans (same other wrote' given).symm
    · intro unchanged
      exact value.symm.trans (unchanged writer wrote (value ▸ filled)).symm
  · rename_i blank
    apply iff_of_true rfl
    intro writer wrote given
    exact absurd (same writer wrote given) fun value => blank (value ▸ given)

end Calls

/-- **Values of the environment stay defaults while it does not change.**  Over any
sequence of processes on one file, with any calls in each, every field that was never
supplied reads at every start as the environment has it if and only if no environment
differs from that of an earlier process that wrote the file, in a field that was never
supplied and that the earlier one had set. -/
theorem environment_defaults_iff (outside : Nat → Env) (filePath : String)
    (runs : List ProcessRun) :
    Everywhere (ReadsEnvironment outside filePath) runs ↔
      Everywhere (Unchanged outside filePath) runs := by
  induction runs using List.reverseRecOn with
  | nil => exact Iff.rfl
  | append_singleton past run ih =>
      constructor
      · intro reads
        refine everywhereFrom_append.mpr ⟨ih.mp reads.prefix, ?_, trivial⟩
        exact (readsEnvironment_iff reads.prefix).mp reads.at
      · intro unchanged
        have reads := ih.mpr unchanged.prefix
        refine everywhereFrom_append.mpr ⟨reads, ?_, trivial⟩
        exact (readsEnvironment_iff reads).mpr unchanged.at

/-! ## A secret that cannot be rotated -/

/-- The client id is entered in the form, without a secret; then the process is started
again with another secret in the environment. -/
def rotation : List ProcessRun :=
  [⟨⟨"id", "old", ""⟩, [.update ⟨"id", "", ""⟩]⟩, ⟨⟨"id", "new", ""⟩, []⟩]

/-- No call has supplied a secret, and yet the second process starts with the old one. -/
theorem rotated_secret_ignored :
    Unsupplied .clientSecret rotation ∧
      (ProcessRun.start "creds.json"
        (fileAfter (fun _ => answering 200 none) "creds.json" (rotation.take 1))
        ⟨⟨"id", "new", ""⟩, []⟩).creds.creds.clientSecret = "old" ∧
      ¬ Everywhere (ReadsEnvironment (fun _ => answering 200 none) "creds.json") rotation := by
  have first : Unsupplied .clientSecret (rotation.take 1) := by decide +kernel
  have old : (ProcessRun.start "creds.json"
      (fileAfter (fun _ => answering 200 none) "creds.json" (rotation.take 1))
      ⟨⟨"id", "new", ""⟩, []⟩).creds.creds.clientSecret = "old" := by decide +kernel
  refine ⟨by decide +kernel, old, fun reads => ?_⟩
  have value : _ = "new" := reads.2.1 .clientSecret first
  exact absurd (old.symm.trans value) (by decide)

end VpsDashboard.Trakt
