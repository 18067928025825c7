/-
# VpsDashboard.Trakt.RedirectLineage — the redirect URI of a pair of tokens and of its refreshes

A login stores its redirect URI with the credentials and its tokens in the token store,
one after the other.  A refresh takes the tokens from the one and the redirect URI from
the other.  The settings form, a second login and a restart may change the redirect URI
in between and leave the tokens as they are.

A `Lineage` follows the pairs of a run: in memory, in the file, in the hands of a call.
Each has as its origin the redirect URI of the login it descends from, and whether the
credential store has held that URI ever since the login recorded it.

* `saved_settings_break_refresh` — after a login the settings are saved with another
  redirect URI, and the next refresh carries that one;
* `refresh_carries_login_uri` — in every life of the server in which no refresh reads the
  credentials of a pair after the recorded URI has changed (`StillRecorded`), every
  refresh carries the redirect URI of the login its pair descends from.
-/
import VpsDashboard.Trakt.Restart
import VpsDashboard.Trakt.SharedRefresh

namespace VpsDashboard.Trakt

open Foundation

set_option autoImplicit false

/-! ## Calls and processes -/

/-- The calls of `Sessions`, and saving the settings. -/
inductive ServerCall where
  | trakt (call : Call)
  | saveSettings (c : Credentials)

namespace ServerCall

def program : ServerCall → Prog Unit
  | .trakt call => call.program
  | .saveSettings c => CredentialStore.update c

/-- The redirect URI of a login. -/
def loginURI : ServerCall → Option String
  | .trakt (.exchange _ redirectURI) => some redirectURI
  | _ => none

end ServerCall

/-- One process: its environment, its calls, what has happened when it ends, and what it
leaves behind. -/
structure Process where
  env : Credentials
  calls : List ServerCall
  trace : History
  finish : World

def Process.start (w : World) (p : Process) : Config Act Ans World :=
  ⟨w.restart p.env, p.calls.map ServerCall.program⟩

/-- One process after the other, each started on what the one before it left.  A process
may end between any two of its steps. -/
def Lives (w : World) : List Process → Prop
  | [] => True
  | p :: later =>
      (∃ threads, machine.Run (p.start w) p.trace ⟨p.finish, threads⟩) ∧ Lives p.finish later

/-! ## Lineages -/

/-- The login that a pair descends from: its redirect URI, and whether that has been the
URI in the credential store since the login put it there. -/
structure Origin where
  uri : String
  current : Bool
deriving DecidableEq

def Origin.stale (o : Origin) : Origin := { o with current := false }

/-- The origins of the pairs in memory and in the file, of the pair that each call read
last, and of the one it had read when it read the credentials; and the logins whose URI
is still recorded. -/
structure Lineage where
  memory : Option Origin
  file : Option Origin
  held : Nat → Option Origin
  asked : Nat → Option Origin
  recorded : Nat → Bool

namespace Lineage

/-- Nothing is known of pairs from before. -/
def unknown : Lineage := ⟨none, none, fun _ => none, fun _ => none, fun _ => false⟩

/-- The URI in the credential store has changed. -/
def stale (l : Lineage) : Lineage where
  memory := l.memory.map Origin.stale
  file := l.file.map Origin.stale
  held i := (l.held i).map Origin.stale
  asked := l.asked
  recorded _ := false

/-- The lineage when the URI in the credential store goes from one value to another. -/
def seen (l : Lineage) (before after : World) : Lineage :=
  if before.creds.creds.redirectURI = after.creds.creds.redirectURI then l else l.stale

/-- The origin of a pair that this call stores. -/
def stored (l : Lineage) (calls : List ServerCall) (i : Nat) : Option Origin :=
  match calls[i]?.bind ServerCall.loginURI with
  | some uri => some ⟨uri, l.recorded i⟩
  | none => l.held i

def act (l : Lineage) (calls : List ServerCall) (i : Nat) : Act → Lineage
  | .storeGet => { l with
      held := Function.update l.held i l.memory
      asked := Function.update l.asked i none }
  | .credsGet => { l with asked := Function.update l.asked i (l.held i) }
  | .credsSetRedirectURI uri => { l with
      recorded := Function.update l.recorded i
        (decide (calls[i]?.bind ServerCall.loginURI = some uri)) }
  | .storeSet t => { l with
      memory := l.stored calls i
      file := if t.marshal.isSome then l.stored calls i else l.file }
  | .storeClear => { l with memory := none, file := none }
  | _ => l

def next (calls : List ServerCall) (l : Lineage) (e : Step) : Lineage :=
  (l.seen e.before e.after).act calls e.thread e.act

def along (l : Lineage) (calls : List ServerCall) (trace : History) : Lineage :=
  trace.foldl (next calls) l

/-- The pair in the file is the pair in memory of the next process. -/
def restart (l : Lineage) (before after : World) : Lineage :=
  let l := l.seen before after
  ⟨l.file, l.file, fun _ => none, fun _ => none, fun _ => false⟩

@[simp] theorem along_nil (l : Lineage) (calls : List ServerCall) : l.along calls [] = l := rfl

@[simp] theorem along_concat (l : Lineage) (calls : List ServerCall) (trace : History) (e : Step) :
    l.along calls (trace ++ [e]) = (l.along calls trace).next calls e := by
  rw [along, List.foldl_append]
  rfl

end Lineage

/-- A property of every step of every process, with the lineage before it. -/
def Throughout (P : Lineage → Step → Prop) (l : Lineage) (w : World) : List Process → Prop
  | [] => True
  | p :: later =>
      Everywhere (fun pre e => P ((l.restart w (w.restart p.env)).along p.calls pre) e) p.trace ∧
        Throughout P ((l.restart w (w.restart p.env)).along p.calls p.trace) p.finish later

/-- The body of a refresh request. -/
def Act.refreshRequest : Act → Option TokenReq
  | .tokenRequest body => if body.grantType = "refresh_token" then some body else none
  | _ => none

theorem Act.refreshRequest_eq_some {a : Act} {body : TokenReq}
    (request : a.refreshRequest = some body) :
    a = .tokenRequest body ∧ body.grantType = "refresh_token" := by
  cases a with
  | tokenRequest body' =>
      obtain ⟨grant, same⟩ := Option.ite_none_right_eq_some.mp request
      obtain rfl := Option.some.inj same
      exact ⟨rfl, grant⟩
  | _ => cases request

/-- A refresh request of this step carries the redirect URI of the login that the pair
descends from. -/
def CarriesLoginURI (l : Lineage) (e : Step) : Prop :=
  ∀ body ∈ e.act.refreshRequest, ∀ origin ∈ l.held e.thread, body.redirectURI = origin.uri

/-- When a call that now refreshes a pair read the credentials, the redirect URI had not
been changed since the login of that pair recorded it. -/
def StillRecorded (l : Lineage) (e : Step) : Prop :=
  e.act.refreshRequest.isSome = true → ∀ origin ∈ l.asked e.thread, origin.current = true

instance (l : Lineage) (e : Step) : Decidable (CarriesLoginURI l e) :=
  inferInstanceAs (Decidable (∀ body ∈ _, _))

instance (l : Lineage) (e : Step) : Decidable (StillRecorded l e) :=
  inferInstanceAs (Decidable (_ → _))

instance (P : Lineage → Step → Prop) [∀ l e, Decidable (P l e)] (l : Lineage) (w : World)
    (processes : List Process) : Decidable (Throughout P l w processes) :=
  match processes with
  | [] => isTrue trivial
  | _ :: later =>
      have : ∀ l w, Decidable (Throughout P l w later) := fun l w =>
        instDecidableThroughout P l w later
      inferInstanceAs (Decidable (_ ∧ _))

/-! ## What a refresh sends -/

/-- The credentials a call has read since it last read the store. -/
def credsSinceRead (h : History) : Option Credentials :=
  h.foldl (fun read e =>
    match e.act with
    | .storeGet => none
    | .credsGet => some e.before.creds.creds
    | _ => read) none

@[simp] theorem credsSinceRead_nil : credsSinceRead [] = none := rfl

@[simp] theorem credsSinceRead_concat (h : History) (e : Step) :
    credsSinceRead (h ++ [e]) =
      match e.act with
      | .storeGet => none
      | .credsGet => some e.before.creds.creds
      | _ => credsSinceRead h := by
  rw [credsSinceRead, List.foldl_append]
  rfl

/-- A refresh sends the refresh token of the pair it has read, with the credentials it
read after that. -/
def refreshesPairRead (h : History) : Act → Prop
  | .tokenRequest body => body.grantType = "refresh_token" →
      ∃ creds t, credsSinceRead h = some creds ∧ lastRead h = some (some t) ∧
        body = OAuthHandler.refreshBody creds t.refreshToken
  | _ => True

section Functions

variable {i : Nat} {h : History}

abbrev pairLogic (i : Nat) : Logic Act Ans History := machine.historyLogic i refreshesPairRead

/-- The only refresh request there is. -/
theorem refreshTokens_sends : OAuthHandler.refreshTokens.Permitted (pairLogic i) := by
  intro h
  refine OAuthHandler.refreshTokens_wp trivial (fun _ _ _ _ _ => trivial) (fun _ _ _ => trivial) ?_
  rintro t _ c _ ⟨w, env, held, rfl⟩ - ⟨w₁, env₁, rfl, rfl⟩
  refine ⟨fun _ => ⟨w₁.creds.creds, t, credsSinceRead_concat _ _, ?_, rfl⟩, ?_⟩
  · simpa using held.symm
  intro answer h₃ _
  cases readTokenAnswer answer with
  | error e => trivial
  | ok tokens => exact ⟨trivial, fun _ _ => trivial⟩

theorem refreshesPairRead_looks (h : History) (a : Act) (looks : a.looks) :
    refreshesPairRead h a := by
  cases a with
  | tokenRequest => cases looks
  | _ => trivial

theorem dataLogic_pair (i : Nat) (url : String) :
    DataLogic (pairLogic i) url (fun _ => True) fun _ _ => True where
  looks := refreshesPairRead_looks
  credsGet _ := trivial
  refreshes _ := refreshTokens_sends.wp fun _ _ _ _ => trivial
  finds _ := Store.getAccessToken_wp refreshesPairRead_looks (fun _ _ _ _ => trivial)
    fun _ _ _ _ _ _ _ _ _ => trivial
  keeps _ _ := trivial
  requests _ _ := trivial
  refused _ _ _ := trivial
  clears _ _ := trivial

theorem refreshesPairRead_aside (h : History) (a : Act) (aside : a.aside) :
    refreshesPairRead h a := by
  cases a <;> trivial

/-- A login asks for tokens with its code, not with a refresh token. -/
theorem exchangeCode_sends {code uri : String} :
    (OAuthHandler.exchangeCode code uri).wp (pairLogic i) (fun _ _ => True) h := by
  apply OAuthHandler.exchangeCode_permitted
  · exact refreshesPairRead_aside
  · intro creds h' _ grant
    exact absurd grant (show "authorization_code" ≠ "refresh_token" by decide)
  · exact fun _ _ => trivial
  · exact fun _ _ => trivial

theorem ServerCall.program_sends (call : ServerCall) (i : Nat) (h : History) :
    call.program.wp (pairLogic i) (fun _ _ => True) h := by
  cases call with
  | trakt call =>
      cases call with
      | data url =>
          simp only [ServerCall.program, Call.program, Program.wp_bind]
          exact (dataLogic_pair i url).get.wp fun _ _ => trivial
      | refresh =>
          simp only [ServerCall.program, Call.program, Program.wp_bind]
          exact refreshTokens_sends.wp fun _ _ => trivial
      | exchange code uri =>
          simp only [ServerCall.program, Call.program, Program.wp_bind]
          exact exchangeCode_sends
      | logout => exact Machine.wp_history_act.mpr ⟨trivial, fun _ _ => trivial⟩
  | saveSettings c =>
      have aside : (CredentialStore.update c).Performs Act.aside :=
        CredentialStore.update_performs c trivial fun _ => aside_of_saves
      exact (aside.permitted refreshesPairRead_aside) h

end Functions

/-! ## Origins and the credential store -/

/-- A current origin has the URI of the credential store. -/
def Agrees (origin : Option Origin) (uri : String) : Prop :=
  ∀ o, origin = some o → o.current = true → uri = o.uri

theorem agrees_none (uri : String) : Agrees none uri := nofun

theorem agrees_stale (origin : Option Origin) (uri : String) :
    Agrees (origin.map Origin.stale) uri := by
  intro o same current
  obtain ⟨o', -, rfl⟩ := Option.map_eq_some_iff.mp same
  cases current

/-- Every origin of the lineage agrees with the credential store. -/
structure Sound (calls : List ServerCall) (l : Lineage) (uri : String) : Prop where
  memory : Agrees l.memory uri
  file : Agrees l.file uri
  held : ∀ i, Agrees (l.held i) uri
  recorded : ∀ i u, l.recorded i = true → calls[i]?.bind ServerCall.loginURI = some u → uri = u

section Steps

variable {calls : List ServerCall} {l : Lineage}

theorem sound_stale (l : Lineage) (uri : String) : Sound calls l.stale uri where
  memory := agrees_stale l.memory uri
  file := agrees_stale l.file uri
  held i := agrees_stale (l.held i) uri
  recorded i u was := by cases was

theorem Sound.seen {before after : World} (sound : Sound calls l before.creds.creds.redirectURI) :
    Sound calls (l.seen before after) after.creds.creds.redirectURI := by
  rw [Lineage.seen]
  split
  · rename_i same
    exact same ▸ sound
  · exact sound_stale l _

theorem Sound.stored {uri : String} (sound : Sound calls l uri) (i : Nat) :
    Agrees (l.stored calls i) uri := by
  rw [Lineage.stored]
  split
  · rename_i u login
    rintro o ⟨⟩ current
    exact sound.recorded i u current login
  · exact sound.held i

/-- What a call does keeps every origin in agreement with the URI it leaves. -/
theorem Sound.act {uri : String} (sound : Sound calls l uri) (i : Nat) (a : Act)
    (sets : ∀ u, a = .credsSetRedirectURI u → uri = u) : Sound calls (l.act calls i a) uri := by
  cases a with
  | storeGet =>
      refine ⟨sound.memory, sound.file, fun j => ?_, sound.recorded⟩
      by_cases mine : j = i
      · subst mine
        simpa [Lineage.act] using sound.memory
      · simpa [Lineage.act, Function.update_of_ne mine] using sound.held j
  | credsSetRedirectURI u =>
      refine ⟨sound.memory, sound.file, sound.held, fun j u' was login => ?_⟩
      by_cases mine : j = i
      · subst mine
        have same : calls[j]?.bind ServerCall.loginURI = some u := by
          simpa [Lineage.act] using was
        rw [same] at login
        exact (sets u rfl).trans (Option.some.inj login)
      · exact sound.recorded j u' (by simpa [Lineage.act, Function.update_of_ne mine] using was) login
  | storeSet t =>
      refine ⟨sound.stored i, ?_, sound.held, sound.recorded⟩
      show Agrees (if t.marshal.isSome then l.stored calls i else l.file) uri
      split
      · exact sound.stored i
      · exact sound.file
  | storeClear => exact ⟨agrees_none uri, agrees_none uri, sound.held, sound.recorded⟩
  | _ => exact ⟨sound.memory, sound.file, sound.held, sound.recorded⟩

theorem Sound.next {e : Step} (sound : Sound calls l e.before.creds.creds.redirectURI)
    (done : e.after = (exec e.before e.act e.env).2) :
    Sound calls (l.next calls e) e.after.creds.creds.redirectURI := by
  apply sound.seen.act e.thread e.act
  intro u sets
  rw [done, sets]
  rfl

/-- The pair in the file of one process is that of the next. -/
theorem Sound.restart {before after : World} (sound : Sound calls l before.creds.creds.redirectURI)
    (calls' : List ServerCall) :
    Sound calls' (l.restart before after) after.creds.creds.redirectURI :=
  ⟨sound.seen.file, sound.seen.file, fun _ => agrees_none _, nofun⟩

/-! ## What a call has read -/

/-- The call `i`, with history `h`, knows the credentials that go with the pair it holds,
as far as that was current when it read them. -/
def Asks (l : Lineage) (i : Nat) (h : History) : Prop :=
  ∀ creds, credsSinceRead h = some creds →
    (l.asked i).map Origin.uri = (l.held i).map Origin.uri ∧ Agrees (l.asked i) creds.redirectURI

theorem seen_held_uri (l : Lineage) (before after : World) (i : Nat) :
    ((l.seen before after).held i).map Origin.uri = (l.held i).map Origin.uri := by
  rw [Lineage.seen]
  split
  · rfl
  · show ((l.held i).map Origin.stale).map Origin.uri = _
    rw [Option.map_map]
    rfl

theorem seen_asked (l : Lineage) (before after : World) : (l.seen before after).asked = l.asked := by
  rw [Lineage.seen]
  split <;> rfl

/-- A step that reads neither the store nor the credentials. -/
theorem act_held_asked (l : Lineage) (calls : List ServerCall) {i : Nat} {a : Act}
    (noGet : a ≠ .storeGet) (noCreds : a ≠ .credsGet) :
    (l.act calls i a).held = l.held ∧ (l.act calls i a).asked = l.asked := by
  cases a with
  | storeGet => exact absurd rfl noGet
  | credsGet => exact absurd rfl noCreds
  | _ => exact ⟨rfl, rfl⟩

theorem act_other (l : Lineage) (calls : List ServerCall) {i j : Nat} (other : j ≠ i) (a : Act) :
    (l.act calls i a).held j = l.held j ∧ (l.act calls i a).asked j = l.asked j := by
  cases a with
  | storeGet => simp [Lineage.act, Function.update_of_ne other]
  | credsGet => simp [Lineage.act, Function.update_of_ne other]
  | _ => exact ⟨rfl, rfl⟩

theorem Asks.next {trace : History} {e : Step} {i : Nat} (asks : Asks l i (own i trace))
    (sound : Sound calls l e.before.creds.creds.redirectURI)
    (done : e.after = (exec e.before e.act e.env).2) :
    Asks (l.next calls e) i (own i (trace ++ [e])) := by
  have same : ∀ {held asked : Option Origin},
      held = (l.seen e.before e.after).held i → asked = (l.seen e.before e.after).asked i →
      ∀ creds, credsSinceRead (own i trace) = some creds →
        asked.map Origin.uri = held.map Origin.uri ∧ Agrees asked creds.redirectURI := by
    rintro _ _ rfl rfl creds read
    rw [seen_held_uri, seen_asked]
    exact asks creds read
  intro creds read
  by_cases mine : e.thread = i
  · subst mine
    rw [own_concat, if_pos rfl, credsSinceRead_concat] at read
    cases kind : e.act with
    | storeGet =>
        rw [kind] at read
        cases read
    | credsGet =>
        rw [kind] at read
        obtain rfl := Option.some.inj read
        have still : l.seen e.before e.after = l := by
          rw [Lineage.seen, done, kind]
          exact if_pos rfl
        have asked : (l.next calls e).asked e.thread = l.held e.thread := by
          rw [Lineage.next, still, kind]
          exact Function.update_self _ _ _
        have held : (l.next calls e).held e.thread = l.held e.thread := by
          rw [Lineage.next, still, kind]
          rfl
        rw [asked, held]
        exact ⟨rfl, sound.held e.thread⟩
    | _ =>
        have kept := act_held_asked (l.seen e.before e.after) calls
          (i := e.thread) (a := e.act) (by rw [kind]; exact nofun) (by rw [kind]; exact nofun)
        rw [kind] at read
        exact same (congrFun kept.1 _) (congrFun kept.2 _) creds read
  · rw [own_concat, if_neg mine] at read
    have kept := act_other (l.seen e.before e.after) calls
      (fun same => mine same.symm) e.act
    exact same kept.1 kept.2 creds read

end Steps

/-! ## Runs and lives -/

section Lives

variable {w : World} {p : Process} {l : Lineage}

/-- A run keeps the lineage sound, and every call knows what it has read. -/
theorem run_sound {trace : History} {c : Config Act Ans World}
    (sound : Sound p.calls l (p.start w).state.creds.creds.redirectURI)
    (run : machine.Run (p.start w) trace c) :
    Sound p.calls (l.along p.calls trace) c.state.creds.creds.redirectURI ∧
      ∀ i, Asks (l.along p.calls trace) i (own i trace) := by
  induction run with
  | start => exact ⟨sound, fun i creds read => by cases read⟩
  | @snoc trace c c' i env e run step ih =>
      obtain ⟨before, asks⟩ := ih
      obtain ⟨-, -, here, there, done⟩ := Machine.step_states step
      rw [← here] at before
      rw [Lineage.along_concat, ← there]
      exact ⟨before.next done, fun j => (asks j).next before done⟩

theorem Process.sends {trace pre post : History} {c : Config Act Ans World} {e : Step}
    (run : machine.Run (p.start w) trace c) (split : trace = pre ++ e :: post) :
    refreshesPairRead (own e.thread pre) e.act := by
  subst split
  obtain ⟨program, found⟩ := run.thread_some (List.mem_append_right pre List.mem_cons_self)
  have called := found
  rw [Process.start, List.getElem?_map, Option.map_eq_some_iff] at called
  obtain ⟨call, -, rfl⟩ := called
  exact run.issued found (call.program_sends e.thread [])

/-- A refresh for which the URI was still recorded carries it. -/
theorem carries_of_stillRecorded {h : History} {e : Step} (sends : refreshesPairRead h e.act)
    (asks : Asks l e.thread h) (recorded : StillRecorded l e) : CarriesLoginURI l e := by
  intro body request origin held
  have current := recorded (Option.isSome_of_mem request)
  obtain ⟨kind, grant⟩ := Act.refreshRequest_eq_some request
  rw [kind] at sends
  obtain ⟨creds, t, read, -, rfl⟩ := sends grant
  obtain ⟨same, agrees⟩ := asks creds read
  rw [Option.mem_def.mp held] at same
  obtain ⟨asked, found, uri⟩ := Option.map_eq_some_iff.mp same
  exact (agrees asked found (current asked found)).trans uri

theorem lives_carry {processes : List Process} (sound : Sound [] l w.creds.creds.redirectURI)
    (lives : Lives w processes) (recorded : Throughout StillRecorded l w processes) :
    Throughout CarriesLoginURI l w processes := by
  induction processes generalizing w l with
  | nil => trivial
  | cons p later ih =>
      obtain ⟨⟨threads, run⟩, rest⟩ := lives
      obtain ⟨here, after⟩ := recorded
      have start : Sound p.calls (l.restart w (w.restart p.env))
          (p.start w).state.creds.creds.redirectURI := sound.restart p.calls
      refine ⟨everywhere_of_at fun pre e post split => ?_, ih ?_ rest after⟩
      · obtain ⟨c, -, first, -, -⟩ := (split ▸ run).at
        rw [split] at here
        exact carries_of_stillRecorded (Process.sends run split) ((run_sound start first).2 e.thread)
          here.at
      · have whole := (run_sound start run).1
        exact ⟨whole.memory, whole.file, whole.held, by simp⟩

end Lives

/-- **Refreshes use the redirect URI of their login.**  In every life of the server, with
any calls, interleavings and restarts: if no refresh has read the credentials after the
redirect URI that the login of its pair had recorded was changed, every refresh request
carries that URI. -/
theorem refresh_carries_login_uri (w : World) (processes : List Process) (lives : Lives w processes)
    (recorded : Throughout StillRecorded .unknown w processes) :
    Throughout CarriesLoginURI .unknown w processes :=
  lives_carry ⟨agrees_none _, agrees_none _, fun _ => agrees_none _, nofun⟩ lives recorded

/-! ## A redirect URI that is replaced -/

/-- The process that makes these calls on this schedule and then ends. -/
def Process.scheduled (w : World) (env : Credentials) (calls : List ServerCall)
    (schedule : List (Nat × Env)) : Process :=
  let ran := machine.runFor ⟨w.restart env, calls.map ServerCall.program⟩ schedule
  ⟨env, calls, ran.1, ran.2.state⟩

theorem Process.scheduled_runs (w : World) (env : Credentials) (calls : List ServerCall)
    (schedule : List (Nat × Env)) :
    ∃ threads, machine.Run ((Process.scheduled w env calls schedule).start w)
      (Process.scheduled w env calls schedule).trace
      ⟨(Process.scheduled w env calls schedule).finish, threads⟩ :=
  ⟨_, machine.run_runFor ⟨w.restart env, calls.map ServerCall.program⟩ schedule⟩

/-- No file yet, and the client from the environment. -/
def firstStart : World := .boot none "creds.json" none ⟨"id", "secret", ""⟩

/-- A whole login by call 0. -/
def loginSteps : List (Nat × Env) :=
  let quiet := answering 200 none
  [(0, quiet), (0, newPair), (0, quiet), (0, quiet), (0, quiet), (0, quiet), (0, quiet), (0, quiet)]

/-- A whole refresh by this call. -/
def refreshSteps (i : Nat) : List (Nat × Env) :=
  let quiet := answering 200 none
  [(i, quiet), (i, quiet), (i, newPair), (i, quiet)]

def login : ServerCall := .trakt (.exchange "code" "http://a/api/trakt/callback")

/-- A login, then a settings save with another redirect URI, then a refresh. -/
def savedBetween : Process :=
  let quiet := answering 200 none
  .scheduled firstStart ⟨"id", "secret", ""⟩
    [login, .saveSettings ⟨"id", "", "http://b/api/trakt/callback"⟩, .trakt .refresh]
    (loginSteps ++ [(1, quiet), (1, quiet), (1, quiet)] ++ refreshSteps 2)

/-- A saved form changes what the next refresh carries. -/
theorem saved_settings_break_refresh :
    Lives firstStart [savedBetween] ∧ ¬ Throughout CarriesLoginURI .unknown firstStart [savedBetween] :=
  ⟨⟨Process.scheduled_runs _ _ _ _, trivial⟩, by decide +kernel⟩

/-- A login in one process, and refreshes there and in the next. -/
def loginProcess : Process :=
  .scheduled firstStart ⟨"id", "secret", ""⟩ [login, .trakt .refresh] (loginSteps ++ refreshSteps 1)

def refreshProcess : Process :=
  .scheduled loginProcess.finish ⟨"id", "secret", ""⟩ [.trakt .refresh] (refreshSteps 0)

/-- The rule where the pair is refreshed before and after a restart. -/
theorem refresh_carries_login_uri_restart :
    (refreshProcess.trace.filterMap fun e => e.act.refreshRequest).map TokenReq.redirectURI =
        ["http://a/api/trakt/callback"] ∧
      Throughout CarriesLoginURI .unknown firstStart [loginProcess, refreshProcess] :=
  ⟨by decide +kernel, refresh_carries_login_uri firstStart [loginProcess, refreshProcess]
    ⟨Process.scheduled_runs _ _ _ _, Process.scheduled_runs _ _ _ _, trivial⟩
    (by decide +kernel)⟩

end VpsDashboard.Trakt
