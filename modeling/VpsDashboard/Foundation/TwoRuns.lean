/-
# VpsDashboard.Foundation.TwoRuns — runs that differ only in what is hidden

A `Pairing` says which two states look alike, and which two actions do, with which
answers.  Two programs are `Alike` when they perform actions that look alike as long
as they are answered alike.  A machine that `Respects` the pairing then has, for every
run of one configuration, a run of any configuration like it with the same threads,
the same contributions of the outside world and events that look alike (`Run.alike`).

Nothing can be learned about the difference of two states that look alike from what
is the same in all pairs of events.
-/
import VpsDashboard.Foundation.Outputs
import Mathlib.Data.List.Forall2

namespace VpsDashboard.Foundation

set_option autoImplicit false

structure Pairing (Act : Type) (Ans : Act → Type) (σ : Type) where
  states : σ → σ → Prop
  /-- The two actions look alike, and are answered alike by these answers. -/
  acts : (a a' : Act) → (Ans a → Ans a' → Prop) → Prop

section Programs

variable {Act : Type} {Ans : Act → Type} {σ α β γ δ : Type} (P : Pairing Act Ans σ)

inductive Program.Alike (R : α → β → Prop) : Program Act Ans α → Program Act Ans β → Prop
  | ret {x : α} {y : β} (same : R x y) : Alike R (.ret x) (.ret y)
  | act {a a' : Act} {answers : Ans a → Ans a' → Prop} {next : Ans a → Program Act Ans α}
      {next' : Ans a' → Program Act Ans β} (acts : P.acts a a' answers)
      (rest : ∀ x y, answers x y → Alike R (next x) (next' y)) :
      Alike R (.act a next) (.act a' next')

variable {P}

theorem Program.Alike.bind {R : α → β → Prop} {S : γ → δ → Prop} {p : Program Act Ans α}
    {p' : Program Act Ans β} {f : α → Program Act Ans γ} {f' : β → Program Act Ans δ}
    (first : p.Alike P R p') (rest : ∀ x y, R x y → (f x).Alike P S (f' y)) :
    (p >>= f).Alike P S (p' >>= f') := by
  induction first with
  | ret same => exact rest _ _ same
  | act acts _ ih => exact .act acts ih

theorem Program.Alike.ite {R : α → β → Prop} {c c' : Prop} [Decidable c] [Decidable c']
    {p q : Program Act Ans α} {p' q' : Program Act Ans β} (same : c ↔ c') (yes : p.Alike P R p')
    (no : q.Alike P R q') : (if c then p else q).Alike P R (if c' then p' else q') := by
  by_cases holds : c
  · rwa [if_pos holds, if_pos (same.mp holds)]
  · rwa [if_neg holds, if_neg (mt same.mpr holds)]

theorem Program.Alike.mono {R S : α → β → Prop} {p : Program Act Ans α} {p' : Program Act Ans β}
    (alike : p.Alike P R p') (weaker : ∀ x y, R x y → S x y) : p.Alike P S p' := by
  induction alike with
  | ret same => exact .ret (weaker _ _ same)
  | act acts _ ih => exact .act acts ih

end Programs

/-! ## Runs -/

section Runs

variable {Act : Type} {Ans : Act → Type} {Env σ : Type} (P : Pairing Act Ans σ)

/-- Actions that look alike, in states that do, are answered alike and leave states that
look alike. -/
def Machine.Respects (M : Machine Act Ans Env σ) : Prop :=
  ∀ {s s' : σ} {a a' : Act} {answers : Ans a → Ans a' → Prop} (env : Env), P.states s s' →
    P.acts a a' answers →
      answers (M.exec s a env).1 (M.exec s' a' env).1 ∧
        P.states (M.exec s a env).2 (M.exec s' a' env).2

structure Config.Alike (c c' : Config Act Ans σ) : Prop where
  state : P.states c.state c'.state
  threads : List.Forall₂ (Program.Alike P fun _ _ => True) c.threads c'.threads

structure Event.Alike (e e' : Event Act Env σ) : Prop where
  thread : e.thread = e'.thread
  env : e.env = e'.env
  act : ∃ answers, P.acts e.act e'.act answers

variable {P} {M : Machine Act Ans Env σ}

theorem forall₂_getElem? {ε ζ : Type} {R : ε → ζ → Prop} {l : List ε} {l' : List ζ}
    (alike : List.Forall₂ R l l') {i : Nat} {x : ε} (found : l[i]? = some x) :
    ∃ y, l'[i]? = some y ∧ R x y := by
  induction alike generalizing i with
  | nil => cases found
  | cons same _ ih =>
      cases i with
      | zero =>
          obtain rfl := Option.some.inj found
          exact ⟨_, rfl, same⟩
      | succ i => exact ih found

theorem forall₂_set {ε ζ : Type} {R : ε → ζ → Prop} {l : List ε} {l' : List ζ}
    (alike : List.Forall₂ R l l') (i : Nat) {x : ε} {y : ζ} (same : R x y) :
    List.Forall₂ R (l.set i x) (l'.set i y) := by
  induction alike generalizing i with
  | nil => exact .nil
  | cons head rest ih =>
      cases i with
      | zero => exact .cons same rest
      | succ i => exact .cons head (ih i)

/-- One step has its like. -/
theorem Machine.step_alike (respects : M.Respects P) {c c' d : Config Act Ans σ}
    (alike : c.Alike P c') {i : Nat} {env : Env} {e : Event Act Env σ}
    (stepped : M.step c i env = some (e, d)) :
    ∃ e' d', M.step c' i env = some (e', d') ∧ e.Alike P e' ∧ d.Alike P d' := by
  obtain ⟨a, next, acting, rfl, rfl⟩ := step_eq_some stepped
  obtain ⟨p, acting', same⟩ := forall₂_getElem? alike.threads acting
  cases same with
  | @act _ a' answers _ next' acts rest =>
      obtain ⟨answered, states⟩ := respects env alike.state acts
      refine ⟨M.event i c'.state a' env, ⟨(M.exec c'.state a' env).2, _⟩, ?_,
        ⟨rfl, rfl, answers, acts⟩, states, forall₂_set alike.threads i (rest _ _ answered)⟩
      rw [Machine.step, acting']

/-- **Every run has its like.** -/
theorem Machine.Run.alike (respects : M.Respects P) {c c' d : Config Act Ans σ}
    {trace : List (Event Act Env σ)} (run : M.Run c trace d) (alike : c.Alike P c') :
    ∃ trace' d', M.Run c' trace' d' ∧ List.Forall₂ (Event.Alike P) trace trace' ∧
      d.Alike P d' := by
  induction run with
  | start => exact ⟨[], c', .start, .nil, alike⟩
  | snoc _ stepped ih =>
      obtain ⟨trace', d', run', events, middle⟩ := ih
      obtain ⟨e', d'', stepped', event, after⟩ := Machine.step_alike respects middle stepped
      exact ⟨trace' ++ [e'], d'', run'.snoc stepped', List.rel_append events (.cons event .nil),
        after⟩

end Runs

/-! ## Outputs -/

section Outputs

variable {Act Out : Type} {Ans : Act → Type} {Env σ α β : Type}

/-- Actions as before, and outputs that are the same. -/
inductive Pairing.VisibleActs (P : Pairing Act Ans σ) : (a a' : Visible Act Out) →
    (Visible.Ans Ans Out a → Visible.Ans Ans Out a' → Prop) → Prop
  | act {a a' : Act} {answers : Ans a → Ans a' → Prop} (acts : P.acts a a' answers) :
      VisibleActs P (.act a) (.act a') answers
  | out (o : Out) : VisibleActs P (.out o) (.out o) fun _ _ => True

def Pairing.visible (P : Pairing Act Ans σ) (Out : Type) :
    Pairing (Visible Act Out) (Visible.Ans Ans Out) σ where
  states := P.states
  acts := P.VisibleActs

variable {P : Pairing Act Ans σ} {M : Machine Act Ans Env σ}

theorem Machine.Respects.visible (respects : M.Respects P) (Out : Type) :
    (M.visible Out).Respects (P.visible Out) := by
  intro s s' a a' answers env states acts
  cases acts with
  | act acts => exact respects env states acts
  | out o => exact ⟨trivial, states⟩

theorem Program.Alike.visible {R : α → β → Prop} {p : Program Act Ans α} {p' : Program Act Ans β}
    (alike : p.Alike P R p') :
    (p.visible : Program (Visible Act Out) _ α).Alike (P.visible Out) R p'.visible := by
  induction alike with
  | ret same => exact .ret same
  | act acts _ ih => exact .act (.act acts) ih

theorem Program.alike_output (o : Out) :
    (Program.output o : Program (Visible Act Out) (Visible.Ans Ans Out) Unit).Alike
      (P.visible Out) (fun _ _ => True) (Program.output o) :=
  .act (.out o) fun _ _ _ => .ret trivial

/-- What the threads have given away, in order. -/
def outputs (trace : List (Event (Visible Act Out) Env σ)) : List (Nat × Out) :=
  trace.filterMap fun e =>
    match e.act with
    | .act _ => none
    | .out o => some (e.thread, o)

theorem outputs_alike {trace trace' : List (Event (Visible Act Out) Env σ)}
    (alike : List.Forall₂ (Event.Alike (P.visible Out)) trace trace') :
    outputs trace = outputs trace' := by
  induction alike with
  | nil => rfl
  | @cons e e' trace trace' event _ ih =>
      obtain ⟨thread, before, act, env, after⟩ := e
      obtain ⟨thread', before', act', env', after'⟩ := e'
      obtain ⟨rfl, -, answers, acts⟩ := event
      cases acts with
      | act acts => exact ih
      | out o => exact congrArg ((thread, o) :: ·) ih

end Outputs

end VpsDashboard.Foundation
