/-
# VpsDashboard.Foundation.Guarded — systems whose steps have guards

`step s a` is the state after the action `a`, or none when the guard of `a` does not hold
in `s`.  `steps` takes a list of actions one after the other.

* `steps_invariant` — what every step keeps, every run keeps;
* `steps_invariant_of` — the same for the runs whose steps all meet a condition;
* `not_bounded_of_rounds` — a counter that can always be raised has no bound.
-/
import Mathlib.Data.List.Basic

namespace VpsDashboard.Foundation

set_option autoImplicit false

namespace Guarded

variable {σ α : Type} (step : σ → α → Option σ)

def steps (s : σ) : List α → Option σ
  | [] => some s
  | a :: later => (step s a).bind fun s' => steps s' later

/-- Every step of the run meets the condition, in the state it is taken in. -/
def Meets (condition : σ → α → Prop) (s : σ) : List α → Prop
  | [] => True
  | a :: later => condition s a ∧ ∀ s' ∈ step s a, Meets condition s' later

/-- No run takes the counter above some bound. -/
def Bounded (count : σ → Nat) (s : σ) : Prop :=
  ∃ bound, ∀ actions s', steps step s actions = some s' → count s' ≤ bound

instance {condition : σ → α → Prop} [∀ s a, Decidable (condition s a)] (s : σ) (actions : List α) :
    Decidable (Meets step condition s actions) :=
  match actions with
  | [] => isTrue trivial
  | a :: later =>
      have (s' : σ) : Decidable (Meets step condition s' later) := instDecidableMeets s' later
      inferInstanceAs (Decidable (condition s a ∧ ∀ s' ∈ step s a, Meets step condition s' later))

variable {step}

theorem steps_append (s : σ) (first later : List α) :
    steps step s (first ++ later) = (steps step s first).bind fun s' => steps step s' later := by
  induction first generalizing s with
  | nil => rfl
  | cons a first ih =>
      rw [List.cons_append, steps, steps]
      cases step s a with
      | none => rfl
      | some s' => exact ih s'

theorem steps_cons {s s' : σ} {a : α} (stepped : step s a = some s') (later : List α) :
    steps step s (a :: later) = steps step s' later := by
  rw [steps, stepped]
  rfl

theorem steps_trans {s s' s'' : σ} {first later : List α} (left : steps step s first = some s')
    (right : steps step s' later = some s'') : steps step s (first ++ later) = some s'' := by
  rw [steps_append, left]
  exact right

theorem meets_append {condition : σ → α → Prop} {s : σ} {first later : List α} :
    Meets step condition s (first ++ later) ↔
      Meets step condition s first ∧
        ∀ s' ∈ steps step s first, Meets step condition s' later := by
  induction first generalizing s with
  | nil => simp [Meets, steps]
  | cons a first ih =>
      rw [List.cons_append, Meets, Meets, steps]
      cases step s a with
      | none => simp
      | some s' => simp [ih, and_assoc]

theorem steps_invariant_of {P : σ → Prop} {condition : σ → α → Prop}
    (kept : ∀ {s a s'}, P s → condition s a → step s a = some s' → P s') {s s' : σ}
    {actions : List α} (holds : P s) (meets : Meets step condition s actions)
    (ran : steps step s actions = some s') : P s' := by
  induction actions generalizing s with
  | nil =>
      obtain rfl := Option.some.inj ran
      exact holds
  | cons a later ih =>
      obtain ⟨next, stepped, rest⟩ := Option.bind_eq_some_iff.mp ran
      exact ih (kept holds meets.1 stepped) (meets.2 next stepped) rest

theorem meets_true (s : σ) (actions : List α) : Meets step (fun _ _ => True) s actions := by
  induction actions generalizing s with
  | nil => trivial
  | cons a later ih => exact ⟨trivial, fun s' _ => ih s'⟩

/-- A condition on the actions alone is added. -/
theorem Meets.and {condition : σ → α → Prop} {P : α → Prop} {s : σ} {actions : List α}
    (meets : Meets step condition s actions) (all : ∀ a ∈ actions, P a) :
    Meets step (fun s a => condition s a ∧ P a) s actions := by
  induction actions generalizing s with
  | nil => trivial
  | cons a later ih =>
      obtain ⟨here, rest⟩ := List.forall_mem_cons.mp all
      exact ⟨⟨meets.1, here⟩, fun s' stepped => ih (meets.2 s' stepped) rest⟩

theorem steps_invariant {P : σ → Prop} (kept : ∀ {s a s'}, P s → step s a = some s' → P s')
    {s s' : σ} {actions : List α} (holds : P s) (ran : steps step s actions = some s') : P s' :=
  steps_invariant_of (fun holds _ stepped => kept holds stepped) holds (meets_true s actions) ran

/-- From a state from which the counter can be raised, again and again, no bound holds. -/
theorem not_bounded_of_rounds {P : σ → Prop} {count : σ → Nat}
    (round : ∀ {s}, P s → ∃ actions s', steps step s actions = some s' ∧ P s' ∧ count s < count s')
    {s : σ} (holds : P s) : ¬ Bounded step count s := by
  have reaches : ∀ n, ∃ actions s', steps step s actions = some s' ∧ P s' ∧ n ≤ count s' := by
    intro n
    induction n with
    | zero => exact ⟨[], s, rfl, holds, Nat.zero_le _⟩
    | succ n ih =>
        obtain ⟨first, middle, ran, again, counted⟩ := ih
        obtain ⟨later, last, further, still, raised⟩ := round again
        exact ⟨first ++ later, last, steps_trans ran further, still, by omega⟩
  rintro ⟨bound, within⟩
  obtain ⟨actions, last, ran, -, counted⟩ := reaches (bound + 1)
  have := within actions last ran
  omega

end Guarded

end VpsDashboard.Foundation
