/-
# VpsDashboard.Foundation.Outputs — programs that give something away on their way

A program of actions on shared state may also hand results to someone outside, who acts
on them later.  `Visible` adds such outputs to the actions; they leave the state as it
is and stand in the trace.  `wp_visible` reads the part of a program that only performs
actions as if there were no outputs, and `wp_actions_frame` says that it makes none.
-/
import VpsDashboard.Foundation.Interleaving

namespace VpsDashboard.Foundation

set_option autoImplicit false

/-- An action, or something given away. -/
inductive Visible (Act Out : Type) where
  | act (a : Act)
  | out (o : Out)

/-- An output is answered by nothing. -/
abbrev Visible.Ans {Act : Type} (Ans : Act → Type) (Out : Type) : Visible Act Out → Type
  | .act a => Ans a
  | .out _ => Unit

variable {Act Out : Type} {Ans : Act → Type} {Env σ α κ : Type}

/-- A program with actions alone, among those that also give something away. -/
def Program.visible : Program Act Ans α → Program (Visible Act Out) (Visible.Ans Ans Out) α
  | .ret value => .ret value
  | .act a next => .act (.act a) fun answer => (next answer).visible

def Program.output (o : Out) : Program (Visible Act Out) (Visible.Ans Ans Out) Unit :=
  .act (.out o) fun _ => .ret ()

def Machine.visible (M : Machine Act Ans Env σ) (Out : Type) :
    Machine (Visible Act Out) (Visible.Ans Ans Out) Env σ where
  exec
    | s, .act a, env => M.exec s a env
    | s, .out _, _ => ((), s)

/-- What a logic says of the actions. -/
def Logic.actions (L : Logic (Visible Act Out) (Visible.Ans Ans Out) κ) : Logic Act Ans κ where
  issue k a := L.issue k (.act a)
  learn k a answer k' := L.learn k (.act a) answer k'

theorem Program.wp_visible {L : Logic (Visible Act Out) (Visible.Ans Ans Out) κ}
    {p : Program Act Ans α} {Q : α → κ → Prop} {k : κ} :
    p.visible.wp L Q k ↔ p.wp L.actions Q k := by
  induction p generalizing k with
  | ret value => rfl
  | act a next ih =>
      show (_ ∧ _) ↔ (_ ∧ _)
      apply and_congr Iff.rfl
      exact forall_congr' fun answer => forall_congr' fun k' => imp_congr Iff.rfl (ih answer)

/-- `wp_perform` for an action among outputs. -/
theorem Machine.wp_actions_perform {M : Machine Act Ans Env σ} {i : Nat}
    {issue : List (Event (Visible Act Out) Env σ) → Visible Act Out → Prop} {a : Act}
    {next : Ans a → Program Act Ans α} {Q : α → List (Event (Visible Act Out) Env σ) → Prop}
    {h : List (Event (Visible Act Out) Env σ)} (may : issue h (.act a))
    (rest : ∀ s env, (next (M.exec s a env).1).wp ((M.visible Out).historyLogic i issue).actions Q
      (h ++ [(M.visible Out).event i s (.act a) env])) :
    (Program.perform a >>= next).wp ((M.visible Out).historyLogic i issue).actions Q h := by
  refine ⟨may, ?_⟩
  rintro answer h' ⟨s, env, rfl, rfl⟩
  exact rest s env

/-- The actions of a program add events of actions to its history, and no outputs. -/
theorem Machine.wp_actions_frame {M : Machine Act Ans Env σ} {i : Nat}
    {issue : List (Event (Visible Act Out) Env σ) → Visible Act Out → Prop}
    {p : Program Act Ans α} {Q : α → List (Event (Visible Act Out) Env σ) → Prop}
    {h : List (Event (Visible Act Out) Env σ)}
    (holds : p.wp ((M.visible Out).historyLogic i issue).actions Q h) :
    p.wp ((M.visible Out).historyLogic i issue).actions
      (fun value h' => Q value h' ∧ ∃ more, h' = h ++ more ∧ ∀ e ∈ more, ∃ a, e.act = .act a) h := by
  induction p generalizing h with
  | ret value => exact ⟨holds, [], by simp, by simp⟩
  | act a next ih =>
      refine ⟨holds.1, ?_⟩
      rintro answer h' ⟨s, env, rfl, rfl⟩
      refine Program.wp_mono _ ?_ (ih _ (holds.2 _ _ ⟨s, env, rfl, rfl⟩))
      rintro value h'' ⟨result, more, rfl, acts⟩
      refine ⟨result, (M.visible Out).event i s (.act a) env :: more, by simp, ?_⟩
      intro e member
      rcases List.mem_cons.mp member with rfl | later
      · exact ⟨a, rfl⟩
      · exact acts e later

end VpsDashboard.Foundation
