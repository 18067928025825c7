/-
# VpsDashboard.Foundation.Program — programs of atomic actions

A concurrent program is a sequence of indivisible actions on shared state with
pure computation between them.  `Program` is that sequence as a value: `ret` is
a result, `act a next` performs `a` and goes on with its answer.  The same value
is read in two ways:

* alone, by `Program.run`: its actions are executed one after the other, the
  outside world contributing one `Env` to each;
* among others, by `VpsDashboard.Foundation.Interleaving`: between two of its
  actions any number of actions of other programs may happen.

`Program.wp` is the weakest precondition over a `Logic`, which says what must
hold when an action is issued and what may be known after it.  `wp_bind` makes
it compositional: one lemma for each function, cited by its callers.
`Program.Performs` only says which actions a program performs at all, and
`Program.Ensures` what it returns besides; `Program.Permitted` says that a logic
permits them, whatever it knows.
-/
import Mathlib.Logic.Basic

namespace VpsDashboard.Foundation

set_option autoImplicit false

/-- A program whose actions are `Act`, action `a` answering an `Ans a`. -/
inductive Program (Act : Type) (Ans : Act → Type) (α : Type) where
  | ret (value : α)
  | act (a : Act) (next : Ans a → Program Act Ans α)

namespace Program

variable {Act : Type} {Ans : Act → Type} {α β : Type}

/-- Sequential composition. -/
protected def bind : Program Act Ans α → (α → Program Act Ans β) → Program Act Ans β
  | .ret value, f => f value
  | .act a next, f => .act a fun answer => (next answer).bind f

instance : Monad (Program Act Ans) where
  pure := .ret
  bind := Program.bind

/-- The program that performs one action and returns its answer. -/
def perform (a : Act) : Program Act Ans (Ans a) := .act a .ret

@[simp] theorem pure_eq (value : α) : (pure value : Program Act Ans α) = .ret value := rfl

@[simp] theorem ret_bind (value : α) (f : α → Program Act Ans β) :
    (Program.ret value >>= f) = f value := rfl

@[simp] theorem act_bind (a : Act) (next : Ans a → Program Act Ans α)
    (f : α → Program Act Ans β) :
    (Program.act a next >>= f) = .act a fun answer => next answer >>= f := rfl

@[simp] theorem perform_bind (a : Act) (f : Ans a → Program Act Ans β) :
    (perform a >>= f) = .act a f := rfl

end Program

/-! ## Running one program alone -/

/-- What the actions do: `exec s a env` is the answer of `a` in state `s` and the
state it leaves, when the outside world contributes `env`. -/
structure Machine (Act : Type) (Ans : Act → Type) (Env σ : Type) where
  exec : σ → (a : Act) → Env → Ans a × σ

namespace Program

variable {Act : Type} {Ans : Act → Type} {Env σ α β : Type} (M : Machine Act Ans Env σ)

/-- Run a program with no one else around: `outside n` is what the outside world
contributes to its `n`-th action. -/
def run : Program Act Ans α → σ → (Nat → Env) → α × σ
  | .ret value, s, _ => (value, s)
  | .act a next, s, outside =>
      let done := M.exec s a (outside 0)
      (next done.1).run done.2 fun n => outside (n + 1)

@[simp] theorem run_ret (value : α) (s : σ) (outside : Nat → Env) :
    (Program.ret value : Program Act Ans α).run M s outside = (value, s) := rfl

@[simp] theorem run_act (a : Act) (next : Ans a → Program Act Ans α) (s : σ)
    (outside : Nat → Env) :
    (Program.act a next).run M s outside =
      (next (M.exec s a (outside 0)).1).run M (M.exec s a (outside 0)).2
        fun n => outside (n + 1) := rfl

/-- A pure function of the result is applied at the end. -/
theorem run_map (p : Program Act Ans α) (f : α → β) (s : σ) (outside : Nat → Env) :
    (p >>= fun value => .ret (f value)).run M s outside =
      (f (p.run M s outside).1, (p.run M s outside).2) := by
  induction p generalizing s outside with
  | ret value => rfl
  | act a next ih => exact ih _ _ _

end Program

/-! ## Weakest preconditions -/

/-- A logic for programs over assertions about some knowledge `κ`: `issue k a`
must hold whenever `a` is issued, and `learn k a answer k'` says how the
knowledge may change with the answer. -/
structure Logic (Act : Type) (Ans : Act → Type) (κ : Type) where
  issue : κ → Act → Prop
  learn : κ → (a : Act) → Ans a → κ → Prop

namespace Program

variable {Act : Type} {Ans : Act → Type} {α β κ : Type} (L : Logic Act Ans κ)

/-- From knowledge `k` the program issues only permitted actions, and when it
returns, its result and the knowledge reached satisfy `Q`. -/
def wp : Program Act Ans α → (α → κ → Prop) → κ → Prop
  | .ret value, Q, k => Q value k
  | .act a next, Q, k =>
      L.issue k a ∧ ∀ answer k', L.learn k a answer k' → (next answer).wp Q k'

@[simp] theorem wp_ret (value : α) (Q : α → κ → Prop) (k : κ) :
    (Program.ret value : Program Act Ans α).wp L Q k ↔ Q value k := Iff.rfl

@[simp] theorem wp_act (a : Act) (next : Ans a → Program Act Ans α) (Q : α → κ → Prop) (k : κ) :
    (Program.act a next).wp L Q k ↔
      L.issue k a ∧ ∀ answer k', L.learn k a answer k' → (next answer).wp L Q k' := Iff.rfl

@[simp] theorem wp_bind (p : Program Act Ans α) (f : α → Program Act Ans β)
    (Q : β → κ → Prop) (k : κ) :
    (p >>= f).wp L Q k ↔ p.wp L (fun value k' => (f value).wp L Q k') k := by
  induction p generalizing k with
  | ret value => rfl
  | act a next ih => simp only [act_bind, wp_act, ih]

/-- To perform `a`, the program must be permitted to, and go on from every answer. -/
theorem wp_perform {a : Act} {next : Ans a → Program Act Ans α} {Q : α → κ → Prop} {k : κ}
    (permitted : L.issue k a)
    (rest : ∀ answer k', L.learn k a answer k' → (next answer).wp L Q k') :
    (perform a >>= next).wp L Q k := ⟨permitted, rest⟩

@[simp] theorem wp_ite {c : Prop} [Decidable c] (p q : Program Act Ans α) (Q : α → κ → Prop)
    (k : κ) : (if c then p else q).wp L Q k ↔ if c then p.wp L Q k else q.wp L Q k := by
  split <;> rfl

theorem wp_mono {p : Program Act Ans α} {Q R : α → κ → Prop} {k : κ}
    (weaker : ∀ value k', Q value k' → R value k') (holds : p.wp L Q k) : p.wp L R k := by
  induction p generalizing k with
  | ret value => exact weaker value k holds
  | act a next ih =>
      exact ⟨holds.1, fun answer k' learned => ih answer (holds.2 answer k' learned)⟩

end Program

/-! ## Programs that perform only some actions -/

namespace Program

variable {Act : Type} {Ans : Act → Type} {α β κ : Type} {may : Act → Prop}

/-- Whatever it is answered, the program performs only actions that it may. -/
def Performs (may : Act → Prop) : Program Act Ans α → Prop
  | .ret _ => True
  | .act a next => may a ∧ ∀ answer, (next answer).Performs may

theorem performs_ret (value : α) : (Program.ret value : Program Act Ans α).Performs may := trivial

theorem performs_perform {a : Act} (allowed : may a) :
    (perform a : Program Act Ans (Ans a)).Performs may := ⟨allowed, fun _ => trivial⟩

theorem Performs.bind {p : Program Act Ans α} {f : α → Program Act Ans β} (first : p.Performs may)
    (rest : ∀ value, (f value).Performs may) : (p >>= f).Performs may := by
  induction p with
  | ret value => exact rest value
  | act a next ih => exact ⟨first.1, fun answer => ih answer (first.2 answer)⟩

theorem Performs.ite {c : Prop} [Decidable c] {p q : Program Act Ans α} (yes : p.Performs may)
    (no : q.Performs may) : (if c then p else q).Performs may := by
  split
  · exact yes
  · exact no

theorem Performs.mono {may' : Act → Prop} {p : Program Act Ans α} (performs : p.Performs may)
    (weaker : ∀ a, may a → may' a) : p.Performs may' := by
  induction p with
  | ret value => trivial
  | act a next ih => exact ⟨weaker a performs.1, fun answer => ih answer (performs.2 answer)⟩

/-- A logic that always permits these actions says nothing else of the program. -/
theorem wp_of_performs {L : Logic Act Ans κ} {p : Program Act Ans α} {Q : α → κ → Prop} {k : κ}
    (may : Act → Prop) (performs : p.Performs may) (permitted : ∀ k a, may a → L.issue k a)
    (all : ∀ value k', Q value k') : p.wp L Q k := by
  induction p generalizing k with
  | ret value => exact all value k
  | act a next ih =>
      exact ⟨permitted k a performs.1, fun answer k' _ => ih answer (performs.2 answer)⟩

theorem performs_all (p : Program Act Ans α) : p.Performs fun _ => True := by
  induction p with
  | ret value => trivial
  | act a next ih => exact ⟨trivial, ih⟩

/-- That, with results that are good. -/
def Ensures (may : Act → Prop) (good : α → Prop) : Program Act Ans α → Prop
  | .ret value => good value
  | .act a next => may a ∧ ∀ answer, (next answer).Ensures may good

variable {good : α → Prop}

theorem Ensures.bind {good' : β → Prop} {p : Program Act Ans α} {f : α → Program Act Ans β}
    (first : p.Ensures may good) (rest : ∀ value, good value → (f value).Ensures may good') :
    (p >>= f).Ensures may good' := by
  induction p with
  | ret value => exact rest value first
  | act a next ih => exact ⟨first.1, fun answer => ih answer (first.2 answer)⟩

theorem Performs.ensures {p : Program Act Ans α} (performs : p.Performs may) :
    p.Ensures may fun _ => True := by
  induction p with
  | ret value => trivial
  | act a next ih => exact ⟨performs.1, fun answer => ih answer (performs.2 answer)⟩

theorem Performs.andThen {good' : β → Prop} {p : Program Act Ans α} {f : α → Program Act Ans β}
    (first : p.Performs may) (rest : ∀ value, (f value).Ensures may good') :
    (p >>= f).Ensures may good' :=
  first.ensures.bind fun value _ => rest value

theorem Ensures.ite {c : Prop} [Decidable c] {p q : Program Act Ans α} (yes : p.Ensures may good)
    (no : q.Ensures may good) : (if c then p else q).Ensures may good := by
  split
  · exact yes
  · exact no

theorem wp_of_ensures {L : Logic Act Ans κ} {p : Program Act Ans α} {Q : α → κ → Prop} {k : κ}
    (ensures : p.Ensures may good) (permitted : ∀ k a, may a → L.issue k a)
    (all : ∀ value k', good value → Q value k') : p.wp L Q k := by
  induction p generalizing k with
  | ret value => exact all value k ensures
  | act a next ih =>
      exact ⟨permitted k a ensures.1, fun answer k' _ => ih answer (ensures.2 answer)⟩

end Program

/-! ## Programs that a logic permits -/

namespace Program

variable {Act : Type} {Ans : Act → Type} {α β κ : Type} {L : Logic Act Ans κ}

/-- Whatever is known when the program starts, the logic permits each of its actions. -/
def Permitted (L : Logic Act Ans κ) (p : Program Act Ans α) : Prop :=
  ∀ k, p.wp L (fun _ _ => True) k

theorem permitted_ret (value : α) : (Program.ret value : Program Act Ans α).Permitted L :=
  fun _ => trivial

theorem permitted_perform {a : Act} (issues : ∀ k, L.issue k a) :
    (perform a : Program Act Ans (Ans a)).Permitted L :=
  fun k => ⟨issues k, fun _ _ _ => trivial⟩

theorem Permitted.wp {p : Program Act Ans α} (permitted : p.Permitted L) {k : κ}
    {Q : α → κ → Prop} (all : ∀ value k', Q value k') : p.wp L Q k :=
  wp_mono _ (fun value k' _ => all value k') (permitted k)

theorem Permitted.bind {p : Program Act Ans α} {f : α → Program Act Ans β}
    (first : p.Permitted L) (rest : ∀ value, (f value).Permitted L) : (p >>= f).Permitted L := by
  intro k
  rw [wp_bind]
  exact first.wp fun value k' => rest value k'

theorem Permitted.ite {c : Prop} [Decidable c] {p q : Program Act Ans α} (yes : p.Permitted L)
    (no : q.Permitted L) : (if c then p else q).Permitted L := by
  split
  · exact yes
  · exact no

theorem Performs.permitted {may : Act → Prop} {p : Program Act Ans α} (performs : p.Performs may)
    (permits : ∀ k a, may a → L.issue k a) : p.Permitted L :=
  fun _ => wp_of_performs may performs permits fun _ _ => trivial

/-- The logic that permits these actions and knows nothing. -/
def only (may : Act → Prop) : Logic Act Ans Unit where
  issue _ a := may a
  learn _ _ _ _ := True

/-- To perform only some actions is to be permitted by the logic of them. -/
theorem performs_of_permitted {may : Act → Prop} {p : Program Act Ans α}
    (permitted : p.Permitted (only may)) : p.Performs may := by
  induction p with
  | ret value => trivial
  | act a next ih =>
      refine ⟨(permitted ()).1, fun answer => ih answer fun k => ?_⟩
      exact (permitted ()).2 answer k trivial

end Program

/-! ## The actions of a program among more -/

section Lift

variable {Act Act' : Type} {Ans : Act → Type} {Ans' : Act' → Type} {α κ : Type}
  (emb : Act → Act') (read : ∀ a, Ans' (emb a) → Ans a)

/-- The program where its action `a` is called `emb a`. -/
def Program.lift : Program Act Ans α → Program Act' Ans' α
  | .ret value => .ret value
  | .act a next => .act (emb a) fun answer => (next (read a answer)).lift

/-- What a logic says of these actions. -/
def Logic.through (L : Logic Act' Ans' κ) : Logic Act Ans κ where
  issue k a := L.issue k (emb a)
  learn k a answer k' := ∃ answer', answer = read a answer' ∧ L.learn k (emb a) answer' k'

theorem Program.wp_lift {L : Logic Act' Ans' κ} {p : Program Act Ans α} {Q : α → κ → Prop} {k : κ} :
    (p.lift emb read).wp L Q k ↔ p.wp (L.through emb read) Q k := by
  induction p generalizing k with
  | ret value => rfl
  | act a next ih =>
      apply and_congr Iff.rfl
      constructor
      · rintro all _ k' ⟨answer', rfl, learned⟩
        exact (ih _).mp (all answer' k' learned)
      · intro all answer' k' learned
        exact (ih _).mpr (all _ k' ⟨answer', rfl, learned⟩)

/-- A lifted program performs lifted actions. -/
theorem Program.performs_lift (p : Program Act Ans α) :
    (p.lift emb read).Performs fun a => ∃ b, a = emb b := by
  induction p with
  | ret value => trivial
  | act a next ih => exact ⟨⟨a, rfl⟩, fun answer => ih (read a answer)⟩

end Lift

/-! ## The logic of one state -/

namespace Machine

variable {Act : Type} {Ans : Act → Type} {Env σ α : Type} (M : Machine Act Ans Env σ)

/-- The knowledge is the state itself; only this program changes it. -/
def stateLogic : Logic Act Ans σ where
  issue _ _ := True
  learn s a answer s' := ∃ env, M.exec s a env = (answer, s')

variable {M}

@[simp] theorem wp_state_act {a : Act} {next : Ans a → Program Act Ans α} {Q : α → σ → Prop}
    {s : σ} :
    (Program.act a next).wp M.stateLogic Q s ↔
      ∀ env, (next (M.exec s a env).1).wp M.stateLogic Q (M.exec s a env).2 := by
  constructor
  · intro holds env
    exact holds.2 _ _ ⟨env, rfl⟩
  · intro all
    refine ⟨trivial, ?_⟩
    rintro answer s' ⟨env, done⟩
    have step := all env
    rw [done] at step
    exact step

/-- What `wp` promises over states, every run alone delivers. -/
theorem wp_run {p : Program Act Ans α} {Q : α → σ → Prop} {s : σ}
    (holds : p.wp M.stateLogic Q s) (outside : Nat → Env) :
    Q (p.run M s outside).1 (p.run M s outside).2 := by
  induction p generalizing s outside with
  | ret value => exact holds
  | act a next ih => exact ih _ (wp_state_act.mp holds (outside 0)) _

/-! ## Programs that change nothing -/

variable (M)

/-- Whatever the outside world contributes, the program leaves the state as it was. -/
def Keeps (p : Program Act Ans α) : Prop := ∀ s, p.wp M.stateLogic (fun _ s' => s' = s) s

variable {M}

theorem keeps_ret (value : α) : M.Keeps (.ret value : Program Act Ans α) := fun _ => rfl

theorem keeps_perform {a : Act} (reads : ∀ s env, (M.exec s a env).2 = s) :
    M.Keeps (Program.perform a) := by
  intro s
  apply wp_state_act.mpr
  intro env
  exact reads s env

theorem Keeps.bind {β : Type} {p : Program Act Ans α} {f : α → Program Act Ans β}
    (first : M.Keeps p) (rest : ∀ value, M.Keeps (f value)) : M.Keeps (p >>= f) := by
  intro s
  rw [Program.wp_bind]
  refine Program.wp_mono _ ?_ (first s)
  rintro value s' rfl
  exact rest value s'

theorem Keeps.ite {c : Prop} [Decidable c] {p q : Program Act Ans α} (yes : M.Keeps p)
    (no : M.Keeps q) : M.Keeps (if c then p else q) := by
  split
  · exact yes
  · exact no

/-- A program that only reads changes nothing. -/
theorem keeps_of_performs {may : Act → Prop} {p : Program Act Ans α} (performs : p.Performs may)
    (reads : ∀ a, may a → ∀ s env, (M.exec s a env).2 = s) : M.Keeps p := by
  induction p with
  | ret value => exact keeps_ret value
  | act a next ih =>
      have first : M.Keeps (Program.perform a) := keeps_perform (reads a performs.1)
      exact first.bind fun answer => ih answer (performs.2 answer)

/-- What its actions keep of the state, the program keeps. -/
theorem run_of_performs {β : Type} (part : σ → β) {may : Act → Prop} {p : Program Act Ans α}
    (performs : p.Performs may)
    (keeps : ∀ a, may a → ∀ s env, part (M.exec s a env).2 = part s) (s : σ)
    (outside : Nat → Env) : part (p.run M s outside).2 = part s := by
  induction p generalizing s outside with
  | ret value => rfl
  | act a next ih =>
      rw [Program.run_act, ih _ (performs.2 _)]
      exact keeps a performs.1 s (outside 0)

theorem Keeps.run {p : Program Act Ans α} (keeps : M.Keeps p) (s : σ) (outside : Nat → Env) :
    (p.run M s outside).2 = s :=
  wp_run (Q := fun _ s' => s' = s) (keeps s) outside

end Machine

end VpsDashboard.Foundation
