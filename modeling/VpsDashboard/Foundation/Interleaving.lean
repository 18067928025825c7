/-
# VpsDashboard.Foundation.Interleaving — every order of the actions of several programs

A `Config` is a shared state and the programs that are still to run on it.  One
step picks any program that has an action left and executes that action; a `Run`
is any finite sequence of such steps, recorded as the list of its `Event`s.

A property of one program that refers only to the program's own earlier events is
proved by `Program.wp` over `Machine.historyLogic`, with no other program in sight.
Two rules carry it to every run:

* `Run.issued` — what the program needs to perform an action held when it did;
* `Run.thread` — what remains of the program still meets its specification.

`Run.invariant` makes an invariant of the shared state out of what the threads may do.

`Run.split` cuts a run at any point, and `runFor` executes one given schedule.
`events` is the trace of a program that runs alone.
-/
import VpsDashboard.Foundation.Program
import Mathlib.Data.List.Induction

namespace VpsDashboard.Foundation

set_option autoImplicit false

/-- One step of a run: who acted, in which state, what it did, what the outside
world contributed, and the state it left. -/
structure Event (Act Env σ : Type) where
  thread : Nat
  before : σ
  act : Act
  env : Env
  after : σ

/-- A shared state and the programs running on it. -/
structure Config (Act : Type) (Ans : Act → Type) (σ : Type) where
  state : σ
  threads : List (Program Act Ans Unit)

/-- The events of one thread, in order. -/
def own {Act Env σ : Type} (i : Nat) (trace : List (Event Act Env σ)) : List (Event Act Env σ) :=
  trace.filter fun e => e.thread == i

section Own

variable {Act Env σ : Type} {i : Nat}

@[simp] theorem own_nil : own i ([] : List (Event Act Env σ)) = [] := rfl

@[simp] theorem own_append (left right : List (Event Act Env σ)) :
    own i (left ++ right) = own i left ++ own i right := List.filter_append left right

theorem own_cons_self (e : Event Act Env σ) (rest : List (Event Act Env σ)) (mine : e.thread = i) :
    own i (e :: rest) = e :: own i rest := by
  simp [own, mine]

theorem own_cons_ne (e : Event Act Env σ) (rest : List (Event Act Env σ)) (other : e.thread ≠ i) :
    own i (e :: rest) = own i rest := by
  simp [own, other]

theorem own_concat (i : Nat) (trace : List (Event Act Env σ)) (e : Event Act Env σ) :
    own i (trace ++ [e]) = if e.thread = i then own i trace ++ [e] else own i trace := by
  rw [own_append]
  split
  · rename_i mine
    rw [own_cons_self e [] mine, own_nil]
  · rename_i other
    rw [own_cons_ne e [] other, own_nil, List.append_nil]

/-- The latest event of one thread, in the trace. -/
theorem own_eq_concat {trace earlier : List (Event Act Env σ)} {e : Event Act Env σ}
    (mine : own i trace = earlier ++ [e]) :
    e.thread = i ∧ ∃ left right, trace = left ++ e :: right ∧ own i left = earlier := by
  obtain ⟨left, rest, rfl, first, last⟩ := List.filter_eq_append_iff.mp mine
  obtain ⟨others, right, rfl, skipped, acts, -⟩ := List.filter_eq_cons_iff.mp last
  refine ⟨by simpa using acts, left ++ others, right, by simp, ?_⟩
  rw [own_append, show own i left = earlier from first]
  have none : own i others = [] := List.filter_eq_nil_iff.mpr skipped
  rw [none, List.append_nil]

end Own

/-! ## Properties of every position of a trace -/

section Everywhere

variable {ε : Type} (P : List ε → ε → Prop)

/-- `P` holds of every event of `rest` and the events before it, `seen` included. -/
def EverywhereFrom : List ε → List ε → Prop
  | _, [] => True
  | seen, e :: rest => P seen e ∧ EverywhereFrom (seen ++ [e]) rest

/-- `P` holds of every event of a trace and the events before it. -/
def Everywhere (trace : List ε) : Prop := EverywhereFrom P [] trace

variable {P}

theorem everywhereFrom_append {seen left right : List ε} :
    EverywhereFrom P seen (left ++ right) ↔
      EverywhereFrom P seen left ∧ EverywhereFrom P (seen ++ left) right := by
  induction left generalizing seen with
  | nil => simp [EverywhereFrom]
  | cons e left ih => simp [EverywhereFrom, ih, and_assoc]

theorem Everywhere.at {pre post : List ε} {e : ε} (all : Everywhere P (pre ++ e :: post)) :
    P pre e := by
  have here := (everywhereFrom_append.mp all).2.1
  simpa using here

theorem Everywhere.get {events : List ε} (all : Everywhere P events) {n : Nat} {e : ε}
    (found : events[n]? = some e) : P (events.take n) e := by
  obtain ⟨inside, rfl⟩ := List.getElem?_eq_some_iff.mp found
  have split : events = events.take n ++ events[n] :: events.drop (n + 1) := by
    rw [← List.drop_eq_getElem_cons inside, List.take_append_drop]
  rw [split] at all
  exact all.at

theorem everywhere_of_at {trace : List ε}
    (all : ∀ pre e post, trace = pre ++ e :: post → P pre e) : Everywhere P trace := by
  suffices every : ∀ rest seen, trace = seen ++ rest → EverywhereFrom P seen rest from
    every trace [] rfl
  intro rest
  induction rest with
  | nil => intro seen _; trivial
  | cons e rest ih =>
      intro seen whole
      exact ⟨all seen e rest whole, ih (seen ++ [e]) (by simpa using whole)⟩

theorem Everywhere.prefix {left right : List ε} (all : Everywhere P (left ++ right)) :
    Everywhere P left := (everywhereFrom_append.mp all).1

instance [∀ seen e, Decidable (P seen e)] (seen rest : List ε) :
    Decidable (EverywhereFrom P seen rest) :=
  match rest with
  | [] => isTrue trivial
  | e :: rest =>
      have : Decidable (EverywhereFrom P (seen ++ [e]) rest) := instDecidableEverywhereFrom _ rest
      inferInstanceAs (Decidable (_ ∧ _))

instance [∀ seen e, Decidable (P seen e)] (trace : List ε) : Decidable (Everywhere P trace) :=
  inferInstanceAs (Decidable (EverywhereFrom P [] trace))

end Everywhere

namespace Machine

variable {Act : Type} {Ans : Act → Type} {Env σ : Type} (M : Machine Act Ans Env σ)

/-- The event of action `a` taken by thread `i` in state `s`. -/
def event (i : Nat) (s : σ) (a : Act) (env : Env) : Event Act Env σ :=
  ⟨i, s, a, env, (M.exec s a env).2⟩

section EventFields

variable (i : Nat) (s : σ) (a : Act) (env : Env)

@[simp] theorem event_thread : (M.event i s a env).thread = i := rfl
@[simp] theorem event_before : (M.event i s a env).before = s := rfl
@[simp] theorem event_act : (M.event i s a env).act = a := rfl
@[simp] theorem event_env : (M.event i s a env).env = env := rfl
@[simp] theorem event_after : (M.event i s a env).after = (M.exec s a env).2 := rfl

end EventFields

/-- Let thread `i` perform its next action, if it has one. -/
def step (c : Config Act Ans σ) (i : Nat) (env : Env) :
    Option (Event Act Env σ × Config Act Ans σ) :=
  match c.threads[i]? with
  | some (.act a next) =>
      some (M.event i c.state a env,
        ⟨(M.exec c.state a env).2, c.threads.set i (next (M.exec c.state a env).1)⟩)
  | _ => none

/-- The configurations reachable from `c`, each with the events on the way. -/
inductive Run (c : Config Act Ans σ) : List (Event Act Env σ) → Config Act Ans σ → Prop
  | start : Run c [] c
  | snoc {trace : List (Event Act Env σ)} {c' c'' : Config Act Ans σ} {i : Nat} {env : Env}
      {e : Event Act Env σ} (run : Run c trace c') (step : M.step c' i env = some (e, c'')) :
      Run c (trace ++ [e]) c''

variable {M}

theorem step_eq_some {c c' : Config Act Ans σ} {i : Nat} {env : Env} {e : Event Act Env σ}
    (stepped : M.step c i env = some (e, c')) :
    ∃ a next, c.threads[i]? = some (.act a next) ∧ e = M.event i c.state a env ∧
      c' = ⟨(M.exec c.state a env).2, c.threads.set i (next (M.exec c.state a env).1)⟩ := by
  unfold step at stepped
  split at stepped
  · rename_i a next found
    simp only [Option.some.injEq, Prod.mk.injEq] at stepped
    exact ⟨a, next, found, stepped.1.symm, stepped.2.symm⟩
  · cases stepped

/-- An event records the state it was taken in and the state it left. -/
theorem step_states {c c' : Config Act Ans σ} {i : Nat} {env : Env} {e : Event Act Env σ}
    (stepped : M.step c i env = some (e, c')) :
    e.thread = i ∧ e.env = env ∧ e.before = c.state ∧ e.after = c'.state ∧
      e.after = (M.exec e.before e.act e.env).2 := by
  obtain ⟨a, next, -, rfl, rfl⟩ := step_eq_some stepped
  exact ⟨rfl, rfl, rfl, rfl, rfl⟩

/-! ## Cutting and joining runs -/

theorem Run.last {c c'' : Config Act Ans σ} {trace : List (Event Act Env σ)}
    {e : Event Act Env σ} (run : M.Run c (trace ++ [e]) c'') :
    ∃ c', M.Run c trace c' ∧ M.step c' e.thread e.env = some (e, c'') := by
  generalize whole : trace ++ [e] = full at run
  cases run with
  | start => simp at whole
  | @snoc trace' c' _ i env e' run step =>
      obtain ⟨rfl, same⟩ := List.append_inj' whole rfl
      obtain rfl : e = e' := by simpa using same
      obtain ⟨rfl, rfl, -⟩ := step_states step
      exact ⟨c', run, step⟩

theorem Run.split {c c' : Config Act Ans σ} {left right : List (Event Act Env σ)}
    (run : M.Run c (left ++ right) c') : ∃ middle, M.Run c left middle ∧ M.Run middle right c' := by
  induction right using List.reverseRecOn generalizing c' with
  | nil => exact ⟨c', by simpa using run, .start⟩
  | append_singleton right e ih =>
      rw [← List.append_assoc] at run
      obtain ⟨before, earlier, step⟩ := run.last
      obtain ⟨middle, first, second⟩ := ih earlier
      exact ⟨middle, first, second.snoc step⟩

theorem Run.trans {c c' c'' : Config Act Ans σ} {left right : List (Event Act Env σ)}
    (first : M.Run c left c') (second : M.Run c' right c'') : M.Run c (left ++ right) c'' := by
  induction second with
  | start => simpa using first
  | snoc _ step ih => simpa using ih.snoc step

/-- The configurations around one event of a run. -/
theorem Run.at {c c' : Config Act Ans σ} {pre post : List (Event Act Env σ)}
    {e : Event Act Env σ} (run : M.Run c (pre ++ e :: post) c') :
    ∃ c₁ c₂, M.Run c pre c₁ ∧ M.step c₁ e.thread e.env = some (e, c₂) ∧ M.Run c₂ post c' := by
  rw [List.append_cons] at run
  obtain ⟨c₂, first, second⟩ := run.split
  obtain ⟨c₁, earlier, step⟩ := first.last
  exact ⟨c₁, c₂, earlier, step, second⟩

theorem Run.event_after {c c' : Config Act Ans σ} {trace : List (Event Act Env σ)}
    (run : M.Run c trace c') {e : Event Act Env σ} (member : e ∈ trace) :
    e.after = (M.exec e.before e.act e.env).2 := by
  obtain ⟨pre, post, rfl⟩ := List.append_of_mem member
  obtain ⟨_, _, _, step, _⟩ := run.at
  exact (step_states step).2.2.2.2

/-! ## Properties of one thread -/

variable (M)

/-- The knowledge of thread `i` is its own history; of the state it is told only
what its own actions answer, whatever the others have done in between. -/
def historyLogic (i : Nat) (issue : List (Event Act Env σ) → Act → Prop) :
    Logic Act Ans (List (Event Act Env σ)) where
  issue := issue
  learn h a answer h' := ∃ s env, answer = (M.exec s a env).1 ∧ h' = h ++ [M.event i s a env]

variable {M}

@[simp] theorem wp_history_act {α : Type} {i : Nat} {issue : List (Event Act Env σ) → Act → Prop}
    {a : Act} {next : Ans a → Program Act Ans α} {Q : α → List (Event Act Env σ) → Prop}
    {h : List (Event Act Env σ)} :
    (Program.act a next).wp (M.historyLogic i issue) Q h ↔
      issue h a ∧ ∀ s env,
        (next (M.exec s a env).1).wp (M.historyLogic i issue) Q (h ++ [M.event i s a env]) := by
  refine and_congr Iff.rfl ⟨fun all s env => all _ _ ⟨s, env, rfl, rfl⟩, ?_⟩
  rintro all _ _ ⟨s, env, rfl, rfl⟩
  exact all s env

/-- To perform `a`, the program must be allowed to, and go on from whatever state it
finds when its turn comes. -/
theorem wp_perform {α : Type} {i : Nat} {issue : List (Event Act Env σ) → Act → Prop}
    {a : Act} {next : Ans a → Program Act Ans α} {Q : α → List (Event Act Env σ) → Prop}
    {h : List (Event Act Env σ)} (may : issue h a)
    (rest : ∀ s env,
      (next (M.exec s a env).1).wp (M.historyLogic i issue) Q (h ++ [M.event i s a env])) :
    (Program.perform a >>= next).wp (M.historyLogic i issue) Q h :=
  wp_history_act.mpr ⟨may, rest⟩

/-- `wp_perform` in a program that is lifted among more actions. -/
theorem wp_through_perform {Act₀ α : Type} {Ans₀ : Act₀ → Type} {emb : Act₀ → Act}
    {read : ∀ a, Ans (emb a) → Ans₀ a} {i : Nat} {issue : List (Event Act Env σ) → Act → Prop}
    {a : Act₀} {next : Ans₀ a → Program Act₀ Ans₀ α} {Q : α → List (Event Act Env σ) → Prop}
    {h : List (Event Act Env σ)} (may : issue h (emb a))
    (rest : ∀ s env, (next (read a (M.exec s (emb a) env).1)).wp
      ((M.historyLogic i issue).through emb read) Q (h ++ [M.event i s (emb a) env])) :
    (Program.perform a >>= next).wp ((M.historyLogic i issue).through emb read) Q h := by
  refine ⟨may, ?_⟩
  rintro _ _ ⟨_, rfl, s, env, rfl, rfl⟩
  exact rest s env

/-- What remains of a thread still meets its specification, at the history the
run has given it. -/
theorem Run.thread {c c' : Config Act Ans σ} {trace : List (Event Act Env σ)}
    (run : M.Run c trace c') {i : Nat} {p : Program Act Ans Unit}
    {issue : List (Event Act Env σ) → Act → Prop} {Q : Unit → List (Event Act Env σ) → Prop}
    (found : c.threads[i]? = some p) (holds : p.wp (M.historyLogic i issue) Q []) :
    ∃ p', c'.threads[i]? = some p' ∧ p'.wp (M.historyLogic i issue) Q (own i trace) := by
  induction run with
  | start => exact ⟨p, found, by simpa using holds⟩
  | @snoc trace c' c'' j env e run step ih =>
      obtain ⟨p', found', holds'⟩ := ih
      obtain ⟨a, next, acting, rfl, rfl⟩ := step_eq_some step
      by_cases mine : j = i
      · subst mine
        obtain rfl : p' = .act a next := Option.some.inj (found'.symm.trans acting)
        obtain ⟨inside, _⟩ := List.getElem?_eq_some_iff.mp found'
        refine ⟨_, List.getElem?_set_self inside, ?_⟩
        rw [own_concat, event_thread, if_pos rfl]
        exact (wp_history_act.mp holds').2 _ _
      · refine ⟨p', (List.getElem?_set_ne mine).trans found', ?_⟩
        rw [own_concat, event_thread, if_neg mine]
        exact holds'

/-- Every event of a run was issued under the specification of its thread. -/
theorem Run.issued {c c' : Config Act Ans σ} {pre post : List (Event Act Env σ)}
    {e : Event Act Env σ} (run : M.Run c (pre ++ e :: post) c') {p : Program Act Ans Unit}
    {issue : List (Event Act Env σ) → Act → Prop} {Q : Unit → List (Event Act Env σ) → Prop}
    (found : c.threads[e.thread]? = some p) (holds : p.wp (M.historyLogic e.thread issue) Q []) :
    issue (own e.thread pre) e.act := by
  obtain ⟨c₁, c₂, earlier, step, -⟩ := run.at
  obtain ⟨p', found', holds'⟩ := earlier.thread found holds
  obtain ⟨a, next, acting, same, -⟩ := step_eq_some step
  obtain rfl : p' = .act a next := Option.some.inj (found'.symm.trans acting)
  have act : e.act = a := congrArg Event.act same
  rw [act]
  exact (wp_history_act.mp holds').1

/-- The history of a program only grows. -/
theorem wp_history_grows {α : Type} {i : Nat} {issue : List (Event Act Env σ) → Act → Prop}
    {p : Program Act Ans α} {Q : α → List (Event Act Env σ) → Prop} {h : List (Event Act Env σ)}
    (holds : p.wp (M.historyLogic i issue) Q h) :
    p.wp (M.historyLogic i issue) (fun value h' => Q value h' ∧ ∀ e ∈ h, e ∈ h') h := by
  induction p generalizing h with
  | ret value => exact ⟨holds, fun _ member => member⟩
  | act a next ih =>
      rw [wp_history_act] at holds ⊢
      refine ⟨holds.1, fun s env => Program.wp_mono _ ?_ (ih _ (holds.2 s env))⟩
      rintro value h' ⟨good, kept⟩
      exact ⟨good, fun e member => kept e (List.mem_append_left _ member)⟩

/-- No step adds or removes a thread. -/
theorem Run.thread_some {c c' : Config Act Ans σ} {trace : List (Event Act Env σ)}
    (run : M.Run c trace c') {e : Event Act Env σ} (member : e ∈ trace) :
    ∃ p, c.threads[e.thread]? = some p := by
  have sameLength : ∀ {tr c'}, M.Run c tr c' → c'.threads.length = c.threads.length := by
    intro tr c' run
    induction run with
    | start => rfl
    | snoc _ step ih =>
        obtain ⟨_, _, _, -, rfl⟩ := step_eq_some step
        simpa using ih
  obtain ⟨pre, post, rfl⟩ := List.append_of_mem member
  obtain ⟨c₁, c₂, earlier, step, -⟩ := run.at
  obtain ⟨a, next, acting, -, -⟩ := step_eq_some step
  obtain ⟨inside, -⟩ := List.getElem?_eq_some_iff.mp acting
  rw [sameLength earlier] at inside
  exact ⟨_, List.getElem?_eq_getElem inside⟩

/-- An invariant of the shared state from what each thread does: a step keeps it that its
thread may take, after a history in which the thread has found it. -/
theorem Run.invariant {c c' : Config Act Ans σ} {trace : List (Event Act Env σ)}
    (run : M.Run c trace c') {I : σ → Prop} {good : Event Act Env σ → Prop}
    {issue : List (Event Act Env σ) → Act → Prop} (start : I c.state)
    (threads : ∀ (i : Nat) (p : Program Act Ans Unit), c.threads[i]? = some p →
      p.wp (M.historyLogic i issue) (fun _ _ => True) [])
    (outside : ∀ e ∈ trace, good e)
    (keeps : ∀ (h : List (Event Act Env σ)) (e : Event Act Env σ),
      (∀ e' ∈ h, I e'.before ∧ good e') → issue h e.act → I e.before →
      e.after = (M.exec e.before e.act e.env).2 → I e.after) :
    I c'.state ∧ ∀ e ∈ trace, I e.before := by
  induction run with
  | start => exact ⟨start, by simp⟩
  | @snoc trace c' c'' j env e run step ih =>
      obtain ⟨here, found⟩ := ih fun e' member => outside e' (List.mem_append_left _ member)
      obtain ⟨-, -, before, after, done⟩ := step_states step
      obtain ⟨p, begun⟩ := (run.snoc step).thread_some
        (List.mem_append_right trace (List.mem_singleton_self e))
      have issued : issue (own e.thread trace) e.act :=
        (run.snoc step).issued begun (threads _ p begun)
      have history : ∀ e' ∈ own e.thread trace, I e'.before ∧ good e' := by
        intro e' member
        have earlier := (List.mem_filter.mp member).1
        exact ⟨found e' earlier, outside e' (List.mem_append_left _ earlier)⟩
      rw [← before] at here
      refine ⟨after ▸ keeps _ e history issued here done, fun e' member => ?_⟩
      rcases List.mem_append.mp member with earlier | last
      · exact found e' earlier
      · obtain rfl := List.mem_singleton.mp last
        exact here

/-! ## A program alone, event by event -/

section Alone

variable {α β : Type} (M) (i : Nat)

/-- The events of a program that `Program.run` runs, as thread `i`. -/
def events : Program Act Ans α → σ → (Nat → Env) → List (Event Act Env σ)
  | .ret _, _, _ => []
  | .act a next, s, outside =>
      M.event i s a (outside 0) ::
        events (next (M.exec s a (outside 0)).1) (M.exec s a (outside 0)).2
          fun n => outside (n + 1)

@[simp] theorem events_ret (value : α) (s : σ) (outside : Nat → Env) :
    M.events i (.ret value : Program Act Ans α) s outside = [] := rfl

@[simp] theorem events_act (a : Act) (next : Ans a → Program Act Ans α) (s : σ)
    (outside : Nat → Env) :
    M.events i (.act a next) s outside =
      M.event i s a (outside 0) ::
        M.events i (next (M.exec s a (outside 0)).1) (M.exec s a (outside 0)).2
          fun n => outside (n + 1) := rfl

@[simp] theorem events_perform (a : Act) (s : σ) (outside : Nat → Env) :
    M.events i (Program.perform a : Program Act Ans (Ans a)) s outside =
      [M.event i s a (outside 0)] := rfl

/-- The second program goes on where the first has stopped. -/
theorem events_bind (p : Program Act Ans α) (f : α → Program Act Ans β) (s : σ)
    (outside : Nat → Env) :
    ∃ later, M.events i (p >>= f) s outside =
      M.events i p s outside ++
        M.events i (f (p.run M s outside).1) (p.run M s outside).2 later := by
  induction p generalizing s outside with
  | ret value => exact ⟨outside, rfl⟩
  | act a next ih =>
      obtain ⟨later, split⟩ := ih (M.exec s a (outside 0)).1 (M.exec s a (outside 0)).2
        fun n => outside (n + 1)
      exact ⟨later, congrArg (M.event i s a (outside 0) :: ·) split⟩

/-- What `wp` promises over histories, every run alone delivers. -/
theorem wp_events {p : Program Act Ans α} {issue : List (Event Act Env σ) → Act → Prop}
    {Q : α → List (Event Act Env σ) → Prop} {h : List (Event Act Env σ)}
    (holds : p.wp (M.historyLogic i issue) Q h) (s : σ) (outside : Nat → Env) :
    Q (p.run M s outside).1 (h ++ M.events i p s outside) := by
  induction p generalizing h s outside with
  | ret value => simpa using holds
  | act a next ih =>
      have rest := ih _ ((wp_history_act.mp holds).2 s (outside 0)) (M.exec s a (outside 0)).2
        fun n => outside (n + 1)
      simpa using rest

/-- Each event has its part of the outside world. -/
theorem events_env {p : Program Act Ans α} {s : σ} {outside : Nat → Env} {e : Event Act Env σ}
    (member : e ∈ M.events i p s outside) : ∃ n, e.env = outside n := by
  induction p generalizing s outside with
  | ret value => cases member
  | act a next ih =>
      rcases List.mem_cons.mp member with rfl | later
      · exact ⟨0, rfl⟩
      · obtain ⟨n, same⟩ := ih _ later
        exact ⟨n + 1, same⟩

/-- A program performs what it may. -/
theorem events_performs {may : Act → Prop} {p : Program Act Ans α} (performs : p.Performs may)
    {s : σ} {outside : Nat → Env} {e : Event Act Env σ} (member : e ∈ M.events i p s outside) :
    may e.act := by
  induction p generalizing s outside with
  | ret value => cases member
  | act a next ih =>
      rcases List.mem_cons.mp member with rfl | later
      · exact performs.1
      · exact ih _ (performs.2 _) later

end Alone

/-! ## One given schedule -/

variable (M)

/-- Execute a schedule: who acts next, and what the outside world contributes.
Entries for threads that have finished are skipped. -/
def runFor : Config Act Ans σ → List (Nat × Env) → List (Event Act Env σ) × Config Act Ans σ
  | c, [] => ([], c)
  | c, (i, env) :: rest =>
      match M.step c i env with
      | some (e, c') => (e :: (runFor c' rest).1, (runFor c' rest).2)
      | none => runFor c rest

theorem run_runFor (c : Config Act Ans σ) (schedule : List (Nat × Env)) :
    M.Run c (M.runFor c schedule).1 (M.runFor c schedule).2 := by
  induction schedule generalizing c with
  | nil => exact .start
  | cons entry rest ih =>
      obtain ⟨i, env⟩ := entry
      rw [runFor]
      split
      · rename_i e c' step
        have first : M.Run c [e] c' := .snoc .start step
        exact first.trans (ih c')
      · exact ih c

end Machine

end VpsDashboard.Foundation
