/-
# VpsDashboard.Frontend.HomeLayout — the widgets of the home page, edited from two pages

The layout of the home page is a list whose widget ids are React keys and the lookup key
of every operation.  The home page moves, resizes, removes and adds widgets, the settings
page switches them on and off, and a reload reads what was saved, or builds a layout from
the list of ids of an old install.

* `home_layout_invariant` — over every registry and from every stored state the app can
  find, the ids stay distinct through every sequence of these, also when a page computes
  the next layout from an earlier one than the current; and in every state that is reached,
  each operation edits the layout on display as its name says and leaves the order and the
  spans of the widgets that it is not about alone;
* `represents_move`, `represents_setSpan`, `represents_remove`, `represents_add` — these
  operations are the ones of `VpsDashboard.Frontend.Settings`, whose layouts are JSON.
-/
import VpsDashboard.Foundation.Guarded
import VpsDashboard.Frontend.Settings
import Mathlib.Data.List.Nodup
import Mathlib.Data.List.Perm.Basic

namespace VpsDashboard.Frontend

open Foundation

set_option autoImplicit false

/-! ## Moving one item of a list -/

section Relocate

variable {α : Type}

/-- The list with the item at `i` taken out and put in at `j`: two splices. -/
def relocate (l : List α) (i j : Nat) : List α :=
  match l[i]? with
  | none => l
  | some item => (l.eraseIdx i).insertIdx j item

variable {l : List α} {i j : Nat}

theorem relocate_eq (inside : i < l.length) :
    relocate l i j = (l.eraseIdx i).insertIdx j l[i] := by
  rw [relocate, List.getElem?_eq_getElem inside]

theorem relocate_perm (inside : i < l.length) (target : j < l.length) :
    (relocate l i j).Perm l := by
  rw [relocate_eq inside]
  have room : j ≤ (l.eraseIdx i).length := by
    rw [List.length_eraseIdx_of_lt inside]
    omega
  exact (List.perm_insertIdx l[i] _ room).trans (List.getElem_cons_eraseIdx_perm inside)

theorem relocate_getElem? (inside : i < l.length) (target : j < l.length) :
    (relocate l i j)[j]? = l[i]? := by
  have room : j ≤ (l.eraseIdx i).length := by
    rw [List.length_eraseIdx_of_lt inside]
    omega
  rw [relocate_eq inside, List.getElem?_insertIdx_self, if_pos room,
    List.getElem?_eq_getElem inside]

/-- The other items stay as they are. -/
theorem relocate_eraseIdx (inside : i < l.length) :
    (relocate l i j).eraseIdx j = l.eraseIdx i := by
  rw [relocate_eq inside, List.eraseIdx_insertIdx_self]

theorem relocate_relocate (inside : i < l.length) (target : j < l.length) :
    relocate (relocate l i j) j i = l := by
  have placed := relocate_getElem? inside target
  rw [List.getElem?_eq_getElem inside] at placed
  rw [relocate, placed]
  dsimp only
  rw [relocate_eraseIdx inside, List.insertIdx_eraseIdx_getElem inside]

end Relocate

/-! ## Layouts -/

structure HomeWidget where
  id : String
  span : Int
deriving DecidableEq

/-- `WIDGET_DEFS`, whose ids are distinct. -/
structure Registry where
  defs : List WidgetDef
  distinct : (defs.map WidgetDef.id).Nodup

def shipped : Registry := ⟨widgetDefs, by decide⟩

namespace HomeLayout

def ids (layout : List HomeWidget) : List String := layout.map HomeWidget.id

/-- No two widgets have one id. -/
def Distinct (layout : List HomeWidget) : Prop := (ids layout).Nodup

instance (layout : List HomeWidget) : Decidable (Distinct layout) :=
  inferInstanceAs (Decidable (List.Nodup _))

/-- The widgets other than this one. -/
def others (id : String) (layout : List HomeWidget) : List HomeWidget :=
  layout.filter fun w => w.id != id

def ofDef (w : WidgetDef) : HomeWidget := ⟨w.id, w.defaultSpan⟩

variable (r : Registry)

def defaultHomeLayout : List HomeWidget := r.defs.map ofDef

def layoutFromWidgetIds (ids : List String) : List HomeWidget :=
  (r.defs.filter fun w => ids.contains w.id).map ofDef

/-- `move(source, target)`: none when the handler returns without a next layout. -/
def move (layout : List HomeWidget) (source target : Int) : Option (List HomeWidget) :=
  if source = target ∨ source < 0 ∨ target < 0 ∨ layout.length ≤ source ∨
      layout.length ≤ target then none
  else some (relocate layout source.toNat target.toNat)

def setSpan (layout : List HomeWidget) (id : String) (span : Int) : List HomeWidget :=
  layout.map fun w => if w.id = id then { w with span := span } else w

def remove (layout : List HomeWidget) (id : String) : List HomeWidget :=
  layout.filter fun w => w.id != id

def add (layout : List HomeWidget) (id : String) : List HomeWidget :=
  let def_ := r.defs.find? fun w => w.id == id
  layout ++ [⟨id, (def_.map WidgetDef.defaultSpan).getD 1⟩]

/-- Whether the layout has a widget of this id. -/
def has (layout : List HomeWidget) (id : String) : Bool := layout.any fun w => w.id == id

def available (layout : List HomeWidget) : List WidgetDef :=
  r.defs.filter fun w => !has layout w.id

/-- The `onChange` of the checkbox of this widget. -/
def toggle (layout : List HomeWidget) (w : WidgetDef) (checked : Bool) : List HomeWidget :=
  if checked then layout ++ [ofDef w] else remove layout w.id

end HomeLayout

/-! ## A session -/

/-- The two fields of the stored document that the layout is loaded from. -/
structure StoredLayout where
  homeWidgets : Option (List String)
  homeLayout : Option (List HomeWidget)

/-- What the app can find in the storage: nothing, the list of ids of an old install, or
settings saved by itself. -/
inductive InitialStorage where
  | empty
  | legacy (homeWidgets : List String)
  | saved (homeWidgets : List String) (layout : List HomeWidget)
      (distinct : HomeLayout.Distinct layout)

def InitialStorage.item : InitialStorage → Option StoredLayout
  | .empty => none
  | .legacy homeWidgets => some ⟨some homeWidgets, none⟩
  | .saved homeWidgets layout _ => some ⟨some homeWidgets, some layout⟩

/-- The storage, the settings of the provider, and the layout that the page on display was
rendered with: a handler computes its patch from the latter. -/
structure HomeSession where
  stored : Option StoredLayout
  homeWidgets : List String
  homeLayout : List HomeWidget
  rendered : List HomeWidget

/-- `otherSetting` is a call of `updateSettings` that has no layout in its patch. -/
inductive HomeAction where
  | move (source target : Int)
  | setSpan (id : String) (span : Int)
  | remove (id : String)
  | add (id : String)
  | toggle (id : String)
  | otherSetting
  | render
  | reload

namespace HomeSession

variable (r : Registry) (defaultWidgets : List String)

def load (stored : Option StoredLayout) : HomeSession :=
  match stored with
  | none => ⟨none, defaultWidgets, HomeLayout.defaultHomeLayout r, HomeLayout.defaultHomeLayout r⟩
  | some parsed =>
      let layout :=
        match parsed.homeLayout with
        | some (first :: rest) => first :: rest
        | _ =>
            match parsed.homeWidgets with
            | some ids => HomeLayout.layoutFromWidgetIds r ids
            | none => HomeLayout.defaultHomeLayout r
      ⟨some parsed, parsed.homeWidgets.getD defaultWidgets, layout, layout⟩

/-- `updateSettings({ homeLayout: next })`, which also saves the settings. -/
def updateLayout (s : HomeSession) (next : List HomeWidget) : HomeSession :=
  { s with stored := some ⟨some s.homeWidgets, some next⟩, homeLayout := next }

/-- A widget is added where the page offers it, and a checkbox shown for every widget of
the registry; a click turns what it shows. -/
def step (s : HomeSession) : HomeAction → Option HomeSession
  | .move source target =>
      match HomeLayout.move s.rendered source target with
      | none => some s
      | some next => some (s.updateLayout next)
  | .setSpan id span => some (s.updateLayout (HomeLayout.setSpan s.rendered id span))
  | .remove id => some (s.updateLayout (HomeLayout.remove s.rendered id))
  | .add id =>
      if (HomeLayout.available r s.rendered).any fun w => w.id == id then
        some (s.updateLayout (HomeLayout.add r s.rendered id))
      else none
  | .toggle id =>
      match r.defs.find? fun w => w.id == id with
      | none => none
      | some w =>
          some (s.updateLayout (HomeLayout.toggle s.rendered w (!HomeLayout.has s.rendered w.id)))
  | .otherSetting => some (s.updateLayout s.homeLayout)
  | .render => some { s with rendered := s.homeLayout }
  | .reload => some (load r defaultWidgets s.stored)

end HomeSession

/-! ## What an operation leaves alone -/

namespace HomeLayout

variable {r : Registry} {layout : List HomeWidget} {id : String}

/-- `next` is `layout` with the widget at `source` put at `target`. -/
structure Moved (layout next : List HomeWidget) (source target : Nat) : Prop where
  perm : next.Perm layout
  placed : next[target]? = layout[source]?
  others : next.eraseIdx target = layout.eraseIdx source

theorem move_valid {source target : Nat} (inside : source < layout.length)
    (room : target < layout.length) (differ : source ≠ target) :
    move layout source target = some (relocate layout source target) := by
  have guard : ¬ ((source : Int) = target ∨ (source : Int) < 0 ∨ (target : Int) < 0 ∨
      (layout.length : Int) ≤ source ∨ (layout.length : Int) ≤ target) := by omega
  rw [move, if_neg guard]
  rfl

theorem moved_relocate {source target : Nat} (inside : source < layout.length)
    (room : target < layout.length) :
    Moved layout (relocate layout source target) source target :=
  ⟨relocate_perm inside room, relocate_getElem? inside room, relocate_eraseIdx inside⟩

theorem move_invalid {source target : Int}
    (invalid : source = target ∨
      ¬ (0 ≤ source ∧ source < layout.length ∧ 0 ≤ target ∧ target < layout.length)) :
    move layout source target = none :=
  if_pos (by omega)

theorem ids_setSpan (layout : List HomeWidget) (id : String) (span : Int) :
    ids (setSpan layout id span) = ids layout := by
  rw [ids, setSpan, List.map_map]
  apply List.map_congr_left
  intro w _
  simp only [Function.comp_apply]
  split <;> rfl

theorem others_setSpan (layout : List HomeWidget) (id : String) (span : Int) :
    others id (setSpan layout id span) = others id layout := by
  induction layout with
  | nil => rfl
  | cons w layout ih =>
      simp only [others, setSpan, List.map_cons, List.filter_cons] at ih ⊢
      by_cases mine : w.id = id
      · simp [mine, ih]
      · simp [mine, ih]

theorem span_setSpan {w : HomeWidget} {span : Int} (member : w ∈ setSpan layout id span)
    (mine : w.id = id) : w.span = span := by
  obtain ⟨old, -, rfl⟩ := List.mem_map.mp member
  split at mine
  · rename_i same
    rw [if_pos same]
  · rename_i other
    exact absurd mine other

/-- The ids of the registry are distinct. -/
theorem Registry.find_of_mem (r : Registry) {w : WidgetDef} (listed : w ∈ r.defs) :
    r.defs.find? (fun w' => w'.id == w.id) = some w := by
  have found : (r.defs.find? fun w' => w'.id == w.id).isSome :=
    List.find?_isSome.mpr ⟨w, listed, beq_self_eq_true w.id⟩
  obtain ⟨w', first⟩ := Option.isSome_iff_exists.mp found
  have same : w'.id = w.id := by simpa using List.find?_some first
  rw [first, List.inj_on_of_nodup_map r.distinct (List.mem_of_find?_eq_some first) listed same]

theorem add_of_mem {w : WidgetDef} (listed : w ∈ r.defs) :
    add r layout w.id = layout ++ [ofDef w] := by
  rw [add, Registry.find_of_mem r listed]
  rfl

theorem has_eq_true_iff (layout : List HomeWidget) (id : String) :
    has layout id = true ↔ id ∈ ids layout := by
  simp [has, ids]

theorem others_toggle (layout : List HomeWidget) (w : WidgetDef) (checked : Bool) :
    others w.id (toggle layout w checked) = others w.id layout := by
  unfold toggle
  split
  · simp [others, ofDef]
  · simp [others, remove]

/-- A click on the checkbox takes the widget out or puts it in. -/
theorem mem_toggle (layout : List HomeWidget) (w : WidgetDef) :
    w.id ∈ ids (toggle layout w (!has layout w.id)) ↔ w.id ∉ ids layout := by
  rw [← has_eq_true_iff layout]
  cases has layout w.id
  · simp [toggle, ids, ofDef]
  · simp [toggle, ids, remove]

/-! ## The ids stay distinct -/

theorem distinct_ofDefs {defs : List WidgetDef} (listed : defs.Sublist r.defs) :
    Distinct (defs.map ofDef) := by
  have same : ids (defs.map ofDef) = defs.map WidgetDef.id := by
    rw [ids, List.map_map]
    rfl
  rw [Distinct, same]
  exact r.distinct.sublist (listed.map _)

theorem Distinct.move {next : List HomeWidget} {source target : Int} (distinct : Distinct layout)
    (moves : move layout source target = some next) : Distinct next := by
  unfold HomeLayout.move at moves
  split at moves
  · cases moves
  · rename_i valid
    obtain rfl := Option.some.inj moves
    have perm := relocate_perm (l := layout) (i := source.toNat) (j := target.toNat)
      (by omega) (by omega)
    exact (perm.map HomeWidget.id).nodup_iff.mpr distinct

theorem Distinct.setSpan (distinct : Distinct layout) (id : String) (span : Int) :
    Distinct (setSpan layout id span) := by
  rw [Distinct, ids_setSpan]
  exact distinct

theorem Distinct.remove (distinct : Distinct layout) (id : String) : Distinct (remove layout id) :=
  List.Nodup.sublist (List.filter_sublist.map _) distinct

/-- A widget whose id is not in the layout is put at its end. -/
theorem Distinct.append (distinct : Distinct layout) {w : HomeWidget}
    (missing : has layout w.id = false) : Distinct (layout ++ [w]) := by
  rw [Distinct, ids, List.map_append]
  refine List.nodup_append.mpr ⟨distinct, List.pairwise_singleton _ _, ?_⟩
  intro a inside b single same
  obtain rfl := List.mem_singleton.mp single
  obtain ⟨old, there, rfl⟩ := List.mem_map.mp inside
  have found : has layout w.id = true := List.any_eq_true.mpr ⟨old, there, by simpa using same⟩
  rw [missing] at found
  cases found

theorem Distinct.add (distinct : Distinct layout)
    (offered : ((available r layout).any fun w => w.id == id) = true) :
    Distinct (add r layout id) := by
  obtain ⟨w, listed, same⟩ := List.any_eq_true.mp offered
  obtain rfl : w.id = id := by simpa using same
  apply distinct.append
  simpa using (List.mem_filter.mp listed).2

theorem Distinct.toggle (distinct : Distinct layout) (w : WidgetDef) :
    Distinct (toggle layout w (!has layout w.id)) := by
  rw [HomeLayout.toggle]
  split
  · rename_i missing
    have absent : has layout w.id = false := by simpa using missing
    exact distinct.append (w := ofDef w) absent
  · exact distinct.remove w.id

end HomeLayout

namespace HomeSession

open HomeLayout (Distinct)

variable {r : Registry} {defaultWidgets : List String} {s s' : HomeSession}

/-- The layout in use, the one on display and the one in the storage have distinct ids. -/
structure AllDistinct (s : HomeSession) : Prop where
  current : Distinct s.homeLayout
  displayed : Distinct s.rendered
  stored : ∀ item ∈ s.stored, ∀ layout ∈ item.homeLayout, Distinct layout

theorem allDistinct_load {stored : Option StoredLayout}
    (held : ∀ item ∈ stored, ∀ layout ∈ item.homeLayout, Distinct layout) :
    (load r defaultWidgets stored).AllDistinct := by
  have whole : Distinct (HomeLayout.defaultHomeLayout r) :=
    HomeLayout.distinct_ofDefs (List.Sublist.refl _)
  cases stored with
  | none => exact ⟨whole, whole, nofun⟩
  | some parsed =>
      have loaded : Distinct (load r defaultWidgets (some parsed)).homeLayout := by
        simp only [load]
        split
        · rename_i first rest found
          exact held parsed rfl _ found
        · split
          · exact HomeLayout.distinct_ofDefs List.filter_sublist
          · exact whole
      exact ⟨loaded, loaded, held⟩

theorem AllDistinct.updateLayout (all : s.AllDistinct) {next : List HomeWidget}
    (distinct : Distinct next) : (s.updateLayout next).AllDistinct := by
  refine ⟨distinct, all.displayed, ?_⟩
  intro item saved layout found
  obtain rfl := Option.some.inj saved
  obtain rfl := Option.some.inj found
  exact distinct

theorem AllDistinct.step {a : HomeAction} (all : s.AllDistinct)
    (stepped : step r defaultWidgets s a = some s') : s'.AllDistinct := by
  cases a with
  | move source target =>
      simp only [HomeSession.step] at stepped
      split at stepped
      · obtain rfl := Option.some.inj stepped
        exact all
      · rename_i next moves
        obtain rfl := Option.some.inj stepped
        exact all.updateLayout (all.displayed.move moves)
  | setSpan id span =>
      obtain rfl := Option.some.inj stepped
      exact all.updateLayout (all.displayed.setSpan id span)
  | remove id =>
      obtain rfl := Option.some.inj stepped
      exact all.updateLayout (all.displayed.remove id)
  | add id =>
      simp only [HomeSession.step] at stepped
      split at stepped
      · rename_i offered
        obtain rfl := Option.some.inj stepped
        exact all.updateLayout (all.displayed.add offered)
      · cases stepped
  | toggle id =>
      simp only [HomeSession.step] at stepped
      split at stepped
      · cases stepped
      · rename_i w found
        obtain rfl := Option.some.inj stepped
        exact all.updateLayout (all.displayed.toggle w)
  | otherSetting =>
      obtain rfl := Option.some.inj stepped
      exact all.updateLayout all.current
  | render =>
      obtain rfl := Option.some.inj stepped
      exact ⟨all.current, all.current, all.stored⟩
  | reload =>
      obtain rfl := Option.some.inj stepped
      exact allDistinct_load all.stored

theorem allDistinct_steps (initial : InitialStorage) {actions : List HomeAction}
    (ran : Guarded.steps (step r defaultWidgets) (load r defaultWidgets initial.item) actions =
      some s) : s.AllDistinct := by
  refine Guarded.steps_invariant (fun all stepped => all.step stepped) (allDistinct_load ?_) ran
  intro item there layout found
  cases initial with
  | empty => cases there
  | legacy homeWidgets =>
      obtain rfl := Option.some.inj there
      cases found
  | saved homeWidgets layout distinct =>
      obtain rfl := Option.some.inj there
      obtain rfl := Option.some.inj found
      exact distinct

end HomeSession

/-! ## The invariant -/

namespace HomeSession

open HomeLayout

variable (r : Registry) (defaultWidgets : List String)

/-- The page carries `a` out, and the layout that is then in use, and saved, is as `P` says. -/
def Edits (s : HomeSession) (a : HomeAction) (P : List HomeWidget → Prop) : Prop :=
  ∃ s', step r defaultWidgets s a = some s' ∧ P s'.homeLayout ∧
    s'.stored = some ⟨some s.homeWidgets, some s'.homeLayout⟩

/-- What the operations of the two pages do to the layout that is on display. -/
structure OrderKept (s : HomeSession) : Prop where
  moved : ∀ source target : Nat, source < s.rendered.length → target < s.rendered.length →
    source ≠ target →
      Edits r defaultWidgets s (.move source target) fun next => Moved s.rendered next source target
  undone : ∀ source target : Nat, source < s.rendered.length → target < s.rendered.length →
    source ≠ target →
      ∃ s', Guarded.steps (step r defaultWidgets) s
        [.move source target, .render, .move target source] = some s' ∧ s'.homeLayout = s.rendered
  unmoved : ∀ source target : Int, (source = target ∨
    ¬ (0 ≤ source ∧ source < s.rendered.length ∧ 0 ≤ target ∧ target < s.rendered.length)) →
      step r defaultWidgets s (.move source target) = some s
  resized : ∀ id span, Edits r defaultWidgets s (.setSpan id span) fun next =>
    ids next = ids s.rendered ∧ others id next = others id s.rendered ∧
      ∀ w ∈ next, w.id = id → w.span = span
  removed : ∀ id, Edits r defaultWidgets s (.remove id) fun next => next = others id s.rendered
  added : ∀ w ∈ available r s.rendered, Edits r defaultWidgets s (.add w.id) fun next =>
    next = s.rendered ++ [ofDef w]
  toggled : ∀ w ∈ r.defs, Edits r defaultWidgets s (.toggle w.id) fun next =>
    others w.id next = others w.id s.rendered ∧ (w.id ∈ ids next ↔ w.id ∉ ids s.rendered)

variable {r defaultWidgets} {s : HomeSession}

theorem step_move {source target : Nat} (inside : source < s.rendered.length)
    (room : target < s.rendered.length) (differ : source ≠ target) :
    step r defaultWidgets s (.move source target) =
      some (s.updateLayout (relocate s.rendered source target)) := by
  simp only [step, move_valid inside room differ]

theorem orderKept (r : Registry) (defaultWidgets : List String) (s : HomeSession) :
    OrderKept r defaultWidgets s := by
  constructor
  case moved =>
    intro source target inside room differ
    exact ⟨_, step_move inside room differ, moved_relocate inside room, rfl⟩
  case undone =>
    intro source target inside room differ
    have length := (relocate_perm inside room).length_eq
    -- The second move is made on the page that shows the result of the first.
    let shown : HomeSession :=
      { s.updateLayout (relocate s.rendered source target) with
        rendered := relocate s.rendered source target }
    have back : step r defaultWidgets shown (.move target source) =
        some (shown.updateLayout (relocate shown.rendered target source)) :=
      step_move (by simp only [shown]; omega) (by simp only [shown]; omega) differ.symm
    refine ⟨shown.updateLayout (relocate shown.rendered target source), ?_,
      relocate_relocate inside room⟩
    simp only [Guarded.steps, step_move inside room differ, Option.bind_some]
    exact congrArg (Option.bind · some) back
  case unmoved =>
    intro source target invalid
    simp only [step, move_invalid invalid]
  case resized =>
    intro id span
    exact ⟨_, rfl, ⟨ids_setSpan s.rendered id span, others_setSpan s.rendered id span,
      fun _ => span_setSpan⟩, rfl⟩
  case removed => exact fun id => ⟨_, rfl, rfl, rfl⟩
  case added =>
    intro w offered
    have listed : w ∈ r.defs := List.mem_of_mem_filter offered
    have shown : ((available r s.rendered).any fun w' => w'.id == w.id) = true :=
      List.any_eq_true.mpr ⟨w, offered, beq_self_eq_true w.id⟩
    exact ⟨s.updateLayout (HomeLayout.add r s.rendered w.id), if_pos shown, add_of_mem listed, rfl⟩
  case toggled =>
    intro w listed
    refine ⟨s.updateLayout (toggle s.rendered w (!has s.rendered w.id)), ?_,
      ⟨others_toggle s.rendered w _, mem_toggle s.rendered w⟩, rfl⟩
    simp only [step, Registry.find_of_mem r listed]

end HomeSession

open HomeSession in
/-- **The home layout invariant.**  Through every sequence of edits on both pages, renders
and reloads the widget ids stay distinct, in the settings and on the page, and every
operation that a page then offers does to the layout on display what it is for and keeps
what it is not about. -/
theorem home_layout_invariant (r : Registry) (defaultWidgets : List String)
    (initial : InitialStorage) {actions : List HomeAction} {s : HomeSession}
    (ran : Guarded.steps (step r defaultWidgets) (load r defaultWidgets initial.item) actions =
      some s) :
    HomeLayout.Distinct s.homeLayout ∧ HomeLayout.Distinct s.rendered ∧
      OrderKept r defaultWidgets s := by
  have all := allDistinct_steps initial ran
  exact ⟨all.current, all.displayed, orderKept r defaultWidgets s⟩

open HomeSession in
/-- A legacy list with a repetition and an unknown id; the two widgets are swapped, the
third is switched on, and the page is loaded again.  The last widget is then moved to the
front. -/
theorem home_layout_invariant_legacy :
    ∃ s, Guarded.steps (step shipped []) (load shipped []
        (InitialStorage.legacy ["crosswatch", "metrics-summary", "crosswatch", "clock"]).item)
        [.move 0 1, .render, .toggle "containers-summary", .reload] = some s ∧
      s.homeLayout = [⟨"crosswatch", 2⟩, ⟨"metrics-summary", 2⟩, ⟨"containers-summary", 1⟩] ∧
      HomeLayout.Distinct s.homeLayout ∧
      ∃ s', step shipped [] s (.move 2 0) = some s' ∧
        HomeLayout.Moved s.homeLayout s'.homeLayout 2 0 ∧
        s'.homeLayout = [⟨"containers-summary", 1⟩, ⟨"crosswatch", 2⟩, ⟨"metrics-summary", 2⟩] := by
  have ran : (Guarded.steps (step shipped []) (load shipped []
      (InitialStorage.legacy ["crosswatch", "metrics-summary", "crosswatch", "clock"]).item)
      [.move 0 1, .render, .toggle "containers-summary", .reload]).map
        (fun s => (s.homeLayout, s.rendered)) =
      some ([⟨"crosswatch", 2⟩, ⟨"metrics-summary", 2⟩, ⟨"containers-summary", 1⟩],
        [⟨"crosswatch", 2⟩, ⟨"metrics-summary", 2⟩, ⟨"containers-summary", 1⟩]) := by
    decide +kernel
  obtain ⟨s, reached, layouts⟩ := Option.map_eq_some_iff.mp ran
  obtain ⟨layout, shown⟩ := Prod.mk.inj layouts
  obtain ⟨distinct, -, kept⟩ := home_layout_invariant shipped [] (.legacy ["crosswatch",
    "metrics-summary", "crosswatch", "clock"]) reached
  obtain ⟨s', moved, order, -⟩ := kept.moved 2 0 (by simp [shown]) (by simp [shown]) (by decide)
  refine ⟨s, reached, layout, distinct, s', moved, ?_, ?_⟩
  · rw [layout, ← shown]
    exact order
  · have next : step shipped [] s (.move 2 0) =
        some (s.updateLayout (relocate s.rendered 2 0)) :=
      step_move (by simp [shown]) (by simp [shown]) (by decide)
    obtain rfl := Option.some.inj (moved.symm.trans next)
    change relocate s.rendered 2 0 = _
    rw [shown]
    decide

/-! ## The layouts of the settings -/

/-- The id and the span that the pages read from an entry. -/
def Reads (w : Json) (h : HomeWidget) : Prop :=
  w.property "id" = some (.str h.id) ∧ w.property "span" = some (.int h.span)

/-- A layout of the settings, as JSON, and the widgets that the pages read from it. -/
def Represents (stored : List Json) (layout : List HomeWidget) : Prop :=
  List.Forall₂ Reads stored layout

section Represents

variable {stored : List Json} {layout : List HomeWidget}

theorem reads_homeWidgetLayout (id : String) (span : Int) :
    Reads (homeWidgetLayout id span) ⟨id, span⟩ := ⟨rfl, rfl⟩

theorem isWidget_eq {w : Json} {h : HomeWidget} (reads : Reads w h) (id : String) :
    isWidget id w = (h.id == id) := by
  rw [isWidget, reads.1]
  rfl

theorem reads_span {w : Json} {h : HomeWidget} (reads : Reads w h) (span : Int) :
    Reads (.obj (w.ownProperties ++ [("span", .int span)])) { h with span := span } := by
  cases w with
  | obj members => exact ⟨(JsObject.get_append_of_none rfl members).trans reads.1,
      JsObject.get_append_of_some rfl members⟩
  | _ => cases reads.1

/-- Two lists that correspond item by item still do after the same move. -/
theorem represents_relocate (same : Represents stored layout) (i j : Nat) :
    Represents (relocate stored i j) (relocate layout i j) := by
  have erase : ∀ {stored layout}, Represents stored layout → ∀ i,
      Represents (stored.eraseIdx i) (layout.eraseIdx i) := by
    intro stored layout same
    induction same with
    | nil => exact fun _ => .nil
    | cons first rest ih =>
        intro i
        cases i with
        | zero => exact rest
        | succ i => exact .cons first (ih i)
  have insert : ∀ {stored layout w h}, Represents stored layout → Reads w h → ∀ j,
      Represents (stored.insertIdx j w) (layout.insertIdx j h) := by
    intro stored layout w h same reads j
    induction same generalizing j with
    | nil =>
        cases j with
        | zero => exact .cons reads .nil
        | succ j => exact .nil
    | cons first rest ih =>
        cases j with
        | zero => exact .cons reads (.cons first rest)
        | succ j => exact .cons first (ih j)
  have length := same.length_eq
  by_cases inside : i < layout.length
  · have inside' : i < stored.length := by omega
    rw [relocate_eq inside, relocate_eq inside']
    exact insert (erase same i) (same.get inside' inside) j
  · rw [relocate, relocate, List.getElem?_eq_none (by omega), List.getElem?_eq_none (by omega)]
    exact same

theorem represents_move (same : Represents stored layout) (source target : Int) :
    Option.Rel Represents (Frontend.move stored source target)
      (HomeLayout.move layout source target) := by
  have length := same.length_eq
  rw [Frontend.move, HomeLayout.move, length]
  split
  · exact .none
  · have inside : source.toNat < stored.length := by omega
    have moves : (do
        let item ← stored[source.toNat]?
        return (stored.eraseIdx source.toNat).insertIdx target.toNat item) =
          some (relocate stored source.toNat target.toNat) := by
      rw [relocate_eq inside, List.getElem?_eq_getElem inside]
      rfl
    rw [moves]
    exact .some (represents_relocate same source.toNat target.toNat)

theorem represents_setSpan (same : Represents stored layout) (id : String) (span : Int) :
    Represents (Frontend.setSpan stored id span) (HomeLayout.setSpan layout id span) := by
  refine List.forall₂_map_left_iff.mpr (List.forall₂_map_right_iff.mpr (same.imp ?_))
  intro w h reads
  rw [isWidget_eq reads]
  by_cases mine : h.id = id
  · rw [if_pos mine, if_pos (by simpa using mine)]
    exact reads_span reads span
  · rw [if_neg mine, if_neg (by simpa using mine)]
    exact reads

theorem represents_remove (same : Represents stored layout) (id : String) :
    Represents (Frontend.remove stored id) (HomeLayout.remove layout id) := by
  unfold Frontend.remove HomeLayout.remove
  induction same with
  | nil => exact .nil
  | cons reads _ ih =>
      rw [List.filter_cons, List.filter_cons, isWidget_eq reads, bne]
      split
      · exact .cons reads ih
      · exact ih

theorem represents_append (same : Represents stored layout) (id : String) (span : Int) :
    Represents (stored ++ [homeWidgetLayout id span]) (layout ++ [⟨id, span⟩]) :=
  List.rel_append same (.cons (reads_homeWidgetLayout id span) .nil)

theorem represents_add (same : Represents stored layout) (id : String) :
    Represents (Frontend.add stored id) (HomeLayout.add shipped layout id) :=
  represents_append same id _

theorem represents_layoutFromWidgetIds (ids : List String) :
    Represents (Frontend.layoutFromWidgetIds (ids.map .str))
      (HomeLayout.layoutFromWidgetIds shipped ids) := by
  have named : ∀ w : WidgetDef, (ids.map Json.str).any (Json.isText w.id) = ids.contains w.id := by
    intro w
    rw [List.any_map, List.contains_eq_any_beq]
    exact congrArg (List.any ids) (funext fun id => Bool.beq_comm)
  unfold Frontend.layoutFromWidgetIds HomeLayout.layoutFromWidgetIds
  simp only [named]
  refine List.forall₂_map_left_iff.mpr (List.forall₂_map_right_iff.mpr ?_)
  exact List.forall₂_same.mpr fun w _ => reads_homeWidgetLayout w.id w.defaultSpan

end Represents

end VpsDashboard.Frontend
