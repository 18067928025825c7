/-
# VpsDashboard.Frontend.StoredSettings — the settings document over whole sessions

Nothing checks a settings document when it is loaded; the pages read `homeLayout`, the
colours and the pins from it as they are.  What keeps it in shape is what the pages write.

`settings_well_formed` — from an empty storage, one that is no JSON, or a document whose
fields, as far as it has them, are of the types in use, every sequence of edits on the
three pages, renders, reloads and resets leads to settings with every field in shape: a
preset, ten full colours or none, one of the four intervals, a layout of known widgets with
distinct ids and spans of one or two, and pins that do not repeat.  Saving may fail.
-/
import VpsDashboard.Frontend.HomeLayout

namespace VpsDashboard.Frontend

open Foundation

set_option autoImplicit false

/-! ## Fields -/

/-- The object has the property, with a value that `good` holds of. -/
def Field (o : JsObject) (key : String) (good : Json → Prop) : Prop :=
  ∃ value, o.get key = some value ∧ good value

/-- If the object has the property, `good` holds of its value. -/
def Allowed (o : JsObject) (key : String) (good : Json → Prop) : Prop :=
  ∀ value, o.get key = some value → good value

section Fields

variable {o top : JsObject} {key : String} {good : Json → Prop}

theorem Field.append (field : Field o key good) (allowed : Allowed top key good) :
    Field (o ++ top) key good := by
  obtain ⟨value, found, holds⟩ := field
  cases own : top.get key with
  | none => exact ⟨value, (JsObject.get_append_of_none own o).trans found, holds⟩
  | some value' => exact ⟨value', JsObject.get_append_of_some own o, allowed value' own⟩

theorem Field.allowed (field : Field o key good) : Allowed o key good := by
  obtain ⟨value, found, holds⟩ := field
  intro value' own
  obtain rfl := Option.some.inj (found.symm.trans own)
  exact holds

theorem allowed_single {value : Json} (holds : good value) : Allowed [(key, value)] key good := by
  intro value' own
  rw [JsObject.get_single, if_pos rfl] at own
  obtain rfl := Option.some.inj own
  exact holds

theorem allowed_other {name : String} (other : key ≠ name) (value : Json) :
    Allowed [(name, value)] key good := by
  intro value' own
  rw [JsObject.get_single, if_neg other] at own
  cases own

end Fields

/-! ## The document -/

def colorKeys : List String :=
  ["bg", "surface", "border", "text", "textDim", "accent", "ok", "warn", "danger", "muted"]

/-- A colour with all six digits. -/
def isHexColor (value : String) : Bool := isHexInput value && value.length == 7

def FullColors (colors : JsObject) : Prop :=
  ∀ key ∈ colorKeys, Field colors key fun value => ∃ text, value = .str text ∧ isHexColor text = true

def IsTheme (value : Json) : Prop := ∃ p ∈ presets, value = .str p.id

def IsColors (value : Json) : Prop :=
  value = .null ∨ ∃ colors, value = .obj colors ∧ FullColors colors

def pollOptions : List Int := [5000, 10000, 30000, 60000]

def IsInterval (value : Json) : Prop := ∃ ms ∈ pollOptions, value = .int ms

def IsTexts (value : Json) : Prop := ∃ ids : List String, value = .arr (ids.map .str)

/-- A widget of the registry, narrow or wide. -/
def Fits (w : HomeWidget) : Prop := (w.span = 1 ∨ w.span = 2) ∧ ∃ d ∈ widgetDefs, d.id = w.id

def IsLayout (value : Json) : Prop :=
  ∃ stored layout, value = .arr stored ∧ Represents stored layout ∧ HomeLayout.Distinct layout ∧
    ∀ w ∈ layout, Fits w

def IsPins (value : Json) : Prop := ∃ ids : List String, value = .arr (ids.map .str) ∧ ids.Nodup

def IsText (value : Json) : Prop := ∃ text, value = .str text

/-- Every field is there and in shape. -/
structure WellFormed (s : JsObject) : Prop where
  theme : Field s "theme" IsTheme
  customColors : Field s "customColors" IsColors
  pollIntervalMs : Field s "pollIntervalMs" IsInterval
  homeWidgets : Field s "homeWidgets" IsTexts
  homeLayout : Field s "homeLayout" IsLayout
  pinnedContainers : Field s "pinnedContainers" IsPins
  tmdbApiKey : Field s "tmdbApiKey" IsText

/-- Every field that is there is in shape: `Partial<AppSettings>`. -/
structure PartlyFormed (s : JsObject) : Prop where
  theme : Allowed s "theme" IsTheme
  customColors : Allowed s "customColors" IsColors
  pollIntervalMs : Allowed s "pollIntervalMs" IsInterval
  homeWidgets : Allowed s "homeWidgets" IsTexts
  homeLayout : Allowed s "homeLayout" IsLayout
  pinnedContainers : Allowed s "pinnedContainers" IsPins
  tmdbApiKey : Allowed s "tmdbApiKey" IsText

def Stored.Sound : Stored → Prop
  | .absent | .malformed => True
  | .document parsed => ∃ members, parsed = .obj members ∧ PartlyFormed members

section WellFormed

variable {s patch : JsObject}

theorem WellFormed.partly (formed : WellFormed s) : PartlyFormed s where
  theme := formed.theme.allowed
  customColors := formed.customColors.allowed
  pollIntervalMs := formed.pollIntervalMs.allowed
  homeWidgets := formed.homeWidgets.allowed
  homeLayout := formed.homeLayout.allowed
  pinnedContainers := formed.pinnedContainers.allowed
  tmdbApiKey := formed.tmdbApiKey.allowed

theorem WellFormed.append (formed : WellFormed s) (partly : PartlyFormed patch) :
    WellFormed (s ++ patch) where
  theme := formed.theme.append partly.theme
  customColors := formed.customColors.append partly.customColors
  pollIntervalMs := formed.pollIntervalMs.append partly.pollIntervalMs
  homeWidgets := formed.homeWidgets.append partly.homeWidgets
  homeLayout := formed.homeLayout.append partly.homeLayout
  pinnedContainers := formed.pinnedContainers.append partly.pinnedContainers
  tmdbApiKey := formed.tmdbApiKey.append partly.tmdbApiKey

theorem PartlyFormed.append (partly : PartlyFormed s) (top : PartlyFormed patch) :
    PartlyFormed (s ++ patch) := by
  have both {key : String} {good : Json → Prop} (below : Allowed s key good)
      (above : Allowed patch key good) : Allowed (s ++ patch) key good := by
    intro value own
    rw [JsObject.get_append] at own
    rcases Option.or_eq_some_iff.mp own with mine | ⟨-, theirs⟩
    · exact above value mine
    · exact below value theirs
  exact ⟨both partly.theme top.theme, both partly.customColors top.customColors,
    both partly.pollIntervalMs top.pollIntervalMs, both partly.homeWidgets top.homeWidgets,
    both partly.homeLayout top.homeLayout, both partly.pinnedContainers top.pinnedContainers,
    both partly.tmdbApiKey top.tmdbApiKey⟩

/-! ## Patches with one field -/

theorem partly_theme {value : Json} (good : IsTheme value) : PartlyFormed [("theme", value)] := by
  constructor
  case theme => exact allowed_single good
  all_goals exact allowed_other (by decide) value

theorem partly_colors {value : Json} (good : IsColors value) :
    PartlyFormed [("customColors", value)] := by
  constructor
  case customColors => exact allowed_single good
  all_goals exact allowed_other (by decide) value

theorem partly_interval {value : Json} (good : IsInterval value) :
    PartlyFormed [("pollIntervalMs", value)] := by
  constructor
  case pollIntervalMs => exact allowed_single good
  all_goals exact allowed_other (by decide) value

theorem partly_layout {value : Json} (good : IsLayout value) :
    PartlyFormed [("homeLayout", value)] := by
  constructor
  case homeLayout => exact allowed_single good
  all_goals exact allowed_other (by decide) value

theorem partly_pins {value : Json} (good : IsPins value) :
    PartlyFormed [("pinnedContainers", value)] := by
  constructor
  case pinnedContainers => exact allowed_single good
  all_goals exact allowed_other (by decide) value

theorem partly_text {value : Json} (good : IsText value) :
    PartlyFormed [("tmdbApiKey", value)] := by
  constructor
  case tmdbApiKey => exact allowed_single good
  all_goals exact allowed_other (by decide) value

end WellFormed

/-! ## Loading -/

theorem represents_ofDefs (defs : List WidgetDef) :
    Represents (defs.map fun w => homeWidgetLayout w.id w.defaultSpan)
      (defs.map HomeLayout.ofDef) := by
  refine List.forall₂_map_left_iff.mpr (List.forall₂_map_right_iff.mpr ?_)
  exact List.forall₂_same.mpr fun w _ => reads_homeWidgetLayout w.id w.defaultSpan

/-- Some widgets of the registry in its order. -/
theorem isLayout_ofDefs {defs : List WidgetDef} (listed : defs.Sublist widgetDefs) :
    IsLayout (.arr (defs.map fun w => homeWidgetLayout w.id w.defaultSpan)) := by
  refine ⟨_, defs.map HomeLayout.ofDef, rfl, represents_ofDefs defs,
    HomeLayout.distinct_ofDefs (r := shipped) listed, ?_⟩
  intro w member
  obtain ⟨d, inside, rfl⟩ := List.mem_map.mp member
  have spans : ∀ d ∈ widgetDefs, d.defaultSpan = 1 ∨ d.defaultSpan = 2 := by decide
  exact ⟨spans d (listed.subset inside), d, listed.subset inside, rfl⟩

theorem isLayout_legacy (homeWidgets : Option Json) : IsLayout (.arr (legacyLayout homeWidgets)) := by
  rw [legacyLayout.eq_def]
  split
  · exact isLayout_ofDefs List.filter_sublist
  · exact isLayout_ofDefs (List.Sublist.refl _)

theorem defaultSettings_wellFormed : WellFormed defaultSettings where
  theme := ⟨_, rfl, oled, by simp [presets], rfl⟩
  customColors := ⟨_, rfl, .inl rfl⟩
  pollIntervalMs := ⟨_, rfl, 10000, by decide, rfl⟩
  homeWidgets := ⟨_, rfl, ["metrics-summary", "containers-summary", "crosswatch"], rfl⟩
  homeLayout := ⟨_, rfl, isLayout_ofDefs (List.Sublist.refl _)⟩
  pinnedContainers := ⟨_, rfl, [], rfl, List.nodup_nil⟩
  tmdbApiKey := ⟨_, rfl, "", rfl⟩

theorem loadSettings_wellFormed {stored : Stored} (sound : stored.Sound) :
    WellFormed (loadSettings stored) := by
  cases stored with
  | absent => exact defaultSettings_wellFormed
  | malformed => exact defaultSettings_wellFormed
  | document parsed =>
      obtain ⟨members, rfl, partly⟩ := sound
      have merged := defaultSettings_wellFormed.append partly
      simp only [loadSettings]
      split
      · exact merged
      · exact merged.append (partly_layout (isLayout_legacy _))

/-! ## The app -/

/-- The click on a pin. -/
def togglePin (pinned : List Json) (id : String) : List Json :=
  if pinned.any (Json.isText id) then pinned.filter fun pin => !Json.isText id pin
  else pinned ++ [.str id]

inductive Edit where
  | page (u : PageUpdate)
  | togglePin (id : String)

/-- What the handler passes to `updateSettings`. -/
def Edit.patch (settings : JsObject) : Edit → Option JsObject
  | .page u => u.patch settings
  | .togglePin id =>
      match settings.get "pinnedContainers" with
      | some (.arr pinned) => some [("pinnedContainers", .arr (Frontend.togglePin pinned id))]
      | _ => none

/-- Whether the widget is in the layout on display. -/
def enabled (rendered : JsObject) (id : String) : Bool :=
  ((homeLayout rendered).getD []).any (isWidget id)

/-- What the pages offer: the cards, the pickers with a full colour, the options, the widgets
that are missing, and the checkboxes as they are displayed. -/
def Edit.offered (rendered : JsObject) : Edit → Bool
  | .page (.setSpan _ span) => span == 1 || span == 2
  | .page (.add id) => widgetDefs.any fun w => w.id == id && !enabled rendered w.id
  | .page (.choosePreset id) => presets.any fun p => p.id == id
  | .page (.pickColor key value) => colorKeys.contains key && isHexColor value
  | .page (.typeColor key _) => colorKeys.contains key
  | .page (.pollInterval ms) => pollOptions.contains ms
  | .page (.toggleWidget w checked) =>
      widgetDefs.any (fun d => d.id == w.id && d.defaultSpan == w.defaultSpan) &&
        checked == !enabled rendered w.id
  | _ => true

/-- The item of `localStorage`, and the session. -/
structure App where
  stored : Stored
  session : Session

/-- `saved` says whether `localStorage.setItem` does not throw. -/
inductive AppAction where
  | edit (e : Edit) (saved : Bool)
  | render
  | reload
  | reset

namespace App

def load (stored : Stored) : App := ⟨stored, Session.load stored⟩

def step (s : App) : AppAction → Option App
  | .edit e saved =>
      if e.offered s.session.rendered then
        match e.patch s.session.rendered with
        | none => some s
        | some patch =>
            let next := updateSettings s.session.settings patch
            some ⟨if saved then saveSettings next else s.stored, { s.session with settings := next }⟩
      else none
  | .render => some { s with session := s.session.step .render }
  | .reload => some (load s.stored)
  | .reset => some (load .absent)

end App

/-! ## What the pages write -/

section Patches

variable {s : JsObject}

/-- The pages can render a layout in shape. -/
theorem homeLayout_eq {stored : List Json} {layout : List HomeWidget}
    (found : s.get "homeLayout" = some (.arr stored)) (same : Represents stored layout) :
    homeLayout s = some stored := by
  have read : ∀ w ∈ stored, ∃ h, Reads w h := by
    clear found
    induction same with
    | nil => simp
    | cons reads _ ih =>
        intro w member
        rcases List.mem_cons.mp member with rfl | later
        · exact ⟨_, reads⟩
        · exact ih w later
  rw [homeLayout, found]
  dsimp only
  rw [if_neg]
  intro some_null
  obtain ⟨w, member, null⟩ := List.any_eq_true.mp some_null
  obtain ⟨h, named, -⟩ := read w member
  cases w with
  | null => cases named
  | _ => cases null

theorem any_isWidget {stored : List Json} {layout : List HomeWidget}
    (same : Represents stored layout) (id : String) :
    stored.any (isWidget id) = HomeLayout.has layout id := by
  induction same with
  | nil => rfl
  | cons reads _ ih => rw [List.any_cons, isWidget_eq reads, ih]; rfl

/-- A patch with the next layout, computed from the one on display. -/
theorem partly_setLayout {next : List Json → Option (List Json)}
    (keeps : ∀ stored layout, Represents stored layout → HomeLayout.Distinct layout →
      (∀ w ∈ layout, Fits w) → homeLayout s = some stored →
      ∀ stored', next stored = some stored' → IsLayout (.arr stored'))
    (formed : WellFormed s) {patch : JsObject}
    (called : PageUpdate.setLayout ((homeLayout s).bind next) = some patch) :
    PartlyFormed patch := by
  obtain ⟨value, found, stored, layout, rfl, same, distinct, fits⟩ := formed.homeLayout
  obtain ⟨stored', computed, rfl⟩ := Option.map_eq_some_iff.mp called
  have displayed := homeLayout_eq found same
  rw [displayed, Option.bind_some] at computed
  exact partly_layout (keeps stored layout same distinct fits displayed stored' computed)

theorem isLayout_move {stored stored' : List Json} {layout : List HomeWidget}
    (same : Represents stored layout) (distinct : HomeLayout.Distinct layout)
    (fits : ∀ w ∈ layout, Fits w) {source target : Int}
    (moved : move stored source target = some stored') : IsLayout (.arr stored') := by
  have both := represents_move same source target
  rw [moved] at both
  cases layoutMoves : HomeLayout.move layout source target with
  | none =>
      rw [layoutMoves] at both
      cases both
  | some next =>
      rw [layoutMoves] at both
      cases both with
      | some same' =>
          refine ⟨stored', next, rfl, same', distinct.move layoutMoves, ?_⟩
          intro w member
          apply fits w
          unfold HomeLayout.move at layoutMoves
          split at layoutMoves
          · cases layoutMoves
          · rename_i valid
            obtain rfl := Option.some.inj layoutMoves
            exact (relocate_perm (l := layout) (i := source.toNat) (j := target.toNat) (by omega)
              (by omega)).subset member

theorem isLayout_setSpan {stored : List Json} {layout : List HomeWidget}
    (same : Represents stored layout) (distinct : HomeLayout.Distinct layout)
    (fits : ∀ w ∈ layout, Fits w) (id : String) {span : Int} (offered : span = 1 ∨ span = 2) :
    IsLayout (.arr (setSpan stored id span)) := by
  refine ⟨_, _, rfl, represents_setSpan same id span, distinct.setSpan id span, ?_⟩
  intro w member
  obtain ⟨old, inside, rfl⟩ := List.mem_map.mp member
  split
  · exact ⟨offered, (fits old inside).2⟩
  · exact fits old inside

theorem isLayout_remove {stored : List Json} {layout : List HomeWidget}
    (same : Represents stored layout) (distinct : HomeLayout.Distinct layout)
    (fits : ∀ w ∈ layout, Fits w) (id : String) : IsLayout (.arr (remove stored id)) :=
  ⟨_, _, rfl, represents_remove same id, distinct.remove id,
    fun w member => fits w (List.mem_of_mem_filter member)⟩

/-- A widget of the registry that is not in the layout is put at its end. -/
theorem isLayout_append {stored : List Json} {layout : List HomeWidget}
    (same : Represents stored layout) (distinct : HomeLayout.Distinct layout)
    (fits : ∀ w ∈ layout, Fits w) {d : WidgetDef} (listed : d ∈ widgetDefs)
    (missing : stored.any (isWidget d.id) = false) :
    IsLayout (.arr (stored ++ [homeWidgetLayout d.id d.defaultSpan])) := by
  rw [any_isWidget same] at missing
  refine ⟨_, _, rfl, represents_append same d.id d.defaultSpan,
    distinct.append (w := HomeLayout.ofDef d) missing, ?_⟩
  intro w member
  rcases List.mem_append.mp member with old | new
  · exact fits w old
  · obtain rfl := List.mem_singleton.mp new
    have spans : ∀ d ∈ widgetDefs, d.defaultSpan = 1 ∨ d.defaultSpan = 2 := by decide
    exact ⟨spans d listed, d, listed, rfl⟩

/-- Whether the colour of this key is full. -/
def fullAt (colors : JsObject) (key : String) : Bool :=
  match colors.get key with
  | some (.str text) => isHexColor text
  | _ => false

theorem presets_full {p : ThemePreset} (member : p ∈ presets) : FullColors p.colors := by
  have shipped : ∀ p ∈ presets, ∀ key ∈ colorKeys, fullAt p.colors key = true := by decide +kernel
  intro key listed
  have full := shipped p member key listed
  unfold fullAt at full
  split at full
  · rename_i text found
    exact ⟨_, found, text, rfl, full⟩
  · cases full

/-- The colours on display are full. -/
theorem currentColors_full (formed : WellFormed s) :
    ∃ colors, currentColors s = .obj colors ∧ FullColors colors := by
  obtain ⟨value, found, null | ⟨colors, custom, fullCustom⟩⟩ := formed.customColors
  · refine ⟨((presets.find? fun p => (s.get "theme").any (Json.isText p.id)).getD oled).colors,
      ?_, ?_⟩
    · rw [currentColors, found, null]
      rfl
    · cases chosen : presets.find? fun p => (s.get "theme").any (Json.isText p.id) with
      | none => exact presets_full (by simp [presets])
      | some p => exact presets_full (List.mem_of_find?_eq_some chosen)
  · refine ⟨colors, ?_, fullCustom⟩
    rw [currentColors, found, custom]
    rfl

/-- A colour of ten is replaced by a full one. -/
theorem withColor_full (formed : WellFormed s) {key : String} {value : Option Json}
    (full : ∃ text, value = some (.str text) ∧ isHexColor text = true) :
    FullColors (withColor s key value) := by
  obtain ⟨colors, displayed, fullColors⟩ := currentColors_full formed
  obtain ⟨text, rfl, hex⟩ := full
  have base : Json.nullish (s.get "customColors") (currentColors s) = .obj colors := by
    obtain ⟨value, found, null | ⟨custom, own, -⟩⟩ := formed.customColors
    · rw [found, null, displayed]
      rfl
    · rw [← displayed, currentColors, found, own]
      rfl
  intro name listed
  rw [withColor, base]
  apply (fullColors name listed).append
  intro value own
  rw [JsObject.get_single] at own
  split at own
  · obtain rfl := Option.some.inj own
    exact ⟨text, rfl, hex⟩
  · cases own

/-- What a page writes is in shape. -/
theorem page_patch_partly (formed : WellFormed s) {u : PageUpdate} {patch : JsObject}
    (offered : (Edit.page u).offered s = true) (called : u.patch s = some patch) :
    PartlyFormed patch := by
  have keepAll {next : List Json → List Json}
      (keeps : ∀ stored layout, Represents stored layout → HomeLayout.Distinct layout →
        (∀ w ∈ layout, Fits w) → homeLayout s = some stored → IsLayout (.arr (next stored)))
      (written : PageUpdate.setLayout ((homeLayout s).map next) = some patch) :
      PartlyFormed patch := by
    rw [Option.map_eq_bind] at written
    refine partly_setLayout ?_ formed written
    intro stored layout same distinct fits displayed stored' computed
    obtain rfl := Option.some.inj computed
    exact keeps stored layout same distinct fits displayed
  cases u with
  | move source target =>
      exact partly_setLayout
        (fun _ _ same distinct fits _ _ moved => isLayout_move same distinct fits moved) formed called
  | setSpan id span =>
      have spans : span = 1 ∨ span = 2 := by simpa [Edit.offered] using offered
      exact keepAll (fun _ _ same distinct fits _ => isLayout_setSpan same distinct fits id spans)
        called
  | remove id =>
      exact keepAll (fun _ _ same distinct fits _ => isLayout_remove same distinct fits id) called
  | add id =>
      obtain ⟨d, listed, shown⟩ := List.any_eq_true.mp offered
      simp only [Bool.and_eq_true, beq_iff_eq, Bool.not_eq_true'] at shown
      obtain ⟨rfl, missing⟩ := shown
      refine keepAll ?_ called
      intro stored layout same distinct fits displayed
      rw [enabled, displayed, Option.getD_some] at missing
      have chosen : ((widgetDefs.find? fun w => w.id == d.id).map WidgetDef.defaultSpan).getD 1 =
          d.defaultSpan := by
        have all : ∀ d ∈ widgetDefs, ((widgetDefs.find? fun w => w.id == d.id).map
            WidgetDef.defaultSpan).getD 1 = d.defaultSpan := by decide
        exact all d listed
      rw [add, chosen]
      exact isLayout_append same distinct fits listed missing
  | toggleWidget w checked =>
      simp only [Edit.offered, Bool.and_eq_true, beq_iff_eq, List.any_eq_true] at offered
      obtain ⟨⟨d, listed, sameId, sameSpan⟩, shown⟩ := offered
      cases checked with
      | true =>
          refine keepAll ?_ called
          intro stored layout same distinct fits displayed
          rw [enabled, displayed, Option.getD_some] at shown
          rw [← sameId, ← sameSpan] at *
          exact isLayout_append same distinct fits listed (by simpa using shown.symm)
      | false =>
          exact keepAll
            (fun _ _ same distinct fits _ => isLayout_remove same distinct fits w.id) called
  | choosePreset id =>
      obtain ⟨p, member, same⟩ := List.any_eq_true.mp offered
      obtain rfl := Option.some.inj called
      have preset : IsTheme (.str id) := ⟨p, member, by rw [beq_iff_eq.mp same]⟩
      exact (partly_theme preset).append (partly_colors (.inl rfl))
  | pickColor key value =>
      simp only [Edit.offered, Bool.and_eq_true] at offered
      obtain rfl := Option.some.inj called
      exact partly_colors (.inr ⟨_, rfl, withColor_full formed ⟨value, rfl, offered.2⟩⟩)
  | typeColor key value =>
      have listed : key ∈ colorKeys := List.contains_iff_mem.mp offered
      rw [PageUpdate.patch] at called
      split at called
      · rename_i typed
        obtain rfl := Option.some.inj called
        refine partly_colors (.inr ⟨_, rfl, withColor_full formed ?_⟩)
        split
        · rename_i whole
          exact ⟨value, rfl, by simp [isHexColor, typed, whole]⟩
        · obtain ⟨colors, displayed, full⟩ := currentColors_full formed
          obtain ⟨color, found, text, rfl, hex⟩ := full key listed
          exact ⟨text, by rw [displayed]; exact found, hex⟩
      · cases called
  | resetColors =>
      obtain rfl := Option.some.inj called
      exact partly_colors (.inl rfl)
  | pollInterval ms =>
      obtain rfl := Option.some.inj called
      exact partly_interval ⟨ms, List.contains_iff_mem.mp offered, rfl⟩
  | tmdbApiKey key =>
      obtain rfl := Option.some.inj called
      exact partly_text ⟨key, rfl⟩

theorem togglePin_texts (ids : List String) (id : String) :
    togglePin (ids.map .str) id =
      (if id ∈ ids then ids.filter (fun pin => pin != id) else ids ++ [id]).map Json.str := by
  have pinned : (ids.map Json.str).any (Json.isText id) = decide (id ∈ ids) := by
    rw [Bool.eq_iff_iff, List.any_map, List.any_eq_true]
    simp [Json.isText]
  rw [togglePin, pinned]
  by_cases there : id ∈ ids
  · simp [there, List.filter_map, Json.isText, Function.comp_def, bne]
  · simp [there]

theorem isPins_toggle {ids : List String} (distinct : ids.Nodup) (id : String) :
    IsPins (.arr (togglePin (ids.map .str) id)) := by
  refine ⟨_, congrArg Json.arr (togglePin_texts ids id), ?_⟩
  split
  · exact distinct.filter _
  · rename_i missing
    exact List.nodup_append.mpr ⟨distinct, List.pairwise_singleton _ id, by
      intro a inside b single same
      obtain rfl := List.mem_singleton.mp single
      exact missing (same ▸ inside)⟩

theorem patch_partly (formed : WellFormed s) {e : Edit} {patch : JsObject}
    (offered : e.offered s = true) (called : e.patch s = some patch) : PartlyFormed patch := by
  cases e with
  | page u => exact page_patch_partly formed offered called
  | togglePin id =>
      obtain ⟨value, found, ids, rfl, distinct⟩ := formed.pinnedContainers
      rw [Edit.patch, found] at called
      obtain rfl := Option.some.inj called
      exact partly_pins (isPins_toggle distinct id)

end Patches

/-! ## Sessions -/

/-- The colours that are applied to the page. -/
def resolveColors (settings : JsObject) : Json :=
  let preset := presets.find? fun p => (settings.get "theme").any (Json.isText p.id)
  match settings.get "customColors" with
  | some custom => if custom.truthy then custom else .obj (preset.getD oled).colors
  | none => .obj (preset.getD oled).colors

/-- The colours that are applied are those in the fields of the settings page. -/
theorem resolveColors_eq {s : JsObject} (formed : WellFormed s) :
    resolveColors s = currentColors s := by
  obtain ⟨value, found, rfl | ⟨custom, rfl, -⟩⟩ := formed.customColors
  · rw [resolveColors, currentColors, found]
    rfl
  · rw [resolveColors, currentColors, found]
    rfl

namespace App

structure Sound (s : App) : Prop where
  stored : s.stored.Sound
  settings : WellFormed s.session.settings
  rendered : WellFormed s.session.rendered

variable {s s' : App}

theorem sound_load {stored : Stored} (sound : stored.Sound) : (load stored).Sound :=
  ⟨sound, loadSettings_wellFormed sound, loadSettings_wellFormed sound⟩

theorem Sound.step {a : AppAction} (sound : s.Sound) (stepped : s.step a = some s') : s'.Sound := by
  cases a with
  | edit e saved =>
      rw [App.step] at stepped
      split at stepped
      · rename_i offered
        split at stepped
        · obtain rfl := Option.some.inj stepped
          exact sound
        · rename_i patch called
          obtain rfl := Option.some.inj stepped
          have next := sound.settings.append (patch_partly sound.rendered offered called)
          refine ⟨?_, next, sound.rendered⟩
          cases saved with
          | true => exact ⟨_, rfl, next.partly⟩
          | false => exact sound.stored
      · cases stepped
  | render =>
      obtain rfl := Option.some.inj stepped
      exact ⟨sound.stored, sound.settings, sound.settings⟩
  | reload =>
      obtain rfl := Option.some.inj stepped
      exact sound_load sound.stored
  | reset =>
      obtain rfl := Option.some.inj stepped
      exact sound_load trivial

end App

/-- **The settings stay in shape.**  In every state of every run the settings in use, those
on display and what is stored are in shape; so the pages can render the layout, and the
colours applied are the ten full ones that the settings page shows. -/
theorem settings_well_formed {stored : Stored} (sound : stored.Sound) {actions : List AppAction}
    {s : App} (ran : Guarded.steps App.step (App.load stored) actions = some s) :
    WellFormed s.session.settings ∧ WellFormed s.session.rendered ∧ s.stored.Sound ∧
      (homeLayout s.session.rendered).isSome = true ∧
      ∃ colors, FullColors colors ∧ resolveColors s.session.settings = .obj colors ∧
        currentColors s.session.settings = .obj colors := by
  have kept : s.Sound := Guarded.steps_invariant (fun sound stepped => App.Sound.step sound stepped)
    (App.sound_load sound) ran
  obtain ⟨value, found, layout, widgets, rfl, same, -, -⟩ := kept.rendered.homeLayout
  obtain ⟨colors, displayed, full⟩ := currentColors_full kept.settings
  refine ⟨kept.settings, kept.rendered, kept.stored, ?_, colors, full, ?_, displayed⟩
  · rw [homeLayout_eq found same]
    rfl
  · rw [resolveColors_eq kept.settings, displayed]

/-- A document of an install that had only the list of its widgets and a theme. -/
def legacyDocument : JsObject :=
  [("homeWidgets", .arr [.str "crosswatch"]), ("theme", .str "amber")]

/-- Half a colour is typed, another one picked, a container pinned twice, and the page
loaded again. -/
def legacyEdits : List AppAction :=
  [.edit (.page (.typeColor "accent" "#12")) true, .render,
    .edit (.page (.pickColor "bg" "#123456")) true, .edit (.togglePin "0123456789ab") false,
    .edit (.togglePin "0123456789ab") true, .edit (.page (.add "metrics-summary")) true, .reload]

/-- The rule for them. -/
theorem settings_well_formed_legacy :
    ∃ s, Guarded.steps App.step (App.load (.document (.obj legacyDocument))) legacyEdits = some s ∧
      WellFormed s.session.settings ∧ (homeLayout s.session.rendered).isSome = true := by
  have sound : (Stored.document (.obj legacyDocument)).Sound := by
    have listed : PartlyFormed [("homeWidgets", .arr [.str "crosswatch"])] := by
      constructor
      case homeWidgets => exact allowed_single ⟨["crosswatch"], rfl⟩
      all_goals exact allowed_other (by decide) _
    exact ⟨_, rfl, listed.append (partly_theme ⟨presets[4], by simp [presets], rfl⟩)⟩
  have runs : (Guarded.steps App.step (App.load (.document (.obj legacyDocument)))
      legacyEdits).isSome = true := by decide +kernel
  obtain ⟨s, ran⟩ := Option.isSome_iff_exists.mp runs
  obtain ⟨formed, -, -, rendered, -⟩ := settings_well_formed sound ran
  exact ⟨s, ran, formed, rendered⟩

end VpsDashboard.Frontend
