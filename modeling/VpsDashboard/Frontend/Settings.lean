/-
# VpsDashboard.Frontend.Settings — saved settings, and the layout mistaken for a legacy one

`loadSettings` spreads what is stored on top of the defaults.  When the stored layout is
missing or empty, it takes the document for one of an old install, which had only the
list `homeWidgets`, and builds a layout from that list.  A user who has removed every
widget has an empty layout as well.

* `removed_widgets_come_back` — after the last widget is removed, a reload shows all
  three again;
* `settings_survive_reload_iff` — in every state the pages can reach, saved settings are
  loaded as they were if and only if the layout is not empty, or the legacy list is an
  array that names no widget (`Restored`).

What is stored is represented by what `JSON.parse` makes of it, so that parsing undoes
`JSON.stringify`, and `localStorage` does not throw.  The document is any JSON value; nothing
checks that it has the shape of `AppSettings`.
-/
import VpsDashboard.Foundation.JsObject

namespace VpsDashboard.Frontend

open Foundation

set_option autoImplicit false

/-! ## Widgets -/

structure WidgetDef where
  id : String
  defaultSpan : Int

def widgetDefs : List WidgetDef :=
  [⟨"metrics-summary", 2⟩, ⟨"containers-summary", 1⟩, ⟨"crosswatch", 2⟩]

/-- `{ id, span }`. -/
def homeWidgetLayout (id : String) (span : Int) : Json :=
  .obj [("id", .str id), ("span", .int span)]

def defaultHomeLayout : List Json := widgetDefs.map fun w => homeWidgetLayout w.id w.defaultSpan

def layoutFromWidgetIds (ids : List Json) : List Json :=
  (widgetDefs.filter fun w => ids.any (Json.isText w.id)).map fun w =>
    homeWidgetLayout w.id w.defaultSpan

/-! ## Loading and saving -/

def defaultSettings : JsObject :=
  [("theme", .str "oled"), ("customColors", .null), ("pollIntervalMs", .int 10000),
    ("homeWidgets", .arr [.str "metrics-summary", .str "containers-summary", .str "crosswatch"]),
    ("homeLayout", .arr defaultHomeLayout), ("pinnedContainers", .arr []), ("tmdbApiKey", .str "")]

/-- The item of `localStorage`: missing or the empty string, a text that `JSON.parse`
rejects, or a document. -/
inductive Stored where
  | absent
  | malformed
  | document (parsed : Json)

/-- The layout of an install that stored only the list of its widgets. -/
def legacyLayout (homeWidgets : Option Json) : List Json :=
  match homeWidgets with
  | some (.arr ids) => layoutFromWidgetIds ids
  | _ => defaultHomeLayout

def loadSettings : Stored → JsObject
  | .absent => defaultSettings
  | .malformed => defaultSettings
  | .document .null => defaultSettings
  | .document parsed =>
      let merged := defaultSettings ++ parsed.ownProperties
      match parsed.property "homeLayout" with
      | some (.arr (_ :: _)) => merged
      | _ => merged.set "homeLayout" (some (.arr (legacyLayout (parsed.property "homeWidgets"))))

def saveSettings (settings : JsObject) : Stored := .document (.obj settings)

/-- The settings after `updateSettings(patch)`. -/
def updateSettings (prev patch : JsObject) : JsObject := prev ++ patch

/-! ## The theme presets -/

structure ThemePreset where
  id : String
  colors : JsObject

def themeColors (bg surface border text textDim accent ok warn danger muted : String) : JsObject :=
  [("bg", .str bg), ("surface", .str surface), ("border", .str border), ("text", .str text),
    ("textDim", .str textDim), ("accent", .str accent), ("ok", .str ok), ("warn", .str warn),
    ("danger", .str danger), ("muted", .str muted)]

def oled : ThemePreset :=
  ⟨"oled", themeColors "#000000" "#0a0a0a" "#1a1a1a" "#c8ffc8" "#5a8a5a" "#00ff66" "#00ff66"
    "#ffb020" "#ff4444" "#444444"⟩

def presets : List ThemePreset :=
  [oled,
    ⟨"dark-blue", themeColors "#0a0e1a" "#111827" "#1e293b" "#cbd5e1" "#64748b" "#38bdf8" "#34d399"
      "#fbbf24" "#f87171" "#475569"⟩,
    ⟨"midnight", themeColors "#0c0a14" "#151125" "#252040" "#d4c5f0" "#7c6fa0" "#a78bfa" "#6ee7b7"
      "#fcd34d" "#fca5a5" "#4a4060"⟩,
    ⟨"forest", themeColors "#0a140e" "#0f1f14" "#1a3320" "#b8d4be" "#5a7a62" "#4ade80" "#22c55e"
      "#eab308" "#ef4444" "#3a5a42"⟩,
    ⟨"amber", themeColors "#0d0b07" "#16120c" "#2a2216" "#f0d9a0" "#8a7a50" "#f59e0b" "#f59e0b"
      "#fbbf24" "#dc2626" "#5a4a30"⟩,
    ⟨"light", themeColors "#f8f9fa" "#ffffff" "#dee2e6" "#212529" "#6c757d" "#0d6efd" "#198754"
      "#ffc107" "#dc3545" "#adb5bd"⟩]

/-! ## The handlers of the Home page -/

/-- `settings.homeLayout`.  With an entry that is `null` the pages throw as they render. -/
def homeLayout (settings : JsObject) : Option (List Json) :=
  match settings.get "homeLayout" with
  | some (.arr layout) => if layout.any (fun w => w matches .null) then none else some layout
  | _ => none

/-- Whether a layout entry is the one of this widget. -/
def isWidget (id : String) (w : Json) : Bool := (w.property "id").any (Json.isText id)

def move (layout : List Json) (source target : Int) : Option (List Json) :=
  if source = target ∨ source < 0 ∨ target < 0 ∨ layout.length ≤ source ∨
      layout.length ≤ target then none
  else do
    let item ← layout[source.toNat]?
    return (layout.eraseIdx source.toNat).insertIdx target.toNat item

def setSpan (layout : List Json) (id : String) (span : Int) : List Json :=
  layout.map fun w =>
    if isWidget id w then .obj (w.ownProperties ++ [("span", .int span)]) else w

def remove (layout : List Json) (id : String) : List Json :=
  layout.filter fun w => !isWidget id w

def add (layout : List Json) (id : String) : List Json :=
  let def_ := widgetDefs.find? fun w => w.id == id
  layout ++ [homeWidgetLayout id ((def_.map WidgetDef.defaultSpan).getD 1)]

/-! ## The handlers of the Settings page -/

/-- The colours on display: the custom ones, else those of the theme, else the first preset's. -/
def currentColors (settings : JsObject) : Json :=
  let preset := presets.find? fun p => (settings.get "theme").any (Json.isText p.id)
  Json.nullish (settings.get "customColors") (.obj (preset.getD oled).colors)

/-- The custom colours with the one named `key` replaced. -/
def withColor (settings : JsObject) (key : String) (value : Option Json) : JsObject :=
  (Json.nullish (settings.get "customColors") (currentColors settings)).ownProperties.set key value

/-- `/^#[0-9a-fA-F]{0,6}$/`. -/
def isHexInput (value : String) : Bool :=
  match value.toList with
  | '#' :: digits =>
      decide (digits.length ≤ 6) && digits.all fun c =>
        c.isDigit || ('a' ≤ c && c ≤ 'f') || ('A' ≤ c && c ≤ 'F')
  | _ => false

/-- A call of `updateSettings` on one of the two pages. -/
inductive PageUpdate where
  | move (source target : Int)
  | setSpan (id : String) (span : Int)
  | remove (id : String)
  | add (id : String)
  | choosePreset (id : String)
  | pickColor (key value : String)
  | typeColor (key value : String)
  | resetColors
  | pollInterval (ms : Int)
  | toggleWidget (widget : WidgetDef) (checked : Bool)
  | tmdbApiKey (key : String)

namespace PageUpdate

/-- `{ homeLayout: next }`, when the handler gets as far as computing the next layout. -/
def setLayout (next : Option (List Json)) : Option JsObject :=
  next.map fun layout => [("homeLayout", .arr layout)]

/-- `{ customColors: next }`. -/
def setColors (next : Json) : JsObject := [("customColors", next)]

/-- What the handler passes to `updateSettings`, or `none` when it does not call it. -/
def patch (settings : JsObject) : PageUpdate → Option JsObject
  | .move source target =>
      setLayout ((homeLayout settings).bind fun layout => Frontend.move layout source target)
  | .setSpan id span =>
      setLayout ((homeLayout settings).map fun layout => Frontend.setSpan layout id span)
  | .remove id => setLayout ((homeLayout settings).map fun layout => Frontend.remove layout id)
  | .add id => setLayout ((homeLayout settings).map fun layout => Frontend.add layout id)
  | .choosePreset id => some (("theme", .str id) :: setColors .null)
  | .pickColor key value => some (setColors (.obj (withColor settings key (some (.str value)))))
  | .typeColor key value =>
      if isHexInput value then
        let color :=
          if value.length = 7 then some (.str value) else (currentColors settings).property key
        some (setColors (.obj (withColor settings key color)))
      else none
  | .resetColors => some (setColors .null)
  | .pollInterval ms => some [("pollIntervalMs", .int ms)]
  | .toggleWidget widget true =>
      setLayout ((homeLayout settings).map fun layout =>
        layout ++ [homeWidgetLayout widget.id widget.defaultSpan])
  | .toggleWidget widget false =>
      setLayout ((homeLayout settings).map fun layout => Frontend.remove layout widget.id)
  | .tmdbApiKey key => some [("tmdbApiKey", .str key)]

end PageUpdate

/-! ## A session -/

/-- The settings of the provider, and those the pages on display were rendered with:
a handler computes its patch from the latter. -/
structure Session where
  settings : JsObject
  rendered : JsObject

inductive SessionStep where
  | render
  | update (u : PageUpdate)

namespace Session

def load (stored : Stored) : Session := ⟨loadSettings stored, loadSettings stored⟩

def step (s : Session) : SessionStep → Session
  | .render => { s with rendered := s.settings }
  | .update u =>
      match u.patch s.rendered with
      | some patch => { s with settings := updateSettings s.settings patch }
      | none => s

def run (s : Session) (steps : List SessionStep) : Session := steps.foldl step s

end Session

/-! ## What every load and every update keeps -/

/-- The layout is an array and no field of the defaults is missing. -/
structure Complete (s : JsObject) : Prop where
  array : ∃ layout, s.get "homeLayout" = some (.arr layout)
  has : s.Has defaultSettings

theorem defaultSettings_complete : Complete defaultSettings where
  array := ⟨defaultHomeLayout, rfl⟩
  has := JsObject.has_refl _

theorem loadSettings_complete (stored : Stored) : Complete (loadSettings stored) := by
  cases stored with
  | absent => exact defaultSettings_complete
  | malformed => exact defaultSettings_complete
  | document parsed =>
      rw [loadSettings.eq_def]
      split
      · exact defaultSettings_complete
      · exact defaultSettings_complete
      · exact defaultSettings_complete
      · rename_i parsed notNull same
        cases same
        dsimp only
        split
        · rename_i first rest found
          cases parsed with
          | obj members =>
              exact ⟨⟨_, JsObject.get_append_of_some found _⟩, (JsObject.has_refl _).append _⟩
          | _ => cases found
        · refine ⟨⟨_, JsObject.get_append_of_some (b := [(_, _)]) (JsObject.get_single _ _ _) _⟩, ?_⟩
          exact ((JsObject.has_refl _).append _).append _

theorem setLayout_homeLayout {next : Option (List Json)} {patch : JsObject}
    (called : PageUpdate.setLayout next = some patch) :
    ∃ layout, patch.get "homeLayout" = some (.arr layout) := by
  obtain ⟨layout, -, rfl⟩ := Option.map_eq_some_iff.mp called
  exact ⟨layout, rfl⟩

/-- A handler writes the layout as an array or not at all. -/
theorem patch_homeLayout {s : JsObject} {u : PageUpdate} {patch : JsObject}
    (called : u.patch s = some patch) :
    patch.get "homeLayout" = none ∨ ∃ layout, patch.get "homeLayout" = some (.arr layout) := by
  cases u with
  | move source target => exact .inr (setLayout_homeLayout called)
  | setSpan id span => exact .inr (setLayout_homeLayout called)
  | remove id => exact .inr (setLayout_homeLayout called)
  | add id => exact .inr (setLayout_homeLayout called)
  | toggleWidget widget checked =>
      cases checked with
      | true => exact .inr (setLayout_homeLayout called)
      | false => exact .inr (setLayout_homeLayout called)
  | typeColor key value =>
      rw [PageUpdate.patch] at called
      split at called
      · cases called
        exact .inl rfl
      · cases called
  | choosePreset id =>
      cases called
      exact .inl rfl
  | pickColor key value =>
      cases called
      exact .inl rfl
  | resetColors =>
      cases called
      exact .inl rfl
  | pollInterval ms =>
      cases called
      exact .inl rfl
  | tmdbApiKey key =>
      cases called
      exact .inl rfl

theorem updateSettings_complete {prev s : JsObject} {u : PageUpdate} {patch : JsObject}
    (complete : Complete prev) (called : u.patch s = some patch) :
    Complete (updateSettings prev patch) := by
  obtain ⟨layout, before⟩ := complete.array
  refine ⟨?_, complete.has.append patch⟩
  rcases patch_homeLayout called with none | ⟨next, written⟩
  · exact ⟨layout, (JsObject.get_append_of_none none prev).trans before⟩
  · exact ⟨next, JsObject.get_append_of_some written prev⟩

namespace Session

theorem step_complete {s : Session} (complete : Complete s.settings) (step : SessionStep) :
    Complete (s.step step).settings := by
  cases step with
  | render => exact complete
  | update u =>
      rw [Session.step]
      split
      · rename_i patch called
        exact updateSettings_complete complete called
      · exact complete

theorem run_complete {s : Session} (complete : Complete s.settings) (steps : List SessionStep) :
    Complete (s.run steps).settings := by
  induction steps generalizing s with
  | nil => exact complete
  | cons step steps ih => exact ih (step_complete complete step)

end Session

/-! ## The reload -/

/-- Loading what was saved gives the same value for every field. -/
def SurvivesReload (s : JsObject) : Prop :=
  ∀ key, (loadSettings (saveSettings s)).get key = s.get key

/-- The layout is not empty, or the legacy list is an array that names no widget. -/
def Restored (s : JsObject) : Prop :=
  s.get "homeLayout" ≠ some (.arr []) ∨
    ∃ ids, s.get "homeWidgets" = some (.arr ids) ∧ layoutFromWidgetIds ids = []

theorem loadSettings_saveSettings {s : JsObject} {first : Json} {rest : List Json}
    (layout : s.get "homeLayout" = some (.arr (first :: rest))) :
    loadSettings (saveSettings s) = defaultSettings ++ s := by
  simp only [loadSettings, saveSettings, Json.property, layout]
  rfl

/-- An empty layout is taken for a missing one. -/
theorem loadSettings_saveSettings_empty {s : JsObject}
    (layout : s.get "homeLayout" = some (.arr [])) :
    loadSettings (saveSettings s) =
      (defaultSettings ++ s).set "homeLayout" (some (.arr (legacyLayout (s.get "homeWidgets")))) := by
  simp only [loadSettings, saveSettings, Json.property, layout]
  rfl

theorem legacyLayout_eq_nil_iff {homeWidgets : Option Json} :
    legacyLayout homeWidgets = [] ↔
      ∃ ids, homeWidgets = some (.arr ids) ∧ layoutFromWidgetIds ids = [] := by
  constructor
  · intro none
    rw [legacyLayout.eq_def] at none
    split at none
    · rename_i ids
      exact ⟨ids, rfl, none⟩
    · cases none
  · rintro ⟨ids, rfl, none⟩
    exact none

theorem survivesReload_iff {s : JsObject} (complete : Complete s) :
    SurvivesReload s ↔ Restored s := by
  obtain ⟨layout, found⟩ := complete.array
  cases layout with
  | cons first rest =>
      have survives : SurvivesReload s := by
        intro key
        rw [loadSettings_saveSettings found, complete.has.get_append]
      refine iff_of_true survives (.inl ?_)
      rw [found]
      exact nofun
  | nil =>
      have reloaded : ∀ key, (loadSettings (saveSettings s)).get key =
          if key = "homeLayout" then some (.arr (legacyLayout (s.get "homeWidgets")))
          else s.get key := by
        intro key
        rw [loadSettings_saveSettings_empty found, JsObject.set, JsObject.get_append,
          JsObject.get_single]
        split
        · rfl
        · exact complete.has.get_append key
      constructor
      · intro survives
        have same := survives "homeLayout"
        rw [reloaded, if_pos rfl, found, Option.some.injEq, Json.arr.injEq] at same
        exact .inr (legacyLayout_eq_nil_iff.mp same)
      · rintro (other | legacy) key
        · exact absurd found other
        · rw [reloaded]
          split
          · rename_i same
            rw [same, found, legacyLayout_eq_nil_iff.mpr legacy]
          · rfl

/-- **Saved settings survive a reload, but for an empty layout.**  In every state of
every session, loading what was saved gives the settings back, field for field, if and
only if the layout is not empty or the legacy list names no widget. -/
theorem settings_survive_reload_iff (stored : Stored) (steps : List SessionStep) :
    SurvivesReload ((Session.load stored).run steps).settings ↔
      Restored ((Session.load stored).run steps).settings :=
  survivesReload_iff (Session.run_complete (loadSettings_complete stored) steps)

/-- On a new install the three widgets are removed one after the other; the settings then
saved are loaded with all three in place. -/
theorem removed_widgets_come_back :
    let s := ((Session.load .absent).run
      [.update (.remove "metrics-summary"), .render, .update (.remove "containers-summary"),
        .render, .update (.remove "crosswatch")]).settings
    s.get "homeLayout" = some (.arr []) ∧
      (loadSettings (saveSettings s)).get "homeLayout" = some (.arr defaultHomeLayout) ∧
      ¬ SurvivesReload s := by
  have layout : (((Session.load .absent).run
      [.update (.remove "metrics-summary"), .render, .update (.remove "containers-summary"),
        .render, .update (.remove "crosswatch")]).settings).get "homeLayout" = some (.arr []) := rfl
  have reloaded : (loadSettings (saveSettings ((Session.load .absent).run
      [.update (.remove "metrics-summary"), .render, .update (.remove "containers-summary"),
        .render, .update (.remove "crosswatch")]).settings)).get "homeLayout" =
          some (.arr defaultHomeLayout) := rfl
  refine ⟨layout, reloaded, fun survives => ?_⟩
  have same := survives "homeLayout"
  rw [reloaded, layout] at same
  exact absurd same nofun

end VpsDashboard.Frontend
