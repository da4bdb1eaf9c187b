import Barrage.Proofs.Settings.Reading

/-!
# Exported settings

Settings are exported as an object with a fixed list of fields.  Under the name of a
field it has the value of this field, whatever has to be escaped in texts.  So the
object describes the settings that it was exported from, and these are what is read
from it.

The numbers of the viewport are written in decimal and read in steps that round, so
for them it has to be assumed that they are read back.
-/

namespace Barrage.Json

/-! ## Fields as members -/

/-- The members of a record. -/
def fieldMembers (fields : List (String × Json)) : List (List Char × Json) :=
  fields.map fun field => (escape field.1.toList, field.2)

end Barrage.Json

namespace Barrage.Settings

open Barrage.Json

section Fields

variable (fields : List (String × Json))

theorem hasReadableKeys_fieldMembers : HasReadableKeys (fieldMembers fields) := by
  intro member inMembers
  obtain ⟨field, -, rfl⟩ := List.mem_map.mp inMembers
  rw [content?_escape]
  rfl

theorem valuesUnder_fieldMembers (name : String) :
    valuesUnder (fieldMembers fields) name =
      (fields.filter fun field => field.1 = name).map (·.2) := by
  have sameName (field : String × Json) :
      content? (escape field.1.toList) = some name.toList ↔ field.1 = name := by
    rw [content?_escape, Option.some.injEq, String.toList_inj]
  rw [valuesUnder, fieldMembers, List.filter_map, List.map_map]
  simp only [Function.comp_def, sameName]

end Fields

/-- A record gives what stands in the one field with a name. -/
theorem gives_fieldMembers
    {α : Type}
    {fields : List (String × Json)}
    {name : String}
    {isKind : Json → α → Prop}
    {json : Json}
    {value : α}
    (one : (fields.filter fun field => field.1 = name).map (·.2) = [json])
    (isValue : isKind json value) :
    Gives (fieldMembers fields) name isKind value :=
  ⟨json, (valuesUnder_fieldMembers fields name).trans one, isValue⟩

/-! ## Values -/

theorem isText_ofText (content : List Char) : IsText (.ofText content) content :=
  ⟨escape content, rfl, content?_escape content⟩

theorem isColor_toJson (color : MarkerColor) : IsColor color.toJson color := by
  cases color with
  | named color => exact isText_ofText color.name.toList
  | rgb red green blue =>
      exact
        ⟨_, rfl, gives_fieldMembers rfl rfl, gives_fieldMembers rfl rfl, gives_fieldMembers rfl rfl⟩

/-- A colour that is exported as an object has its three parts. -/
theorem hasPartsOnly_of_toJson
    {color : MarkerColor}
    {parts : List (List Char × Json)}
    (same : color.toJson = .object parts) :
    HasPartsOnly parts := by
  cases color with
  | named color => cases same
  | rgb red green blue =>
      cases same
      intro part member
      obtain ⟨field, inFields, rfl⟩ := List.mem_map.mp member
      refine ⟨field.1, ?_, content?_escape _⟩
      simp only [List.mem_cons, List.not_mem_nil, or_false] at inFields ⊢
      rcases inFields with rfl | rfl | rfl <;> simp

theorem isProper_color_toJson (color : MarkerColor) : color.toJson.IsProper := by
  cases color with
  | named color => exact isProper_ofText _
  | rgb red green blue =>
      refine isProper_ofFields ?_
      simp only [List.forall_mem_cons]
      exact
        ⟨(isDense_ofNat _).isProper, (isDense_ofNat _).isProper, (isDense_ofNat _).isProper,
          List.forall_mem_nil _⟩

theorem isCanvas_toJson (canvas : CanvasSettings) : IsCanvas canvas.toJson canvas :=
  ⟨_, rfl, gives_fieldMembers rfl rfl, gives_fieldMembers rfl rfl,
    .inr (gives_fieldMembers rfl (isText_ofText _)),
    .inr (gives_fieldMembers rfl (isColor_toJson _))⟩

theorem valuesUnder_of_canvas_toJson
    {canvas : CanvasSettings}
    {members : List (List Char × Json)}
    (same : canvas.toJson = .object members) :
    valuesUnder members "marker_color" = [canvas.markerColor.toJson] := by
  cases same
  exact valuesUnder_fieldMembers _ "marker_color"

/-- Each number of a viewport is read from what it is exported as. -/
def IsReadBack (viewport : Viewport) : Prop :=
  ∀ value ∈ [viewport.width, viewport.height, viewport.bulletRadius],
    real? (.ofFloat value) = some value

theorem isViewport_toJson
    {viewport : Viewport}
    (readBack : IsReadBack viewport) :
    IsViewport viewport.toJson viewport := by
  have isReal (value : Float)
      (member : value ∈ [viewport.width, viewport.height, viewport.bulletRadius]) :
      IsReal (.ofFloat value) value :=
    real?_eq_some_iff.mp (readBack value member)
  exact
    ⟨_, rfl, gives_fieldMembers rfl (isReal _ (by simp)),
      gives_fieldMembers rfl (isReal _ (by simp)), gives_fieldMembers rfl (isReal _ (by simp))⟩

/-! ## Settings -/

/-- The members that settings are exported as. -/
def exportedMembers (settings : Settings) : List (List Char × Json) :=
  fieldMembers
    [("viewport", settings.viewport.toJson), ("fps", .ofNat settings.rate.toNat),
      ("canvas", settings.canvas.toJson)]

section Exported

variable (settings : Settings)

theorem valuesUnder_exportedMembers_viewport :
    valuesUnder (exportedMembers settings) "viewport" = [settings.viewport.toJson] :=
  valuesUnder_fieldMembers _ "viewport"

theorem valuesUnder_exportedMembers_canvas :
    valuesUnder (exportedMembers settings) "canvas" = [settings.canvas.toJson] :=
  valuesUnder_fieldMembers _ "canvas"

theorem isPlain_exportedMembers : IsPlain (exportedMembers settings) where
  viewport := by
    intro json member
    rw [valuesUnder_exportedMembers_viewport, List.mem_singleton] at member
    exact ⟨_, member⟩
  canvas := by
    intro json member
    rw [valuesUnder_exportedMembers_canvas, List.mem_singleton] at member
    exact ⟨_, member⟩
  color := by
    intro inner inCanvas parts inColor
    rw [valuesUnder_exportedMembers_canvas, List.mem_singleton] at inCanvas
    rw [valuesUnder_of_canvas_toJson inCanvas.symm] at inColor
    exact hasPartsOnly_of_toJson (List.mem_singleton.mp inColor).symm

theorem isReadable_exportedMembers : IsReadable (exportedMembers settings) where
  here := hasReadableKeys_fieldMembers _
  viewport := by
    intro inner member
    rw [valuesUnder_exportedMembers_viewport, List.mem_singleton] at member
    cases member
    exact hasReadableKeys_fieldMembers _
  canvas := by
    intro inner member
    rw [valuesUnder_exportedMembers_canvas, List.mem_singleton] at member
    cases member
    exact hasReadableKeys_fieldMembers _

theorem isProper_toJson : settings.toJson.IsProper := by
  have viewport : settings.viewport.toJson.IsProper := by
    refine isProper_ofFields ?_
    simp only [List.forall_mem_cons]
    exact
      ⟨(isDense_ofFloat _).isProper, (isDense_ofFloat _).isProper, (isDense_ofFloat _).isProper,
        List.forall_mem_nil _⟩
  have canvas : settings.canvas.toJson.IsProper := by
    refine isProper_ofFields ?_
    simp only [List.forall_mem_cons]
    exact
      ⟨(isDense_ofNat _).isProper, (isDense_ofNat _).isProper, isProper_ofText _,
        isProper_color_toJson _, List.forall_mem_nil _⟩
  refine isProper_ofFields ?_
  simp only [List.forall_mem_cons]
  exact ⟨viewport, (isDense_ofNat _).isProper, canvas, List.forall_mem_nil _⟩

end Exported

theorem describes_exportedMembers
    {settings : Settings}
    (readBack : IsReadBack settings.viewport) :
    Describes (exportedMembers settings) settings :=
  ⟨.inr (gives_fieldMembers rfl (isViewport_toJson readBack)), .inr (gives_fieldMembers rfl rfl),
    .inr (gives_fieldMembers rfl (isCanvas_toJson settings.canvas))⟩

theorem load_exported
    {settings : Settings}
    (readBack : IsReadBack settings.viewport) :
    load (some settings.toJson.compact) none = ⟨settings, []⟩ := by
  have read := read?_compact (isProper_toJson settings)
  have isJson : ofJson? settings.toJson = some settings :=
    (ofJson?_object_eq_some_iff (isPlain_exportedMembers settings)).mpr
      ⟨isReadable_exportedMembers settings, describes_exportedMembers readBack⟩
  simp only [load, Loaded.overrideRate, ofFile, read, Option.bind_some, isJson]

theorem markerColor?_toJson (color : MarkerColor) : markerColor? color.toJson = some color :=
  (markerColor?_eq_some_iff fun _ => hasPartsOnly_of_toJson).mpr (isColor_toJson color)

/--
Exported settings are what is loaded again, without a warning, if the numbers of the
viewport are read back.  So different settings are exported differently.  A colour is
read back as well, whether it has a name or parts, and no colour is exported like
another one.
-/
theorem exported_settings_are_loaded_again
    (settings other : Settings)
    (readBack : IsReadBack settings.viewport)
    (otherReadBack : IsReadBack other.viewport) :
    load (some settings.toJson.compact) none = ⟨settings, []⟩ ∧
      (settings.toJson.compact = other.toJson.compact ↔ settings = other) ∧
        (∀ color : MarkerColor, markerColor? color.toJson = some color) ∧
          ∀ first second : MarkerColor,
            first.toJson.compact = second.toJson.compact ↔ first = second := by
  refine ⟨load_exported readBack, ⟨fun same => ?_, fun same => by rw [same]⟩,
    markerColor?_toJson, fun first second => ⟨fun same => ?_, fun same => by rw [same]⟩⟩
  · have loaded := load_exported readBack
    rw [same, load_exported otherReadBack] at loaded
    exact (congrArg Loaded.settings loaded).symm
  · have sameJson :=
      compact_injective (isProper_color_toJson first) (isProper_color_toJson second) same
    have read := markerColor?_toJson first
    rw [sameJson, markerColor?_toJson] at read
    exact (Option.some.inj read).symm

/-- A quote is escaped, and a colour with parts is not taken for the name of one. -/
theorem exported_quote_is_loaded_again :
    IsReadBack ({} : Viewport) ∧
      load
          (some
            (Settings.toJson
              { rate := 4294967295, canvas := ⟨65535, 0, '"', .rgb 255 0 0⟩ }).compact)
          none =
        ⟨{ rate := 4294967295, canvas := ⟨65535, 0, '"', .rgb 255 0 0⟩ }, []⟩ := by
  have readBack : IsReadBack ({} : Viewport) := by
    intro value member
    simp only [List.mem_cons, List.not_mem_nil, or_false] at member
    rcases member with rfl | rfl | rfl <;> decide +kernel
  exact ⟨readBack, (exported_settings_are_loaded_again _ {} readBack readBack).1⟩

end Barrage.Settings
