import Barrage.Proofs.Settings.Exporting

/-!
# Settings files over the defaults

A settings file is laid over the defaults, or it is ignored as a whole.  It is laid
over them if it describes settings: what it leaves out then keeps its default, and
the order of its members and what stands under other names do not matter.  Keys are
texts, so a file with a key that stands for no text is ignored too, even if it says
nothing about the settings under this key.
-/

namespace Barrage.Settings

open Barrage.Json

section File

variable {members : List (List Char × Json)} {text : List Char}

theorem load_of_spelled
    (proper : (Json.object members).IsProper)
    (spelled : Spelled isSpace (Json.object members).tokens text) :
    load (some text) none =
      match ofJson? (.object members) with
      | some settings => ⟨settings, []⟩
      | none => ⟨{}, [.invalidFile]⟩ := by
  have read : read? text = some (.object members) :=
    read?_of_spelled proper (fun _ space => space) spelled
  cases found : ofJson? (.object members) with
  | some settings => simp only [load, Loaded.overrideRate, ofFile, read, Option.bind_some, found]
  | none => simp only [load, Loaded.overrideRate, ofFile, read, Option.bind_some, found]

/--
A text that holds an object is loaded as the settings that the object describes,
without a warning.  If it describes none, or if a key of it or of its viewport or
canvas stands for no text, the defaults are loaded, with one warning.
-/
theorem settings_file_overlays_defaults
    (proper : (Json.object members).IsProper)
    (spelled : Spelled isSpace (Json.object members).tokens text)
    (plain : IsPlain members) :
    (∀ settings, IsReadable members → Describes members settings →
        load (some text) none = ⟨settings, []⟩) ∧
      (¬ (IsReadable members ∧ ∃ settings, Describes members settings) →
        load (some text) none = ⟨{}, [.invalidFile]⟩) := by
  rw [load_of_spelled proper spelled]
  constructor
  · intro settings readable describes
    rw [(ofJson?_object_eq_some_iff plain).mpr ⟨readable, describes⟩]
  · intro nothing
    cases found : ofJson? (.object members) with
    | some settings =>
        obtain ⟨readable, describes⟩ := (ofJson?_object_eq_some_iff plain).mp found
        exact absurd ⟨readable, settings, describes⟩ nothing
    | none => rfl

end File

/-- A canvas without a marker. -/
def shortCanvas : List (String × Json) :=
  [("rows", .ofNat 30), ("marker_color", .ofText NamedColor.cyan.name.toList),
    ("columns", .ofNat 60)]

/-- A file that gives some settings, and something else. -/
def shortFile : List (String × Json) :=
  [("note", .array []), ("canvas", .ofFields shortCanvas), ("fps", .ofNat 8)]

theorem short_file_overlays_defaults :
    (Json.ofFields shortFile).IsProper ∧ IsPlain (fieldMembers shortFile) ∧
      IsReadable (fieldMembers shortFile) ∧
        load (some (Json.ofFields shortFile).compact) none =
          ⟨{ rate := 8, canvas := { columns := 60, rows := 30, markerColor := .named .cyan } },
            []⟩ := by
  have viewport : valuesUnder (fieldMembers shortFile) "viewport" = [] :=
    valuesUnder_fieldMembers _ "viewport"
  have canvas : valuesUnder (fieldMembers shortFile) "canvas" = [.ofFields shortCanvas] :=
    valuesUnder_fieldMembers _ "canvas"
  have color :
      valuesUnder (fieldMembers shortCanvas) "marker_color" =
        [.ofText NamedColor.cyan.name.toList] :=
    valuesUnder_fieldMembers _ "marker_color"
  have properCanvas : (Json.ofFields shortCanvas).IsProper := by
    refine isProper_ofFields ?_
    simp only [shortCanvas, List.forall_mem_cons]
    exact
      ⟨(isDense_ofNat _).isProper, isProper_ofText _, (isDense_ofNat _).isProper,
        List.forall_mem_nil _⟩
  have proper : (Json.ofFields shortFile).IsProper := by
    refine isProper_ofFields ?_
    simp only [shortFile, List.forall_mem_cons]
    exact
      ⟨(isDense_array (List.forall_mem_nil _)).isProper, properCanvas, (isDense_ofNat _).isProper,
        List.forall_mem_nil _⟩
  have plain : IsPlain (fieldMembers shortFile) := by
    refine ⟨?_, ?_, ?_⟩
    · rw [viewport]
      exact List.forall_mem_nil _
    · rw [canvas, List.forall_mem_singleton]
      exact ⟨_, rfl⟩
    · intro inner inCanvas parts inColor
      rw [canvas, List.mem_singleton] at inCanvas
      obtain rfl : inner = fieldMembers shortCanvas := Json.object.inj inCanvas
      rw [color, List.mem_singleton] at inColor
      cases inColor
  have readable : IsReadable (fieldMembers shortFile) := by
    refine ⟨hasReadableKeys_fieldMembers _, ?_, ?_⟩
    · rw [viewport]
      intro inner member
      cases member
    · rw [canvas]
      intro inner member
      cases List.mem_singleton.mp member
      exact hasReadableKeys_fieldMembers _
  have describes :
      Describes (fieldMembers shortFile)
        { rate := 8, canvas := { columns := 60, rows := 30, markerColor := .named .cyan } } :=
    ⟨.inl ⟨viewport, rfl⟩, .inr (gives_fieldMembers rfl rfl),
      .inr
        (gives_fieldMembers rfl
          ⟨_, rfl, gives_fieldMembers rfl rfl, gives_fieldMembers rfl rfl,
            .inl ⟨valuesUnder_fieldMembers _ "marker", rfl⟩, .inr ⟨_, color, isText_ofText _⟩⟩)⟩
  exact
    ⟨proper, plain, readable,
      (settings_file_overlays_defaults proper (compact_spelled _) plain).1 _ readable describes⟩

/-- A file with a key that stands for no text, half of a pair of code units. -/
def unreadableFile : List (List Char × Json) :=
  (['\\', 'u', 'd', '8', '0', '0'], .ofNat 0) :: fieldMembers [("fps", .ofNat 8)]

/-- Such a file is ignored, although it describes settings and is a proper text. -/
theorem unreadable_file_is_ignored :
    (Json.object unreadableFile).IsProper ∧
      Spelled isSpace (Json.object unreadableFile).tokens (Json.object unreadableFile).compact ∧
        IsPlain unreadableFile ∧ Describes unreadableFile { rate := 8 } ∧
          load (some (Json.object unreadableFile).compact) none ≠ ⟨{ rate := 8 }, []⟩ ∧
            load (some (Json.object unreadableFile).compact) none = ⟨{}, [.invalidFile]⟩ := by
  have proper : (Json.object unreadableFile).IsProper := by
    refine isProper_object ?_
    rw [unreadableFile, fieldMembers, List.map_singleton]
    simp only [List.forall_mem_cons]
    have key : TextBody ['\\', 'u', 'd', '8', '0', '0'] := by
      refine .unit ?_ .nil
      simp only [List.forall_mem_cons]
      exact ⟨rfl, rfl, rfl, rfl, List.forall_mem_nil _⟩
    exact
      ⟨⟨key, (isDense_ofNat _).isProper⟩, ⟨textBody_escape _, (isDense_ofNat _).isProper⟩,
        List.forall_mem_nil _⟩
  have elsewhere (name : String) :
      valuesUnder unreadableFile name = valuesUnder (fieldMembers [("fps", .ofNat 8)]) name := by
    have noText : content? ['\\', 'u', 'd', '8', '0', '0'] = none := by decide
    simp [valuesUnder, unreadableFile, noText]
  have viewport : valuesUnder unreadableFile "viewport" = [] :=
    (elsewhere _).trans (valuesUnder_fieldMembers _ _)
  have canvas : valuesUnder unreadableFile "canvas" = [] :=
    (elsewhere _).trans (valuesUnder_fieldMembers _ _)
  have rate : valuesUnder unreadableFile "fps" = [.ofNat 8] :=
    (elsewhere _).trans (valuesUnder_fieldMembers _ _)
  have plain : IsPlain unreadableFile := by
    refine ⟨?_, ?_, ?_⟩
    · rw [viewport]
      exact List.forall_mem_nil _
    · rw [canvas]
      exact List.forall_mem_nil _
    · intro inner inCanvas
      rw [canvas] at inCanvas
      cases inCanvas
  refine ⟨proper, compact_spelled _, plain, ?_, ?_, ?_⟩
  · exact ⟨.inl ⟨viewport, rfl⟩, .inr ⟨_, rate, rfl⟩, .inl ⟨canvas, rfl⟩⟩
  · decide +kernel
  · decide +kernel

end Barrage.Settings
