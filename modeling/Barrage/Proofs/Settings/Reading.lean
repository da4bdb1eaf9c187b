import Barrage.Proofs.Json.Finite
import Barrage.Proofs.Settings.Described
import Barrage.Proofs.Traversal

/-!
# Reading settings from objects

Each reading function accepts what is of its kind and nothing else, with the value
that it stands for.  So the settings that are read from an object are those that it
describes (`ofJson?_eq_some_iff`).
-/

namespace Barrage.Settings

open Barrage.Json Barrage.Number Barrage.Traversal

/-! ## Members -/

theorem withKeyContents?_eq_some_iff
    {members named : List (List Char × Json)} :
    withKeyContents? members = some named ↔
      List.Forall₂
        (fun member entry => content? member.1 = some entry.1 ∧ member.2 = entry.2)
        members named := by
  rw [withKeyContents?, mapM_eq_some_iff]
  constructor
  · refine List.Forall₂.imp fun member entry named => ?_
    obtain ⟨content, isContent, rfl⟩ := Option.map_eq_some_iff.mp named
    exact ⟨isContent, rfl⟩
  · refine List.Forall₂.imp fun member entry named => ?_
    exact Option.map_eq_some_iff.mpr ⟨entry.1, named.1, by rw [named.2]⟩

theorem exists_withKeyContents?_iff
    {members : List (List Char × Json)} :
    (∃ named, withKeyContents? members = some named) ↔ HasReadableKeys members := by
  simp only [withKeyContents?_eq_some_iff]
  induction members with
  | nil => simp [HasReadableKeys]
  | cons member rest ih =>
      rw [HasReadableKeys, List.forall_mem_cons, ← HasReadableKeys, ← ih,
        Option.isSome_iff_exists]
      simp only [List.forall₂_cons_left_iff]
      constructor
      · rintro ⟨_, entry, named, ⟨isContent, -⟩, found, -⟩
        exact ⟨⟨entry.1, isContent⟩, named, found⟩
      · rintro ⟨⟨content, isContent⟩, named, found⟩
        exact ⟨_, (content, member.2), named, ⟨isContent, rfl⟩, found, rfl⟩

theorem valuesUnder_of_withKeyContents?
    {members named : List (List Char × Json)}
    (found : withKeyContents? members = some named)
    (name : String) :
    (named.filter fun member => member.1 == name.toList).map (·.2) = valuesUnder members name := by
  rw [withKeyContents?_eq_some_iff] at found
  induction found with
  | nil => rfl
  | @cons member entry _ _ same _ ih =>
      rw [valuesUnder] at ih ⊢
      rw [List.filter_cons, List.filter_cons, same.1]
      simp only [beq_iff_eq, Option.some.injEq, decide_eq_true_eq]
      split
      · rw [List.map_cons, List.map_cons, ih, same.2]
      · exact ih

theorem uniqueMember?_eq_some_iff
    {named : List (List Char × Json)}
    {name : String}
    {field : Option Json} :
    uniqueMember? named name = some field ↔
      (named.filter fun member => member.1 == name.toList).map (·.2) = field.toList := by
  rw [uniqueMember?]
  generalize named.filter (fun member => member.1 == name.toList) = found
  rcases found with _ | ⟨member, _ | ⟨second, others⟩⟩
  · cases field <;> simp
  · cases field <;> simp
  · cases field <;> simp

/-- The fields of an object are found if all keys can be read and no name occurs twice. -/
theorem objectFields?_eq_some_iff
    {names : List String}
    {members : List (List Char × Json)}
    {fields : List (Option Json)} :
    objectFields? names members = some fields ↔
      HasReadableKeys members ∧
        List.Forall₂ (fun name field => valuesUnder members name = field.toList) names fields := by
  rw [objectFields?, Option.bind_eq_bind, Option.bind_eq_some_iff, ← exists_withKeyContents?_iff]
  constructor
  · rintro ⟨named, found, read⟩
    refine ⟨⟨named, found⟩, (mapM_eq_some_iff.mp read).imp fun name field unique => ?_⟩
    rw [← valuesUnder_of_withKeyContents? found]
    exact uniqueMember?_eq_some_iff.mp unique
  · rintro ⟨⟨named, found⟩, values⟩
    refine ⟨named, found, mapM_eq_some_iff.mpr (values.imp fun name field unique => ?_)⟩
    rw [uniqueMember?_eq_some_iff, valuesUnder_of_withKeyContents? found, unique]

/-! ## Scalars -/

/-- Whatever number is read is finite. -/
theorem real?_eq_some_iff
    {json : Json}
    {value : Float} :
    real? json = some value ↔ IsReal json value := by
  cases json with
  | number token =>
      simp only [real?, IsReal, Json.number.injEq, exists_eq_left']
      cases found : numberValue? token with
      | none => simp
      | some number =>
          cases number with
          | integer whole =>
              have finite := isFinite_of_numberValue?_eq_integer found
              simp only [Option.some.injEq, NumberValue.integer.injEq, exists_eq_left', reduceCtorEq,
                or_false]
              constructor
              · rintro rfl
                exact ⟨finite, rfl⟩
              · exact fun isReal => isReal.2
          | real number =>
              have finite := isFinite_of_numberValue?_eq_real found
              simp only [Option.some.injEq, NumberValue.real.injEq, reduceCtorEq, false_and,
                exists_false, false_or]
              constructor
              · rintro rfl
                exact ⟨finite, rfl⟩
              · exact fun isReal => isReal.2
  | _ => simp [real?, IsReal]

theorem natural?_eq_some_iff
    {limit value : Nat}
    (held : limit ≤ wordLimit)
    {json : Json} :
    natural? limit json = some value ↔ IsNatural json value ∧ value < limit := by
  cases json with
  | number token =>
      have digits : IsNatural (.number token) value ∧ value < limit ↔
          numberValue? token = some (.integer value) ∧ value < limit := by
        rw [numberValue?_eq_natural_iff, IsNatural, Json.ofNat, Json.number.injEq]
        constructor
        · rintro ⟨rfl, small⟩
          exact ⟨⟨rfl, Nat.lt_of_lt_of_le small held⟩, small⟩
        · rintro ⟨⟨rfl, -⟩, small⟩
          exact ⟨rfl, small⟩
      rw [digits, natural?]
      split
      next number denotes =>
        rw [denotes, Option.ite_none_right_eq_some]
        constructor
        · rintro ⟨small, same⟩
          cases same
          exact ⟨rfl, small⟩
        · rintro ⟨same, small⟩
          cases same
          exact ⟨small, rfl⟩
      next notNatural =>
        constructor
        · intro impossible
          cases impossible
        · rintro ⟨denotes, -⟩
          exact absurd denotes (notNatural value)
  | _ => simp [natural?, IsNatural, Json.ofNat]

theorem character?_eq_some_iff
    {json : Json}
    {character : Char} :
    character? json = some character ↔ IsText json [character] := by
  cases json with
  | text body =>
      simp only [character?, IsText, Json.text.injEq, exists_eq_left']
      split
      next other isContent => simp [isContent]
      next notOne => simpa using notOne character
  | _ => simp [character?, IsText]

/-! ## Members of some kind -/

section Members

variable {α : Type} {members : List (List Char × Json)} {name : String}

theorem gives_iff_of_eq_singleton
    {isKind : Json → α → Prop}
    {json : Json}
    (one : valuesUnder members name = [json])
    (value : α) :
    Gives members name isKind value ↔ isKind json value := by
  simp [Gives, one]

/-- A field that is found is given or omitted, according to whether it is there. -/
theorem orDefault?_eq_some_iff
    (isKind : Json → α → Prop)
    {read? : Json → Option α}
    {default value : α}
    {field : Option Json}
    (found : valuesUnder members name = field.toList)
    (reads : ∀ json ∈ valuesUnder members name, read? json = some value ↔ isKind json value) :
    orDefault? read? default field = some value ↔
      GivesOrOmits members name isKind default value := by
  cases field with
  | none => simp [orDefault?, GivesOrOmits, Gives, found, eq_comm]
  | some json =>
      have one : valuesUnder members name = [json] := found
      rw [GivesOrOmits, gives_iff_of_eq_singleton one, ← reads json (by simp [one]), orDefault?]
      simp [one]

/-- What else has to hold for a value that is given has to hold for all that is there. -/
theorem orDefault?_eq_some_iff_and
    (holds : Json → Prop)
    (isKind : Json → α → Prop)
    {read? : Json → Option α}
    {default value : α}
    {field : Option Json}
    (found : valuesUnder members name = field.toList)
    (reads : ∀ json ∈ valuesUnder members name,
      read? json = some value ↔ holds json ∧ isKind json value) :
    orDefault? read? default field = some value ↔
      (∀ json ∈ valuesUnder members name, holds json) ∧
        GivesOrOmits members name isKind default value := by
  rw [orDefault?_eq_some_iff (fun json value => holds json ∧ isKind json value) found reads]
  constructor
  · rintro (⟨nothing, isDefault⟩ | ⟨json, one, held, isValue⟩)
    · exact ⟨by simp [nothing], .inl ⟨nothing, isDefault⟩⟩
    · exact ⟨by simpa [one] using held, .inr ⟨json, one, isValue⟩⟩
  · rintro ⟨held, ⟨nothing, isDefault⟩ | ⟨json, one, isValue⟩⟩
    · exact .inl ⟨nothing, isDefault⟩
    · exact .inr ⟨json, one, held json (by simp [one]), isValue⟩

theorem GivesOrOmits.exists_field
    {isKind : Json → α → Prop}
    {default value : α}
    (gives : GivesOrOmits members name isKind default value) :
    ∃ field : Option Json, valuesUnder members name = field.toList := by
  rcases gives with ⟨nothing, -⟩ | ⟨json, one, -⟩
  · exact ⟨none, nothing⟩
  · exact ⟨some json, one⟩

end Members

theorem mem_valuesUnder
    {members : List (List Char × Json)}
    {member : List Char × Json}
    {name : String}
    (inMembers : member ∈ members)
    (isName : content? member.1 = some name.toList) :
    member.2 ∈ valuesUnder members name :=
  List.mem_map_of_mem (List.mem_filter.mpr ⟨inMembers, decide_eq_true isName⟩)

/-! ## Colours -/

theorem ofName?_eq_some_iff
    {name : List Char}
    {color : NamedColor} :
    NamedColor.ofName? name = some color ↔ name = color.name.toList := by
  constructor
  · intro found
    have named : (color.name.toList == name) = true :=
      List.find?_some (p := fun color : NamedColor => color.name.toList == name) found
    exact (beq_iff_eq.mp named).symm
  · rintro rfl
    exact color.ofName?_name

theorem areMembersReadable_iff
    {depth : Nat}
    {members : List (List Char × Json)} :
    areMembersReadable depth members = true ↔
      ∀ member ∈ members, (content? member.1).isSome = true ∧ isReadable depth member.2 = true := by
  induction members with
  | nil => simp [areMembersReadable]
  | cons member rest ih =>
      rw [areMembersReadable, Bool.and_eq_true, Bool.and_eq_true, ih, List.forall_mem_cons]

theorem isReadable_ofNat
    {value : Nat}
    (small : value < wordLimit)
    (depth : Nat) :
    isReadable depth (.ofNat value) = true := by
  rw [Json.ofNat, isReadable, numberValue?_eq_natural_iff.mpr ⟨rfl, small⟩]
  rfl

theorem rgbColor?_object_eq_some_iff
    {parts : List (List Char × Json)}
    {color : MarkerColor} :
    rgbColor? (.object parts) = some color ↔
      HasReadableKeys parts ∧ IsColor (.object parts) color := by
  have held : 256 ≤ wordLimit := by decide
  simp only [rgbColor?, Option.bind_eq_bind, Option.bind_eq_some_iff, objectFields?_eq_some_iff]
  constructor
  · rintro ⟨fields, ⟨readable, found⟩, read⟩
    split at read
    next red green blue =>
      simp only [List.forall₂_cons, Option.toList_some] at found
      obtain ⟨foundRed, foundGreen, foundBlue, -⟩ := found
      simp only [Option.bind_eq_some_iff, natural?_eq_some_iff held] at read
      obtain ⟨r, ⟨isRed, redSmall⟩, g, ⟨isGreen, greenSmall⟩, b, ⟨isBlue, blueSmall⟩, same⟩ := read
      cases same
      refine ⟨readable, parts, rfl, ⟨red, foundRed, ?_⟩, ⟨green, foundGreen, ?_⟩,
        ⟨blue, foundBlue, ?_⟩⟩
      · rwa [UInt8.toNat_ofNat_of_lt' redSmall]
      · rwa [UInt8.toNat_ofNat_of_lt' greenSmall]
      · rwa [UInt8.toNat_ofNat_of_lt' blueSmall]
    next => cases read
  · rintro ⟨readable, isColor⟩
    cases color with
    | named color =>
        obtain ⟨body, impossible, -⟩ := isColor
        cases impossible
    | rgb red green blue =>
        obtain ⟨_, same, ⟨r, foundRed, isRed⟩, ⟨g, foundGreen, isGreen⟩,
          ⟨b, foundBlue, isBlue⟩⟩ := isColor
        cases same
        refine ⟨[some r, some g, some b], ⟨readable, ?_⟩, ?_⟩
        · exact .cons foundRed (.cons foundGreen (.cons foundBlue .nil))
        · simp only [Option.bind_eq_some_iff, natural?_eq_some_iff held]
          refine ⟨_, ⟨isRed, red.toNat_lt⟩, _, ⟨isGreen, green.toNat_lt⟩, _,
            ⟨isBlue, blue.toNat_lt⟩, ?_⟩
          simp

section Parts

variable {parts : List (List Char × Json)} (partsOnly : HasPartsOnly parts)

include partsOnly

theorem HasPartsOnly.hasReadableKeys : HasReadableKeys parts := by
  intro part member
  obtain ⟨name, -, isName⟩ := partsOnly part member
  rw [isName]
  rfl

/-- No part of a colour has the name of a colour. -/
theorem HasPartsOnly.namedColor?_eq_none : namedColor? (.object parts) = none := by
  unfold namedColor?
  split
  next => rename_i impossible; cases impossible
  next key same =>
    cases same
    obtain ⟨name, isPart, isName⟩ := partsOnly (key, .null) List.mem_cons_self
    rw [isName, Option.bind_some]
    simp only [List.mem_cons, List.not_mem_nil, or_false] at isPart
    rcases isPart with rfl | rfl | rfl <;> rfl
  next => rfl

theorem HasPartsOnly.isReadable
    {red green blue : UInt8}
    (isColor : IsColor (.object parts) (.rgb red green blue)) :
    isReadable colorDepth (.object parts) = true := by
  have each {name : String} {value : UInt8} {part : List Char × Json}
      (gives : Gives parts name IsNatural value.toNat)
      (member : part ∈ parts)
      (isName : content? part.1 = some name.toList) :
      Settings.isReadable (colorDepth - 1) part.2 = true := by
    obtain ⟨json, one, isNatural⟩ := gives
    have here := mem_valuesUnder member isName
    rw [one, List.mem_singleton] at here
    rw [here, isNatural]
    exact isReadable_ofNat (Nat.lt_trans value.toNat_lt (by decide)) _
  obtain ⟨_, same, isRed, isGreen, isBlue⟩ := isColor
  cases same
  rw [Settings.isReadable, Bool.and_eq_true, areMembersReadable_iff]
  refine ⟨rfl, fun part member => ⟨partsOnly.hasReadableKeys part member, ?_⟩⟩
  obtain ⟨name, isPart, isName⟩ := partsOnly part member
  simp only [List.mem_cons, List.not_mem_nil, or_false] at isPart
  rcases isPart with rfl | rfl | rfl
  · exact each isRed member isName
  · exact each isGreen member isName
  · exact each isBlue member isName

end Parts

theorem markerColor?_eq_some_iff
    {json : Json}
    {color : MarkerColor}
    (partsOnly : ∀ parts, json = .object parts → HasPartsOnly parts) :
    markerColor? json = some color ↔ IsColor json color := by
  rw [markerColor?, Option.ite_none_right_eq_some]
  cases json with
  | text body =>
      have isName (name : NamedColor) :
          namedColor? (.text body) = some name ↔ content? body = some name.name.toList := by
        simp only [namedColor?, Option.bind_eq_some_iff, ofName?_eq_some_iff, exists_eq_right]
      cases color with
      | named name =>
          have colored : IsColor (.text body) (.named name) ↔ namedColor? (.text body) = some name := by
            simp only [isName, IsColor, IsText, Json.text.injEq, exists_eq_left']
          rw [colored]
          constructor
          · rintro ⟨-, read⟩
            split at read
            next other found =>
              cases read
              exact found
            next => cases read
          · intro found
            refine ⟨?_, ?_⟩
            · rw [isReadable, (isName name).mp found]
              rfl
            · rw [found]
      | rgb red green blue =>
          simp only [IsColor, reduceCtorEq, false_and, exists_false, iff_false, not_and]
          intro _ read
          split at read
          next => cases read
          next => cases read
  | object parts =>
      have partsOnly := partsOnly parts rfl
      rw [partsOnly.namedColor?_eq_none]
      dsimp only
      rw [rgbColor?_object_eq_some_iff]
      constructor
      · exact fun read => read.2.2
      · intro isColor
        refine ⟨?_, partsOnly.hasReadableKeys, isColor⟩
        cases color with
        | named color =>
            obtain ⟨body, impossible, -⟩ := isColor
            cases impossible
        | rgb red green blue => exact partsOnly.isReadable isColor
  | null | boolean _ | number _ | array _ =>
      cases color <;> simp [namedColor?, rgbColor?, IsColor, IsText]

/-! ## Objects -/

theorem viewport?_object_eq_some_iff
    {members : List (List Char × Json)}
    {viewport : Viewport} :
    viewport? (.object members) = some viewport ↔
      HasReadableKeys members ∧ IsViewport (.object members) viewport := by
  simp only [viewport?, fields?, Option.bind_eq_bind, Option.bind_eq_some_iff,
    objectFields?_eq_some_iff, IsViewport, Json.object.injEq, exists_eq_left']
  constructor
  · rintro ⟨fields, ⟨readable, found⟩, read⟩
    split at read
    next width height radius =>
      simp only [List.forall₂_cons, Option.toList_some] at found
      obtain ⟨foundWidth, foundHeight, foundRadius, -⟩ := found
      simp only [Option.bind_eq_some_iff, real?_eq_some_iff] at read
      obtain ⟨w, isWidth, h, isHeight, r, isRadius, same⟩ := read
      cases same
      exact
        ⟨readable, ⟨width, foundWidth, isWidth⟩, ⟨height, foundHeight, isHeight⟩,
          ⟨radius, foundRadius, isRadius⟩⟩
    next => cases read
  · rintro ⟨readable, ⟨width, foundWidth, isWidth⟩, ⟨height, foundHeight, isHeight⟩,
      ⟨radius, foundRadius, isRadius⟩⟩
    refine
      ⟨[some width, some height, some radius], ⟨readable, ?_⟩, ?_⟩
    · exact .cons foundWidth (.cons foundHeight (.cons foundRadius .nil))
    · simp only [Option.bind_eq_some_iff, real?_eq_some_iff]
      exact ⟨_, isWidth, _, isHeight, _, isRadius, rfl⟩

theorem canvas?_object_eq_some_iff
    {members : List (List Char × Json)}
    {canvas : CanvasSettings}
    (partsOnly : ∀ parts, .object parts ∈ valuesUnder members "marker_color" → HasPartsOnly parts) :
    canvas? (.object members) = some canvas ↔
      HasReadableKeys members ∧ IsCanvas (.object members) canvas := by
  have held : 0x10000 ≤ wordLimit := by decide
  have markers (value : Char) (json : Json) (_ : json ∈ valuesUnder members "marker") :
      character? json = some value ↔ IsText json [value] :=
    character?_eq_some_iff
  have colors (value : MarkerColor) (json : Json) (member : json ∈ valuesUnder members "marker_color") :
      markerColor? json = some value ↔ IsColor json value :=
    markerColor?_eq_some_iff fun parts same => partsOnly parts (same ▸ member)
  simp only [canvas?, fields?, Option.bind_eq_bind, Option.bind_eq_some_iff,
    objectFields?_eq_some_iff, IsCanvas, Json.object.injEq, exists_eq_left']
  constructor
  · rintro ⟨fields, ⟨readable, found⟩, read⟩
    split at read
    next columns rows marker color =>
      simp only [List.forall₂_cons, Option.toList_some] at found
      obtain ⟨foundColumns, foundRows, foundMarker, foundColor, -⟩ := found
      simp only [Option.bind_eq_some_iff, natural?_eq_some_iff held] at read
      obtain ⟨c, ⟨isColumns, columnsSmall⟩, r, ⟨isRows, rowsSmall⟩, m, isMarker, k, isColor, same⟩ :=
        read
      cases same
      refine ⟨readable, ⟨columns, foundColumns, ?_⟩, ⟨rows, foundRows, ?_⟩, ?_, ?_⟩
      · rwa [UInt16.toNat_ofNat_of_lt' columnsSmall]
      · rwa [UInt16.toNat_ofNat_of_lt' rowsSmall]
      · exact (orDefault?_eq_some_iff _ foundMarker (markers m)).mp isMarker
      · exact (orDefault?_eq_some_iff _ foundColor (colors k)).mp isColor
    next => cases read
  · rintro ⟨readable, ⟨columns, foundColumns, isColumns⟩, ⟨rows, foundRows, isRows⟩, isMarker,
      isColor⟩
    obtain ⟨marker, foundMarker⟩ := isMarker.exists_field
    obtain ⟨color, foundColor⟩ := isColor.exists_field
    refine ⟨[some columns, some rows, marker, color], ⟨readable, ?_⟩, ?_⟩
    · exact .cons foundColumns (.cons foundRows (.cons foundMarker (.cons foundColor .nil)))
    · simp only [Option.bind_eq_some_iff, natural?_eq_some_iff held]
      refine ⟨_, ⟨isColumns, canvas.columns.toNat_lt⟩, _, ⟨isRows, canvas.rows.toNat_lt⟩,
        _, (orDefault?_eq_some_iff _ foundMarker (markers _)).mpr isMarker,
        _, (orDefault?_eq_some_iff _ foundColor (colors _)).mpr isColor, ?_⟩
      simp

/-- The keys of an object, unless the value is something else. -/
def KeysReadable (json : Json) : Prop :=
  ∀ inner, json = .object inner → HasReadableKeys inner

theorem isReadable_iff
    {members : List (List Char × Json)} :
    IsReadable members ↔
      HasReadableKeys members ∧
        (∀ json ∈ valuesUnder members "viewport", KeysReadable json) ∧
          ∀ json ∈ valuesUnder members "canvas", KeysReadable json := by
  constructor
  · intro readable
    refine ⟨readable.here, ?_, ?_⟩
    · rintro _ member inner rfl
      exact readable.viewport inner member
    · rintro _ member inner rfl
      exact readable.canvas inner member
  · rintro ⟨here, viewport, canvas⟩
    exact ⟨here, fun inner member => viewport _ member inner rfl,
      fun inner member => canvas _ member inner rfl⟩

/-- The settings that are read from an object are those that it describes. -/
theorem ofJson?_object_eq_some_iff
    {members : List (List Char × Json)}
    {settings : Settings}
    (plain : IsPlain members) :
    ofJson? (.object members) = some settings ↔ IsReadable members ∧ Describes members settings := by
  have held : 0x100000000 ≤ wordLimit := by decide
  have viewports (value : Viewport) (json : Json) (member : json ∈ valuesUnder members "viewport") :
      viewport? json = some value ↔ KeysReadable json ∧ IsViewport json value := by
    obtain ⟨inner, rfl⟩ := plain.viewport json member
    simp only [viewport?_object_eq_some_iff, KeysReadable, Json.object.injEq, forall_eq']
  have canvases (value : CanvasSettings) (json : Json) (member : json ∈ valuesUnder members "canvas") :
      canvas? json = some value ↔ KeysReadable json ∧ IsCanvas json value := by
    obtain ⟨inner, rfl⟩ := plain.canvas json member
    simp only [canvas?_object_eq_some_iff (plain.color inner member), KeysReadable,
      Json.object.injEq, forall_eq']
  have rates (value : Nat) (json : Json) (_ : json ∈ valuesUnder members "fps") :
      natural? 0x100000000 json = some value ↔ value < 0x100000000 ∧ IsNatural json value := by
    rw [natural?_eq_some_iff held, and_comm]
  simp only [ofJson?, fields?, Option.bind_eq_bind, Option.bind_eq_some_iff,
    objectFields?_eq_some_iff, isReadable_iff, Describes]
  constructor
  · rintro ⟨fields, ⟨readable, found⟩, read⟩
    split at read
    next viewport rate canvas =>
      simp only [List.forall₂_cons] at found
      obtain ⟨foundViewport, foundRate, foundCanvas, -⟩ := found
      simp only [Option.bind_eq_some_iff] at read
      obtain ⟨v, isViewport, r, isRate, c, isCanvas, same⟩ := read
      cases same
      rw [orDefault?_eq_some_iff_and KeysReadable IsViewport foundViewport (viewports v)] at isViewport
      rw [orDefault?_eq_some_iff_and _ IsNatural foundRate (rates r)] at isRate
      rw [orDefault?_eq_some_iff_and KeysReadable IsCanvas foundCanvas (canvases c)] at isCanvas
      have small : r < 0x100000000 := by
        rcases isRate with ⟨given, ⟨-, rfl⟩ | ⟨json, one, -⟩⟩
        · exact UInt32.toNat_lt _
        · exact given json (by simp [one])
      refine ⟨⟨readable, isViewport.1, isCanvas.1⟩, isViewport.2, ?_, isCanvas.2⟩
      rw [UInt32.toNat_ofNat_of_lt' small]
      exact isRate.2
    next => cases read
  · rintro ⟨⟨readable, viewportReadable, canvasReadable⟩, isViewport, isRate, isCanvas⟩
    obtain ⟨viewport, foundViewport⟩ := isViewport.exists_field
    obtain ⟨rate, foundRate⟩ := isRate.exists_field
    obtain ⟨canvas, foundCanvas⟩ := isCanvas.exists_field
    refine ⟨[viewport, rate, canvas], ⟨readable, ?_⟩, ?_⟩
    · exact .cons foundViewport (.cons foundRate (.cons foundCanvas .nil))
    · simp only [Option.bind_eq_some_iff]
      refine
        ⟨settings.viewport,
          (orDefault?_eq_some_iff_and _ _ foundViewport (viewports _)).mpr
            ⟨viewportReadable, isViewport⟩,
          settings.rate.toNat,
          (orDefault?_eq_some_iff_and _ _ foundRate (rates _)).mpr
            ⟨fun _ _ => settings.rate.toNat_lt, isRate⟩,
          settings.canvas,
          (orDefault?_eq_some_iff_and _ _ foundCanvas (canvases _)).mpr
            ⟨canvasReadable, isCanvas⟩, ?_⟩
      rw [UInt32.ofNat_toNat]

end Barrage.Settings
