import DeviceScript.Proofs.Settings.Merging

/-! Sections with values of the right types. For each setting the explicit value is taken, or else
the one of the section, or else the default, and the settings are accepted or rejected as a whole.
-/

namespace DeviceScript.Settings

/-- The values of a section, each of the type that its setting asks for. -/
structure SectionValues where
  inputPath : Option Text := none
  outputPath : Option Text := none
  runtimeInclude : Option Text := none
  isStrict : Option Bool := none
  indentWidth : Option Int := none
  extraShims : Option (List (Text × Text)) := none

/-- Says of a section that its values have the right types, and which ones they are. -/
structure SectionValues.Fill (values : SectionValues) (entries : List (Text × Datum)) : Prop where
  inputPath : entries.lookup ("input_path" : Text) = values.inputPath.map .text
  outputPath : entries.lookup ("output_path" : Text) = values.outputPath.map .text
  runtimeInclude : entries.lookup ("runtime_include" : Text) = values.runtimeInclude.map .text
  isStrict : entries.lookup ("strict_mode" : Text) = values.isStrict.map .boolean
  indentWidth : entries.lookup ("indent_width" : Text) = values.indentWidth.map .integer
  extraShims : entries.lookup ("extra_shims" : Text) = values.extraShims.map textTable
  areUnicode : ∀ shims ∈ values.extraShims, ∀ shim ∈ shims, shim.1.IsUnicode ∧ shim.2.IsUnicode

/-- A value for each setting, before it is checked. -/
structure Choice where
  inputPath : Path
  outputPath : Path
  runtimeInclude : Text
  isStrict : Bool
  indentWidth : Int
  extraShims : List (Text × Text)

/-- The explicit values over those of a section over the defaults. The paths of the section are seen
from its directory. -/
def choice (overrides : Overrides) (directory : Path) (values : SectionValues) : Choice :=
  let settings : Settings := {}
  let seen (path : Option Text) : Option Path :=
    path.map fun path => directory.join (Path.ofText path)
  { inputPath := (overrides.inputPath.or (seen values.inputPath)).getD settings.inputPath
    outputPath := (overrides.outputPath.or (seen values.outputPath)).getD settings.outputPath
    runtimeInclude :=
      ((givenInclude overrides).or values.runtimeInclude).getD settings.runtimeInclude
    isStrict := (overrides.isStrict.or values.isStrict).getD settings.isStrict
    indentWidth := values.indentWidth.getD settings.indentWidth
    extraShims := values.extraShims.getD settings.extraShims }

namespace Choice

/-- The conditions for the values: a text that names a C++ file, at most eight blanks, and dotted
names with targets that are not blank. -/
structure IsAccepted (validation : Validation) (choice : Choice) : Prop where
  isText : validation.text (.text choice.runtimeInclude) = some choice.runtimeInclude
  runtimeInclude : suffixes.any choice.runtimeInclude.strip.endsWith
  narrow : 0 ≤ choice.indentWidth
  wide : choice.indentWidth ≤ 8
  extraShims : ∀ shim ∈ choice.extraShims, shimReason? shim.1 shim.2 = none

/-- The settings that the values make. -/
def settings (choice : Choice) : Settings where
  inputPath := choice.inputPath
  outputPath := choice.outputPath
  runtimeInclude := choice.runtimeInclude.strip
  isStrict := choice.isStrict
  indentWidth := choice.indentWidth.toNat
  extraShims := choice.extraShims

/-- Says of a result that it is what becomes of some values. -/
structure IsLoaded (validation : Validation) (choice : Choice)
    (result : Except LoadFault Settings) : Prop where
  accepted : choice.IsAccepted validation → result = .ok choice.settings
  rejected : ¬choice.IsAccepted validation → ∃ rejections, result = .error (.rejected rejections)

end Choice

/-- Says of settings that they are the defaults, but for explicit values. -/
structure IsDefault (settings : Settings) (overrides : Overrides) : Prop where
  inputPath : overrides.inputPath = none → settings.inputPath = "main.ts"
  outputPath : overrides.outputPath = none → settings.outputPath = "main.cpp"
  runtimeInclude : overrides.runtimeInclude = none → settings.runtimeInclude = "basic.cpp"
  isStrict : overrides.isStrict = none → settings.isStrict = false
  indentWidth : settings.indentWidth = 4
  extraShims : settings.extraShims = []

-----------------------------------------------------------------------------------------
-- What a library takes the values for
-----------------------------------------------------------------------------------------

section Lawful

variable {validation : Validation}

/-- A name is taken if it is a text that names a C++ file. -/
theorem Validation.Lawful.include?_eq_some_iff (h : validation.Lawful) (name file : Text)
    : validation.include? (.text name) = some file
      ↔ (validation.text (.text name) = some name ∧ suffixes.any name.strip.endsWith = true)
        ∧ name.strip = file := by
  rw [Validation.include?]
  rcases h.text name with htext | ⟨_, htext⟩
  · rw [htext, Option.bind_some, includeFile]
    by_cases hsuffix : suffixes.any name.strip.endsWith = true
    · simp only [hsuffix, if_true, Except.toOption, Option.some.injEq, true_and]
    · simp only [hsuffix, Bool.false_eq_true, if_false, Except.toOption, and_false, false_and,
        reduceCtorEq]
  · simp [htext]

/-- A number is taken if it is within the bounds. -/
theorem Validation.Lawful.width?_eq_some_iff (h : validation.Lawful) (number : Int) (width : Nat)
    : validation.width? (.integer number) = some width
      ↔ (0 ≤ number ∧ number ≤ 8) ∧ number.toNat = width := by
  rw [Validation.width?, h.integer, Option.bind_some]
  change (if 0 ≤ number ∧ number ≤ 8 then some number.toNat else none) = some width ↔ _
  by_cases hbounds : 0 ≤ number ∧ number ≤ 8
  · rw [if_pos hbounds, Option.some.injEq, and_iff_right hbounds]
  · rw [if_neg hbounds]
    exact iff_of_false (Option.some_ne_none width).symm fun hnumber => hbounds hnumber.1

/-- A truth value is taken as it is. -/
theorem Validation.Lawful.boolean_eq_some_iff (h : validation.Lawful) (value accepted : Bool)
    : validation.boolean (.boolean value) = some accepted ↔ True ∧ value = accepted := by
  rw [h.boolean, Option.some.injEq, true_and]

/-- Replacements are taken if nothing is wrong with any of them. -/
theorem Validation.Lawful.shims?_eq_some_iff (h : validation.Lawful) {shims : List (Text × Text)}
    (hunicode : ∀ shim ∈ shims, shim.1.IsUnicode ∧ shim.2.IsUnicode)
    (accepted : List (Text × Text))
    : validation.shims? (textTable shims) = some accepted
      ↔ (∀ shim ∈ shims, shimReason? shim.1 shim.2 = none) ∧ shims = accepted := by
  rw [Validation.shims?, h.texts shims hunicode, Option.bind_some, checkedShims]
  cases hreason : shims.findSome? fun shim => shimReason? shim.1 shim.2 with
  | none =>
      have hall := List.findSome?_eq_none_iff.mp hreason
      exact ⟨fun h => ⟨hall, Option.some.inj h⟩, fun h => congrArg some h.2⟩
  | some reason =>
      obtain ⟨shim, hm, hs⟩ := List.exists_of_findSome?_eq_some hreason
      refine iff_of_false (Option.some_ne_none accepted).symm fun h => ?_
      exact absurd (hs.symm.trans (h.1 shim hm)) (Option.some_ne_none reason)

/-- Where a value stands for something under a condition, so does the value of a field whose default
meets it. -/
theorem given_eq_some_iff {α β : Type} {take : Datum → Option α} {shape : β → Datum}
    {given : Option β} {condition : β → Prop} (result : β → α) (default : β)
    (htake : ∀ value ∈ given, ∀ accepted,
      take (shape value) = some accepted ↔ condition value ∧ result value = accepted)
    (hdefault : condition default) (accepted : α)
    : Validation.given take (result default) (given.map shape) = some accepted
      ↔ condition (given.getD default) ∧ result (given.getD default) = accepted := by
  cases given with
  | none => simp [Validation.given, hdefault]
  | some value => exact htake value rfl accepted

/-- A text of characters alone is taken as it is. -/
theorem Validation.Lawful.text_of_isUnicode (h : validation.Lawful) {text : Text}
    (hunicode : text.IsUnicode) : validation.text (.text text) = some text := by
  rcases h.text text with htext | ⟨hn, _⟩
  · exact htext
  · exact absurd hunicode hn

end Lawful

-----------------------------------------------------------------------------------------
-- The values of a table
-----------------------------------------------------------------------------------------

variable {library : Library} {overrides : Overrides} {layer : Layer} {merged : Values}
  {entries : List (Text × Datum)} {values : SectionValues} {key : Text}

/-- The preferred one of two values that can be had is the first one. -/
theorem preferred_ok {α β : Type} (given layer : Option α)
    : preferred given (.ok layer : Except β (Option α)) = .ok (given.or layer) := by
  cases given <;> rfl

/-- A member of a table is looked up. -/
theorem member?_eq (hvalues : layer.values = .table entries)
    : layer.member? key = .ok (entries.lookup key) := by
  simp only [Layer.member?, hvalues]

/-- A value of a table is looked up. -/
theorem value?_eq (hvalues : layer.values = .table entries)
    : layer.value? key = .ok (entries.lookup key) := by
  simp only [Layer.value?, hvalues]

/-- A path of a table is seen from the directory of the section. -/
theorem path?_eq (hvalues : layer.values = .table entries) {section? : Option Text}
    (hl : entries.lookup key = section?.map .text)
    : layer.path? key
      = .ok (section?.map fun path => (layer.directory.getD "").join (Path.ofText path)) := by
  simp only [Layer.path?, value?_eq hvalues, hl]
  cases section? <;> rfl

/-- The merged values of a section are accepted if the chosen ones meet their conditions, and make
the settings of the choice. -/
theorem accepts_iff (hlawful : library.validation.Lawful) (hmerges : Merges overrides layer merged)
    (hvalues : layer.values = .table entries) (hfill : values.Fill entries) (settings : Settings)
    : library.validation.Accepts merged settings
      ↔ (choice overrides (layer.directory.getD "") values).IsAccepted library.validation
        ∧ (choice overrides (layer.directory.getD "") values).settings = settings := by
  obtain ⟨inputPath, outputPath, runtimeInclude, isStrict, indentWidth, extraShims⟩ := settings
  obtain ⟨hwidth, hshims, hinput, houtput, hruntime, hstrict⟩ := hmerges
  rw [path?_eq hvalues hfill.inputPath, preferred_ok] at hinput
  rw [path?_eq hvalues hfill.outputPath, preferred_ok] at houtput
  rw [value?_eq hvalues, hfill.runtimeInclude, preferred_ok, ← Option.map_or] at hruntime
  rw [member?_eq hvalues, hfill.isStrict, preferred_ok, ← Option.map_or] at hstrict
  rw [member?_eq hvalues, hfill.indentWidth] at hwidth
  rw [member?_eq hvalues, hfill.extraShims] at hshims
  obtain ⟨inputPath', outputPath', runtimeInclude', isStrict', indentWidth', extraShims'⟩ := merged
  obtain rfl := Except.ok.inj hinput
  obtain rfl := Except.ok.inj houtput
  obtain rfl := Except.ok.inj hruntime
  obtain rfl := Except.ok.inj hstrict
  obtain rfl := Except.ok.inj hwidth
  obtain rfl := Except.ok.inj hshims
  have hruntime := given_eq_some_iff Text.strip "basic.cpp"
    (fun name (_ : name ∈ (givenInclude overrides).or values.runtimeInclude) =>
      hlawful.include?_eq_some_iff name)
    ⟨hlawful.text_of_isUnicode (Text.isUnicode_ofString "basic.cpp"), by decide⟩ runtimeInclude
  have hstrict := given_eq_some_iff id false
    (fun value (_ : value ∈ overrides.isStrict.or values.isStrict) =>
      hlawful.boolean_eq_some_iff value)
    trivial isStrict
  have hwidth := given_eq_some_iff Int.toNat 4
    (fun number (_ : number ∈ values.indentWidth) => hlawful.width?_eq_some_iff number)
    (by decide) indentWidth
  have hshims := given_eq_some_iff id []
    (fun shims hm => hlawful.shims?_eq_some_iff (hfill.areUnicode shims hm))
    nofun extraShims
  constructor
  · rintro ⟨rfl, rfl, hr, hs, hw, he⟩
    obtain ⟨⟨htext, hinclude⟩, rfl⟩ := hruntime.mp hr
    obtain ⟨_, rfl⟩ := hstrict.mp hs
    obtain ⟨⟨hnarrow, hwide⟩, rfl⟩ := hwidth.mp hw
    obtain ⟨htargets, rfl⟩ := hshims.mp he
    exact ⟨⟨htext, hinclude, hnarrow, hwide, htargets⟩, rfl⟩
  · rintro ⟨haccepted, h⟩
    obtain ⟨rfl, rfl, rfl, rfl, rfl, rfl⟩ := Settings.mk.inj h
    exact ⟨rfl, rfl, hruntime.mpr ⟨⟨haccepted.isText, haccepted.runtimeInclude⟩, rfl⟩,
      hstrict.mpr ⟨trivial, rfl⟩, hwidth.mpr ⟨⟨haccepted.narrow, haccepted.wide⟩, rfl⟩,
      hshims.mpr ⟨haccepted.extraShims, rfl⟩⟩

/-- The values of a section with the right types are merged and checked as they are chosen. -/
theorem isLoaded_ofLayer (layer : Layer) (hlawful : library.validation.Lawful)
    (hvalues : layer.values = .table entries) (hfill : values.Fill entries)
    : (choice overrides (layer.directory.getD "") values).IsLoaded library.validation
        (ofLayer library overrides layer) := by
  obtain ⟨merged, hmerges⟩ := exists_merges_iff.mpr
    (⟨⟨_, member?_eq hvalues⟩, ⟨_, member?_eq hvalues⟩,
      fun _ => ⟨_, path?_eq hvalues hfill.inputPath⟩,
      fun _ => ⟨_, path?_eq hvalues hfill.outputPath⟩, fun _ => ⟨_, value?_eq hvalues⟩,
      fun _ => ⟨_, member?_eq hvalues⟩⟩ : CanMerge overrides layer)
  have haccepts := accepts_iff hlawful hmerges hvalues hfill
  rw [ofLayer_eq hmerges]
  cases hresult : library.validation.construct merged with
  | ok settings =>
      obtain ⟨haccepted, rfl⟩ := (haccepts settings).mp ((hlawful.accepts _ _).mp hresult)
      exact ⟨fun _ => rfl, fun h => absurd haccepted h⟩
  | error rejections =>
      refine ⟨fun h => ?_, fun _ => ⟨rejections, rfl⟩⟩
      have hok := (hlawful.accepts _ _).mpr ((haccepts _).mpr ⟨h, rfl⟩)
      exact absurd (hresult.symm.trans hok) nofun

/-- Without a section all that is not given explicitly has its default. -/
theorem isDefault_choice (overrides : Overrides) (directory : Path)
    : (choice overrides directory {}).settings.IsDefault overrides where
  inputPath h := by simp only [Choice.settings, choice, h]; rfl
  outputPath h := by simp only [Choice.settings, choice, h]; rfl
  runtimeInclude h := by simp only [Choice.settings, choice, givenInclude, h]; rfl
  isStrict h := by simp only [Choice.settings, choice, h]; rfl
  indentWidth := rfl
  extraShims := rfl

/-- Settings that become of a choice are its own. -/
theorem Choice.IsLoaded.eq_settings {validation : Validation} {choice : Choice}
    {result : Except LoadFault Settings} {settings : Settings}
    (h : choice.IsLoaded validation result) (hr : result = .ok settings)
    : settings = choice.settings := by
  by_cases haccepted : choice.IsAccepted validation
  · exact Except.ok.inj (hr.symm.trans (h.accepted haccepted))
  · obtain ⟨rejections, he⟩ := h.rejected haccepted
    exact absurd (hr.symm.trans he) nofun

end DeviceScript.Settings
