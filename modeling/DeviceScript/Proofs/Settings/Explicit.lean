import DeviceScript.Proofs.Settings.Nearest

/-! Explicit values win over the values of project files and over the defaults, and each of them has
a say in its own setting only. An empty name of an included file is the one value that counts as
none.
-/

namespace DeviceScript.Settings

variable {library : Library} {validation : Validation} {overrides others : Overrides}
  {layer : Layer} {files : FileSystem} {settings settings' : Settings} {values values' : Values}

/-- Says of settings that they are the explicit values, with blanks around the name of an included
file taken away. -/
structure Honours (settings : Settings) (overrides : Overrides) : Prop where
  inputPath : ∀ path ∈ overrides.inputPath, settings.inputPath = path
  outputPath : ∀ path ∈ overrides.outputPath, settings.outputPath = path
  runtimeInclude : ∀ name ∈ overrides.runtimeInclude, name ≠ []
    → includeFile name = .ok settings.runtimeInclude
  isStrict : ∀ strict ∈ overrides.isStrict, settings.isStrict = strict

/-- Says of a report that it is not about a setting with an explicit value, unless that value stands
for nothing. -/
structure Spares (validation : Validation) (rejection : Rejection) (overrides : Overrides)
    : Prop where
  inputPath : rejection.place.head? ≠ some ("input_path" : Text)
  outputPath : rejection.place.head? ≠ some ("output_path" : Text)
  runtimeInclude : rejection.place.head? = some ("runtime_include" : Text)
    → ∀ name ∈ overrides.runtimeInclude, name ≠ [] → validation.include? (.text name) = none
  isStrict : rejection.place.head? = some ("strict_mode" : Text) → overrides.isStrict = none

/-- Says of two settings that they agree wherever two groups of explicit values do. -/
structure Agree (settings settings' : Settings) (overrides others : Overrides) : Prop where
  inputPath : overrides.inputPath = others.inputPath → settings.inputPath = settings'.inputPath
  outputPath : overrides.outputPath = others.outputPath
    → settings.outputPath = settings'.outputPath
  runtimeInclude : overrides.runtimeInclude = others.runtimeInclude
    → settings.runtimeInclude = settings'.runtimeInclude
  isStrict : overrides.isStrict = others.isStrict → settings.isStrict = settings'.isStrict
  indentWidth : settings.indentWidth = settings'.indentWidth
  extraShims : settings.extraShims = settings'.extraShims

-----------------------------------------------------------------------------------------
-- Explicit values come before those of a layer
-----------------------------------------------------------------------------------------

section Merges

variable (hmerges : Merges overrides layer values)

include hmerges

/-- An explicit input path has the first say, whatever the layer holds. -/
theorem inputPath_of_mem {path : Path} (h : path ∈ overrides.inputPath)
    : values.inputPath = some path := by
  have hinput := hmerges.inputPath
  rw [Option.mem_def.mp h] at hinput
  exact (Except.ok.inj hinput).symm

/-- An explicit output path has the first say, whatever the layer holds. -/
theorem outputPath_of_mem {path : Path} (h : path ∈ overrides.outputPath)
    : values.outputPath = some path := by
  have houtput := hmerges.outputPath
  rw [Option.mem_def.mp h] at houtput
  exact (Except.ok.inj houtput).symm

/-- An explicit name of an included file has the first say, unless it is empty. -/
theorem runtimeInclude_of_mem {name : Text} (h : name ∈ overrides.runtimeInclude) (hne : name ≠ [])
    : values.runtimeInclude = some (.text name) := by
  have hruntime := hmerges.runtimeInclude
  have hgiven : givenInclude overrides = some name := by
    rw [givenInclude, Option.mem_def.mp h, Option.filter_some, if_pos (decide_eq_true hne)]
  rw [hgiven] at hruntime
  exact (Except.ok.inj hruntime).symm

/-- Explicit strictness has the first say, whatever the layer holds. -/
theorem isStrict_of_mem {strict : Bool} (h : strict ∈ overrides.isStrict)
    : values.isStrict = some (.boolean strict) := by
  have hstrict := hmerges.isStrict
  rw [Option.mem_def.mp h] at hstrict
  exact (Except.ok.inj hstrict).symm

/-- Settings that are accepted are the explicit values. -/
theorem honours_of_accepts (hlawful : validation.Lawful)
    (haccepts : validation.Accepts values settings) : settings.Honours overrides where
  inputPath path hm := by
    have hinput := haccepts.inputPath
    rw [inputPath_of_mem hmerges hm] at hinput
    exact hinput.symm
  outputPath path hm := by
    have houtput := haccepts.outputPath
    rw [outputPath_of_mem hmerges hm] at houtput
    exact houtput.symm
  runtimeInclude name hm hne := by
    have hruntime := haccepts.runtimeInclude
    rw [runtimeInclude_of_mem hmerges hm hne, Validation.given, Validation.include?] at hruntime
    rcases hlawful.text name with htext | ⟨_, htext⟩
    · rw [htext, Option.bind_some] at hruntime
      cases hfile : includeFile name with
      | error reason => simp [hfile, Except.toOption] at hruntime
      | ok file => simpa [hfile, Except.toOption] using hruntime
    · simp [htext] at hruntime
  isStrict strict hm := by
    have hstrict := haccepts.isStrict
    rw [isStrict_of_mem hmerges hm, Validation.given, hlawful.boolean] at hstrict
    exact (Option.some.inj hstrict).symm

/-- A field with an explicit value is only refused if this value stands for nothing. -/
theorem spares_of_refuses (hlawful : validation.Lawful) {rejection : Rejection}
    (hrefuses : ∀ name, rejection.place.head? = some name → validation.Refuses values name)
    : Spares validation rejection overrides where
  inputPath h := by
    generalize hname : ("input_path" : Text) = name at h
    cases hrefuses name h <;> exact absurd hname (by decide)
  outputPath h := by
    generalize hname : ("output_path" : Text) = name at h
    cases hrefuses name h <;> exact absurd hname (by decide)
  runtimeInclude h given hm hne := by
    generalize hname : ("runtime_include" : Text) = name at h
    cases hrefuses name h with
    | runtimeInclude hrefused => rwa [runtimeInclude_of_mem hmerges hm hne] at hrefused
    | isStrict | indentWidth | extraShims => exact absurd hname (by decide)
  isStrict h := by
    generalize hname : ("strict_mode" : Text) = name at h
    cases hrefuses name h with
    | isStrict hrefused =>
        refine Option.eq_none_iff_forall_not_mem.mpr fun strict hm => ?_
        rw [isStrict_of_mem hmerges hm, Validation.given, hlawful.boolean] at hrefused
        cases hrefused
    | runtimeInclude | indentWidth | extraShims => exact absurd hname (by decide)

end Merges

/-- The settings of one layer under two groups of explicit values agree where the groups do. -/
theorem agree_of_accepts (hmerges : Merges overrides layer values)
    (hmerges' : Merges others layer values') (h : validation.Accepts values settings)
    (h' : validation.Accepts values' settings')
    : Agree settings settings' overrides others where
  inputPath he := by
    have hl := hmerges.inputPath
    rw [he, hmerges'.inputPath] at hl
    rw [← h.inputPath, ← h'.inputPath, Except.ok.inj hl]
  outputPath he := by
    have hl := hmerges.outputPath
    rw [he, hmerges'.outputPath] at hl
    rw [← h.outputPath, ← h'.outputPath, Except.ok.inj hl]
  runtimeInclude he := by
    have hl := hmerges.runtimeInclude
    rw [givenInclude, he, ← givenInclude, hmerges'.runtimeInclude] at hl
    refine Option.some.inj (h.runtimeInclude.symm.trans ?_)
    rw [← Except.ok.inj hl, h'.runtimeInclude]
  isStrict he := by
    have hl := hmerges.isStrict
    rw [he, hmerges'.isStrict] at hl
    refine Option.some.inj (h.isStrict.symm.trans ?_)
    rw [← Except.ok.inj hl, h'.isStrict]
  indentWidth := by
    have hl := Except.ok.inj (hmerges.indentWidth.symm.trans hmerges'.indentWidth)
    refine Option.some.inj (h.indentWidth.symm.trans ?_)
    rw [hl, h'.indentWidth]
  extraShims := by
    have hl := Except.ok.inj (hmerges.extraShims.symm.trans hmerges'.extraShims)
    refine Option.some.inj (h.extraShims.symm.trans ?_)
    rw [hl, h'.extraShims]

-----------------------------------------------------------------------------------------
-- The settings of a command
-----------------------------------------------------------------------------------------

/-- An empty name of an included file counts as none. -/
theorem loaded_emptyInclude (library : Library) (overrides : Overrides) (files : FileSystem)
    : loaded library { overrides with runtimeInclude := some [] } files
      = loaded library { overrides with runtimeInclude := none } files := by
  rw [loaded_eq, loaded_eq]
  rfl

/-- Settings that are loaded are those that the merged values of a layer make. -/
theorem exists_of_loaded (h : loaded library overrides files = .ok settings)
    : ∃ layer values, found library overrides.start files = .ok layer
      ∧ Merges overrides layer values ∧ library.validation.construct values = .ok settings := by
  rw [loaded_eq] at h
  obtain ⟨layer, hfound, h⟩ := exists_of_bind_eq_ok h
  obtain ⟨values, hmerges, hmade⟩ := exists_of_ofLayer h
  exact ⟨layer, values, hfound, hmerges, hmade⟩

/-- Reports are those on the merged values of a layer. -/
theorem exists_of_loaded_rejected {rejections : List Rejection}
    (h : loaded library overrides files = .error (.rejected rejections))
    : ∃ layer values, Merges overrides layer values
      ∧ library.validation.construct values = .error rejections := by
  rw [loaded_eq] at h
  cases hfound : found library overrides.start files with
  | error fault =>
      rw [hfound] at h
      obtain rfl := Except.error.inj h
      exact absurd hfound (found_ne_rejected _ files rejections)
  | ok layer =>
      rw [hfound] at h
      obtain ⟨values, hmerges, hreports⟩ := exists_of_ofLayer_rejected h
      exact ⟨layer, values, hmerges, hreports⟩

/-- Explicit values win: settings hold them, a report on one of them says that it stands for
nothing, and none of them has an influence on any other setting. -/
theorem loaded_explicit (library : Library) (hlawful : library.validation.Lawful)
    (overrides : Overrides) (files : FileSystem)
    : (∀ settings, loaded library overrides files = .ok settings → settings.Honours overrides)
      ∧ (∀ rejections, loaded library overrides files = .error (.rejected rejections)
        → ∀ rejection ∈ rejections, Spares library.validation rejection overrides)
      ∧ (∀ name ∈ overrides.runtimeInclude, name ≠ []
        → library.validation.include? (.text name) = none
        → ∃ fault, loaded library overrides files = .error fault
          ∧ ∀ rejections, fault = .rejected rejections
            → ∃ rejection ∈ rejections, rejection.place.head? = some ("runtime_include" : Text))
      ∧ (∀ others settings settings', others.start = overrides.start
        → loaded library overrides files = .ok settings
        → loaded library others files = .ok settings'
        → Agree settings settings' overrides others)
      ∧ loaded library { overrides with runtimeInclude := some [] } files
        = loaded library { overrides with runtimeInclude := none } files := by
  refine ⟨?_, ?_, ?_, ?_, loaded_emptyInclude library overrides files⟩
  · intro settings h
    obtain ⟨layer, values, _, hmerges, hmade⟩ := exists_of_loaded h
    exact honours_of_accepts hmerges hlawful ((hlawful.accepts _ _).mp hmade)
  · intro rejections h rejection hm
    obtain ⟨layer, values, hmerges, hmade⟩ := exists_of_loaded_rejected h
    refine spares_of_refuses hmerges hlawful fun name hplace => ?_
    exact (hlawful.rejects values rejections hmade name).mp ⟨rejection, hm, hplace⟩
  · intro name hname hne hrefused
    have hgiven {layer : Layer} {values : Values} (hmerges : Merges overrides layer values)
        : library.validation.Refuses values "runtime_include" := by
      refine .runtimeInclude ?_
      rwa [runtimeInclude_of_mem hmerges hname hne]
    cases hloaded : loaded library overrides files with
    | ok settings =>
        obtain ⟨layer, values, _, hmerges, hmade⟩ := exists_of_loaded hloaded
        have hruntime := ((hlawful.accepts _ _).mp hmade).runtimeInclude
        rw [runtimeInclude_of_mem hmerges hname hne] at hruntime
        exact absurd (hrefused.symm.trans hruntime) nofun
    | error fault =>
        refine ⟨fault, rfl, fun rejections hr => ?_⟩
        subst hr
        obtain ⟨layer, values, hmerges, hmade⟩ := exists_of_loaded_rejected hloaded
        exact (hlawful.rejects values rejections hmade _).mpr (hgiven hmerges)
  · intro others settings settings' hstart h h'
    obtain ⟨layer, values, hfound, hmerges, hmade⟩ := exists_of_loaded h
    obtain ⟨layer', values', hfound', hmerges', hmade'⟩ := exists_of_loaded h'
    rw [hstart, hfound] at hfound'
    obtain rfl := Except.ok.inj hfound'
    exact agree_of_accepts hmerges hmerges' ((hlawful.accepts _ _).mp hmade)
      ((hlawful.accepts _ _).mp hmade')

/-- An explicit path wins over that of a project file, and the other one is taken from there. -/
theorem loaded_explicit_nested
    : loaded {} { inputPath := some "c.ts" } nested
        = .ok { inputPath := "c.ts", outputPath := "/b.cpp" }
      ∧ Honours { inputPath := "c.ts", outputPath := "/b.cpp" } { inputPath := some "c.ts" } := by
  have hway : FileLocation.ancestry [("home" : Text), ("app" : Text)]
      = [[("home" : Text), ("app" : Text)]] ++ [("home" : Text)] :: [[]] := rfl
  have hfill : SectionValues.Fill ⟨some "a.ts", some "/b.cpp", none, none, none, none⟩
      [("input_path", .text "a.ts"), ("output_path", .text "/b.cpp")] :=
    ⟨rfl, rfl, rfl, rfl, rfl, rfl, nofun⟩
  have hloaded : loaded {} { inputPath := some "c.ts" } nested
      = .ok { inputPath := "c.ts", outputPath := "/b.cpp" } :=
    (loaded_of_section Validation.standard_lawful rfl hway
      (List.forall_mem_singleton.mpr lacksSection_nested) hasSection_nested hfill).accepted
        ⟨rfl, by decide, by decide, by decide, nofun⟩
  exact ⟨hloaded, (loaded_explicit {} Validation.standard_lawful _ nested).1 _ hloaded⟩

/-- An empty name of an included file is no error, but it is not the one that is included. -/
theorem include_not_explicit
    : ¬∀ overrides files settings name, overrides.runtimeInclude = some name
      → loaded {} overrides files = .ok settings
      → includeFile name = .ok settings.runtimeInclude := by
  intro h
  have hloaded
      : loaded {} { runtimeInclude := some [] } { entries := [], working := [] } = .ok {} := rfl
  exact absurd (h _ _ _ [] rfl hloaded) nofun

end DeviceScript.Settings
