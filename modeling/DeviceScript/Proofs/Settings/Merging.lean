import DeviceScript.Proofs.Data.Steps
import DeviceScript.Proofs.Settings.Validation
import DeviceScript.Settings.Layered

/-! The values of a layer under explicit ones, field by field. A value reaches its own field and no
other one.
-/

namespace DeviceScript.Settings

variable {library : Library} {overrides : Overrides} {layer : Layer} {values : Values}
  {settings : Settings} {fault : LoadFault}

/-- The explicit name of an included file; an empty one counts as none. -/
def givenInclude (overrides : Overrides) : Option Text :=
  overrides.runtimeInclude.filter fun name => name ≠ []

/-- Says of values that they are those of a layer under explicit ones. -/
structure Merges (overrides : Overrides) (layer : Layer) (values : Values) : Prop where
  indentWidth : layer.member? "indent_width" = .ok values.indentWidth
  extraShims : layer.member? "extra_shims" = .ok values.extraShims
  inputPath : preferred overrides.inputPath (layer.path? "input_path") = .ok values.inputPath
  outputPath : preferred overrides.outputPath (layer.path? "output_path") = .ok values.outputPath
  runtimeInclude : preferred ((givenInclude overrides).map Datum.text)
    (layer.value? "runtime_include") = .ok values.runtimeInclude
  isStrict : preferred (overrides.isStrict.map Datum.boolean) (layer.member? "strict_mode")
    = .ok values.isStrict

/-- Merging asks for one value after another. -/
theorem mergedValues_eq_ok_iff
    : mergedValues overrides layer = .ok values ↔ Merges overrides layer values := by
  constructor
  · intro h
    obtain ⟨width, hwidth, h⟩ := exists_of_bind_eq_ok h
    obtain ⟨shims, hshims, h⟩ := exists_of_bind_eq_ok h
    obtain ⟨input, hinput, h⟩ := exists_of_bind_eq_ok h
    obtain ⟨output, houtput, h⟩ := exists_of_bind_eq_ok h
    obtain ⟨runtime, hruntime, h⟩ := exists_of_bind_eq_ok h
    obtain ⟨strict, hstrict, h⟩ := exists_of_bind_eq_ok h
    obtain rfl := Except.ok.inj h
    exact ⟨hwidth, hshims, hinput, houtput, hruntime, hstrict⟩
  · rintro ⟨hwidth, hshims, hinput, houtput, hruntime, hstrict⟩
    rw [givenInclude] at hruntime
    simp only [mergedValues, hwidth, hshims, hinput, houtput, hruntime, hstrict, bind, Except.bind]
    rfl

/-- The preferred value can be had if there is an explicit one, or else one of the layer. -/
theorem preferred_eq_ok_iff {α β : Type} {given : Option α} {layer? : Except β (Option α)}
    : (∃ value, preferred given layer? = .ok value)
      ↔ (given = none → ∃ value, layer? = .ok value) := by
  cases given <;> simp [preferred]

/-- Says of a layer that each of its values can be had, or is not asked for. -/
structure CanMerge (overrides : Overrides) (layer : Layer) : Prop where
  width : ∃ value, layer.member? "indent_width" = .ok value
  shims : ∃ value, layer.member? "extra_shims" = .ok value
  input : overrides.inputPath = none → ∃ path, layer.path? "input_path" = .ok path
  output : overrides.outputPath = none → ∃ path, layer.path? "output_path" = .ok path
  runtime : givenInclude overrides = none → ∃ value, layer.value? "runtime_include" = .ok value
  strict : overrides.isStrict = none → ∃ value, layer.member? "strict_mode" = .ok value

/-- A layer has values under explicit ones exactly if each of them can be had. -/
theorem exists_merges_iff
    : (∃ values, Merges overrides layer values) ↔ CanMerge overrides layer := by
  constructor
  · rintro ⟨values, hwidth, hshims, hinput, houtput, hruntime, hstrict⟩
    have hruntime := preferred_eq_ok_iff.mp ⟨_, hruntime⟩
    have hstrict := preferred_eq_ok_iff.mp ⟨_, hstrict⟩
    rw [Option.map_eq_none_iff] at hruntime hstrict
    exact ⟨⟨_, hwidth⟩, ⟨_, hshims⟩, preferred_eq_ok_iff.mp ⟨_, hinput⟩,
      preferred_eq_ok_iff.mp ⟨_, houtput⟩, hruntime, hstrict⟩
  · rintro ⟨⟨width, hwidth⟩, ⟨shims, hshims⟩, hinput, houtput, hruntime, hstrict⟩
    rw [← Option.map_eq_none_iff (f := Datum.text)] at hruntime
    rw [← Option.map_eq_none_iff (f := Datum.boolean)] at hstrict
    obtain ⟨input, hinput⟩ := preferred_eq_ok_iff.mpr hinput
    obtain ⟨output, houtput⟩ := preferred_eq_ok_iff.mpr houtput
    obtain ⟨runtime, hruntime⟩ := preferred_eq_ok_iff.mpr hruntime
    obtain ⟨strict, hstrict⟩ := preferred_eq_ok_iff.mpr hstrict
    exact ⟨⟨input, output, runtime, strict, width, shims⟩, hwidth, hshims, hinput, houtput, hruntime,
      hstrict⟩

/-- A layer whose values can be had makes the settings that the library makes of them. -/
theorem ofLayer_eq (h : Merges overrides layer values)
    : ofLayer library overrides layer
      = (library.validation.construct values).mapError .rejected := by
  rw [ofLayer, mergedValues_eq_ok_iff.mpr h]
  rfl

/-- A layer whose values cannot be had makes no settings. -/
theorem ofLayer_error (h : mergedValues overrides layer = .error fault)
    : ofLayer library overrides layer = .error fault := by
  rw [ofLayer, h]
  rfl

section Misuse

variable {key : Text}

/-- A member cannot be had of a section that is no table and yet holds the key. -/
theorem misuse_of_member? (h : layer.member? key = .error fault)
    : ∃ misuse, fault = .misuse misuse := by
  unfold Layer.member? at h
  split at h
  · cases h
  · split at h <;> cases h
    exact ⟨_, rfl⟩
  · dsimp only at h
    split at h <;> cases h
    exact ⟨_, rfl⟩
  · cases h
    exact ⟨_, rfl⟩

/-- A value cannot be had of a section that is no table. -/
theorem misuse_of_value? (h : layer.value? key = .error fault)
    : ∃ misuse, fault = .misuse misuse := by
  unfold Layer.value? at h
  split at h <;> cases h
  exact ⟨_, rfl⟩

/-- A path cannot be had of a section that is no table, or of a value that is no text. -/
theorem misuse_of_path? (h : layer.path? key = .error fault)
    : ∃ misuse, fault = .misuse misuse := by
  rcases error_of_bind h with h | ⟨value, h⟩
  · exact misuse_of_value? h
  · split at h <;> cases h
    exact ⟨_, rfl⟩

/-- A layer is only asked where there is no explicit value. -/
theorem layer_of_preferred {α β : Type} {given : Option α} {layer? : Except β (Option α)}
    {error : β} (h : preferred given layer? = .error error) : layer? = .error error := by
  cases given with
  | none => exact h
  | some value => cases h

/-- A layer has no values only if one of its own is misused. -/
theorem misuse_of_mergedValues (h : mergedValues overrides layer = .error fault)
    : ∃ misuse, fault = .misuse misuse := by
  rcases error_of_bind h with h | ⟨_, h⟩
  · exact misuse_of_member? h
  rcases error_of_bind h with h | ⟨_, h⟩
  · exact misuse_of_member? h
  rcases error_of_bind h with h | ⟨_, h⟩
  · exact misuse_of_path? (layer_of_preferred h)
  rcases error_of_bind h with h | ⟨_, h⟩
  · exact misuse_of_path? (layer_of_preferred h)
  rcases error_of_bind h with h | ⟨_, h⟩
  · exact misuse_of_value? (layer_of_preferred h)
  rcases error_of_bind h with h | ⟨_, h⟩
  · exact misuse_of_member? (layer_of_preferred h)
  · cases h

end Misuse

/-- Settings of a layer are those that its merged values make. -/
theorem exists_of_ofLayer (h : ofLayer library overrides layer = .ok settings)
    : ∃ values, Merges overrides layer values
      ∧ library.validation.construct values = .ok settings := by
  obtain ⟨values, hmerged, h⟩ := exists_of_bind_eq_ok h
  refine ⟨values, mergedValues_eq_ok_iff.mp hmerged, ?_⟩
  cases hresult : library.validation.construct values with
  | error reports => simp [hresult, Except.mapError] at h
  | ok _ => simpa [hresult, Except.mapError] using h

/-- The reports on a layer are those on its merged values. -/
theorem exists_of_ofLayer_rejected {rejections : List Rejection}
    (h : ofLayer library overrides layer = .error (.rejected rejections))
    : ∃ values, Merges overrides layer values
      ∧ library.validation.construct values = .error rejections := by
  cases hmerged : mergedValues overrides layer with
  | error fault =>
      obtain ⟨misuse, rfl⟩ := misuse_of_mergedValues hmerged
      exact absurd ((ofLayer_error hmerged).symm.trans h) nofun
  | ok values =>
      have hmerges := mergedValues_eq_ok_iff.mp hmerged
      refine ⟨values, hmerges, ?_⟩
      rw [ofLayer_eq hmerges] at h
      cases hresult : library.validation.construct values with
      | ok _ => simp [hresult, Except.mapError] at h
      | error reports => simpa [hresult, Except.mapError] using h

end DeviceScript.Settings
