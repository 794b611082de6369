import DeviceScript.Command.Run
import DeviceScript.Proofs.Settings.Merging
import DeviceScript.Proofs.Settings.Nearest

/-! Faults of project files for which a command has no message. A file without the section is passed
over, whatever else it holds, so only the file that the search comes to can be at fault.
-/

namespace DeviceScript.Settings

variable {library : Library} {overrides : Overrides} {files : FileSystem} {layer : Layer}
  {nearer farther : List FileLocation} {place : FileLocation} {fault : LoadFault}

/-- Says of a section that a key is not found in it, though it is no table. -/
def Lacks (key : Text) : Datum → Prop
  | .text text => text.includes key = false
  | .list items => ∀ item ∈ items, item ≠ .text key
  | _ => False

/-- Says of a section that it is no table but no one asks it for a value. -/
structure IsBypassed (overrides : Overrides) (values : Datum) : Prop where
  indentWidth : Lacks "indent_width" values
  extraShims : Lacks "extra_shims" values
  inputPath : overrides.inputPath ≠ none
  outputPath : overrides.outputPath ≠ none
  runtimeInclude : givenInclude overrides ≠ none
  isStrict : overrides.isStrict = none → Lacks "strict_mode" values

/-- Says of a section that it is used as what it is not: a path that is no text, or a section that
is no table. -/
inductive IsMisused (overrides : Overrides) : Datum → Prop where
  | inputPath {entries : List (Text × Datum)} {value : Datum} (hg : overrides.inputPath = none)
    (hl : entries.lookup ("input_path" : Text) = some value) (hv : ∀ text, value ≠ .text text)
    : IsMisused overrides (.table entries)
  | outputPath {entries : List (Text × Datum)} {value : Datum} (hg : overrides.outputPath = none)
    (hl : entries.lookup ("output_path" : Text) = some value) (hv : ∀ text, value ≠ .text text)
    : IsMisused overrides (.table entries)
  | noTable {values : Datum} (hv : ∀ entries, values ≠ .table entries)
    (hb : ¬IsBypassed overrides values)
    : IsMisused overrides values

/-- Says of a directory that there is something wrong with its project file that no message is
about. -/
inductive IsFaulty (library : Library) (overrides : Overrides) (files : FileSystem)
    (place : FileLocation) : Prop where
  | unreachable {error : FileError} (h : files.read (projectFile place) = .error error)
  | undecodable {content : List UInt8} {malformed : Utf8.Malformed}
    (hr : files.read (projectFile place) = .ok (some content))
    (hd : Utf8.decode content = .error malformed)
  | abandoned {content : List UInt8} {text reason : Text}
    (hr : files.read (projectFile place) = .ok (some content))
    (hd : Utf8.decode content = .ok text) (ha : library.read text = .error (.abandoned reason))
  | tools {table : List (Text × Datum)} {value : Datum} (hp : HasProject library files place table)
    (hl : table.lookup ("tool" : Text) = some value) (hv : ∀ tools, value ≠ .table tools)
  | misused {table tools : List (Text × Datum)} {values : Datum}
    (hp : HasProject library files place table)
    (ht : table.lookup ("tool" : Text) = some (.table tools))
    (hs : tools.lookup ("ts2cpp" : Text) = some values) (hm : IsMisused overrides values)

section Layer

variable {key : Text} {entries : List (Text × Datum)}

/-- A member can be had of what is no table if the key is not found in it. -/
theorem member?_eq_ok_iff (hv : ∀ entries, layer.values ≠ .table entries)
    : (∃ value, layer.member? key = .ok value) ↔ Lacks key layer.values := by
  unfold Layer.member?
  cases hl : layer.values with
  | table entries => exact absurd hl (hv entries)
  | text text => cases h : text.includes key <;> simp [Lacks, h]
  | list items =>
      dsimp only [Lacks]
      split
      · rename_i hany
        obtain ⟨item, hm, hi⟩ := List.any_eq_true.mp hany
        refine iff_of_false nofun fun hlacks => hlacks item hm ?_
        cases item <;> simp_all
      · rename_i hany
        refine iff_of_true ⟨none, rfl⟩ fun item hm he => hany ?_
        exact List.any_eq_true.mpr ⟨item, hm, by simp [he]⟩
  | null | boolean _ | integer _ | real _ | moment _ => simp [Lacks]

/-- No value can be had of what is no table. -/
theorem value?_ne_ok (hv : ∀ entries, layer.values ≠ .table entries) (value : Option Datum)
    : layer.value? key ≠ .ok value := by
  unfold Layer.value?
  split
  · exact absurd ‹_› (hv _)
  · exact nofun

/-- No path can be had of what is no table. -/
theorem path?_ne_ok (hv : ∀ entries, layer.values ≠ .table entries) (path : Option Path)
    : layer.path? key ≠ .ok path := by
  intro h
  obtain ⟨value, hvalue, _⟩ := exists_of_bind_eq_ok h
  exact value?_ne_ok hv value hvalue

/-- The path of a table can be had if it is a text. -/
theorem path?_eq_ok_iff (hv : layer.values = .table entries)
    : (∃ path, layer.path? key = .ok path)
      ↔ ∀ value, entries.lookup key = some value → ∃ text, value = .text text := by
  simp only [Layer.path?, value?_eq hv, bind, Except.bind]
  cases entries.lookup key with
  | none => simp [pure, Except.pure]
  | some value =>
      cases value <;> simp [pure, Except.pure, throw, throwThe, MonadExceptOf.throw]

end Layer

/-- The values of a table can be had as long as its paths are texts. -/
theorem canMerge_table {entries : List (Text × Datum)} (hv : layer.values = .table entries)
    : CanMerge overrides layer ↔ ¬IsMisused overrides layer.values := by
  rw [hv]
  constructor
  · rintro ⟨_, _, hinput, houtput, _, _⟩ hmisused
    cases hmisused with
    | inputPath hg hl hn =>
        obtain ⟨text, ht⟩ := (path?_eq_ok_iff hv).mp (hinput hg) _ hl
        exact hn text ht
    | outputPath hg hl hn =>
        obtain ⟨text, ht⟩ := (path?_eq_ok_iff hv).mp (houtput hg) _ hl
        exact hn text ht
    | noTable hn _ => exact hn entries rfl
  · intro hsound
    refine ⟨⟨_, member?_eq hv⟩, ⟨_, member?_eq hv⟩, fun hg => ?_, fun hg => ?_,
      fun _ => ⟨_, value?_eq hv⟩, fun _ => ⟨_, member?_eq hv⟩⟩
    · refine (path?_eq_ok_iff hv).mpr fun value hl => ?_
      exact not_forall_not.mp fun hn => hsound (.inputPath hg hl hn)
    · refine (path?_eq_ok_iff hv).mpr fun value hl => ?_
      exact not_forall_not.mp fun hn => hsound (.outputPath hg hl hn)

/-- What is no table can only be passed by. -/
theorem canMerge_noTable (hv : ∀ entries, layer.values ≠ .table entries)
    : CanMerge overrides layer ↔ ¬IsMisused overrides layer.values := by
  constructor
  · rintro ⟨hwidth, hshims, hinput, houtput, hruntime, hstrict⟩ hmisused
    generalize hl : layer.values = values at hmisused
    cases hmisused with
    | inputPath | outputPath => exact hv _ hl
    | noTable _ hb =>
        subst hl
        refine hb ⟨(member?_eq_ok_iff hv).mp hwidth, (member?_eq_ok_iff hv).mp hshims, ?_, ?_, ?_,
          fun hg => (member?_eq_ok_iff hv).mp (hstrict hg)⟩
        · exact fun hg => (hinput hg).elim (path?_ne_ok hv)
        · exact fun hg => (houtput hg).elim (path?_ne_ok hv)
        · exact fun hg => (hruntime hg).elim (value?_ne_ok hv)
  · intro hsound
    have hb : IsBypassed overrides layer.values := not_not.mp fun hb => hsound (.noTable hv hb)
    exact ⟨(member?_eq_ok_iff hv).mpr hb.indentWidth, (member?_eq_ok_iff hv).mpr hb.extraShims,
      fun hg => absurd hg hb.inputPath, fun hg => absurd hg hb.outputPath,
      fun hg => absurd hg hb.runtimeInclude,
      fun hg => (member?_eq_ok_iff hv).mpr (hb.isStrict hg)⟩

/-- The values of a section can be had exactly if it is not misused. -/
theorem canMerge_iff : CanMerge overrides layer ↔ ¬IsMisused overrides layer.values := by
  by_cases hv : ∃ entries, layer.values = .table entries
  · obtain ⟨entries, hv⟩ := hv
    exact canMerge_table hv
  · exact canMerge_noTable (not_exists.mp hv)

/-- There is nothing to misuse in an empty table. -/
theorem not_isMisused_empty (overrides : Overrides) : ¬IsMisused overrides (.table []) := by
  intro h
  cases h with
  | inputPath _ hl => cases hl
  | outputPath _ hl => cases hl
  | noTable hv => exact hv [] rfl

/-- A layer ends without a message exactly if one of its values cannot be had. -/
theorem ofLayer_unreported_iff
    : (∃ fault, ofLayer library overrides layer = .error fault
        ∧ Command.settingsMessage? library.validation fault = none)
      ↔ IsMisused overrides layer.values := by
  cases hmerged : mergedValues overrides layer with
  | error fault =>
      have hmisused : IsMisused overrides layer.values := by
        refine not_not.mp fun hn => ?_
        obtain ⟨values, hvalues⟩ := exists_merges_iff.mpr (canMerge_iff.mpr hn)
        exact absurd (hmerged.symm.trans (mergedValues_eq_ok_iff.mpr hvalues)) nofun
      obtain ⟨misuse, rfl⟩ := misuse_of_mergedValues hmerged
      exact iff_of_true ⟨.misuse misuse, ofLayer_error hmerged, rfl⟩ hmisused
  | ok values =>
      have hmerges := mergedValues_eq_ok_iff.mp hmerged
      refine iff_of_false ?_ (canMerge_iff.mp (exists_merges_iff.mp ⟨values, hmerges⟩))
      rintro ⟨fault, h, hnone⟩
      rw [ofLayer_eq hmerges] at h
      cases hresult : library.validation.construct values with
      | ok settings => simp [hresult, Except.mapError] at h
      | error reports =>
          rw [hresult] at h
          obtain rfl := Except.error.inj h
          exact absurd hnone nofun

/-- A faulty project file ends the search without a message. -/
theorem unreported_of_isFaulty (h : IsFaulty library overrides files place)
    (farther : List FileLocation)
    : ∃ fault, (firstLayer library files (place :: farther)).bind (ofLayer library overrides)
        = .error fault
      ∧ Command.settingsMessage? library.validation fault = none := by
  cases h with
  | @unreachable error h =>
      have hs : sectionAt library files place = .error (.unreachable error) := by
        simp only [sectionAt, h]
      exact ⟨_, by rw [firstLayer, hs]; rfl, rfl⟩
  | @undecodable content malformed hr hd =>
      have hs : sectionAt library files place = .error (.undecodable content malformed) := by
        simp only [sectionAt, hr, sectionOf, hd, Except.mapError, bind, Except.bind]
      exact ⟨_, by rw [firstLayer, hs]; rfl, rfl⟩
  | @abandoned content text reason hr hd ha =>
      have hs : sectionAt library files place = .error (.abandoned reason) :=
        sectionAt_of_failure hr hd ha
      exact ⟨_, by rw [firstLayer, hs]; rfl, rfl⟩
  | @tools table value hp hl hv =>
      have hs : sectionAt library files place = .error (.misuse (.noAttribute value)) := by
        rw [sectionAt_of_project hp, hl]
        cases value with
        | table tools => exact absurd rfl (hv tools)
        | _ => rfl
      exact ⟨_, by rw [firstLayer, hs]; rfl, rfl⟩
  | @misused table tools values hp ht hs hm =>
      have hs : sectionAt library files place = .ok (some values) := by
        simp only [sectionAt_of_project hp, ht, hs]
      rw [firstLayer, hs]
      exact ofLayer_unreported_iff.mpr hm

/-- A directory that ends the search without a message has a faulty project file. -/
theorem isFaulty_of_unreported (hplace : ¬IsSilent library files place)
    (hlayer : (firstLayer library files (place :: farther)).bind (ofLayer library overrides)
      = .error fault)
    (hnone : Command.settingsMessage? library.validation fault = none)
    : IsFaulty library overrides files place := by
  have hsays := says_sectionAt library files place
  rw [firstLayer] at hlayer
  generalize hsaid : sectionAt library files place = said at hsays hlayer
  cases hsays with
  | lacks => exact absurd hsaid hplace
  | values hp ht hs => exact .misused hp ht hs (ofLayer_unreported_iff.mp ⟨fault, hlayer, hnone⟩)
  | malformed =>
      obtain rfl := Except.error.inj hlayer
      exact absurd hnone (Option.some_ne_none _)
  | abandoned hr hd ha => exact .abandoned hr hd ha
  | unreachable h => exact .unreachable h
  | undecodable hr hd => exact .undecodable hr hd
  | tools hp hl hv => exact .tools hp hl hv

/-- Loading ends without a message exactly if the start is not known, or the first project file that
is not passed over is faulty. -/
theorem loaded_unreported_iff (library : Library) (overrides : Overrides) (files : FileSystem)
    : (∃ fault, loaded library overrides files = .error fault
        ∧ Command.settingsMessage? library.validation fault = none)
      ↔ (∃ error, resolved (overrides.start.getD "") files = .error error)
        ∨ ∃ here nearer place farther, resolved (overrides.start.getD "") files = .ok here
          ∧ here.ancestry = nearer ++ place :: farther
          ∧ (∀ near ∈ nearer, LacksSection library files near)
          ∧ IsFaulty library overrides files place := by
  cases hstart : resolved (overrides.start.getD "") files with
  | error error =>
      rw [loaded_eq, found, hstart]
      exact iff_of_true ⟨.unreachable error, rfl, rfl⟩ (.inl ⟨error, rfl⟩)
  | ok here =>
      rw [loaded_of_start hstart]
      constructor
      · rintro ⟨fault, h, hnone⟩
        rcases silent_or_first library files here.ancestry with
          hall | ⟨nearer, place, farther, hway, hnearer, hplace⟩
        · -- Without a section there is an empty layer, which no one can misuse.
          have hlayer := firstLayer_append hall []
          rw [List.append_nil] at hlayer
          rw [hlayer] at h
          exact absurd (ofLayer_unreported_iff.mp ⟨fault, h, hnone⟩) (not_isMisused_empty overrides)
        · rw [hway, firstLayer_append hnearer] at h
          exact .inr ⟨here, nearer, place, farther, rfl, hway,
            fun near hm => lacksSection_of_isSilent (hnearer near hm),
            isFaulty_of_unreported hplace h hnone⟩
      · rintro (⟨error, he⟩ | ⟨_, nearer, place, farther, he, hway, hnearer, hfaulty⟩)
        · cases he
        · obtain rfl := Except.ok.inj he
          rw [hway, firstLayer_append fun near hm => (hnearer near hm).isSilent]
          exact unreported_of_isFaulty hfaulty farther

/-- Loading breaks off without a message at a project file that is no text. -/
theorem loaded_undecodable
    : ¬∀ overrides files, (∃ settings, loaded {} overrides files = .ok settings)
      ∨ ∃ fault, loaded {} overrides files = .error fault
        ∧ (Command.settingsMessage? .standard fault).isSome = true := by
  intro h
  let files : FileSystem :=
    { entries := [([("pyproject.toml" : Text)], .file [0xFF])], working := [] }
  have hloaded : ∃ malformed, loaded {} {} files = .error (.undecodable [0xFF] malformed) :=
    ⟨_, rfl⟩
  obtain ⟨malformed, hloaded⟩ := hloaded
  rcases h {} files with ⟨settings, hs⟩ | ⟨fault, hf, hm⟩
  · exact absurd (hloaded.symm.trans hs) nofun
  · obtain rfl := Except.error.inj (hloaded.symm.trans hf)
    exact absurd hm nofun

end DeviceScript.Settings
