import DeviceScript.Proofs.Text.Unicode
import DeviceScript.Settings.Validation
import Mathlib.Tactic.Common

/-! What is asked of a library that checks values. A value of the right type is taken as it is, the
settings are those that the values stand for, and the reports are on the values that stand for none.
The library that is there keeps to this.
-/

namespace DeviceScript

namespace Settings

/-- A table of texts. -/
def textTable (texts : List (Text × Text)) : Datum :=
  .table (texts.map fun entry => (entry.1, .text entry.2))

namespace Validation

variable (validation : Validation)

/-- The name of an included file that a value stands for. -/
def include? (value : Datum) : Option Text :=
  (validation.text value).bind fun name => (includeFile name).toOption

/-- The number of blanks that a value stands for. -/
def width? (value : Datum) : Option Nat :=
  (validation.integer value).bind fun width =>
    if widths.1 ≤ width ∧ width ≤ widths.2 then some width.toNat else none

/-- The replacements that a value stands for. -/
def shims? (value : Datum) : Option (List (Text × Text)) :=
  (validation.texts value).bind fun shims => (checkedShims shims).toOption

/-- What the value of a field stands for, where an absent one stands for the default. -/
def given {α : Type} (take : Datum → Option α) (default : α) : Option Datum → Option α
  | some value => take value
  | none => some default

/-- Says of settings that they are those that some values stand for. -/
structure Accepts (values : Values) (settings : Settings) : Prop where
  inputPath : values.inputPath.getD "main.ts" = settings.inputPath
  outputPath : values.outputPath.getD "main.cpp" = settings.outputPath
  runtimeInclude : given validation.include? "basic.cpp" values.runtimeInclude
    = some settings.runtimeInclude
  isStrict : given validation.boolean false values.isStrict = some settings.isStrict
  indentWidth : given validation.width? 4 values.indentWidth = some settings.indentWidth
  extraShims : given validation.shims? [] values.extraShims = some settings.extraShims

/-- Says of a field, by its name, that its value stands for nothing. -/
inductive Refuses (values : Values) : Text → Prop where
  | runtimeInclude (refused : given validation.include? "basic.cpp" values.runtimeInclude = none)
      : Refuses values "runtime_include"
  | isStrict (refused : given validation.boolean false values.isStrict = none)
      : Refuses values "strict_mode"
  | indentWidth (refused : given validation.width? 4 values.indentWidth = none)
      : Refuses values "indent_width"
  | extraShims (refused : given validation.shims? [] values.extraShims = none)
      : Refuses values "extra_shims"

/-- What a library says of itself. -/
structure Lawful : Prop where
  /-- A text is taken as it is; only one with half a surrogate pair may be refused. -/
  text : ∀ text, validation.text (.text text) = some text
    ∨ ¬text.IsUnicode ∧ validation.text (.text text) = none
  boolean : ∀ value, validation.boolean (.boolean value) = some value
  integer : ∀ value, validation.integer (.integer value) = some value
  texts : ∀ texts, (∀ entry ∈ texts, entry.1.IsUnicode ∧ entry.2.IsUnicode)
    → validation.texts (textTable texts) = some texts
  /-- Settings are made where every value stands for something, and of that. -/
  accepts : ∀ values settings,
    validation.construct values = .ok settings ↔ validation.Accepts values settings
  /-- There is a report on a field exactly if its value stands for nothing. -/
  rejects : ∀ values rejections, validation.construct values = .error rejections
    → ∀ name, (∃ rejection ∈ rejections, rejection.place.head? = some name)
      ↔ validation.Refuses values name

variable {validation} {values : Values}

end Validation

-----------------------------------------------------------------------------------------
-- The library that is there
-----------------------------------------------------------------------------------------

namespace Checks

variable {checks : Checks} {settings : Settings}

/-- Says of checks that all of them are passed, with the values of some settings. -/
structure Pass (checks : Checks) (settings : Settings) : Prop where
  input : checks.input = .ok settings.inputPath
  output : checks.output = .ok settings.outputPath
  runtime : checks.runtime = .ok settings.runtimeInclude
  strict : checks.strict = .ok settings.isStrict
  width : checks.width = .ok settings.indentWidth
  shims : checks.shims = .ok settings.extraShims

/-- There are settings exactly if all checks are passed. -/
theorem result_eq_ok_iff : checks.result = .ok settings ↔ checks.Pass settings := by
  constructor
  · intro h
    unfold result at h
    split at h
    · obtain rfl := Except.ok.inj h
      constructor <;> assumption
    · cases h
  · intro h
    simp only [result, h.input, h.output, h.runtime, h.strict, h.width, h.shims]

/-- Without settings there are the reports of all checks. -/
theorem reports_of_result {reports : List Rejection} (h : checks.result = .error reports)
    : reports = checks.reports := by
  unfold result at h
  split at h
  · cases h
  · exact (Except.error.inj h).symm

end Checks

section Standard

variable {α : Type} {values : Values} {name : Text} {take : Datum → Option α}

/-- A check of a field accepts what the value of the field stands for, and reports on the field
otherwise. -/
structure IsCheckOf (name : Text) (check : Datum → Except (List Rejection) α)
    (take : Datum → Option α) : Prop where
  taken : ∀ value, (check value).toOption = take value
  reported : ∀ value rejections, check value = .error rejections
    → rejections ≠ [] ∧ ∀ rejection ∈ rejections, rejection.place.head? = some name

namespace IsCheckOf

variable {check : Datum → Except (List Rejection) α}

/-- A check of a single value makes one report. -/
theorem named {check : Datum → Except Flaw α} (h : ∀ value, (check value).toOption = take value)
    : IsCheckOf name (Datum.checkNamed name check) take where
  taken value := by
    rw [← h, Datum.checkNamed]
    cases check value <;> rfl
  reported value rejections hr := by
    unfold Datum.checkNamed at hr
    cases hc : check value with
    | ok accepted => simp [hc, Except.mapError] at hr
    | error flaw =>
        obtain rfl : [⟨[name], flaw, value⟩] = rejections := by
          simpa [hc, Except.mapError] using hr
        exact ⟨List.cons_ne_nil _ _, List.forall_mem_singleton.mpr rfl⟩

/-- A field is accepted for what its value, or the default, stands for. -/
theorem given_eq_ok_iff (h : IsCheckOf name check take) (default accepted : α)
    (value? : Option Datum)
    : Datum.checkGiven default check value? = .ok accepted
      ↔ Validation.given take default value? = some accepted := by
  cases value? with
  | none => simp [Datum.checkGiven, Validation.given]
  | some value =>
      rw [Validation.given, Datum.checkGiven, ← h.taken]
      cases check value <;> simp [Except.toOption]

/-- There is a report on a field exactly if its value stands for nothing. -/
theorem rejections_given_iff (h : IsCheckOf name check take) (default : α) (value? : Option Datum)
    (other : Text)
    : (∃ rejection ∈ Datum.rejections (Datum.checkGiven default check value?),
        rejection.place.head? = some other)
      ↔ name = other ∧ Validation.given take default value? = none := by
  cases value? with
  | none => simp [Datum.checkGiven, Datum.rejections, Validation.given]
  | some value =>
      rw [Validation.given, Datum.checkGiven, ← h.taken]
      cases hc : check value with
      | ok accepted => simp [Datum.rejections, Except.toOption]
      | error rejections =>
          obtain ⟨hne, hplace⟩ := h.reported value rejections hc
          obtain ⟨first, rest, rfl⟩ := List.exists_cons_of_ne_nil hne
          simp only [Except.toOption, and_true, Datum.rejections]
          constructor
          · rintro ⟨rejection, hm, hn⟩
            exact Option.some.inj ((hplace rejection hm).symm.trans hn)
          · rintro rfl
            exact ⟨first, List.mem_cons_self, hplace first List.mem_cons_self⟩

end IsCheckOf

/-- The check of the name of an included file accepts what the name stands for. -/
theorem isCheckOf_include
    : IsCheckOf "runtime_include" (Datum.checkNamed "runtime_include" checkInclude)
        Validation.standard.include? := by
  refine .named fun value => ?_
  simp only [checkInclude, Validation.include?, Validation.standard, bind, Except.bind]
  cases value.checkText with
  | error flaw => rfl
  | ok name => cases h : includeFile name <;> simp [Except.mapError, Except.toOption, h]

/-- The check of a truth value accepts what the value stands for. -/
theorem isCheckOf_boolean
    : IsCheckOf "strict_mode" (Datum.checkNamed "strict_mode" Datum.checkBoolean)
        Validation.standard.boolean :=
  .named fun _ => rfl

/-- The check of a number of blanks accepts the number within its bounds. -/
theorem isCheckOf_width
    : IsCheckOf "indent_width" (Datum.checkNamed "indent_width" checkWidth)
        Validation.standard.width? := by
  refine .named fun value => ?_
  simp only [checkWidth, Validation.width?, Validation.standard, bind, Except.bind]
  cases value.checkInteger with
  | error flaw => rfl
  | ok width =>
      by_cases hwide : widths.2 < width
      · simp [hwide, Except.toOption, throw, throwThe, MonadExceptOf.throw, Int.not_le.mpr hwide]
      · by_cases hnarrow : width < widths.1
        · simp [hwide, hnarrow, Except.toOption, throw, throwThe, MonadExceptOf.throw,
            Int.not_le.mpr hnarrow]
        · simp [hwide, hnarrow, Except.toOption, pure, Except.pure, Int.not_lt.mp hwide,
            Int.not_lt.mp hnarrow]

/-- Texts in a table are accepted as they are, by induction over the table. -/
theorem checkTargets_texts (texts : List (Text × Text))
    : checkTargets (texts.map fun entry => (entry.1, .text entry.2)) = (texts, []) := by
  induction texts with
  | nil => rfl
  | cons entry texts ih => rw [List.map_cons, checkTargets, ih]

/-- All reports on the targets of a table are on the field for replacements, by induction over the
table. -/
theorem place_checkTargets (entries : List (Text × Datum))
    : ∀ rejection ∈ (checkTargets entries).2,
        rejection.place.head? = some ("extra_shims" : Text) := by
  induction entries with
  | nil => exact nofun
  | cons entry entries ih =>
      obtain ⟨source, value⟩ := entry
      cases value with
      | text target => exact ih
      | _ => exact List.forall_mem_cons.mpr ⟨rfl, ih⟩

/-- What is no table of texts is reported on. -/
theorem checkTexts_error {value : Datum} {rejections : List Rejection}
    (h : checkTexts value = .error rejections)
    : rejections ≠ []
      ∧ ∀ rejection ∈ rejections, rejection.place.head? = some ("extra_shims" : Text) := by
  unfold checkTexts at h
  split at h
  · rename_i entries
    have hplace := place_checkTargets entries
    split at h
    · cases h
    · rename_i targets found hsome hfound
      obtain rfl := Except.error.inj h
      rw [hfound] at hplace
      refine ⟨?_, hplace⟩
      rintro rfl
      exact hsome rfl
  · obtain rfl := Except.error.inj h
    exact ⟨List.cons_ne_nil _ _, List.forall_mem_singleton.mpr rfl⟩

/-- The check of replacements accepts what they stand for. -/
theorem isCheckOf_shims : IsCheckOf "extra_shims" checkShims Validation.standard.shims? where
  taken value := by
    simp only [checkShims, Validation.shims?, Validation.standard, bind, Except.bind]
    cases checkTexts value with
    | error rejections => rfl
    | ok shims => cases h : checkedShims shims <;> simp [Except.mapError, Except.toOption, h]
  reported value rejections hr := by
    simp only [checkShims, bind, Except.bind] at hr
    cases hc : checkTexts value with
    | error found =>
        rw [hc] at hr
        exact checkTexts_error (hc.trans hr)
    | ok shims =>
        simp only [hc] at hr
        cases h : checkedShims shims with
        | ok accepted => simp [h, Except.mapError] at hr
        | error reason =>
            obtain rfl : [⟨["extra_shims"], .refused reason, value⟩] = rejections := by
              simpa [h, Except.mapError] using hr
            exact ⟨List.cons_ne_nil _ _, List.forall_mem_singleton.mpr rfl⟩

/-- All checks are passed exactly by the settings that the values stand for. -/
theorem pass_ofValues_iff {settings : Settings}
    : (Checks.ofValues values).Pass settings ↔ Validation.standard.Accepts values settings := by
  have hruntime := isCheckOf_include.given_eq_ok_iff "basic.cpp" settings.runtimeInclude
    values.runtimeInclude
  have hstrict := isCheckOf_boolean.given_eq_ok_iff false settings.isStrict values.isStrict
  have hwidth := isCheckOf_width.given_eq_ok_iff 4 settings.indentWidth values.indentWidth
  have hshims := isCheckOf_shims.given_eq_ok_iff [] settings.extraShims values.extraShims
  constructor
  · intro h
    exact ⟨Except.ok.inj h.input, Except.ok.inj h.output, hruntime.mp h.runtime,
      hstrict.mp h.strict, hwidth.mp h.width, hshims.mp h.shims⟩
  · intro h
    exact ⟨congrArg Except.ok h.inputPath, congrArg Except.ok h.outputPath,
      hruntime.mpr h.runtimeInclude, hstrict.mpr h.isStrict, hwidth.mpr h.indentWidth,
      hshims.mpr h.extraShims⟩

/-- The reports of all checks are on the fields whose values stand for nothing. -/
theorem place_reports_iff (values : Values) (name : Text)
    : (∃ rejection ∈ (Checks.ofValues values).reports, rejection.place.head? = some name)
      ↔ Validation.standard.Refuses values name := by
  have hruntime := isCheckOf_include.rejections_given_iff "basic.cpp" values.runtimeInclude name
  have hstrict := isCheckOf_boolean.rejections_given_iff false values.isStrict name
  have hwidth := isCheckOf_width.rejections_given_iff 4 values.indentWidth name
  have hshims := isCheckOf_shims.rejections_given_iff [] values.extraShims name
  have hreports : (Checks.ofValues values).reports
      = Datum.rejections (Checks.ofValues values).runtime
        ++ Datum.rejections (Checks.ofValues values).strict
        ++ Datum.rejections (Checks.ofValues values).width
        ++ Datum.rejections (Checks.ofValues values).shims := rfl
  rw [hreports]
  simp only [List.mem_append, or_and_right, exists_or]
  constructor
  · rintro (((h | h) | h) | h)
    · obtain ⟨rfl, hrefused⟩ := hruntime.mp h
      exact .runtimeInclude hrefused
    · obtain ⟨rfl, hrefused⟩ := hstrict.mp h
      exact .isStrict hrefused
    · obtain ⟨rfl, hrefused⟩ := hwidth.mp h
      exact .indentWidth hrefused
    · obtain ⟨rfl, hrefused⟩ := hshims.mp h
      exact .extraShims hrefused
  · intro h
    cases h with
    | runtimeInclude h => exact .inl (.inl (.inl (hruntime.mpr ⟨rfl, h⟩)))
    | isStrict h => exact .inl (.inl (.inr (hstrict.mpr ⟨rfl, h⟩)))
    | indentWidth h => exact .inl (.inr (hwidth.mpr ⟨rfl, h⟩))
    | extraShims h => exact .inr (hshims.mpr ⟨rfl, h⟩)

end Standard

/-- The library that is there keeps to what is asked of one. -/
theorem Validation.standard_lawful : Validation.standard.Lawful where
  text text := .inl rfl
  boolean value := rfl
  integer value := rfl
  texts texts _ := by
    simp only [Validation.standard, textTable, checkTexts, checkTargets_texts, Except.toOption]
  accepts values settings := Checks.result_eq_ok_iff.trans pass_ofValues_iff
  rejects values rejections h name := by
    obtain rfl := Checks.reports_of_result h
    exact place_reports_iff values name

end Settings

end DeviceScript
