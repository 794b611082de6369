import DeviceScript.Data.Check
import DeviceScript.Settings.Basic

/-! The library that makes settings of values: what is asked of it, and one that does it. -/

namespace DeviceScript

namespace Settings

/-- A library that checks values. -/
structure Validation where
  /-- The text that a value is taken for, if it is taken for one. -/
  text : Datum → Option Text
  /-- The truth value that a value is taken for. -/
  boolean : Datum → Option Bool
  /-- The integer that a value is taken for. -/
  integer : Datum → Option Int
  /-- The texts under keys that a value is taken for. -/
  texts : Datum → Option (List (Text × Text))
  /-- The settings that some values make, or reports on the values that are not accepted. -/
  construct : Values → Except (List Rejection) Settings
  /-- The message that reports make together. -/
  report : List Rejection → Text

/-- Accepts the name of a C++ file. -/
def checkInclude (value : Datum) : Except Flaw Text := do
  let name ← value.checkText
  (includeFile name).mapError .refused

/-- Accepts a number of blanks. -/
def checkWidth (value : Datum) : Except Flaw Nat := do
  let width ← value.checkInteger
  if widths.2 < width then throw (.tooLarge widths.2.toNat)
  if width < widths.1 then throw (.tooSmall widths.1.toNat)
  return width.toNat

/-- Accepts a written path. -/
def checkPath : Datum → Except Flaw Path
  | .text path => .ok (Path.ofText path)
  | _ => .error .notPath

/-- The targets in a table that are texts, and reports on the others. -/
def checkTargets : List (Text × Datum) → List (Text × Text) × List Rejection
  | [] => ([], [])
  | (source, .text target) :: entries =>
    let (targets, rejections) := checkTargets entries
    ((source, target) :: targets, rejections)
  | (source, value) :: entries =>
    let (targets, rejections) := checkTargets entries
    (targets, ⟨["extra_shims", source], .notText, value⟩ :: rejections)

/-- Accepts a table of texts. -/
def checkTexts (value : Datum) : Except (List Rejection) (List (Text × Text)) :=
  match value with
  | .table entries =>
    match checkTargets entries with
    | (targets, []) => .ok targets
    | (_, rejections) => .error rejections
  | _ => .error [⟨["extra_shims"], .notTable, value⟩]

/-- Accepts a table of replacements. -/
def checkShims (value : Datum) : Except (List Rejection) (List (Text × Text)) := do
  (checkedShims (← checkTexts value)).mapError fun reason =>
    [⟨["extra_shims"], .refused reason, value⟩]

/-- What becomes of the checks of all values. -/
structure Checks where
  input : Except (List Rejection) Path
  output : Except (List Rejection) Path
  runtime : Except (List Rejection) Text
  strict : Except (List Rejection) Bool
  width : Except (List Rejection) Nat
  shims : Except (List Rejection) (List (Text × Text))

namespace Checks

/-- The checks of some values; what is absent has its default. -/
def ofValues (values : Values) : Checks :=
  let settings : Settings := {}
  { input := .ok (values.inputPath.getD settings.inputPath)
    output := .ok (values.outputPath.getD settings.outputPath)
    runtime := Datum.checkGiven settings.runtimeInclude
      (Datum.checkNamed "runtime_include" checkInclude) values.runtimeInclude
    strict := Datum.checkGiven settings.isStrict
      (Datum.checkNamed "strict_mode" Datum.checkBoolean) values.isStrict
    width := Datum.checkGiven settings.indentWidth
      (Datum.checkNamed "indent_width" checkWidth) values.indentWidth
    shims := Datum.checkGiven settings.extraShims checkShims values.extraShims }

/-- The checks of values under keys, where paths are written. -/
def ofEntries (entries : List (Text × Datum)) : Checks :=
  let settings : Settings := {}
  { ofValues {
      runtimeInclude := entries.lookup ("runtime_include" : Text)
      isStrict := entries.lookup ("strict_mode" : Text)
      indentWidth := entries.lookup ("indent_width" : Text)
      extraShims := entries.lookup ("extra_shims" : Text) } with
    input := Datum.checkGiven settings.inputPath (Datum.checkNamed "input_path" checkPath)
      (entries.lookup ("input_path" : Text))
    output := Datum.checkGiven settings.outputPath (Datum.checkNamed "output_path" checkPath)
      (entries.lookup ("output_path" : Text)) }

/-- The reports of all checks. -/
def reports (checks : Checks) : List Rejection :=
  Datum.rejections checks.input ++ Datum.rejections checks.output
    ++ Datum.rejections checks.runtime ++ Datum.rejections checks.strict
    ++ Datum.rejections checks.width ++ Datum.rejections checks.shims

/-- The settings, if all checks are passed, and the reports otherwise. -/
def result (checks : Checks) : Except (List Rejection) Settings :=
  match checks.input, checks.output, checks.runtime, checks.strict, checks.width, checks.shims with
  | .ok input, .ok output, .ok runtime, .ok strict, .ok width, .ok shims =>
    .ok ⟨input, output, runtime, strict, width, shims⟩
  | _, _, _, _, _, _ => .error checks.reports

end Checks

/-- The settings with values under keys, or a report on every value that is not accepted. -/
def ofValues (entries : List (Text × Datum)) : Except (List Rejection) Settings :=
  (Checks.ofEntries entries).result

/-- The checks as a library. -/
def Validation.standard : Validation where
  text value := value.checkText.toOption
  boolean value := value.checkBoolean.toOption
  integer value := value.checkInteger.toOption
  texts value := (checkTexts value).toOption
  construct values := (Checks.ofValues values).result
  report := Rejection.report "RuntimeConfig"

end Settings

end DeviceScript
