import DeviceScript.Proofs.Emission.Report
import DeviceScript.Translation.Conversion
import Mathlib.Tactic.TFAE

/-! The gate at the end of a run: code comes out exactly if no report is an error. Strict settings
raise the reports of a run to errors and change nothing else that the run leaves behind.
-/

namespace DeviceScript

open Fragment

/-- The outcome of a run that lets code through exactly if no report is an error. -/
def Conversion.IsGated (conversion : Conversion) : Prop :=
  List.TFAE [conversion.success = true,
    ∀ diagnostic ∈ conversion.diagnostics, diagnostic.severity ≠ .error,
    conversion.errors = [], conversion.hasErrors = false, conversion.code ≠ []]

/-- Reports are harmless if none of them is an error. -/
theorem hasFatal_eq_false_iff (diagnostics : List Diagnostic)
    : hasFatal diagnostics = false ↔ ∀ diagnostic ∈ diagnostics, diagnostic.severity ≠ .error := by
  simp only [hasFatal, Diagnostic.isFatal, List.any_eq_false, decide_eq_true_eq]

/-- Raised reports hold no error exactly if there are none. -/
theorem hasFatal_map_promote (diagnostics : List Diagnostic)
    : hasFatal (diagnostics.map Diagnostic.promote) = false ↔ diagnostics = [] := by
  cases diagnostics with
  | nil => exact iff_of_true rfl rfl
  | cons head tail => exact iff_of_false nofun nofun

namespace Conversion

/-- A conversion has no errors if none of its reports is fatal. -/
theorem errors_eq_nil_iff (conversion : Conversion)
    : conversion.errors = [] ↔ hasFatal conversion.diagnostics = false := by
  simp only [errors, hasFatal, List.map_eq_nil_iff, List.filter_eq_nil_iff, List.any_eq_false]

/-- A conversion tells that it has errors exactly if it lists some. -/
theorem hasErrors_eq_false_iff (conversion : Conversion)
    : conversion.hasErrors = false ↔ conversion.errors = [] := by
  rw [hasErrors, Bool.not_eq_false', List.isEmpty_iff]

/-- What a gate needs: success is the absence of errors, and code comes with success alone. -/
theorem isGated_of_success {conversion : Conversion}
    (judged : conversion.success = !hasFatal conversion.diagnostics)
    (gated : conversion.code ≠ [] ↔ conversion.success = true) : conversion.IsGated := by
  have hsuccess : conversion.success = true ↔ hasFatal conversion.diagnostics = false := by
    rw [judged, Bool.not_eq_true']
  unfold IsGated
  tfae_have 1 ↔ 2 := hsuccess.trans (hasFatal_eq_false_iff _)
  tfae_have 1 ↔ 3 := hsuccess.trans conversion.errors_eq_nil_iff.symm
  tfae_have 3 ↔ 4 := conversion.hasErrors_eq_false_iff.symm
  tfae_have 1 ↔ 5 := gated.symm
  tfae_finish

end Conversion

namespace Translator

variable (translator : Translator)

/-- A C++ file ends in a line feed, so it is never empty. -/
theorem text_emission_ne_nil (statements : List Node) (trace : Trace)
    : (translator.emission statements trace).1.text ≠ [] :=
  List.append_ne_nil_of_right_ne_nil _ nofun

/-- Emission reports what the statements note at the outermost depth. -/
theorem diagnostics_emission (statements : List Node) (trace : Trace)
    : (translator.emission statements trace).1.diagnostics
      = reports (statements.flatMap (notes translator.template.toStyle 0)) :=
  diagnostics_emitProgram translator.template.toStyle statements
    { trace := some (trace.startPhase "Emit" "AST -> C++") }

/-- Whatever has been read, its translation passes through the gate, by cases on the reading. -/
theorem isGated_conclude (reading : Except SyntaxReport Node) (trace : Trace)
    : (translator.conclude reading trace).IsGated := by
  cases reading with
  | error report =>
      exact Conversion.isGated_of_success rfl (iff_of_false (fun hcode => hcode rfl) nofun)
  | ok node =>
      refine Conversion.isGated_of_success rfl ?_
      simp only [conclude]
      split
      · rename_i hsuccess
        exact iff_of_true (translator.text_emission_ne_nil _ _) hsuccess
      · rename_i hfailure
        exact iff_of_false (fun hcode => hcode rfl) hfailure

/-- The code of a successful run is the text of its emission. -/
theorem code_conclude {node : Node} {trace : Trace}
    (h : (translator.conclude (.ok node) trace).success = true)
    : (translator.conclude (.ok node) trace).code
      = (translator.emission node.statements
          (trace.startPhase "Parse" "esprima -> ts2cpp AST").endPhase).1.text :=
  if_pos h

/-- The translator with strict settings, or with lenient ones. -/
def withStrictness (isStrict : Bool) : Translator :=
  { translator with settings := { translator.settings with isStrict } }

/-- What strict settings change about an outcome: the severities, and with them the verdict. -/
structure Tightens (strict lenient : Conversion) : Prop where
  diagnostics : strict.diagnostics = lenient.diagnostics.map Diagnostic.promote
  success : strict.success = true ↔ lenient.diagnostics = []
  code : strict.success = true → strict.code = lenient.code
  trace : strict.trace = lenient.trace

/-- Strict settings only tighten the gate, whatever has been read and logged. -/
theorem tightens_conclude (reading : Except SyntaxReport Node) (trace : Trace)
    : Tightens ((translator.withStrictness true).conclude reading trace)
        ((translator.withStrictness false).conclude reading trace) := by
  cases reading with
  | error report => exact ⟨rfl, iff_of_false nofun nofun, nofun, rfl⟩
  | ok node =>
      let strict := (translator.withStrictness true).conclude (.ok node) trace
      let lenient := (translator.withStrictness false).conclude (.ok node) trace
      have hverdict : strict.success = !hasFatal (lenient.diagnostics.map Diagnostic.promote) := rfl
      have hstrict : strict.success = true ↔ lenient.diagnostics = [] := by
        rw [hverdict, Bool.not_eq_true', hasFatal_map_promote]
      refine ⟨rfl, hstrict, fun hsuccess => ?_, rfl⟩
      -- Without a report the lenient run succeeds too, and both emit the same text.
      have hlenient : lenient.success = true := by
        change (!hasFatal lenient.diagnostics) = true
        rw [hstrict.mp hsuccess]
        rfl
      exact (code_conclude _ hsuccess).trans (code_conclude _ hlenient).symm

/-- In a run under lenient settings, the reports that are warnings are the advisory ones. -/
theorem severity_conclude (reading : Except SyntaxReport Node) (trace : Trace)
    {diagnostic : Diagnostic}
    (h : diagnostic ∈ ((translator.withStrictness false).conclude reading trace).diagnostics)
    : diagnostic.severity = .warning ↔ diagnostic.kind.isAdvisory = true := by
  cases reading with
  | error report =>
      rw [List.mem_singleton.mp h]
      exact iff_of_false nofun nofun
  | ok node =>
      have hmem : diagnostic
          ∈ reports (node.statements.flatMap (notes translator.template.toStyle 0)) := by
        rw [← translator.diagnostics_emission _
          (trace.startPhase "Parse" "esprima -> ts2cpp AST").endPhase]
        exact h
      exact severity_of_mem_reports hmem

/-- The file that comes of a run, or the errors that keep it back. -/
theorem convert_eq {code : Text} {conversion : Conversion}
    (h : translator.run code = .ok conversion)
    : translator.convert code
      = if conversion.success then .ok conversion.code
        else .error (.untranslated conversion.errors) := by
  rw [convert, h]
  rfl

/-- Code is handed out exactly if the run succeeds, and it is the code of the run. -/
theorem convert_eq_ok_iff {code : Text} {conversion : Conversion}
    (h : translator.run code = .ok conversion) (file : Text)
    : translator.convert code = .ok file
      ↔ conversion.success = true ∧ file = conversion.code := by
  rw [translator.convert_eq h]
  cases conversion.success with
  | true => simp only [if_true, Except.ok.injEq, true_and, eq_comm]
  | false => exact iff_of_false nofun nofun

/-- A text without a file fails with the errors of its run, one line each. -/
theorem convert_eq_error_iff {code : Text} {conversion : Conversion}
    (h : translator.run code = .ok conversion) (failure : Failure)
    : translator.convert code = .error failure
      ↔ conversion.success = false
        ∧ failure = .untranslated conversion.errors
        ∧ failure.message = "Transpilation failed:\n" ++ Text.unlines conversion.errors := by
  rw [translator.convert_eq h]
  cases conversion.success with
  | true => exact iff_of_false nofun nofun
  | false =>
      constructor
      · rintro ⟨⟩
        exact ⟨rfl, rfl, rfl⟩
      · rintro ⟨_, rfl, _⟩
        rfl

/-- A translation whose reading does not break off concludes on what has been read, which depends
neither on the log nor on whether the settings are strict. -/
theorem translate_eq_conclude {code : Text} (h : translator.read code ≠ .error .strayTemplate)
    : ∃ reading, ∀ isStrict trace,
        (translator.withStrictness isStrict).translate code trace
          = .ok ((translator.withStrictness isStrict).conclude reading trace) := by
  have hread : ∀ isStrict, (translator.withStrictness isStrict).read code
      = translator.read code := fun _ => rfl
  simp only [translate, hread]
  cases hr : translator.read code with
  | ok node => exact ⟨.ok node, fun _ _ => rfl⟩
  | error reason =>
      cases reason with
      | refused error => exact ⟨.error error.report, fun _ _ => rfl⟩
      | reported report => exact ⟨.error report, fun _ _ => rfl⟩
      | strayTemplate => exact absurd hr h

end Translator

/-- A parser that yields a tree or a report never breaks off. -/
theorem Script.toNodeBy_ne_strayTemplate (parse : Text → Except SyntaxReport Datum) (code : Text)
    : Script.toNodeBy (fun text => (parse text).mapError .reported) code
      ≠ .error .strayTemplate := by
  have hbreaks : ∀ read : Text → Except Unreadable Datum,
      Script.toNodeBy read code = .error .strayTemplate → read code = .error .strayTemplate := by
    intro read h
    unfold Script.toNodeBy at h
    cases hread : read code with
    | error fault =>
        rw [hread] at h
        exact congrArg Except.error (Except.error.inj h)
    | ok tree =>
        simp only [hread, bind, Except.bind] at h
        split at h <;> cases h
  intro h
  have hread := hbreaks _ h
  cases hp : parse code with
  | error report =>
      rw [hp] at hread
      cases hread
  | ok tree =>
      rw [hp] at hread
      cases hread

/-- A run of any parser passes through the gate. Strict settings raise its reports and change
neither the log nor the code that still comes out; the file that comes of it is that code, or else
nothing but its errors. -/
theorem run_gated (parse : Text → Except SyntaxReport Datum) (settings : Settings)
    (shims : ShimTable) (code : Text)
    : let translator (isStrict : Bool) : Translator := {
        settings := { settings with isStrict }
        shims := shims
        read := Script.toNodeBy fun text => (parse text).mapError .reported }
      ∃ outcome : Bool → Conversion,
        (∀ isStrict, (translator isStrict).run code = .ok (outcome isStrict))
          ∧ (∀ isStrict, (outcome isStrict).IsGated)
          ∧ Translator.Tightens (outcome true) (outcome false)
          ∧ (∀ diagnostic ∈ (outcome false).diagnostics,
              diagnostic.severity = .warning ↔ diagnostic.kind.isAdvisory = true)
          ∧ ∀ isStrict,
              (∀ file, (translator isStrict).convert code = .ok file
                ↔ (outcome isStrict).success = true ∧ file = (outcome isStrict).code)
              ∧ ∀ failure, (translator isStrict).convert code = .error failure
                ↔ (outcome isStrict).success = false
                  ∧ failure = .untranslated (outcome isStrict).errors
                  ∧ failure.message
                    = "Transpilation failed:\n" ++ Text.unlines (outcome isStrict).errors := by
  intro translator
  let base := translator settings.isStrict
  obtain ⟨reading, htranslate⟩ :=
    base.translate_eq_conclude (Script.toNodeBy_ne_strayTemplate parse code)
  let outcome (isStrict : Bool) : Conversion :=
    (base.withStrictness isStrict).conclude reading {}
  have hrun (isStrict : Bool) : (translator isStrict).run code = .ok (outcome isStrict) :=
    htranslate isStrict {}
  refine ⟨outcome, hrun, ?_, base.tightens_conclude reading {},
    fun _ => base.severity_conclude reading {}, ?_⟩
  · exact fun isStrict => (base.withStrictness isStrict).isGated_conclude reading {}
  · exact fun isStrict => ⟨(translator isStrict).convert_eq_ok_iff (hrun isStrict),
      (translator isStrict).convert_eq_error_iff (hrun isStrict)⟩

end DeviceScript
