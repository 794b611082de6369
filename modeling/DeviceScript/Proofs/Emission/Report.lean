import DeviceScript.Proofs.Emission.Program

/-! The reports of an emission: one for each note that is no replacement, in the order of the notes.
Whether a report is an error depends on its kind alone.
-/

namespace DeviceScript

namespace DiagnosticKind

/-- Tells whether problems of a kind leave a translation complete. -/
def isAdvisory : DiagnosticKind → Bool
  | incompleteTranslation | untypedArray | heterogeneousArray | sharedDeclarationType => true
  | unsupportedConstruct | unsupportedOperator | parseError => false

end DiagnosticKind

/-- A finding is a warning exactly if its kind is advisory, by cases on the finding. -/
theorem Finding.severity_eq_warning_iff (finding : Finding)
    : finding.severity = .warning ↔ finding.kind.isAdvisory = true := by
  cases finding <;> simp only [severity, kind, DiagnosticKind.isAdvisory, reduceCtorEq,
    Bool.false_eq_true]

/-- The report that a note is, unless it is a replacement. -/
def Note.diagnostic? : Note → Option Diagnostic
  | report finding node => some (finding.reportOn node)
  | replacement _ _ => none

/-- The reports among some notes. -/
def reports (notes : List Note) : List Diagnostic := notes.filterMap Note.diagnostic?

/-- The errors among the reports are the reports of the fatal notes, by induction over the notes. -/
theorem filter_isFatal_reports (notes : List Note)
    : (reports notes).filter Diagnostic.isFatal = reports (notes.filter Note.isFatal) := by
  induction notes with
  | nil => rfl
  | cons head tail ih =>
      cases head with
      | report finding node =>
          have hfatal : (finding.reportOn node).isFatal = (Note.report finding node).isFatal := rfl
          change (finding.reportOn node :: reports tail).filter Diagnostic.isFatal = _
          rw [List.filter_cons, List.filter_cons, hfatal, ih]
          split <;> rfl
      | replacement source target => exact ih

/-- Notes add their reports behind those that are there, by induction over the notes. -/
theorem Progress.diagnostics_eq_append_reports (progress : Progress) (notes : List Note)
    : (progress.noteAll notes).diagnostics = progress.diagnostics ++ reports notes := by
  induction notes generalizing progress with
  | nil => exact (List.append_nil _).symm
  | cons head tail ih =>
      change ((progress.note head).noteAll tail).diagnostics = _
      rw [ih]
      cases head with
      | report finding node => exact List.append_assoc _ _ _
      | replacement source target => rfl

/-- A report is a warning exactly if its kind is advisory. -/
theorem severity_of_mem_reports {notes : List Note} {diagnostic : Diagnostic}
    (h : diagnostic ∈ reports notes)
    : diagnostic.severity = .warning ↔ diagnostic.kind.isAdvisory = true := by
  obtain ⟨note, _, hd⟩ := List.mem_filterMap.mp h
  cases note with
  | report finding node =>
      obtain rfl := Option.some.inj hd
      exact finding.severity_eq_warning_iff
  | replacement source target => exact absurd hd nofun

/-- The reports of the emission of a program are those on its statements. -/
theorem Fragment.diagnostics_emitProgram (style : Style) (body : List Node) (progress : Progress)
    : ((emitProgram style body).run progress).1.diagnostics
      = reports (body.flatMap (notes style 0)) := by
  rw [emitProgram_run]
  exact Progress.diagnostics_eq_append_reports _ _

/-- What the emission of a program yields does not depend on what has been emitted before. -/
theorem Fragment.emitProgram_eq (style : Style) (body : List Node) (progress progress' : Progress)
    : ((emitProgram style body).run progress).1 = ((emitProgram style body).run progress').1 := by
  simp only [emitProgram_run, Progress.diagnostics_eq_append_reports]

end DeviceScript
