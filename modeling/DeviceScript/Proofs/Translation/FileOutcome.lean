import DeviceScript.Proofs.Files.Storing
import DeviceScript.Proofs.Translation.Gate

/-! Outcomes of runs from file to file. Whatever becomes of a run, no file changes but the one that
is written. That one holds the whole code, or nothing at all where the code cannot be encoded, or a
part of the code where the system fails while it is written.
-/

namespace DeviceScript

open FileSystem

/-- Two outcomes that differ at most in the log and in the place where the code was written. -/
structure Conversion.Agrees (left right : Conversion) : Prop where
  success : left.success = right.success
  code : left.code = right.code
  diagnostics : left.diagnostics = right.diagnostics

namespace FileSystem

/-- A file that can be read to a text. -/
def Holds (files : FileSystem) (path : Path) (text : Text) : Prop :=
  ∃ content, files.find? path = some (.file content) ∧ Utf8.decode content = .ok text

end FileSystem

namespace Translator

variable (translator : Translator)

/-- What is emitted does not depend on what has been logged before. -/
theorem emission_eq (statements : List Node) (trace trace' : Trace)
    : (translator.emission statements trace).1 = (translator.emission statements trace').1 := by
  let render (emission : Emission) : Emission :=
    { emission with text := translator.template.render emission.functions emission.statements }
  exact congrArg render (Fragment.emitProgram_eq translator.template.toStyle statements _ _)

/-- An outcome does not depend on what has been logged before, apart from its log. -/
theorem agrees_conclude (reading : Except SyntaxReport Node) (trace trace' : Trace)
    : (translator.conclude reading trace).Agrees (translator.conclude reading trace') := by
  cases reading with
  | error report => exact ⟨rfl, rfl, rfl⟩
  | ok node =>
      have hemission := translator.emission_eq node.statements
        (trace.startPhase "Parse" "esprima -> ts2cpp AST").endPhase
        (trace'.startPhase "Parse" "esprima -> ts2cpp AST").endPhase
      constructor <;> simp only [conclude, hemission]

/-- An outcome that, but for its log, is the one of the run on the text that a file holds. -/
def Yields (before : FileSystem) (source : Path) (conversion : Conversion) : Prop :=
  ∃ text outcome, before.Holds source text ∧ translator.run text.withLineFeeds = .ok outcome
    ∧ conversion.Agrees outcome

/-- How a run from one file to another ends, and which files it leaves behind. -/
inductive Ends (source target : Path) (before : FileSystem)
    : Except Failure Conversion → FileSystem → Prop where
  | missingInput (missing : ∀ content, before.find? source ≠ some (.file content))
      : Ends source target before (.error (.missingInput source)) before
  | undecodable {content : List UInt8} {malformed : Utf8.Malformed}
      (found : before.find? source = some (.file content))
      (undecoded : Utf8.decode content = .error malformed)
      : Ends source target before
          (.error (.undecodable source
            ("invalid byte at offset " ++ Text.ofNat malformed.first)))
          before
  | unwritable {conversion : Conversion} {error : FileError} {after : FileSystem}
      (yields : translator.Yields before source conversion)
      (success : conversion.success = true)
      (cause : ¬before.IsOpen target ∨ before.Troubles target error.fault)
      (sameFiles : before.SameFiles after)
      : Ends source target before (.error (.unwritable target error.reason)) after
  | unsuccessful {conversion : Conversion}
      (yields : translator.Yields before source conversion)
      (failure : conversion.success = false)
      (nowhere : conversion.outputPath = none)
      : Ends source target before (.ok conversion) before
  | written {conversion : Conversion} {bytes : List UInt8} {after : FileSystem}
      (yields : translator.Yields before source conversion)
      (success : conversion.success = true)
      (encoded : Utf8.encode? conversion.code = some bytes)
      (isOpen : before.IsOpen target)
      (written : Written target bytes before after)
      (there : conversion.outputPath = some target)
      : Ends source target before (.ok conversion) after
  /-- The name of the input is too long for the system to tell whether there is such a file. -/
  | unreachableInput (tooLong : before.locate source = .error .nameTooLong)
      : Ends source target before
          (.error (.unreachable { fault := .nameTooLong, path := source })) before
  /-- The system does not let the input be looked at or read. -/
  | unreadableInput {error : FileError} (trouble : before.Troubles source error.fault)
      : Ends source target before (.error (.unreachable error)) before
  /-- Reading the text breaks off. -/
  | strayTemplate {text : Text} (found : before.Holds source text)
      (stray : translator.read text.withLineFeeds = .error .strayTemplate)
      : Ends source target before (.error .strayTemplate) before
  /-- The system cannot be asked about the output at all. -/
  | unreachableOutput {conversion : Conversion} {error : FileError} {after : FileSystem}
      (yields : translator.Yields before source conversion)
      (success : conversion.success = true)
      (unspelled : target.fault? ≠ none)
      (sameFiles : before.SameFiles after)
      : Ends source target before (.error (.unreachable error)) after
  /-- The system fails when the output has been opened, and so has been created or emptied. -/
  | brokenOff {conversion : Conversion} {bytes : List UInt8} {error : FileError} {passed : Nat}
      {after : FileSystem}
      (yields : translator.Yields before source conversion)
      (success : conversion.success = true)
      (encoded : bytes = (Utf8.encode? conversion.code).getD [])
      (isOpen : before.IsOpen target)
      (trouble : before.Troubles target error.fault)
      (begun : Written target (bytes.take passed) before after)
      : Ends source target before (.error (.unwritable target error.reason)) after
  /-- The code has no encoding, which is noticed when the output has been emptied. -/
  | unencodable {conversion : Conversion} {after : FileSystem}
      (yields : translator.Yields before source conversion)
      (success : conversion.success = true)
      (unencoded : Utf8.encode? conversion.code = none)
      (isOpen : before.IsOpen target)
      (emptied : Written target [] before after)
      : Ends source target before (.error (.unencodable conversion.code)) after

/-- Storing a code ends as storing its bytes does, or nothing where it has none. -/
theorem run_store (target : Path) (code : Text) (files : FileSystem)
    : (store target code : StateM FileSystem _).run files
      = let stored := (FileAccess.store target ((Utf8.encode? code).getD []) :
          StateM FileSystem _).run files
        (match stored.1 with
          | some error =>
            some (if error.fault.isOfSystem then .unwritable target error.reason
              else .unreachable error)
          | none => if (Utf8.encode? code).isNone then some (.unencodable code) else none,
          stored.2) := by
  simp only [store, StateM.run_bind]
  rcases (FileAccess.store target ((Utf8.encode? code).getD []) : StateM FileSystem _).run files
    with ⟨_ | error, after⟩ <;> rfl

/-- What becomes of a conversion once it is there, by cases on its success and then on how storing
its code ends. -/
theorem deliver_ends {source target : Path} {files : FileSystem} {conversion : Conversion}
    (yields : translator.Yields files source conversion) (nowhere : conversion.outputPath = none)
    : translator.Ends source target files
        ((deliver target conversion : StateM FileSystem _).run files).1
        ((deliver target conversion : StateM FileSystem _).run files).2 := by
  unfold deliver
  cases hs : conversion.success with
  | false => exact .unsuccessful yields hs nowhere
  | true =>
      simp only [Bool.not_true, Bool.false_eq_true, if_false, StateM.run_bind, run_store]
      have hstored := stored target ((Utf8.encode? conversion.code).getD []) files
      generalize (FileAccess.store target ((Utf8.encode? conversion.code).getD []) :
        StateM FileSystem _).run files = result at hstored ⊢
      obtain ⟨failure, after⟩ := result
      cases hstored with
      | written isOpen written =>
          -- The output is emptied before the code is encoded.
          cases he : Utf8.encode? conversion.code with
          | none =>
              rw [he] at written
              exact .unencodable yields hs he isOpen written
          | some bytes =>
              obtain ⟨text, outcome, hholds, hrun, hagrees⟩ := yields
              rw [he] at written
              exact .written ⟨text, outcome, hholds, hrun, hs.symm.trans hagrees.success,
                hagrees.code, hagrees.diagnostics⟩ rfl he isOpen written rfl
      | refused cause sameFiles ofSystem =>
          rename_i error
          by_cases hsystem : error.fault.isOfSystem = true
          · simp only [hsystem, if_true]
            exact .unwritable yields hs cause sameFiles
          · simp only [hsystem, Bool.false_eq_true, if_false]
            exact .unreachableOutput yields hs (fun hspell => hsystem (ofSystem hspell)) sameFiles
      | brokenOff isOpen trouble begun =>
          simp only [trouble.isOfSystem, if_true]
          exact .brokenOff yields hs rfl isOpen trouble begun

/-- However a run from file to file ends, by cases along its steps, the input is at most read and
no file but the output changes. -/
theorem runFile_ends (input output : Option Path) (files : FileSystem)
    : translator.Ends (input.getD translator.settings.inputPath)
        (output.getD translator.settings.outputPath) files
        ((translator.runFile input output : StateM FileSystem _).run files).1
        ((translator.runFile input output : StateM FileSystem _).run files).2 := by
  simp only [runFile, StateM.run_bind, run_read]
  generalize input.getD translator.settings.inputPath = source
  generalize output.getD translator.settings.outputPath = target
  cases hr : files.read source with
  | error error =>
      rcases read_eq_error hr with ⟨rfl, hl⟩ | htrouble
      · exact .unreachableInput hl
      · exact .unreadableInput htrouble
  | ok found =>
      cases found with
      | none => exact .missingInput (not_file_of_read hr)
      | some content =>
          have hfound := find?_of_read hr
          cases hd : Utf8.decode content with
          | error malformed =>
              simp only [hd]
              exact .undecodable hfound hd
          | ok text =>
              have hholds : files.Holds source text := ⟨content, hfound, hd⟩
              simp only [hd]
              by_cases hstray : translator.read text.withLineFeeds = .error .strayTemplate
              · simp only [translate, hstray, Unreadable.report?]
                exact .strayTemplate hholds hstray
              · obtain ⟨reading, htranslate⟩ := translator.translate_eq_conclude hstray
                have htrace (trace : Trace) : translator.translate text.withLineFeeds trace
                    = .ok (translator.conclude reading trace) :=
                  htranslate translator.settings.isStrict trace
                simp only [htrace]
                refine translator.deliver_ends ⟨text, _, hholds, htrace {}, ?_⟩ ?_
                · exact translator.agrees_conclude reading _ {}
                · cases reading <;> rfl

/-- Files that a run from the input to the output finds: a script and the output of an
earlier run. -/
def rerun : FileSystem where
  entries := [([("main.ts" : Text)], .file ((Utf8.encode? "x = \"\\ud800\";").getD [])),
    ([("main.cpp" : Text)], .file ((Utf8.encode? "earlier").getD []))]
  working := []

/-- A code with half of a surrogate pair costs the output its earlier content. -/
theorem runFile_empties_output
    : let program : Node :=
        .program [.expressionStatement
          (.assignment "=" (.identifier "x" none)
            (.literal (.text [.surrogate 0]) (some "\"\\ud800\"") none) none)
          none] none
      let translator : Translator := { read := fun _ => .ok program }
      let result := (translator.runFile none none : StateM FileSystem _).run rerun
      (∃ failure, result.1 = .error failure ∧ failure.isUnforeseen = true)
        ∧ rerun.find? "main.cpp" = some (.file ((Utf8.encode? "earlier").getD []))
        ∧ result.2.find? "main.cpp" = some (.file []) := by
  refine ⟨⟨_, rfl, ?_⟩, ?_, ?_⟩
  · decide +kernel
  · decide +kernel
  · decide +kernel

end Translator

end DeviceScript
