import DeviceScript.Command.Run
import DeviceScript.Translation.FileRun
import DeviceScript.Translation.TraceDocument

/-! The command that translates a file. -/

namespace DeviceScript.Command

variable {m : Type → Type} [Monad m] [FileAccess m]

/-- The row of a problem in the table of all of them. -/
def diagnosticRow (terminal : Terminal) (diagnostic : Diagnostic) : List Text :=
  let severity := diagnostic.severity.name
  [diagnostic.place, "[" ++ severity ++ "]" ++ severity ++ "[/" ++ severity ++ "]",
    diagnostic.kind.name, terminal.escape (diagnostic.nodeKind.getD []),
    terminal.escape diagnostic.message]

/-- The cells of a table of problems, below the names of its columns. -/
def diagnosticCells (terminal : Terminal) (diagnostics : List Diagnostic) : List (List Text) :=
  ["Location", "Severity", "Kind", "Construct", "Message"]
    :: diagnostics.map (diagnosticRow terminal)

/-- The table of the problems of a file. -/
def diagnosticTable (terminal : Terminal) (source : Path) (diagnostics : List Diagnostic)
    : Except PrintFault ConsoleItem :=
  terminal.tableItem ("Diagnostics: " ++ source.text) (diagnosticCells terminal diagnostics)

/-- Writes the document of a log. -/
def saveTrace (terminal : Terminal) (stamps : Nat → Stamp) (path : Path) (trace : Trace)
    : Run m Unit := do
  let content := (Utf8.encode? (trace.document stamps)).getD []
  match ← Run.lift (FileAccess.store path content : m _) with
  | some error => throw (.file error)
  | none => Run.say terminal .info ("Trace saved to " ++ pathMarkup path)

/-- Tells how a translation went. -/
def reportConversion (terminal : Terminal) (settings : Settings) (conversion : Conversion)
    : Run m Nat := do
  if !conversion.diagnostics.isEmpty then
    Run.print (diagnosticTable terminal settings.inputPath conversion.diagnostics)
  if !conversion.success then
    Run.say terminal .error
      ("Translation failed with " ++ Text.ofNat conversion.errors.length ++ " error(s); "
        ++ pathMarkup settings.outputPath ++ " not written.")
    return 1
  conversion.warnings.forM fun warning => Run.say terminal .warning (terminal.escape warning)
  Run.say terminal .success ("Transpiled: " ++ pathMarkup settings.inputPath ++ " -> "
    ++ pathMarkup (conversion.outputPath.getD settings.outputPath))
  return 0

/-- Translates a file under the settings that hold beside it. -/
def convert (stamps : Nat → Stamp) (input output : Option Path) (strict : Option Bool)
    (runtime : Option Text) (trace : Option Path) (libraries : Libraries := {}) : Run m Nat :=
  withSettings libraries ⟨input, output, runtime, strict, input.map Path.parent⟩
    fun settings => do
      let translator : Translator := { settings, read := libraries.read }
      match ← Run.lift (translator.runFile none none : m _) with
      | .error failure =>
        if failure.isUnforeseen then throw (.run failure)
        Run.say libraries.terminal .error (libraries.terminal.escape failure.message)
        return 1
      | .ok conversion =>
        if let some path := trace then
          saveTrace libraries.terminal stamps path conversion.trace
        reportConversion libraries.terminal settings conversion

end DeviceScript.Command
