import DeviceScript.Settings.Basic
import DeviceScript.Translation.Failure
import DeviceScript.Translation.Source
import DeviceScript.Translation.Unit

/-! Translation runs on a text: reading, emission, and the gate that decides whether the code may be
used. Every run starts from nothing but its text, its settings and its table of names.
-/

namespace DeviceScript

/-- The outcome of a translation run. -/
structure Conversion where
  success : Bool
  /-- The C++ file, or nothing after a failure. -/
  code : Text
  diagnostics : List Diagnostic
  trace : Trace
  /-- Where the code was written, if it was. -/
  outputPath : Option Path := none

namespace Conversion

/-- The errors, one line each. -/
def errors (conversion : Conversion) : List Text :=
  (conversion.diagnostics.filter Diagnostic.isFatal).map Diagnostic.text

/-- The warnings, one line each. -/
def warnings (conversion : Conversion) : List Text :=
  (conversion.diagnostics.filter fun diagnostic => !diagnostic.isFatal).map Diagnostic.text

def hasErrors (conversion : Conversion) : Bool := !conversion.errors.isEmpty

end Conversion

/-- The problem with a text that is no script. -/
def SyntaxReport.diagnostic (report : SyntaxReport) : Diagnostic where
  kind := .parseError
  message := report.description
  line := report.line
  column := report.column

/-- What a translation depends on besides the text. -/
structure Translator where
  settings : Settings := {}
  /-- The names that are replaced. -/
  shims : ShimTable := settings.shims
  /-- The reader of scripts. -/
  read : Text → Except Unreadable Node := Script.toNode

namespace Translator

def template (translator : Translator) : Template where
  shims := translator.shims
  indent := translator.settings.indent
  runtime := translator.settings.runtimeInclude

/-- The reports of an emission, which are errors throughout where the settings are strict. -/
def judge (settings : Settings) (diagnostics : List Diagnostic) : List Diagnostic :=
  if settings.isStrict then diagnostics.map Diagnostic.promote else diagnostics

/-- Emits the statements of a script inside a phase of its own. -/
def emission (translator : Translator) (statements : List Node) (trace : Trace)
    : Emission × Trace :=
  let started := trace.startPhase "Emit" "AST -> C++"
  let (emission, progress) :=
    (translator.template.assemble statements).run { trace := some started }
  (emission, (progress.trace.getD started).endPhase)

/-- The translation of a text that has been read or refused, logged behind what has been logged
already. -/
def conclude (translator : Translator) (reading : Except SyntaxReport Node) (trace : Trace)
    : Conversion :=
  let parsed := (trace.startPhase "Parse" "esprima -> ts2cpp AST").endPhase
  match reading with
  | .error report =>
    let diagnostic := report.diagnostic
    ⟨false, "", [diagnostic], parsed.log (.diagnostic diagnostic.text), none⟩
  | .ok node =>
    let (emission, trace) := translator.emission node.statements parsed
    let diagnostics := judge translator.settings emission.diagnostics
    let success := !hasFatal diagnostics
    ⟨success, if success then emission.text else "", diagnostics, trace, none⟩

/-- Translates a text, unless reading it breaks off. -/
def translate (translator : Translator) (code : Text) (trace : Trace)
    : Except Failure Conversion :=
  match translator.read code with
  | .ok node => .ok (translator.conclude (.ok node) trace)
  | .error reason =>
    match reason.report? with
    | some report => .ok (translator.conclude (.error report) trace)
    | none => .error .strayTemplate

/-- Translates a text on its own. -/
def run (translator : Translator) (code : Text) : Except Failure Conversion :=
  translator.translate code {}

/-- The C++ file for a text, or what keeps the text from having one. -/
def convert (translator : Translator) (code : Text) : Except Failure Text := do
  let conversion ← translator.run code
  if conversion.success then return conversion.code
  else throw (.untranslated conversion.errors)

end Translator

/-- The C++ file for a text under settings, with the names that these settings replace. -/
def convert (settings : Settings) (code : Text) : Except Failure Text :=
  ({ settings := settings } : Translator).convert code

end DeviceScript
