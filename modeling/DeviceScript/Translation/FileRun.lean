import DeviceScript.Text.Utf8
import DeviceScript.Translation.Conversion
import DeviceScript.Translation.Failure

/-! Translation runs from file to file. A file is read as a whole before anything else happens, and
the code is written only after a run that succeeded.
-/

namespace DeviceScript.Translator

variable {m : Type → Type} [Monad m] [FileAccess m]

/-- Writes code to a path. A file that is opened for a code without an encoding is left empty. -/
def store (target : Path) (code : Text) : m (Option Failure) := do
  match ← FileAccess.store target ((Utf8.encode? code).getD []) with
  | some error =>
    return some (if error.fault.isOfSystem then .unwritable target error.reason
      else .unreachable error)
  | none => return if (Utf8.encode? code).isNone then some (.unencodable code) else none

/-- Logs the one access to a file that a phase consists of. -/
def accessPhase (trace : Trace) (name action : Text) (path : Path) : Trace :=
  ((trace.startPhase name path.text).log (.fileAccess action path.text)).endPhase

/-- Writes the code of a run that succeeded. -/
def deliver (target : Path) (conversion : Conversion) : m (Except Failure Conversion) := do
  if !conversion.success then return .ok conversion
  match ← store target conversion.code with
  | some failure => return .error failure
  | none =>
    return .ok { conversion with
      trace := accessPhase conversion.trace "Write" "write" target
      outputPath := some target }

/-- Translates a file into another one; the settings name those that are not given. -/
def runFile (translator : Translator) (input output : Option Path)
    : m (Except Failure Conversion) := do
  let source := input.getD translator.settings.inputPath
  let target := output.getD translator.settings.outputPath
  match ← FileAccess.read source with
  | .error error => return .error (.unreachable error)
  | .ok none => return .error (.missingInput source)
  | .ok (some content) =>
    match Utf8.decode content with
    | .error malformed =>
      return .error (.undecodable source ("invalid byte at offset " ++ Text.ofNat malformed.first))
    | .ok text =>
      match translator.translate text.withLineFeeds (accessPhase {} "Read" "read" source) with
      | .error failure => return .error failure
      | .ok conversion => deliver target conversion

end DeviceScript.Translator
