import DeviceScript.Files.FileSystem
import DeviceScript.Script.SyntaxError

/-! What stops a run outside of translation itself. -/

namespace DeviceScript

/-- What stops a run. -/
inductive Failure where
  | missingInput (path : Path)
  | undecodable (path : Path) (reason : Text)
  | unwritable (path : Path) (reason : Text)
  | unparsed (description : Text) (line column : Option Int)
  | misconfigured (message : Text)
  /-- A text whose reading broke off. -/
  | strayTemplate
  /-- A text that has no translation for the given reasons. -/
  | untranslated (errors : List Text)
  /-- A text that holds a surrogate and therefore cannot be written. -/
  | unencodable (text : Text)
  /-- A file about which the system gives no usable answer. -/
  | unreachable (error : FileError)
  deriving DecidableEq

namespace Failure

/-- The failure of a run that needs the whole of a text. -/
def ofUnreadable : Unreadable → Failure
  | .refused error => unparsed error.description (some error.line) (some error.column)
  | .reported report => unparsed report.description report.line report.column
  | .strayTemplate => strayTemplate

def message : Failure → Text
  | missingInput path => "Input not found: " ++ path.text
  | undecodable path reason => "Cannot decode " ++ path.text ++ " as UTF-8: " ++ reason
  | unwritable path reason => "Cannot write " ++ path.text ++ ": " ++ reason
  | unparsed description none _ => "Parse error: " ++ description
  | unparsed description (some line) column =>
    "Parse error at " ++ Text.ofInt line ++ ":" ++ ((column.map Text.ofInt).getD "None") ++ ": "
      ++ description
  | misconfigured message => message
  | strayTemplate => "Template literal must start with a template head"
  | untranslated errors => "Transpilation failed:\n" ++ Text.unlines errors
  | unencodable text => Utf8.surrogateMessage (fun _ => false) text
  | unreachable error => error.message

/-- Tells whether a failure is none of those that a command reports. -/
def isUnforeseen : Failure → Bool
  | strayTemplate | unencodable _ => true
  | unreachable error => !error.fault.isOfSystem
  | _ => false

end Failure

end DeviceScript
