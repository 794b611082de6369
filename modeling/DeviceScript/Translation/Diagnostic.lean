import DeviceScript.Data.Check
import DeviceScript.Syntax.Node

/-! Reports on what a translation could not do, or did only in part. -/

namespace DeviceScript

/-- The categories of problems. -/
inductive DiagnosticKind where
  | unsupportedConstruct | unsupportedOperator | incompleteTranslation | untypedArray
  | heterogeneousArray | sharedDeclarationType | parseError
  deriving DecidableEq

/-- An error keeps a translation from being used; a warning does not. -/
inductive Severity where
  | error | warning
  deriving DecidableEq

namespace DiagnosticKind

def all : List DiagnosticKind :=
  [unsupportedConstruct, unsupportedOperator, incompleteTranslation, untypedArray,
    heterogeneousArray, sharedDeclarationType, parseError]

def name : DiagnosticKind → Text
  | unsupportedConstruct => "unsupported_construct"
  | unsupportedOperator => "unsupported_operator"
  | incompleteTranslation => "incomplete_translation"
  | untypedArray => "untyped_array"
  | heterogeneousArray => "heterogeneous_array"
  | sharedDeclarationType => "shared_declaration_type"
  | parseError => "parse_error"

end DiagnosticKind

namespace Severity

def all : List Severity := [error, warning]

def name : Severity → Text
  | error => "error"
  | warning => "warning"

end Severity

/-- One problem, with the node it concerns and the place of that node where they are known. -/
structure Diagnostic where
  kind : DiagnosticKind
  severity : Severity := .error
  message : Text
  nodeKind : Option Text := none
  line : Option Int := none
  column : Option Int := none
  deriving DecidableEq

namespace Diagnostic

def isFatal (diagnostic : Diagnostic) : Bool := diagnostic.severity = .error

/-- The place of a problem, with a question mark for an unknown line. -/
def place (diagnostic : Diagnostic) : Text :=
  match diagnostic.line, diagnostic.column with
  | none, _ => "?"
  | some line, none => Text.ofInt line
  | some line, some column => Text.ofInt line ++ ":" ++ Text.ofInt column

/-- A problem on one line: place, severity, kind and message. -/
def text (diagnostic : Diagnostic) : Text :=
  diagnostic.place ++ ": " ++ diagnostic.severity.name ++ ": [" ++ diagnostic.kind.name ++ "] "
    ++ diagnostic.message

/-- The problem with the given values, or a report on every value that is not accepted. -/
def ofValues (values : List (Text × Datum)) : Except (List Rejection) Diagnostic :=
  let check {α : Type} (key : Text) (default : α) (accept : Datum → Except Flaw α) :=
    Datum.checkGiven default (Datum.checkNamed key accept) (values.lookup key)
  let kind :=
    Datum.checkRequired values "kind" (Datum.checkAmong DiagnosticKind.name DiagnosticKind.all)
  let severity := check "severity" .error (Datum.checkAmong Severity.name Severity.all)
  let message := Datum.checkRequired values "message" Datum.checkText
  let nodeKind := check "node_kind" none (Datum.checkOptional Datum.checkText)
  let line := check "line" none (Datum.checkOptional Datum.checkInteger)
  let column := check "column" none (Datum.checkOptional Datum.checkInteger)
  match kind, severity, message, nodeKind, line, column with
  | .ok kind, .ok severity, .ok message, .ok nodeKind, .ok line, .ok column =>
    .ok ⟨kind, severity, message, nodeKind, line, column⟩
  | kind, severity, message, nodeKind, line, column =>
    .error (Datum.rejections kind ++ Datum.rejections severity ++ Datum.rejections message
      ++ Datum.rejections nodeKind ++ Datum.rejections line ++ Datum.rejections column)

/-- The same problem as an error. -/
def promote (diagnostic : Diagnostic) : Diagnostic := { diagnostic with severity := .error }

end Diagnostic

def hasFatal (diagnostics : List Diagnostic) : Bool := diagnostics.any Diagnostic.isFatal

end DeviceScript
