import DeviceScript.Number.Numeral
import DeviceScript.Text.Cited
import DeviceScript.Translation.Diagnostic
import DeviceScript.Translation.ElementType

/-! What emission finds fault with in a script. -/

namespace DeviceScript

/-- The reasons for a report during emission. -/
inductive Finding where
  | foreignNode (kind : Text)
  | construct (source detail : Text)
  | operator (spelling : Text)
  | notFinite (literal : Text)
  | arrayHole
  | propertyNotIdentifier
  | deferredProperty (property : Text)
  | pushArguments (count : Nat)
  | spliceWithoutStart
  | spliceInsertion
  | nestedFunction
  | untypedArray (name : Text)
  | heterogeneousElement (element name : Text) (type : ElementType)
  | sharedType (declarator : Text)

namespace Finding

def kind : Finding → DiagnosticKind
  | operator _ => .unsupportedOperator
  | deferredProperty _ => .incompleteTranslation
  | untypedArray _ => .untypedArray
  | heterogeneousElement _ _ _ => .heterogeneousArray
  | sharedType _ => .sharedDeclarationType
  | _ => .unsupportedConstruct

/-- Only a translation that is complete and means the same goes on with a warning. -/
def severity : Finding → Severity
  | deferredProperty _ | untypedArray _ | heterogeneousElement _ _ _ | sharedType _ => .warning
  | _ => .error

def message : Finding → Text
  | foreignNode kind => "No emitter for node kind '" ++ kind ++ "'"
  | construct source [] => "Unsupported construct '" ++ source ++ "'"
  | construct source detail => "Unsupported construct '" ++ source ++ "': " ++ detail
  | operator spelling => "Operator '" ++ spelling ++ "' has no C++ translation"
  | notFinite literal => "Numeric literal " ++ literal ++ " is not finite"
  | arrayHole => "Array literals with holes are not supported"
  | propertyNotIdentifier => "Non-identifier property access is not supported"
  | deferredProperty property =>
    "'." ++ property ++ "' is not translated; the object is emitted unchanged"
  | pushArguments count => "push() expects exactly one argument, got " ++ Text.ofNat count
  | spliceWithoutStart => "splice() requires a start index"
  | spliceInsertion => "splice() with inserted items is not supported"
  | nestedFunction => "Nested function declarations are not supported"
  | untypedArray name =>
    "Element type of '" ++ name
      ++ "' cannot be inferred from its first element; declared as std::vector<auto>"
  | heterogeneousElement element name type =>
    "Element " ++ element ++ " of '" ++ name ++ "' does not match element type " ++ type.spelling
  | sharedType declarator => "Loop header declarators share the type of '" ++ declarator ++ "'"

/-- The kind of node that a report names; a construct names what stood in the script. -/
def nodeKind (finding : Finding) (node : Node) : Text :=
  match finding with
  | construct source _ => if source = [] then node.kindName else source
  | _ => node.kindName

/-- The report on a node. -/
def reportOn (finding : Finding) (node : Node) : Diagnostic where
  kind := finding.kind
  severity := finding.severity
  message := finding.message
  nodeKind := some (finding.nodeKind node)
  line := node.location.map Location.line
  column := node.location.map Location.column

end Finding

namespace Literal

/-- The value of a literal as a message cites it. -/
def cited : Literal → Text
  | text value => Text.Cited.encode value
  | boolean value => if value then "True" else "False"
  | integer value => Text.ofInt value
  | real value => Numeral.ofBinary64 value
  | null => "None"

/-- A literal as a message cites it: by its spelling if that is known, else by its value. -/
def citedAs (value : Literal) (raw : Option Text) : Text :=
  match raw with
  | some (point :: spelling) => Text.Cited.encode (point :: spelling)
  | _ => value.cited

end Literal

end DeviceScript
