import DeviceScript.Text.Quoted
import DeviceScript.Translation.Finding
import DeviceScript.Translation.Operator
import DeviceScript.Translation.ShimTable
import DeviceScript.Translation.Trace

/-! The C++ fragment of a syntax tree. A node that has no translation yields the empty fragment and
a report, and its neighbours are translated all the same, so that one run finds every problem.
-/

namespace DeviceScript

/-- How fragments are written: the names that are replaced, and the unit of indentation. -/
structure Style where
  shims : ShimTable
  indent : Text

/-- What emission has left behind so far. -/
structure Progress where
  /-- The number of braced blocks around the node that is being emitted. -/
  depth : Nat := 0
  diagnostics : List Diagnostic := []
  /-- The log, if one is kept. -/
  trace : Option Trace := none

abbrev Emit := StateM Progress

namespace Emit

/-- Adds an entry to the log. -/
def log (entry : TraceEntry) : Emit Unit :=
  modify fun progress => { progress with trace := progress.trace.map (Trace.log · entry) }

/-- Reports a finding on a node, and logs the report. -/
def report (finding : Finding) (node : Node) : Emit Unit := do
  let diagnostic := finding.reportOn node
  modify fun progress => { progress with diagnostics := progress.diagnostics ++ [diagnostic] }
  log (.diagnostic diagnostic.text)

/-- Reports a finding that leaves a node without a fragment. -/
def refuse (finding : Finding) (node : Node) : Emit Text := do
  report finding node
  return []

/-- The C++ name of a dotted name, logged if there is one. -/
def substitute? (shims : ShimTable) (name : Option Text) : Emit (Option Text) := do
  match name with
  | none => return none
  | some source =>
    match shims.lookup? source with
    | none => return none
    | some target =>
      log (.shimMatch source target)
      return some target

/-- Runs an action inside one more braced block. -/
def nested {α : Type} (action : Emit α) : Emit α := do
  modify fun progress => { progress with depth := progress.depth + 1 }
  let result ← action
  modify fun progress => { progress with depth := progress.depth - 1 }
  return result

end Emit

namespace Fragment

/-- Every line of some fragments, indented unless it is empty. -/
def indented (indent : Text) (fragments : List Text) : Text :=
  Text.unlines
    ((fragments.flatMap Text.lines).map fun line => if line = [] then line else indent ++ line)

/-- Fragments between braces on lines of their own. -/
def enclosed (indent : Text) (fragments : List Text) : Text :=
  if fragments = [] then "\x7b\n\x7d" else "\x7b\n" ++ indented indent fragments ++ "\n\x7d"

/-- A header and the braced body behind it. -/
def compound (indent header : Text) (fragments : List Text) : Text :=
  header ++ " " ++ enclosed indent fragments

/-- The fragments that are not empty. -/
def present (fragments : List Text) : List Text := fragments.filter (· ≠ [])

/-- A fragment and a semicolon, unless there is no fragment. -/
def terminated (fragment : Text) : Text := if fragment = [] then [] else fragment ++ ";"

/-- A double as C++ spells it: whole numbers below `Nat.pow 10 21` as integers, others at their
shortest. -/
def real (value : Binary64) : Text :=
  match value.toInt? with
  | some whole => if whole.natAbs < Nat.pow 10 21 then Text.ofInt whole else Numeral.ofBinary64 value
  | none => Numeral.ofBinary64 value

/-- A literal as C++ spells it. -/
def ofLiteral (literal : Literal) : Text :=
  match literal with
  | .text value => Text.Quoted.encode value
  | .boolean value => if value then "true" else "false"
  | .integer value => Text.ofInt value
  | .real value => real value
  | .null => "nullptr"

/-- The methods of containers that C++ spells differently. -/
inductive Method where
  | push | pop | shift | reverse | splice
  deriving DecidableEq

def Method.ofName? (name : Text) : Option Method :=
  if name = "push" then some .push
  else if name = "pop" then some .pop
  else if name = "shift" then some .shift
  else if name = "reverse" then some .reverse
  else if name = "splice" then some .splice
  else none

/-- Removal of the last element. -/
def popped (object : Text) : Text := object ++ ".pop_back()"

/-- Removal of the first element. -/
def shifted (object : Text) : Text := object ++ ".erase(" ++ object ++ ".begin())"

def reversed (object : Text) : Text :=
  "std::reverse(" ++ object ++ ".begin(), " ++ object ++ ".end())"

/-- Removal of `count` elements from the position `start` on. -/
def spliced (object start count : Text) : Text :=
  object ++ ".erase(" ++ object ++ ".begin() + " ++ start ++ ", " ++ object ++ ".begin() + "
    ++ start ++ " + " ++ count ++ ")"

/-- A property of a container that C++ spells differently. -/
def property? (object name : Text) : Option Text :=
  if name = "length" then some (object ++ ".size()")
  else if name = "push" then some (object ++ ".push_back")
  else if name = "pop" then some (popped object)
  else if name = "shift" then some (shifted object)
  else if name = "splice" then some (object ++ ".erase")
  else if name = "reverse" then some (reversed object)
  else none

/-- The properties that are left out, so that the object stands alone. -/
def isDeferred (name : Text) : Bool := name = "concat" || name = "join"

/-- The C++ type in front of the name that a declarator introduces. -/
def declaredType : Option Node → Text
  | some (.array elements _) => "std::vector<" ++ (ElementType.infer elements).spelling ++ ">"
  | some (.literal (.text _) _ _) => "std::string"
  | _ => "auto"

/-- Reports what is doubtful about the element type of an array that initialises a name. -/
def reviewElements (array : Node) (elements : List (Option Node)) (name : Text) : Emit Unit := do
  let type := ElementType.infer elements
  if type = .unspecified then Emit.report (.untypedArray name) array
  (type.heterogeneous elements).forM fun element => do
    match element.1 with
    | .literal value raw _ =>
      Emit.report (.heterogeneousElement (value.citedAs raw) name type) element.1
    | _ => return

/-- Reports what is doubtful about the initial value of a name. -/
def reviewInitial (name : Text) : Option Node → Emit Unit
  | some (.array elements location) => reviewElements (.array elements location) elements name
  | _ => return

/-- Joins the parts of a declaration in a loop header. -/
def joinHeader (declaration : Node) (count : Nat) (parts : List Text) : Emit Text := do
  let first := parts.headD []
  if count > 1 ∧ first ≠ [] ∧ ¬ first.startsWith "auto " then
    Emit.report (.sharedType (Text.before " =" first)) declaration
  return Text.join ", " (present parts)

/-- A node and the text it stands for, as an operand. -/
def operand (node : Node) (strength : Nat) (right : Bool) (text : Emit Text) : Emit Text :=
  node.asOperand strength right <$> text

/-- The text of a binary or logical operation, unless C++ has no such operator. -/
def operation (node : Node) (operator : Text) (left right : Emit Text) : Emit Text :=
  if operator ∈ Operator.untranslatedBinary then Emit.refuse (.operator operator) node
  else do
    let leftText ← left
    let rightText ← right
    return leftText ++ " " ++ Operator.spelling operator ++ " " ++ rightText

/-- The text of a unary operation, where two signs in a row do not run together. -/
def unary (operator argument : Text) : Text :=
  operator ++ (if argument.startsWith operator then "(" ++ argument ++ ")" else argument)

mutual

/-- The fragment of a node. -/
def emit (style : Style) : Node → Emit Text
  | .program body _ => Text.unlines <$> emitStatements style body
  | .expressionStatement expression _ => terminated <$> emit style expression
  | .identifier name _ => return name
  | .literal value raw location =>
    match value with
    | .real number =>
      if number.isFinite then return real number
      else Emit.refuse (.notFinite (value.citedAs raw)) (.literal value raw location)
    | value => return ofLiteral value
  | .array elements location =>
    if elements.any Option.isNone then Emit.refuse .arrayHole (.array elements location)
    else if elements = [] then return "\x7b\x7d"
    else do
      let texts ← emitElements style elements
      return "\x7b " ++ Text.join ", " texts ++ " \x7d"
  | .binary operator left right location =>
    operation (.binary operator left right location) operator
      (operand left (Operator.strength operator) false (emit style left))
      (operand right (Operator.strength operator) true (emit style right))
  | .logical operator left right location =>
    operation (.logical operator left right location) operator
      (operand left (Operator.strength operator) false (emit style left))
      (operand right (Operator.strength operator) true (emit style right))
  | .unary operator argument leading location =>
    if operator ∈ Operator.untranslatedUnary then
      Emit.refuse (.operator operator) (.unary operator argument leading location)
    else unary operator <$> operand argument Operator.leading false (emit style argument)
  | .update operator argument leading _ => do
    let text ← operand argument Operator.trailing false (emit style argument)
    return if leading then operator ++ text else text ++ operator
  | .assignment operator left right location =>
    if operator ∈ Operator.untranslatedAssignment then
      Emit.refuse (.operator operator) (.assignment operator left right location)
    else do
      let leftText ← emit style left
      let rightText ← operand right Operator.assignment false (emit style right)
      return leftText ++ " " ++ operator ++ " " ++ rightText
  | .member object property computed location => do
    let objectText ← operand object Operator.primary false (emit style object)
    if computed then
      let index ← emit style property
      return objectText ++ "[" ++ index ++ "]"
    else
      let node := Node.member object property computed location
      match property with
      | .identifier name _ =>
        match property? objectText name with
        | some text => return text
        | none =>
          if isDeferred name then
            Emit.report (.deferredProperty name) node
            return objectText
          else
            let target ← Emit.substitute? style.shims node.dottedName?
            return target.getD (ShimTable.scopedName objectText name)
      | _ => Emit.refuse .propertyNotIdentifier node
  | .call callee arguments location =>
    let node := Node.call callee arguments location
    let ordinary : Emit Text := do
      let texts ← emitArguments style arguments
      let list := "(" ++ Text.join ", " texts ++ ")"
      match ← Emit.substitute? style.shims callee.dottedName? with
      | some target => return target ++ list
      | none =>
        let text ← operand callee Operator.primary false (emit style callee)
        return text ++ list
    match callee with
    | .member object (.identifier name _) false _ =>
      match Method.ofName? name with
      | none => ordinary
      | some method => do
        let objectText ← operand object Operator.primary false (emit style object)
        match method with
        | .push =>
          match arguments with
          | [_] =>
            let texts ← emitArguments style arguments
            return objectText ++ ".push_back(" ++ Text.join ", " texts ++ ")"
          | _ => Emit.refuse (.pushArguments arguments.length) node
        | .pop => return popped objectText
        | .shift => return shifted objectText
        | .reverse => return reversed objectText
        | .splice =>
          match arguments with
          | [] => Emit.refuse .spliceWithoutStart node
          | [start] =>
            let startText ← operand start Operator.additive true (emit style start)
            return spliced objectText startText "1"
          | [start, count] =>
            let startText ← operand start Operator.additive true (emit style start)
            let countText ← operand count Operator.additive true (emit style count)
            return spliced objectText startText countText
          | _ => Emit.refuse .spliceInsertion node
    | _ => ordinary
  | .declaration declarations _ _ => do
    let parts ← emitEach style declarations
    return Text.join " " ((present parts).map terminated)
  | .declarator target initial _ => do
    let name ← emit style target
    match initial with
    | none => return "auto " ++ name
    | some value =>
      reviewInitial name (some value)
      let text ← emit style value
      return declaredType (some value) ++ " " ++ name ++ " = " ++ text
  | .block body _ => do
    let fragments ← Emit.nested (emitStatements style body)
    return enclosed style.indent fragments
  | .ifElse test consequent alternate _ => do
    let testText ← emit style test
    let fragments ← Emit.nested <|
      match consequent with
      | .block body _ => emitStatements style body
      | statement => do return present [← emit style statement]
    let text := compound style.indent ("if (" ++ testText ++ ")") fragments
    match alternate with
    | none => return text
    | some (.ifElse test' consequent' alternate' location') =>
      let rest ← emit style (.ifElse test' consequent' alternate' location')
      return text ++ " else " ++ rest
    | some (.block body _) =>
      let fragments ← Emit.nested (emitStatements style body)
      return text ++ " " ++ compound style.indent "else" fragments
    | some statement =>
      let fragments ← Emit.nested do return present [← emit style statement]
      return text ++ " " ++ compound style.indent "else" fragments
  | .whileLoop test body _ => do
    let testText ← emit style test
    let fragments ← Emit.nested <|
      match body with
      | .block body _ => emitStatements style body
      | statement => do return present [← emit style statement]
    return compound style.indent ("while (" ++ testText ++ ")") fragments
  | .forLoop initial test advance body _ => do
    let initialText ←
      match initial with
      | none => pure []
      | some (.declaration declarations keyword location) => do
        let parts ← emitHeaderParts style true declarations
        joinHeader (.declaration declarations keyword location) declarations.length parts
      | some node => Text.dropTrailing ';' <$> emit style node
    let testText ← emitOptional style test
    let advanceText ← emitOptional style advance
    let fragments ← Emit.nested <|
      match body with
      | .block body _ => emitStatements style body
      | statement => do return present [← emit style statement]
    let header := "for (" ++ initialText ++ "; " ++ testText ++ "; " ++ advanceText ++ ")"
    return compound style.indent header fragments
  | .function name parameters body location => do
    if (← get).depth > 0 then
      Emit.refuse .nestedFunction (.function name parameters body location)
    else
      let parameterTexts ← emitEach style parameters
      let nameText ← emit style name
      let fragments ← Emit.nested <|
        match body with
        | .block body _ => emitStatements style body
        | statement => do return present [← emit style statement]
      let header := "void " ++ nameText ++ "(" ++ Text.join ", " parameterTexts ++ ")"
      return compound style.indent header fragments
  | .parameter name _ => return "auto " ++ name
  | .returning argument _ =>
    match argument with
    | none => return "return;"
    | some value => do
      let text ← emit style value
      return "return " ++ text ++ ";"
  | .unsupported source detail location =>
    Emit.refuse (.construct source detail) (.unsupported source detail location)
  | .foreign kind location => Emit.refuse (.foreignNode kind) (.foreign kind location)
termination_by structural node => node

/-- The fragment of a node that may be absent. -/
def emitOptional (style : Style) : Option Node → Emit Text
  | none => return []
  | some node => emit style node
termination_by structural node => node

/-- The fragments of some nodes, the empty ones among them. -/
def emitEach (style : Style) : List Node → Emit (List Text)
  | [] => return []
  | node :: nodes => do
    let text ← emit style node
    let texts ← emitEach style nodes
    return text :: texts
termination_by structural nodes => nodes

/-- The fragments of some statements, without the empty ones. -/
def emitStatements (style : Style) : List Node → Emit (List Text)
  | [] => return []
  | node :: nodes => do
    let text ← emit style node
    let texts ← emitStatements style nodes
    return present [text] ++ texts
termination_by structural nodes => nodes

/-- The texts of arguments. -/
def emitArguments (style : Style) : List Node → Emit (List Text)
  | [] => return []
  | node :: nodes => do
    let text ← operand node Operator.argument false (emit style node)
    let texts ← emitArguments style nodes
    return text :: texts
termination_by structural nodes => nodes

/-- The texts of array elements, where holes have none. -/
def emitElements (style : Style) : List (Option Node) → Emit (List Text)
  | [] => return []
  | none :: nodes => emitElements style nodes
  | some node :: nodes => do
    let text ← operand node Operator.argument false (emit style node)
    let texts ← emitElements style nodes
    return text :: texts
termination_by structural nodes => nodes

/-- The parts of a declaration in a loop header, in which every declarator but the first goes on
without a type of its own. -/
def emitHeaderParts (style : Style) (first : Bool) : List Node → Emit (List Text)
  | [] => return []
  | node :: nodes => do
    let text ←
      if first then emit style node
      else
        match node with
        | .declarator target initial _ => do
          let name ← emit style target
          match initial with
          | none => pure name
          | some value => do
            let text ← emit style value
            pure (name ++ " = " ++ text)
        | node => emit style node
    let texts ← emitHeaderParts style false nodes
    return text :: texts
termination_by structural nodes => nodes

end

/-- The text of a node in the first slot of a loop header, where no semicolon ends it. -/
def emitHeader (style : Style) : Option Node → Emit Text
  | none => return []
  | some (.declaration declarations keyword location) => do
    let parts ← emitHeaderParts style true declarations
    joinHeader (.declaration declarations keyword location) declarations.length parts
  | some node => Text.dropTrailing ';' <$> emit style node

end Fragment

end DeviceScript
