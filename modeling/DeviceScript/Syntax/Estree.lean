import DeviceScript.Data.Cited
import DeviceScript.Syntax.Node
import DeviceScript.Text.Category

/-! Reading of ESTree, the common exchange format for script syntax. A tree of any shape can be
read: what lies outside the closed set of node kinds becomes an `unsupported` node under the name
that it has in the tree.
-/

namespace DeviceScript.Estree

/-- The kind that a tree states, where a tree without one states none. -/
def type? (tree : Datum) : Option Text :=
  match tree.field? "type" with
  | some (.text (point :: name)) => some (point :: name)
  | _ => none

/-- The place where a tree starts. Columns count from zero in a tree and from one in a node. -/
def location? (tree : Datum) : Option Location :=
  let start := (tree.field "loc").field "start"
  match start.field "line" with
  | .integer line =>
    match start.field "column" with
    | .integer column => some ⟨line, column + 1⟩
    | _ => some ⟨line, 1⟩
  | _ => none

/-- An unsupported node in the place of a tree. -/
def refused (tree : Datum) (detail : Text) : Node :=
  .unsupported ((type? tree).getD "Unknown") detail (location? tree)

/-- Tells whether a numeral is spelled as an integer; one line feed may follow it. -/
def isIntegerSpelling (raw : Text) : Bool :=
  let spelling := if raw.getLast? = some (.scalar '\n') then raw.dropLast else raw
  match spelling with
  | .scalar '0' :: .scalar mark :: digits =>
    if mark = 'x' || mark = 'X' then !digits.isEmpty && digits.all CodePoint.isHexadecimal
    else if mark = 'o' || mark = 'O' then !digits.isEmpty && digits.all CodePoint.isOctal
    else if mark = 'b' || mark = 'B' then
      !digits.isEmpty && digits.all (fun digit => digit.between 0x30 0x31)
    else spelling.all CodePoint.isAnyDigit
  | [] => false
  | _ => spelling.all CodePoint.isAnyDigit

/-- The value of a literal, where a double spelled as an integer is one. -/
def literalValue (value : Datum) (raw : Option Text) : Literal :=
  match value with
  | .text value => .text value
  | .boolean value => .boolean value
  | .integer value => .integer value
  | .real value =>
    match raw, value.toInt? with
    | some raw, some whole => if isIntegerSpelling raw then .integer whole else .real value
    | _, _ => .real value
  | _ => .null

/-- The spelling of a literal. -/
def raw? (tree : Datum) : Option Text :=
  match tree.field "raw" with
  | .text raw => some raw
  | _ => none

/-- Tells whether a tree is a statement without content. -/
def isEmptyStatement (tree : Datum) : Bool := tree.textField "type" = "EmptyStatement"

/-- A positional parameter. -/
def parameter (tree : Datum) : Node :=
  if tree.textField "type" = "Identifier" then
    .parameter (tree.textField "name") (location? tree)
  else refused tree "only plain positional parameters are supported"

/-- The parameters of a function. -/
def parameters (tree : Datum) : List Node :=
  match tree.field? "params" with
  | some (.list items) => items.map parameter
  | _ => []

mutual

/-- The node that a tree describes. -/
def toNode (tree : Datum) : Node :=
  let place := location? tree
  match type? tree with
  | none => .unsupported (Datum.shapeName tree) [] place
  | some type =>
    match NodeKind.all.find? fun kind => kind.name = type with
    | some .program => .program (statements tree) place
    | some .expressionStatement => .expressionStatement (child tree "expression") place
    | some .call => .call (child tree "callee") (children tree "arguments") place
    | some .member =>
      .member (child tree "object") (child tree "property") (tree.field "computed").isPresent place
    | some .literal =>
      if (tree.field "regex").isNull then
        .literal (literalValue (tree.field "value") (raw? tree)) (raw? tree) place
      else refused tree "regular expression literals are not supported"
    | some .identifier => .identifier (tree.textField "name") place
    | some .binary =>
      .binary (tree.textField "operator") (child tree "left") (child tree "right") place
    | some .logical =>
      .logical (tree.textField "operator") (child tree "left") (child tree "right") place
    | some .unary =>
      let leading := tree.field "prefix"
      .unary (tree.textField "operator") (child tree "argument")
        (leading.isNull || leading.isPresent) place
    | some .assignment =>
      .assignment (tree.textField "operator") (child tree "left") (child tree "right") place
    | some .declaration =>
      let keyword := tree.textField "kind"
      .declaration (children tree "declarations") (if keyword = [] then "let" else keyword) place
    | some .declarator =>
      if (tree.field "id").textField "type" = "Identifier" then
        .declarator (child tree "id") (optional tree "init") place
      else refused tree "destructuring declarations are not supported"
    | some .array => .array (elements tree) place
    | some .ifElse =>
      .ifElse (child tree "test") (child tree "consequent") (optional tree "alternate") place
    | some .whileLoop => .whileLoop (child tree "test") (child tree "body") place
    | some .forLoop =>
      .forLoop (optional tree "init") (optional tree "test") (optional tree "update")
        (child tree "body") place
    | some .block => .block (statements tree) place
    | some .function =>
      if (tree.field "generator").isPresent || (tree.field "async").isPresent
          || (tree.field "isAsync").isPresent then
        refused tree "generator and async functions are not supported"
      else
        let name := tree.field "id"
        .function (.identifier (name.textField "name") (location? name)) (parameters tree)
          (functionBody tree) place
    | some .returning => .returning (optional tree "argument") place
    | some .update =>
      .update (tree.textField "operator") (child tree "argument") (tree.field "prefix").isPresent
        place
    | some .parameter | some .unsupported | none => .unsupported type [] place
termination_by (sizeOf tree, 2)

/-- The node under a key, where a missing tree is null. -/
def child (tree : Datum) (key : Text) : Node :=
  match _h : tree.field? key with
  | some value => toNode value
  | none => .unsupported (Datum.shapeName .null) [] none
termination_by (sizeOf tree, 1)
decreasing_by exact Prod.Lex.left _ _ (Datum.sizeOf_field?_lt _h)

/-- The node under a key, unless that is missing or null. -/
def optional (tree : Datum) (key : Text) : Option Node :=
  match _h : tree.field? key with
  | none | some .null => none
  | some value => some (toNode value)
termination_by (sizeOf tree, 1)
decreasing_by exact Prod.Lex.left _ _ (Datum.sizeOf_field?_lt _h)

/-- The nodes of the list under a key. -/
def children (tree : Datum) (key : Text) : List Node :=
  match _h : tree.field? key with
  | some (.list items) => each items
  | _ => []
termination_by (sizeOf tree, 1)
decreasing_by
  have := Datum.sizeOf_field?_lt _h
  simp only [Datum.list.sizeOf_spec] at this
  exact Prod.Lex.left _ _ (by omega)

/-- The statements in the body of a tree. -/
def statements (tree : Datum) : List Node :=
  match _h : tree.field? "body" with
  | some (.list items) => eachStatement items
  | _ => []
termination_by (sizeOf tree, 1)
decreasing_by
  have := Datum.sizeOf_field?_lt _h
  simp only [Datum.list.sizeOf_spec] at this
  exact Prod.Lex.left _ _ (by omega)

/-- The elements of an array literal. -/
def elements (tree : Datum) : List (Option Node) :=
  match _h : tree.field? "elements" with
  | some (.list items) => eachElement items
  | _ => []
termination_by (sizeOf tree, 1)
decreasing_by
  have := Datum.sizeOf_field?_lt _h
  simp only [Datum.list.sizeOf_spec] at this
  exact Prod.Lex.left _ _ (by omega)

/-- The body of a function, which is a block whatever its tree says it is. -/
def functionBody (tree : Datum) : Node :=
  match _h : tree.field? "body" with
  | some body => .block (statements body) (location? body)
  | none => .block [] none
termination_by (sizeOf tree, 1)
decreasing_by exact Prod.Lex.left _ _ (Datum.sizeOf_field?_lt _h)

def each : List Datum → List Node
  | [] => []
  | item :: items => toNode item :: each items
termination_by items => (sizeOf items, 0)

/-- The nodes of a list of statements, where statements without content are left out. -/
def eachStatement : List Datum → List Node
  | [] => []
  | item :: items =>
    if isEmptyStatement item then eachStatement items else toNode item :: eachStatement items
termination_by items => (sizeOf items, 0)

/-- The elements of a list, where null is a hole. -/
def eachElement : List Datum → List (Option Node)
  | [] => []
  | .null :: items => none :: eachElement items
  | item :: items => some (toNode item) :: eachElement items
termination_by items => (sizeOf items, 0)

end

end DeviceScript.Estree
