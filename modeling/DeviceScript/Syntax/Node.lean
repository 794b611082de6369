import DeviceScript.Number.Binary64
import DeviceScript.Text.Basic

/-! Syntax trees of scripts. The set of node kinds is closed: whatever else a script contains is an
`unsupported` node that keeps the name and the place of what stood there.
-/

namespace DeviceScript

/-- A place in a script; the first line and the first column are 1. -/
structure Location where
  line : Int
  column : Int
  deriving DecidableEq

/-- The value of a literal. -/
inductive Literal where
  | text (value : Text)
  | boolean (value : Bool)
  | integer (value : Int)
  | real (value : Binary64)
  | null
  deriving DecidableEq

/-- A node of a syntax tree. Every node ends in its place, where that is known. -/
inductive Node where
  | program (body : List Node) (location : Option Location)
  | expressionStatement (expression : Node) (location : Option Location)
  | call (callee : Node) (arguments : List Node) (location : Option Location)
  /-- Property access, with an identifier in brackets if `computed` and after a point if not. -/
  | member (object property : Node) (computed : Bool) (location : Option Location)
  /-- A literal with its spelling in the script. -/
  | literal (value : Literal) (raw : Option Text) (location : Option Location)
  | identifier (name : Text) (location : Option Location)
  | binary (operator : Text) (left right : Node) (location : Option Location)
  | logical (operator : Text) (left right : Node) (location : Option Location)
  | unary (operator : Text) (argument : Node) (leading : Bool) (location : Option Location)
  | assignment (operator : Text) (left right : Node) (location : Option Location)
  | declaration (declarations : List Node) (keyword : Text) (location : Option Location)
  | declarator (target : Node) (initial : Option Node) (location : Option Location)
  /-- An array literal; a hole is an absent element. -/
  | array (elements : List (Option Node)) (location : Option Location)
  | ifElse (test consequent : Node) (alternate : Option Node) (location : Option Location)
  | whileLoop (test body : Node) (location : Option Location)
  | forLoop (initial test advance : Option Node) (body : Node) (location : Option Location)
  | block (body : List Node) (location : Option Location)
  | function (name : Node) (parameters : List Node) (body : Node) (location : Option Location)
  | returning (argument : Option Node) (location : Option Location)
  | update (operator : Text) (argument : Node) (leading : Bool) (location : Option Location)
  | parameter (name : Text) (location : Option Location)
  | unsupported (source detail : Text) (location : Option Location)
  /-- A node of a kind outside the closed set. -/
  | foreign (kind : Text) (location : Option Location)

instance : Inhabited Node := ⟨.program [] none⟩

/-- The closed set of node kinds. -/
inductive NodeKind where
  | program | expressionStatement | call | member | literal | identifier | binary | logical
  | unary | assignment | declaration | declarator | array | ifElse | whileLoop | forLoop | block
  | function | returning | update | parameter | unsupported
  deriving DecidableEq

namespace NodeKind

/-- Every node kind, in the order in which they are listed to a reader. -/
def all : List NodeKind :=
  [program, expressionStatement, call, member, literal, identifier, binary, logical, unary,
    assignment, declaration, declarator, array, ifElse, whileLoop, forLoop, block, function,
    returning, update, parameter, unsupported]

/-- The name of a node kind, as diagnostics show it. -/
def name : NodeKind → Text
  | program => "Program"
  | expressionStatement => "ExpressionStatement"
  | call => "CallExpression"
  | member => "MemberExpression"
  | literal => "Literal"
  | identifier => "Identifier"
  | binary => "BinaryExpression"
  | logical => "LogicalExpression"
  | unary => "UnaryExpression"
  | assignment => "AssignmentExpression"
  | declaration => "VariableDeclaration"
  | declarator => "VariableDeclarator"
  | array => "ArrayExpression"
  | ifElse => "IfStatement"
  | whileLoop => "WhileStatement"
  | forLoop => "ForStatement"
  | block => "BlockStatement"
  | function => "FunctionDeclaration"
  | returning => "ReturnStatement"
  | update => "UpdateExpression"
  | parameter => "Parameter"
  | unsupported => "Unsupported"

/-- The kinds that a list of names leaves out. -/
def missing (names : List Text) : List NodeKind := all.filter fun kind => kind.name ∉ names

end NodeKind

namespace Node

/-- The place of a node. -/
def location : Node → Option Location
  | program _ location | expressionStatement _ location | call _ _ location
  | member _ _ _ location | literal _ _ location | identifier _ location
  | binary _ _ _ location | logical _ _ _ location | unary _ _ _ location
  | assignment _ _ _ location | declaration _ _ location | declarator _ _ location
  | array _ location | ifElse _ _ _ location | whileLoop _ _ location
  | forLoop _ _ _ _ location | block _ location | function _ _ _ location
  | returning _ location | update _ _ _ location | parameter _ location
  | unsupported _ _ location | foreign _ location => location

/-- The kind of a node, unless it is foreign. -/
def kind? : Node → Option NodeKind
  | program .. => some .program
  | expressionStatement .. => some .expressionStatement
  | call .. => some .call
  | member .. => some .member
  | literal .. => some .literal
  | identifier .. => some .identifier
  | binary .. => some .binary
  | logical .. => some .logical
  | unary .. => some .unary
  | assignment .. => some .assignment
  | declaration .. => some .declaration
  | declarator .. => some .declarator
  | array .. => some .array
  | ifElse .. => some .ifElse
  | whileLoop .. => some .whileLoop
  | forLoop .. => some .forLoop
  | block .. => some .block
  | function .. => some .function
  | returning .. => some .returning
  | update .. => some .update
  | parameter .. => some .parameter
  | unsupported .. => some .unsupported
  | foreign .. => none

/-- The name of the kind of a node. -/
def kindName : Node → Text
  | foreign kind _ => kind
  | node => (node.kind?.map NodeKind.name).getD []

/-- The source spelling of a chain of identifiers joined by points, for nodes that are one. -/
def dottedName? : Node → Option Text
  | identifier name _ => some name
  | member object (identifier property _) false _ =>
    object.dottedName?.map fun base => base ++ "." ++ property
  | _ => none

end Node

namespace Literal

def isText : Literal → Bool
  | text _ => true
  | _ => false

def isBoolean : Literal → Bool
  | boolean _ => true
  | _ => false

def isNumeric : Literal → Bool
  | integer _ | real _ => true
  | _ => false

end Literal

end DeviceScript
