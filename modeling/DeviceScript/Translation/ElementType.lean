import DeviceScript.Syntax.Node

/-! Element types of vectors, chosen by the first element of an array literal.
The choice is a heuristic: later elements are compared with it, never the other way round.
-/

namespace DeviceScript

inductive ElementType where
  | integer | text | boolean | unspecified
  deriving DecidableEq

namespace ElementType

def all : List ElementType := [integer, text, boolean, unspecified]

def name : ElementType → Text
  | integer => "integer"
  | text => "text"
  | boolean => "boolean"
  | unspecified => "unspecified"

/-- The C++ spelling of an element type. -/
def spelling : ElementType → Text
  | integer => "int"
  | text => "std::string"
  | boolean => "bool"
  | unspecified => "auto"

/-- The type of an element that is a literal. -/
def ofLiteral (literal : Literal) : ElementType :=
  match literal with
  | .boolean _ => boolean
  | .integer _ | .real _ => integer
  | .text _ => text
  | .null => unspecified

/-- The type of an element, where a hole and whatever is no literal have none. -/
def ofElement : Option Node → ElementType
  | some (.literal literal _ _) => ofLiteral literal
  | _ => unspecified

/-- The element type of an array literal. -/
def infer : List (Option Node) → ElementType
  | [] => unspecified
  | element :: _ => ofElement element

/-- Tells whether an element is a literal of another type. -/
def disagrees (type : ElementType) : Option Node → Bool
  | some (.literal literal _ _) => ofLiteral literal ≠ type
  | _ => false

/-- The positions and nodes of the literals after the first element that have another type. -/
def heterogeneous (type : ElementType) (elements : List (Option Node)) : List (Node × Nat) :=
  if type = unspecified then []
  else
    elements.zipIdx.tail.filterMap fun element =>
      if type.disagrees element.1 then element.1.map fun node => (node, element.2) else none

end ElementType

end DeviceScript
