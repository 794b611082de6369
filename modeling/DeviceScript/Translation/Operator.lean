import DeviceScript.Syntax.Node

/-! Binding strength of operators, and the parentheses that follow from it.
The relative strength of the operators is the same in scripts and in C++.
-/

namespace DeviceScript.Operator

/-- The binary and logical operators; a greater number binds tighter. -/
def strengths : List (Text × Nat) :=
  [("||", 1), ("&&", 2), ("|", 3), ("^", 4), ("&", 5), ("==", 6), ("!=", 6), ("===", 6), ("!==", 6),
    ("<", 7), ("<=", 7), (">", 7), (">=", 7), ("<<", 8), (">>", 8), ("+", 9), ("-", 9), ("*", 10),
    ("/", 10), ("%", 10)]

def assignment : Nat := 0

/-- The strength of an argument, which anything but an assignment may be without parentheses. -/
def argument : Nat := 1

def additive : Nat := 9

def leading : Nat := 11

def trailing : Nat := 12

def primary : Nat := 13

/-- The strength of a binary operator; an unknown one is taken to bind like a name. -/
def strength (operator : Text) : Nat := (strengths.lookup operator).getD primary

/-- The C++ spelling of a binary operator. -/
def spelling (operator : Text) : Text :=
  if operator = "===" then "==" else if operator = "!==" then "!=" else operator

/-- The binary and logical operators without a C++ counterpart. -/
def untranslatedBinary : List Text := ["**", ">>>", "in", "instanceof", "??"]

def untranslatedUnary : List Text := ["typeof", "void", "delete"]

def untranslatedAssignment : List Text := ["**=", ">>>=", "&&=", "||=", "??="]

end DeviceScript.Operator

namespace DeviceScript.Node

/-- How tightly the outermost operator of an expression binds. -/
def strength : Node → Nat
  | binary operator _ _ _ | logical operator _ _ _ => Operator.strength operator
  | assignment _ _ _ _ => Operator.assignment
  | unary _ _ _ _ => Operator.leading
  | update _ _ isLeading _ => if isLeading then Operator.leading else Operator.trailing
  | _ => Operator.primary

/-- Tells whether an expression needs parentheses as an operand. Operators of one strength associate
to the left, so an operand on the right needs them also at equal strength. -/
def needsParentheses (node : Node) (strength : Nat) (right : Bool) : Bool :=
  node.strength < strength
    || (right && node.strength = strength && node.strength < Operator.primary)

/-- The text of an expression as an operand. -/
def asOperand (node : Node) (strength : Nat) (right : Bool) (text : Text) : Text :=
  if node.needsParentheses strength right then "(" ++ text ++ ")" else text

end DeviceScript.Node
