import DeviceScript.Proofs.Cpp.Token
import DeviceScript.Proofs.Cpp.Tree

/-! Expressions whose spelling can be read, and the tokens of that spelling. An operand that binds
less tightly than its operator has to stand between parentheses, and so has one that would grow
together with the operator.
-/

namespace DeviceScript.Cpp

/-- A number that a scanner reads as one token: it starts with a digit, goes on as numbers do, and
does not wait for a sign at its end. -/
def IsNumeral (spelling : Text) : Prop :=
  ∃ first rest, spelling = first :: rest ∧ first.isDecimal
    ∧ (∀ before point after, rest = before ++ point :: after → extendsNumber (first :: before) point)
    ∧ awaitsSign spelling = false

namespace Tree

/-- Tells whether an expression is a number. -/
def isNumber : Tree → Bool
  | number _ => true
  | _ => false

/-- An expression that can be read from its spelling. -/
inductive Legible (indent : Text) : Tree → Prop where
  | word {name : Text} (isWord : IsWord name) : Legible indent (.word name)
  | number {spelling : Text} (isNumeral : IsNumeral spelling) : Legible indent (.number spelling)
  | string (value : Text) : Legible indent (.string value)
  | list {elements : List Tree} (legible : ∀ element ∈ elements, Legible indent element)
      (strong : ∀ element ∈ elements, 1 ≤ element.strength)
    : Legible indent (.list elements)
  | group {inner : Tree} (legible : Legible indent inner) : Legible indent (.group inner)
  | binary {operator : Text} {level : Nat} {left right : Tree}
      (known : binaryStrength? operator = some level)
      (legible : Legible indent left) (strong : level ≤ left.strength)
      (legible' : Legible indent right) (strong' : level < right.strength)
    : Legible indent (.binary operator left right)
  | assign {operator : Text} {target value : Tree} (known : operator ∈ assignOperators)
      (legible : Legible indent target) (strong : 1 ≤ target.strength)
      (legible' : Legible indent value)
    : Legible indent (.assign operator target value)
  | unary {operator : Text} {operand : Tree} (known : operator ∈ unaryOperators)
      (legible : Legible indent operand) (strong : 11 ≤ operand.strength)
      (apart : (operand.print indent).startsWith operator = false)
    : Legible indent (.unary operator operand)
  | update {operator : Text} {operand : Tree} {leading : Bool} (known : operator ∈ updateOperators)
      (legible : Legible indent operand) (strong : 12 ≤ operand.strength)
    : Legible indent (.update operator operand leading)
  | call {callee : Tree} {arguments : List Tree} (legible : Legible indent callee)
      (strong : 12 ≤ callee.strength)
      (legible' : ∀ argument ∈ arguments, Legible indent argument)
      (strong' : ∀ argument ∈ arguments, 1 ≤ argument.strength)
    : Legible indent (.call callee arguments)
  | index {object position : Tree} (legible : Legible indent object) (strong : 12 ≤ object.strength)
      (legible' : Legible indent position)
    : Legible indent (.index object position)
  | dot {object : Tree} {name : Text} (legible : Legible indent object)
      (strong : 12 ≤ object.strength) (apart : object.isNumber = false) (isWord : IsWord name)
    : Legible indent (.dot object name)
  | scope {object : Tree} {name : Text} (legible : Legible indent object)
      (strong : 12 ≤ object.strength) (isWord : IsWord name)
    : Legible indent (.scope object name)

/-- The tokens of a list of expressions with commas between them. -/
def separated : List (List Token) → List Token
  | [] => []
  | [tokens] => tokens
  | tokens :: rest => tokens ++ [.mark ","] ++ separated rest

/-- The tokens of an expression. -/
def tokens : Tree → List Token
  | word name => [.word name]
  | number spelling => [.number spelling]
  | string value => [.string value]
  | list elements => [.mark "\x7b"] ++ separated (elements.map tokens) ++ [.mark "\x7d"]
  | group inner => [.mark "("] ++ tokens inner ++ [.mark ")"]
  | binary operator left right => tokens left ++ [.mark operator] ++ tokens right
  | assign operator target value => tokens target ++ [.mark operator] ++ tokens value
  | unary operator operand => [.mark operator] ++ tokens operand
  | update operator operand leading =>
    if leading then [.mark operator] ++ tokens operand else tokens operand ++ [.mark operator]
  | call callee arguments =>
    tokens callee ++ [.mark "("] ++ separated (arguments.map tokens) ++ [.mark ")"]
  | index object position => tokens object ++ [.mark "["] ++ tokens position ++ [.mark "]"]
  | dot object name => tokens object ++ [.mark ".", .word name]
  | scope object name => tokens object ++ [.mark "::", .word name]
  | _ => []

/-- Tells whether the spelling of an expression ends in a number. -/
def endsInNumber : Tree → Bool
  | number _ => true
  | binary _ _ right => endsInNumber right
  | assign _ _ value => endsInNumber value
  | unary _ operand => endsInNumber operand
  | update _ operand leading => leading && endsInNumber operand
  | _ => false

/-- A text that may follow an expression, as it does not go on with the last token. -/
def Follows (tree : Tree) (rest : Text) : Prop :=
  ∀ point ∈ rest.head?, isWordPart point = false ∧ (point = '.' → tree.endsInNumber = false)

end Tree

end DeviceScript.Cpp
