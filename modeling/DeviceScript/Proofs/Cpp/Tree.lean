import DeviceScript.Translation.Fragment
import Mathlib.Data.Nat.SuccPred

/-! Trees of C++ and their spelling. Parentheses are nodes of a tree here, because an expression may
be spelled with more of them than its grouping needs.
-/

namespace DeviceScript.Cpp

/-- An expression, a declaration or a statement. -/
inductive Tree where
  /-- An identifier, or one of the words that stand for a value. -/
  | word (name : Text)
  | number (spelling : Text)
  | string (value : Text)
  /-- A list between braces. -/
  | list (elements : List Tree)
  /-- An expression between parentheses. -/
  | group (inner : Tree)
  | binary (operator : Text) (left right : Tree)
  | assign (operator : Text) (target value : Tree)
  /-- An operation with one operand, which changes nothing. -/
  | unary (operator : Text) (operand : Tree)
  /-- An increment or decrement, written in front of its operand if `leading`. -/
  | update (operator : Text) (operand : Tree) (leading : Bool)
  | call (callee : Tree) (arguments : List Tree)
  | index (object position : Tree)
  | dot (object : Tree) (name : Text)
  | scope (object : Tree) (name : Text)
  /-- An expression as a statement. -/
  | simple (expression : Tree)
  /-- A name that is introduced; it may share the type of the one in front of it. -/
  | declarator (type : Option Text) (target : Tree) (initial : Option Tree)
  | declaration (declarators : List Tree)
  /-- Declarators in a loop header, where commas stand for the semicolons between them. -/
  | heading (declarators : List Tree)
  /-- A statement in a loop header, without its semicolon. -/
  | slot (inner : Tree)
  | parameter (name : Text)
  | returning (value : Option Tree)
  | block (body : List Tree)
  | conditional (test : Tree) (body : List Tree)
  /-- A conditional and the braces behind its `else`. -/
  | otherwise (opening : Tree) (body : List Tree)
  /-- A conditional and the conditional behind its `else`. -/
  | chain (opening alternative : Tree)
  | whileLoop (test : Tree) (body : List Tree)
  | forLoop (initial test advance : Option Tree) (body : List Tree)
  | function (name : Tree) (parameters body : List Tree)
  | unit (body : List Tree)

namespace Tree

variable (indent : Text)

/-- The spelling of a tree. -/
def print : Tree → Text
  | word name => name
  | number spelling => spelling
  | string value => Text.Quoted.encode value
  | list elements =>
    if elements = [] then "\x7b\x7d"
    else "\x7b " ++ Text.join ", " (elements.map print) ++ " \x7d"
  | group inner => "(" ++ print inner ++ ")"
  | binary operator left right => print left ++ " " ++ operator ++ " " ++ print right
  | assign operator target value => print target ++ " " ++ operator ++ " " ++ print value
  | unary operator operand => operator ++ print operand
  | update operator operand leading =>
    if leading then operator ++ print operand else print operand ++ operator
  | call callee arguments => print callee ++ "(" ++ Text.join ", " (arguments.map print) ++ ")"
  | index object position => print object ++ "[" ++ print position ++ "]"
  | dot object name => print object ++ "." ++ name
  | scope object name => print object ++ "::" ++ name
  | simple expression => Fragment.terminated (print expression)
  | declarator type target initial =>
    (match type with
      | none => []
      | some type => type ++ " ")
      ++ print target
      ++ match initial with
        | none => []
        | some value => " = " ++ print value
  | declaration declarators =>
    Text.join " " ((Fragment.present (declarators.map print)).map Fragment.terminated)
  | heading declarators => Text.join ", " (Fragment.present (declarators.map print))
  | slot inner => Text.dropTrailing ';' (print inner)
  | parameter name => "auto " ++ name
  | returning value =>
    match value with
    | none => "return;"
    | some value => "return " ++ print value ++ ";"
  | block body => Fragment.enclosed indent (Fragment.present (body.map print))
  | conditional test body =>
    Fragment.compound indent ("if (" ++ print test ++ ")") (Fragment.present (body.map print))
  | otherwise opening body =>
    print opening ++ " " ++ Fragment.compound indent "else" (Fragment.present (body.map print))
  | chain opening alternative => print opening ++ " else " ++ print alternative
  | whileLoop test body =>
    Fragment.compound indent ("while (" ++ print test ++ ")") (Fragment.present (body.map print))
  | forLoop initial test advance body =>
    let initialText : Text :=
      match initial with
      | none => []
      | some tree => print tree
    let testText : Text :=
      match test with
      | none => []
      | some tree => print tree
    let advanceText : Text :=
      match advance with
      | none => []
      | some tree => print tree
    let header := "for (" ++ initialText ++ "; " ++ testText ++ "; " ++ advanceText ++ ")"
    Fragment.compound indent header (Fragment.present (body.map print))
  | function name parameters body =>
    let header := "void " ++ print name ++ "(" ++ Text.join ", " (parameters.map print) ++ ")"
    Fragment.compound indent header (Fragment.present (body.map print))
  | unit body => Text.unlines (Fragment.present (body.map print))

/-- A tree without a spelling. -/
def absent : Tree := word []

/-- A tree that is absent is written as nothing. -/
@[simp]
theorem print_absent : absent.print indent = [] := by
  simp only [absent, print]

/-- A declarator is written with its type in front and its initial value behind, where it
has them. -/
theorem print_declarator (type : Option Text) (target : Tree) (initial : Option Tree)
    : (declarator type target initial).print indent
      = (type.elim [] fun type => type ++ " " : Text) ++ target.print indent
          ++ (initial.elim [] fun value => " = " ++ value.print indent : Text) := by
  rw [print.eq_def]
  cases type <;> cases initial <;> rfl

/-- A return is written with its value, if it has one. -/
theorem print_returning (value : Option Tree)
    : (returning value).print indent
      = (value.elim "return;" fun value => "return " ++ value.print indent ++ ";" : Text) := by
  rw [print.eq_def]
  cases value <;> rfl

/-- A loop with a header is written with its three slots, each of which may be empty. -/
theorem print_forLoop (initial test advance : Option Tree) (body : List Tree)
    : (forLoop initial test advance body).print indent
      = Fragment.compound indent
          ("for (" ++ initial.elim [] (print indent) ++ "; " ++ test.elim [] (print indent) ++ "; "
            ++ advance.elim [] (print indent) ++ ")")
          (Fragment.present (body.map (print indent))) := by
  rw [print.eq_def]
  cases initial <;> cases test <;> cases advance <;> rfl

/-- The binary operators in levels of which a later one binds tighter. -/
def binaryLevels : List (List Text) :=
  [["||"], ["&&"], ["|"], ["^"], ["&"], ["==", "!="], ["<", "<=", ">", ">="], ["<<", ">>"],
    ["+", "-"], ["*", "/", "%"]]

/-- The binding strength of a binary operator, counted from one. -/
def binaryStrength? (operator : Text) : Option Nat :=
  (binaryLevels.findIdx? (operator ∈ ·)).map (· + 1)

def assignOperators : List Text :=
  ["=", "+=", "-=", "*=", "/=", "%=", "<<=", ">>=", "&=", "|=", "^="]

def unaryOperators : List Text := ["+", "-", "!", "~"]

def updateOperators : List Text := ["++", "--"]

/-- How tightly the outermost operator of an expression binds. -/
def strength : Tree → Nat
  | assign _ _ _ => 0
  | binary operator _ _ => (binaryStrength? operator).getD 0
  | unary _ _ => 11
  | update _ _ leading => if leading then 11 else 12
  | _ => 13

/-- An expression without its parentheses. -/
def bare : Tree → Tree
  | list elements => list (elements.map bare)
  | group inner => bare inner
  | binary operator left right => binary operator (bare left) (bare right)
  | assign operator target value => assign operator (bare target) (bare value)
  | unary operator operand => unary operator (bare operand)
  | update operator operand leading => update operator (bare operand) leading
  | call callee arguments => call (bare callee) (arguments.map bare)
  | index object position => index (bare object) (bare position)
  | dot object name => dot (bare object) name
  | scope object name => scope (bare object) name
  | tree => tree

end Tree

end DeviceScript.Cpp
