import DeviceScript.Script.Statement
import DeviceScript.Syntax.Estree

/-! The forms in which a script can be given. -/

namespace DeviceScript

/-- The program that a parser makes of a text; a tree with another root is none. -/
def Script.toNodeBy (parse : Text → Except Unreadable Datum) (text : Text)
    : Except Unreadable Node := do
  match Estree.toNode (← parse text) with
  | .program body location => return .program body location
  | node =>
    throw (.reported { description := "Expected a Program root, got " ++ node.kindName })

/-- The syntax tree of a script. -/
def Script.toNode (text : Text) : Except Unreadable Node := Script.toNodeBy Script.parse text

/-- The statements of a program, whose only other form is a block. -/
def Node.statements : Node → List Node
  | .program body _ | .block body _ => body
  | _ => []

/-- A script as text, as an exchanged tree, or as a node that may be absent. -/
inductive Source where
  | text (text : Text)
  | tree (tree : Datum)
  | node (node : Option Node)

namespace Source

/-- The node that a source stands for, with a parser of scripts. -/
def read (parse : Text → Except Unreadable Node) : Source → Except Unreadable (Option Node)
  | text script => (parse script).map some
  | tree datum => .ok (some (Estree.toNode datum))
  | node given => .ok given

/-- The statements of the program that a source stands for. -/
def statements (parse : Text → Except Unreadable Node) (source : Source)
    : Except Unreadable (List Node) := do
  return ((← source.read parse).map Node.statements).getD []

end Source

end DeviceScript
