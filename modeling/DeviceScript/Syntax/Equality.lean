import DeviceScript.Syntax.Node

/-! Structural equality of syntax trees. Places take no part in it, so equal trees may come from
differently laid out scripts, and literals are compared by value: a whole double equals the integer,
and a truth value equals zero or one.
-/

namespace DeviceScript

namespace Literal

/-- The integer that a literal equals as a number. -/
def toInt? : Literal → Option Int
  | boolean value => some (if value then 1 else 0)
  | integer value => some value
  | real value => value.toInt?
  | _ => none

def same : Literal → Literal → Bool
  | text left, text right => left = right
  | null, null => true
  | real left, real right => left.sameValue right
  | left, right =>
    match left.toInt?, right.toInt? with
    | some left, some right => left = right
    | _, _ => false

end Literal

namespace Node

mutual

/-- Tells whether two trees are equal up to the places of their nodes. -/
def same : Node → Node → Bool
  | program body _, program body' _ => sameList body body'
  | expressionStatement expression _, expressionStatement expression' _ =>
    expression.same expression'
  | call callee arguments _, call callee' arguments' _ =>
    callee.same callee' && sameList arguments arguments'
  | member object property computed _, member object' property' computed' _ =>
    object.same object' && property.same property' && computed = computed'
  | literal value raw _, literal value' raw' _ => value.same value' && raw = raw'
  | identifier name _, identifier name' _ => name = name'
  | binary operator left right _, binary operator' left' right' _ =>
    operator = operator' && left.same left' && right.same right'
  | logical operator left right _, logical operator' left' right' _ =>
    operator = operator' && left.same left' && right.same right'
  | unary operator argument leading _, unary operator' argument' leading' _ =>
    operator = operator' && argument.same argument' && leading = leading'
  | assignment operator left right _, assignment operator' left' right' _ =>
    operator = operator' && left.same left' && right.same right'
  | declaration declarations keyword _, declaration declarations' keyword' _ =>
    sameList declarations declarations' && keyword = keyword'
  | declarator target initial _, declarator target' initial' _ =>
    target.same target' && sameOption initial initial'
  | array elements _, array elements' _ => sameOptions elements elements'
  | ifElse test consequent alternate _, ifElse test' consequent' alternate' _ =>
    test.same test' && consequent.same consequent' && sameOption alternate alternate'
  | whileLoop test body _, whileLoop test' body' _ => test.same test' && body.same body'
  | forLoop initial test advance body _, forLoop initial' test' advance' body' _ =>
    sameOption initial initial' && sameOption test test' && sameOption advance advance'
      && body.same body'
  | block body _, block body' _ => sameList body body'
  | function name parameters body _, function name' parameters' body' _ =>
    name.same name' && sameList parameters parameters' && body.same body'
  | returning argument _, returning argument' _ => sameOption argument argument'
  | update operator argument leading _, update operator' argument' leading' _ =>
    operator = operator' && argument.same argument' && leading = leading'
  | parameter name _, parameter name' _ => name = name'
  | unsupported source detail _, unsupported source' detail' _ =>
    source = source' && detail = detail'
  | foreign kind _, foreign kind' _ => kind = kind'
  | _, _ => false
termination_by structural node => node

def sameOption : Option Node → Option Node → Bool
  | none, none => true
  | some node, some node' => node.same node'
  | _, _ => false
termination_by structural node => node

def sameList : List Node → List Node → Bool
  | [], [] => true
  | node :: nodes, node' :: nodes' => node.same node' && sameList nodes nodes'
  | _, _ => false
termination_by structural nodes => nodes

def sameOptions : List (Option Node) → List (Option Node) → Bool
  | [], [] => true
  | node :: nodes, node' :: nodes' => sameOption node node' && sameOptions nodes nodes'
  | _, _ => false
termination_by structural nodes => nodes

end

end Node

end DeviceScript
