import DeviceScript.Proofs.Emission.Layout

/-! The C++ expression that an expression of a script stands for, without any parentheses: the same
operations on the same operands, with the templates of containers filled in and names replaced.
-/

namespace DeviceScript

open Cpp (Tree)

namespace Node

/-- The C++ expression that an expression stands for. -/
def target (shims : ShimTable) : Node → Tree
  | identifier name _ => .word name
  | literal value _ _ => Fragment.literalTree value
  | array elements _ => .list ((elements.filterMap id).attach.map fun node => target shims node.1)
  | binary operator left right _ | logical operator left right _ =>
    .binary (Operator.spelling operator) (target shims left) (target shims right)
  | unary operator argument _ _ => .unary operator (target shims argument)
  | update operator argument leading _ => .update operator (target shims argument) leading
  | assignment operator left right _ =>
    .assign operator (target shims left) (target shims right)
  | member object property computed location =>
    if computed then .index (target shims object) (target shims property)
    else
      Fragment.propertyTree shims (.member object property computed location) property
        (target shims object)
  | call callee arguments _ =>
    match _selected : callee.selected? with
    | some (method, object) => .method method (target shims object) (arguments.map (target shims))
    | none =>
      .call
        (((Fragment.replacement? shims callee.dottedName?).map Tree.qualified).getD
          (target shims callee))
        (arguments.map (target shims))
  | _ => .absent
termination_by node => sizeOf node
decreasing_by
  all_goals try decreasing_tactic
  · have hlt := sizeOf_element node.2
    rw [array.sizeOf_spec]
    omega
  · have hlt := sizeOf_selected? _selected
    rw [call.sizeOf_spec]
    omega

variable (shims : ShimTable)

/-- The target of an array is a list of the targets of its elements. -/
theorem target_array (elements : List (Option Node)) (location : Option Location)
    : target shims (.array elements location)
      = .list ((elements.filterMap id).map (target shims)) := by
  rw [target.eq_def]
  simp only [List.attach_map_val]

/-- The target of a call of a method of a container is the template of the method. -/
theorem target_selected {callee object : Node} {method : Fragment.Method} (arguments : List Node)
    (location : Option Location) (h : callee.selected? = some (method, object))
    : target shims (.call callee arguments location)
      = .method method (target shims object) (arguments.map (target shims)) := by
  rw [target.eq_def]
  simp only
  split
  · rename_i method' object' h'
    obtain ⟨rfl, rfl⟩ := Prod.mk.inj (Option.some.inj (h.symm.trans h'))
    rfl
  · rename_i h'
    exact absurd (h.symm.trans h') nofun

/-- The target of an ordinary call is one of the replaced name or of the target of the callee. -/
theorem target_ordinary {callee : Node} (arguments : List Node) (location : Option Location)
    (h : callee.selected? = none)
    : target shims (.call callee arguments location)
      = .call
          (((Fragment.replacement? shims callee.dottedName?).map Tree.qualified).getD
            (target shims callee))
          (arguments.map (target shims)) := by
  rw [target.eq_def]
  simp only
  split
  · rename_i h'
    exact absurd (h.symm.trans h') nofun
  · rfl

end Node

namespace Cpp.Tree

/-- There are no parentheses in scopes. -/
theorem bare_scopes (tree : Tree) (names : List Text)
    : (names.foldl scope tree).bare = names.foldl scope tree.bare := by
  induction names generalizing tree with
  | nil => rfl
  | cons name names ih =>
      rw [List.foldl_cons, ih, bare]
      rfl

/-- There are no parentheses in a name with its scopes. -/
@[simp]
theorem bare_qualified (name : Text) : (qualified name).bare = qualified name := by
  unfold qualified
  split
  · simp only [absent, bare]
  · simp only [bare_scopes, bare]

/-- A call of a method without its parentheses is the call on what stands between them. -/
theorem bare_method (kind : Fragment.Method) (object : Tree) (arguments : List Tree)
    : (method kind object arguments).bare = method kind object.bare (arguments.map bare) := by
  cases kind with
  | push =>
      match arguments with
      | [] | _ :: _ :: _ => simp only [method, absent, bare, List.map_cons, List.map_nil]
      | [argument] => simp only [method, bare, List.map_cons, List.map_nil]
  | splice =>
      match arguments with
      | [] | _ :: _ :: _ :: _ => simp only [method, absent, bare, List.map_cons, List.map_nil]
      | [position] | [position, count] =>
          simp only [method, spliced, start, bare, List.map_cons, List.map_nil]
  | _ =>
      simp only [method, popped, shifted, reversed, start, finish, bare, List.map_cons, List.map_nil]

/-- A property of a container has no parentheses but those of the container. -/
theorem bare_property? (object : Tree) (name : Text)
    : (object.property? name).map bare = object.bare.property? name := by
  simp only [property?, popped, shifted, reversed, start, finish, apply_ite (Option.map bare),
    Option.map_some, Option.map_none, bare, List.map_cons, List.map_nil]

end Cpp.Tree

namespace Fragment

/-- The parentheses of an operand are taken away. -/
theorem bare_placed (node : Node) (strength : Nat) (right : Bool) (tree : Tree)
    : (node.placed strength right tree).bare = tree.bare := by
  unfold Node.placed
  split
  · rw [Tree.bare]
  · rfl

/-- The parentheses of the receiver of a method are taken away. -/
theorem bare_methodPlaced (method : Method) (node : Node) (tree : Tree)
    : (method.placed node tree).bare = tree.bare := by
  cases method <;> exact bare_placed node _ _ tree

/-- There are no parentheses in a literal. -/
theorem bare_literalTree (value : Literal) : (literalTree value).bare = literalTree value := by
  cases value with
  | real number =>
      simp only [literalTree]
      split <;> simp only [Tree.absent, Tree.bare]
  | _ => simp only [literalTree, Tree.bare]

/-- The parentheses in an operation with one operand are taken away. -/
theorem bare_unaryTree (indent operator : Text) (argument : Tree)
    : (unaryTree indent operator argument).bare = .unary operator argument.bare := by
  rw [unaryTree, Tree.bare]
  split
  · rw [Tree.bare]
  · rfl

/-- A property has no parentheses but those of its object. -/
theorem bare_propertyTree (shims : ShimTable) (node property : Node) (object : Tree)
    : (propertyTree shims node property object).bare
      = propertyTree shims node property object.bare := by
  cases property with
  | identifier name location =>
      simp only [propertyTree, ← object.bare_property? name]
      cases object.property? name with
      | some access => rfl
      | none =>
          simp only [Option.map_none]
          split
          · rfl
          · cases replacement? shims node.dottedName? with
            | some target => exact Tree.bare_qualified target
            | none => simp only [Option.map_none, Option.getD_none, Tree.bare]
  | _ => simp only [propertyTree, Tree.absent, Tree.bare]

end Fragment

end DeviceScript
