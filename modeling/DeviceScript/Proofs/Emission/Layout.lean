import DeviceScript.Proofs.Cpp.Container
import DeviceScript.Proofs.Syntax.Nodes
import DeviceScript.Translation.Unit

/-! The C++ tree of a node as a function of the node and of the depth at which it stands. Parentheses
are put where the strength of an operand asks for them.
-/

namespace DeviceScript

namespace Node

/-- The statements between the braces of a compound statement with the given body. -/
def inner : Node → List Node
  | block body _ => body
  | node => [node]

/-- The method that an expression selects and the container it is selected from. -/
def selected? : Node → Option (Fragment.Method × Node)
  | member object (identifier name _) false _ => (Fragment.Method.ofName? name).map (·, object)
  | _ => none

def isIfElse : Node → Bool
  | ifElse _ _ _ _ => true
  | _ => false

/-- A method of a container is selected by its name, without brackets. -/
theorem selected?_eq_some {callee object : Node} {method : Fragment.Method}
    (h : callee.selected? = some (method, object))
    : ∃ name place location,
        callee = .member object (.identifier name place) false location
          ∧ Fragment.Method.ofName? name = some method := by
  unfold selected? at h
  split at h
  · rename_i object' name place location
    obtain ⟨method', hm, heq⟩ := Option.map_eq_some_iff.mp h
    obtain ⟨rfl, rfl⟩ := Prod.mk.inj heq
    exact ⟨name, place, location, rfl, hm⟩
  · exact absurd h nofun

/-- A statement in a body is a node of the body. -/
theorem mem_nodes_of_inner {node body : Node} (h : node ∈ body.inner) : node ∈ body.nodes := by
  cases body with
  | block statements location => exact mem_nodes_of_child h
  | _ =>
      rw [List.mem_singleton.mp h]
      exact mem_nodes_self _

/-- The receiver of a method is a node of what is called. -/
theorem mem_nodes_of_selected? {callee object : Node} {method : Fragment.Method}
    (h : callee.selected? = some (method, object))
    : object ∈ callee.nodes := by
  obtain ⟨name, place, location, rfl, _⟩ := selected?_eq_some h
  exact mem_nodes_of_child List.mem_cons_self

/-- A statement in a body is no larger than the body. -/
theorem sizeOf_inner_le {node body : Node} (h : node ∈ body.inner) : sizeOf node ≤ sizeOf body :=
  sizeOf_le_of_mem_nodes (mem_nodes_of_inner h)

/-- The receiver of a method is smaller than what is called. -/
theorem sizeOf_selected? {callee object : Node} {method : Fragment.Method}
    (h : callee.selected? = some (method, object)) : sizeOf object < sizeOf callee := by
  obtain ⟨name, place, location, rfl, _⟩ := selected?_eq_some h
  exact sizeOf_child List.mem_cons_self

end Node

namespace Node

open Cpp (Tree)

/-- The tree of an expression as an operand. -/
def placed (node : Node) (strength : Nat) (right : Bool) (tree : Tree) : Tree :=
  if node.needsParentheses strength right then .group tree else tree

/-- A tree with its parentheses is spelled like the operand. -/
theorem print_placed (indent : Text) (node : Node) (strength : Nat) (right : Bool) (tree : Tree)
    : (node.placed strength right tree).print indent
      = node.asOperand strength right (tree.print indent) := by
  unfold placed asOperand
  split
  · rw [Tree.print]
  · rfl

end Node

namespace Fragment

open Cpp (Tree)

/-- The C++ name that replaces a dotted name, if there is one. -/
def replacement? (shims : ShimTable) (name : Option Text) : Option Text := name.bind shims.lookup?

/-- A replacement is an entry of the table. -/
theorem exists_entry {shims : ShimTable} {name : Option Text} {target : Text}
    (h : replacement? shims name = some target)
    : ∃ source, (source, target) ∈ shims.entries := by
  obtain ⟨source, _, hl⟩ := Option.bind_eq_some_iff.mp h
  obtain ⟨before, after, he, _⟩ := List.lookup_eq_some_iff.mp hl
  exact ⟨source, by rw [he]; exact List.mem_append_right _ List.mem_cons_self⟩

/-- The tree of an argument of a method, which a position is added to or which stands in a list. -/
def Method.placed (method : Method) (node : Node) (tree : Tree) : Tree :=
  match method with
  | splice => node.placed Operator.additive true tree
  | _ => node.placed Operator.argument false tree

def literalTree : Literal → Tree
  | .text value => .string value
  | .boolean value => .word (if value then "true" else "false")
  | .integer value => .number (Text.ofInt value)
  | .real value => if value.isFinite then .number (real value) else .absent
  | .null => .word "nullptr"

/-- The tree of a binary or logical operation. -/
def operationTree (operator : Text) (left right : Tree) : Tree :=
  if operator ∈ Operator.untranslatedBinary then .absent
  else .binary (Operator.spelling operator) left right

/-- The tree of a unary operation, where two signs in a row do not run together. -/
def unaryTree (indent operator : Text) (argument : Tree) : Tree :=
  .unary operator
    (if (argument.print indent).startsWith operator then .group argument else argument)

/-- The tree of a property that is not in brackets. -/
def propertyTree (shims : ShimTable) (node property : Node) (object : Tree) : Tree :=
  match property with
  | .identifier name _ =>
    match object.property? name with
    | some access => access
    | none =>
      if isDeferred name then object
      else ((replacement? shims node.dottedName?).map Tree.qualified).getD (.scope object name)
  | _ => .absent

mutual

/-- The tree of a node at a depth of nesting. -/
def layout (style : Style) (depth : Nat) : Node → Tree
  | .program body _ => .unit (body.map (layout style depth))
  | .expressionStatement expression _ => .simple (layout style depth expression)
  | .identifier name _ => .word name
  | .literal value _ _ => literalTree value
  | .array elements _ =>
    if elements.any Option.isNone then .absent
    else
      .list <| (elements.filterMap id).attach.map fun node =>
        node.1.placed Operator.argument false (layout style depth node.1)
  | .binary operator left right _ =>
    operationTree operator
      (left.placed (Operator.strength operator) false (layout style depth left))
      (right.placed (Operator.strength operator) true (layout style depth right))
  | .logical operator left right _ =>
    operationTree operator
      (left.placed (Operator.strength operator) false (layout style depth left))
      (right.placed (Operator.strength operator) true (layout style depth right))
  | .unary operator argument _ _ =>
    if operator ∈ Operator.untranslatedUnary then .absent
    else
      unaryTree style.indent operator
        (argument.placed Operator.leading false (layout style depth argument))
  | .update operator argument leading _ =>
    .update operator (argument.placed Operator.trailing false (layout style depth argument)) leading
  | .assignment operator left right _ =>
    if operator ∈ Operator.untranslatedAssignment then .absent
    else
      .assign operator (layout style depth left)
        (right.placed Operator.assignment false (layout style depth right))
  | .member object property computed location =>
    let objectTree := object.placed Operator.primary false (layout style depth object)
    if computed then .index objectTree (layout style depth property)
    else
      propertyTree style.shims (.member object property computed location) property objectTree
  | .call callee arguments _ =>
    match _selected : callee.selected? with
    | some (method, object) =>
      .method method (object.placed Operator.primary false (layout style depth object))
        (arguments.map fun node => method.placed node (layout style depth node))
    | none =>
      .call
        (((replacement? style.shims callee.dottedName?).map Tree.qualified).getD
          (callee.placed Operator.primary false (layout style depth callee)))
        (arguments.map fun node =>
          node.placed Operator.argument false (layout style depth node))
  | .declaration declarations _ _ => .declaration (declarations.map (layout style depth))
  | .declarator target initial _ =>
    .declarator (some (declaredType initial)) (layout style depth target)
      (match initial with
        | none => none
        | some value => some (layout style depth value))
  | .block body _ => .block (body.map (layout style (depth + 1)))
  | .ifElse test consequent alternate _ =>
    let opening : Tree :=
      .conditional (layout style depth test)
        (consequent.inner.attach.map fun node => layout style (depth + 1) node.1)
    match alternate with
    | none => opening
    | some node =>
      if node.isIfElse then .chain opening (layout style depth node)
      else .otherwise opening (node.inner.attach.map fun node => layout style (depth + 1) node.1)
  | .whileLoop test body _ =>
    .whileLoop (layout style depth test)
      (body.inner.attach.map fun node => layout style (depth + 1) node.1)
  | .forLoop initial test advance body _ =>
    .forLoop
      (match initial with
        | none => none
        | some node => some (headerLayout style depth node))
      (match test with
        | none => none
        | some node => some (layout style depth node))
      (match advance with
        | none => none
        | some node => some (layout style depth node))
      (body.inner.attach.map fun node => layout style (depth + 1) node.1)
  | .function name parameters body _ =>
    if depth > 0 then .absent
    else
      .function (layout style depth name) (parameters.map (layout style depth))
        (body.inner.attach.map fun node => layout style (depth + 1) node.1)
  | .parameter name _ => .parameter name
  | .returning argument _ =>
    .returning
      (match argument with
        | none => none
        | some value => some (layout style depth value))
  | .unsupported _ _ _ => .absent
  | .foreign _ _ => .absent
termination_by node => (sizeOf node, 0)
decreasing_by
  all_goals try decreasing_tactic
  · have hlt := Node.sizeOf_element node.2
    apply Prod.Lex.left
    rw [Node.array.sizeOf_spec]
    omega
  · have hlt := Node.sizeOf_selected? _selected
    apply Prod.Lex.left
    rw [Node.call.sizeOf_spec]
    omega
  all_goals
    have hle := Node.sizeOf_inner_le node.2
    apply Prod.Lex.left
    simp only [Node.ifElse.sizeOf_spec, Node.whileLoop.sizeOf_spec, Node.forLoop.sizeOf_spec,
      Node.function.sizeOf_spec, Option.some.sizeOf_spec]
    omega

/-- The tree of a node in the first slot of a loop header. -/
def headerLayout (style : Style) (depth : Nat) : Node → Tree
  | .declaration [] _ _ => .heading []
  | .declaration (first :: rest) _ _ =>
    .heading (layout style depth first :: rest.map (continuedLayout style depth))
  | node => .slot (layout style depth node)
termination_by node => (sizeOf node, 1)

/-- The tree of a declarator that goes on without a type of its own. -/
def continuedLayout (style : Style) (depth : Nat) : Node → Tree
  | .declarator target initial _ =>
    .declarator none (layout style depth target)
      (match initial with
        | none => none
        | some value => some (layout style depth value))
  | node => layout style depth node
termination_by node => (sizeOf node, 1)

end

variable (style : Style) (depth : Nat)

/-- The layout of an array is a list of its elements, or nothing if it has holes. -/
theorem layout_array (elements : List (Option Node)) (location : Option Location)
    : layout style depth (.array elements location)
      = if elements.any Option.isNone then .absent
        else
          .list <| (elements.filterMap id).map fun node =>
            node.placed Operator.argument false (layout style depth node) := by
  rw [layout.eq_def]
  simp only [List.attach_map_val
    (f := fun node => Node.placed node Operator.argument false (layout style depth node))]

/-- The layout of a call of a method of a container is that of the method. -/
theorem layout_selected {callee object : Node} {method : Method} (arguments : List Node)
    (location : Option Location) (h : callee.selected? = some (method, object))
    : layout style depth (.call callee arguments location)
      = .method method (object.placed Operator.primary false (layout style depth object))
          (arguments.map fun node => method.placed node (layout style depth node)) := by
  rw [layout.eq_def]
  simp only
  split
  · rename_i method' object' h'
    obtain ⟨rfl, rfl⟩ := Prod.mk.inj (Option.some.inj (h.symm.trans h'))
    rfl
  · rename_i h'
    exact absurd (h.symm.trans h') nofun

/-- The layout of an ordinary call has the replaced name or the layout of the callee. -/
theorem layout_ordinary {callee : Node} (arguments : List Node) (location : Option Location)
    (h : callee.selected? = none)
    : layout style depth (.call callee arguments location)
      = .call
          (((replacement? style.shims callee.dottedName?).map Tree.qualified).getD
            (callee.placed Operator.primary false (layout style depth callee)))
          (arguments.map fun node =>
            node.placed Operator.argument false (layout style depth node)) := by
  rw [layout.eq_def]
  simp only
  split
  · rename_i h'
    exact absurd (h.symm.trans h') nofun
  · rfl

/-- The layout of a declarator has a type. -/
theorem layout_declarator (target : Node) (initial : Option Node) (location : Option Location)
    : layout style depth (.declarator target initial location)
      = .declarator (some (declaredType initial)) (layout style depth target)
          (initial.map (layout style depth)) := by
  rw [layout.eq_def]
  cases initial <;> rfl

/-- The layout of a declarator behind the first one has no type. -/
theorem continuedLayout_declarator (target : Node) (initial : Option Node)
    (location : Option Location)
    : continuedLayout style depth (.declarator target initial location)
      = .declarator none (layout style depth target) (initial.map (layout style depth)) := by
  rw [continuedLayout.eq_def]
  cases initial <;> rfl

/-- The layout of a return is that of its value. -/
theorem layout_returning (argument : Option Node) (location : Option Location)
    : layout style depth (.returning argument location)
      = .returning (argument.map (layout style depth)) := by
  rw [layout.eq_def]
  cases argument <;> rfl

/-- The tree of a conditional with an alternative, from the tree of what stands in front of it. -/
def alternateLayout (opening : Tree) (node : Node) : Tree :=
  if node.isIfElse then .chain opening (layout style depth node)
  else .otherwise opening (node.inner.map (layout style (depth + 1)))

/-- The layout of a conditional has a second branch if the statement has one. -/
theorem layout_ifElse (test consequent : Node) (alternate : Option Node)
    (location : Option Location)
    : layout style depth (.ifElse test consequent alternate location)
      = let opening : Tree :=
          .conditional (layout style depth test) (consequent.inner.map (layout style (depth + 1)))
        alternate.elim opening (alternateLayout style depth opening) := by
  rw [layout.eq_def]
  simp only [List.attach_map_val]
  cases alternate <;> rfl

/-- The layout of a loop has its body one block deeper. -/
theorem layout_whileLoop (test body : Node) (location : Option Location)
    : layout style depth (.whileLoop test body location)
      = .whileLoop (layout style depth test) (body.inner.map (layout style (depth + 1))) := by
  rw [layout.eq_def]
  simp only [List.attach_map_val]

/-- The layout of a loop with a header has its body one block deeper. -/
theorem layout_forLoop (initial test advance : Option Node) (body : Node)
    (location : Option Location)
    : layout style depth (.forLoop initial test advance body location)
      = .forLoop (initial.map (headerLayout style depth)) (test.map (layout style depth))
          (advance.map (layout style depth)) (body.inner.map (layout style (depth + 1))) := by
  rw [layout.eq_def]
  simp only [List.attach_map_val]
  cases initial <;> cases test <;> cases advance <;> rfl

/-- A function is laid out outside of blocks only, with its body one block deeper. -/
theorem layout_function (name : Node) (parameters : List Node) (body : Node)
    (location : Option Location)
    : layout style depth (.function name parameters body location)
      = if depth > 0 then .absent
        else
          .function (layout style depth name) (parameters.map (layout style depth))
            (body.inner.map (layout style (depth + 1))) := by
  rw [layout.eq_def]
  simp only [List.attach_map_val]

end Fragment

end DeviceScript
