import DeviceScript.Syntax.Node

/-! Structural induction over syntax trees. The nodes directly below a node stand in lists and
options, so the hypothesis is stated for their members.
-/

namespace DeviceScript.Node

/-- A property of every node follows from its step at each kind of node. -/
@[elab_as_elim, induction_eliminator]
theorem induct {motive : Node → Prop}
    (program : ∀ body location, (∀ node ∈ body, motive node) → motive (.program body location))
    (expressionStatement
      : ∀ expression location,
          motive expression → motive (.expressionStatement expression location))
    (call
      : ∀ callee arguments location,
          motive callee
          → (∀ node ∈ arguments, motive node)
          → motive (.call callee arguments location))
    (member
      : ∀ object property computed location,
          motive object → motive property → motive (.member object property computed location))
    (literal : ∀ value raw location, motive (.literal value raw location))
    (identifier : ∀ name location, motive (.identifier name location))
    (binary
      : ∀ operator left right location,
          motive left → motive right → motive (.binary operator left right location))
    (logical
      : ∀ operator left right location,
          motive left → motive right → motive (.logical operator left right location))
    (unary
      : ∀ operator argument leading location,
          motive argument → motive (.unary operator argument leading location))
    (assignment
      : ∀ operator left right location,
          motive left → motive right → motive (.assignment operator left right location))
    (declaration
      : ∀ declarations keyword location,
          (∀ node ∈ declarations, motive node)
          → motive (.declaration declarations keyword location))
    (declarator
      : ∀ target initial location,
          motive target
          → (∀ node ∈ initial, motive node)
          → motive (.declarator target initial location))
    (array
      : ∀ elements location,
          (∀ node, some node ∈ elements → motive node) → motive (.array elements location))
    (ifElse
      : ∀ test consequent alternate location,
          motive test
          → motive consequent
          → (∀ node ∈ alternate, motive node)
          → motive (.ifElse test consequent alternate location))
    (whileLoop
      : ∀ test body location,
          motive test → motive body → motive (.whileLoop test body location))
    (forLoop
      : ∀ initial test advance body location,
          (∀ node ∈ initial, motive node)
          → (∀ node ∈ test, motive node)
          → (∀ node ∈ advance, motive node)
          → motive body
          → motive (.forLoop initial test advance body location))
    (block : ∀ body location, (∀ node ∈ body, motive node) → motive (.block body location))
    (function
      : ∀ name parameters body location,
          motive name
          → (∀ node ∈ parameters, motive node)
          → motive body
          → motive (.function name parameters body location))
    (returning
      : ∀ argument location,
          (∀ node ∈ argument, motive node) → motive (.returning argument location))
    (update
      : ∀ operator argument leading location,
          motive argument → motive (.update operator argument leading location))
    (parameter : ∀ name location, motive (.parameter name location))
    (unsupported : ∀ source detail location, motive (.unsupported source detail location))
    (foreign : ∀ kind location, motive (.foreign kind location))
    (node : Node)
    : motive node := by
  refine @Node.rec motive (fun nodes => ∀ node ∈ nodes, motive node)
    (fun node => ∀ inner ∈ node, motive inner)
    (fun nodes => ∀ node, some node ∈ nodes → motive node)
    program expressionStatement call member literal identifier binary logical unary assignment
    declaration declarator array ifElse whileLoop forLoop block function returning update
    parameter unsupported foreign ?_ ?_ ?_ ?_ ?_ ?_ node
  · simp
  · rintro head tail hh ht node (_ | ⟨_, hm⟩)
    · exact hh
    · exact ht node hm
  · simp
  · rintro value hv node ⟨⟩
    exact hv
  · simp
  · rintro head tail hh ht node (_ | ⟨_, hm⟩)
    · exact hh node rfl
    · exact ht node hm

end DeviceScript.Node
