import DeviceScript.Proofs.Emission.Layout

/-! Induction along emission. The object of a container call and the statements of a body stand two
levels below the node that they are emitted with, and a loop header comes to the parts of the
declarators in it, so the nodes directly below a node are not enough.
-/

namespace DeviceScript.Node

/-- A property of every node follows from its step along emission. What stands in a body is given
without its braces, and what a conditional or a loop header takes apart is given with all the nodes
in it. -/
@[elab_as_elim]
theorem induct_emission {motive : Node → Prop}
    (program : ∀ body location, (∀ node ∈ body, motive node) → motive (.program body location))
    (expressionStatement
      : ∀ expression location,
          motive expression → motive (.expressionStatement expression location))
    (ordinary
      : ∀ callee arguments location,
          callee.selected? = none
          → motive callee
          → (∀ node ∈ arguments, motive node)
          → motive (.call callee arguments location))
    (selected
      : ∀ callee arguments location method object,
          callee.selected? = some (method, object)
          → motive object
          → (∀ node ∈ arguments, motive node)
          → motive (.call callee arguments location))
    (member
      : ∀ object property computed location,
          motive object → motive property → motive (.member object property computed location))
    (literal : ∀ value raw location, motive (.literal value raw location))
    (identifier : ∀ name location, motive (.identifier name location))
    (binary
      : ∀ operator left right location,
          motive left → motive right → motive (.binary operator left right location))
    (logical
      : ∀ operator left right location,
          motive left → motive right → motive (.logical operator left right location))
    (unary
      : ∀ operator argument leading location,
          motive argument → motive (.unary operator argument leading location))
    (assignment
      : ∀ operator left right location,
          motive left → motive right → motive (.assignment operator left right location))
    (declaration
      : ∀ declarations keyword location,
          (∀ node ∈ declarations, motive node)
          → motive (.declaration declarations keyword location))
    (declarator
      : ∀ target initial location,
          motive target
          → (∀ node ∈ initial, motive node)
          → motive (.declarator target initial location))
    (array
      : ∀ elements location,
          (∀ node ∈ elements.filterMap id, motive node) → motive (.array elements location))
    (ifElse
      : ∀ test consequent alternate location,
          motive test
          → (∀ inner ∈ consequent.inner, motive inner)
          → (∀ node ∈ alternate, ∀ inner ∈ node.nodes, motive inner)
          → motive (.ifElse test consequent alternate location))
    (whileLoop
      : ∀ test body location,
          motive test → (∀ inner ∈ body.inner, motive inner) → motive (.whileLoop test body location))
    (forLoop
      : ∀ initial test advance body location,
          (∀ node ∈ initial, ∀ inner ∈ node.nodes, motive inner)
          → (∀ node ∈ test, motive node)
          → (∀ node ∈ advance, motive node)
          → (∀ inner ∈ body.inner, motive inner)
          → motive (.forLoop initial test advance body location))
    (block : ∀ body location, (∀ node ∈ body, motive node) → motive (.block body location))
    (function
      : ∀ name parameters body location,
          motive name
          → (∀ node ∈ parameters, motive node)
          → (∀ inner ∈ body.inner, motive inner)
          → motive (.function name parameters body location))
    (returning
      : ∀ argument location,
          (∀ node ∈ argument, motive node) → motive (.returning argument location))
    (update
      : ∀ operator argument leading location,
          motive argument → motive (.update operator argument leading location))
    (parameter : ∀ name location, motive (.parameter name location))
    (unsupported : ∀ source detail location, motive (.unsupported source detail location))
    (foreign : ∀ kind location, motive (.foreign kind location))
    (node : Node)
    : motive node := by
  induction node using induct_nodes with
  | step node ih =>
      have whole {inner : Node} (h : ∀ below ∈ inner.nodes, motive below) : motive inner :=
        h inner inner.mem_nodes_self
      have inside {body : Node} (h : ∀ below ∈ body.nodes, motive below)
          : ∀ inner ∈ body.inner, motive inner :=
        fun inner hm => h inner (mem_nodes_of_inner hm)
      have each : ∀ child ∈ node.children, motive child := fun child hc => whole (ih child hc)
      cases node with
      | program _ _ => exact program _ _ each
      | block _ _ => exact block _ _ each
      | declaration _ _ _ => exact declaration _ _ _ each
      | array _ _ => exact array _ _ each
      | identifier _ _ => exact identifier _ _
      | literal _ _ _ => exact literal _ _ _
      | parameter _ _ => exact parameter _ _
      | unsupported _ _ _ => exact unsupported _ _ _
      | foreign _ _ => exact foreign _ _
      | expressionStatement expression _ =>
          exact expressionStatement _ _ (each expression List.mem_cons_self)
      | unary _ argument _ _ => exact unary _ _ _ _ (each argument List.mem_cons_self)
      | update _ argument _ _ => exact update _ _ _ _ (each argument List.mem_cons_self)
      | member object property _ _ =>
          obtain ⟨ho, hp⟩ := List.forall_mem_cons.mp each
          exact member _ _ _ _ ho (hp property List.mem_cons_self)
      | binary _ left right _ =>
          obtain ⟨hl, hr⟩ := List.forall_mem_cons.mp each
          exact binary _ _ _ _ hl (hr right List.mem_cons_self)
      | logical _ left right _ =>
          obtain ⟨hl, hr⟩ := List.forall_mem_cons.mp each
          exact logical _ _ _ _ hl (hr right List.mem_cons_self)
      | assignment _ left right _ =>
          obtain ⟨hl, hr⟩ := List.forall_mem_cons.mp each
          exact assignment _ _ _ _ hl (hr right List.mem_cons_self)
      | call callee arguments _ =>
          obtain ⟨hc, ha⟩ := List.forall_mem_cons.mp each
          cases hs : callee.selected? with
          | none => exact ordinary _ _ _ hs hc ha
          | some selection =>
              obtain ⟨method, object⟩ := selection
              have ho := ih callee List.mem_cons_self object (mem_nodes_of_selected? hs)
              exact selected _ _ _ _ _ hs ho ha
      | declarator target initial _ =>
          obtain ⟨ht, hi⟩ := List.forall_mem_cons.mp each
          exact declarator _ _ _ ht fun value hm => hi value (Option.mem_toList.mpr hm)
      | returning argument _ =>
          exact returning _ _ fun value hm => each value (Option.mem_toList.mpr hm)
      | ifElse test consequent alternate _ =>
          obtain ⟨ht, hbranches⟩ := List.forall_mem_cons.mp ih
          obtain ⟨hc, ha⟩ := List.forall_mem_cons.mp hbranches
          exact ifElse _ _ _ _ (whole ht) (inside hc)
            fun node hm => ha node (Option.mem_toList.mpr hm)
      | whileLoop test body _ =>
          obtain ⟨ht, hb⟩ := List.forall_mem_cons.mp ih
          exact whileLoop _ _ _ (whole ht) (inside (hb body List.mem_cons_self))
      | forLoop initial test advance body _ =>
          obtain ⟨hheader, hb⟩ := List.forall_mem_append.mp ih
          obtain ⟨hslots, ha⟩ := List.forall_mem_append.mp hheader
          obtain ⟨hi, ht⟩ := List.forall_mem_append.mp hslots
          exact forLoop _ _ _ _ _ (fun node hm => hi node (Option.mem_toList.mpr hm))
            (fun node hm => whole (ht node (Option.mem_toList.mpr hm)))
            (fun node hm => whole (ha node (Option.mem_toList.mpr hm)))
            (inside (hb body List.mem_cons_self))
      | function name parameters body _ =>
          obtain ⟨hheader, hb⟩ := List.forall_mem_append.mp ih
          obtain ⟨hn, hp⟩ := List.forall_mem_cons.mp hheader
          exact function _ _ _ _ (whole hn) (fun node hm => whole (hp node hm))
            (inside (hb body List.mem_cons_self))

end DeviceScript.Node
