import DeviceScript.Proofs.Syntax.Induction

/-! The nodes of a tree, each as often as it stands in the tree. Whatever emission does with a
tree, these are all the nodes that it can come to.
-/

namespace DeviceScript.Node

/-- The nodes directly below a node, in the order of its fields. -/
def children : Node → List Node
  | program body _ | block body _ => body
  | expressionStatement inner _ | unary _ inner _ _ | update _ inner _ _ => [inner]
  | call callee arguments _ => callee :: arguments
  | member left right _ _ | binary _ left right _ | logical _ left right _
  | assignment _ left right _ | whileLoop left right _ => [left, right]
  | declaration declarations _ _ => declarations
  | declarator target initial _ => target :: initial.toList
  | array elements _ => elements.filterMap id
  | ifElse test consequent alternate _ => test :: consequent :: alternate.toList
  | forLoop initial test advance body _ =>
    initial.toList ++ test.toList ++ advance.toList ++ [body]
  | function name parameters body _ => name :: parameters ++ [body]
  | returning argument _ => argument.toList
  | identifier _ _ | literal _ _ _ | parameter _ _ | unsupported _ _ _ | foreign _ _ => []

mutual

/-- The nodes below a node, at any distance. -/
def descendants : Node → List Node
  | program body _ | block body _ => nodesEach body
  | expressionStatement inner _ | unary _ inner _ _ | update _ inner _ _ =>
    inner :: inner.descendants
  | call callee arguments _ => callee :: callee.descendants ++ nodesEach arguments
  | member left right _ _ | binary _ left right _ | logical _ left right _
  | assignment _ left right _ | whileLoop left right _ =>
    left :: left.descendants ++ right :: right.descendants
  | declaration declarations _ _ => nodesEach declarations
  | declarator target initial _ => target :: target.descendants ++ nodesOptional initial
  | array elements _ => nodesElements elements
  | ifElse test consequent alternate _ =>
    test :: test.descendants ++ consequent :: consequent.descendants ++ nodesOptional alternate
  | forLoop initial test advance body _ =>
    nodesOptional initial ++ nodesOptional test ++ nodesOptional advance
      ++ body :: body.descendants
  | function name parameters body _ =>
    name :: name.descendants ++ nodesEach parameters ++ body :: body.descendants
  | returning argument _ => nodesOptional argument
  | identifier _ _ | literal _ _ _ | parameter _ _ | unsupported _ _ _ | foreign _ _ => []
termination_by structural node => node

def nodesOptional : Option Node → List Node
  | none => []
  | some node => node :: node.descendants
termination_by structural node => node

def nodesEach : List Node → List Node
  | [] => []
  | node :: nodes => node :: node.descendants ++ nodesEach nodes
termination_by structural nodes => nodes

def nodesElements : List (Option Node) → List Node
  | [] => []
  | node :: nodes => nodesOptional node ++ nodesElements nodes
termination_by structural nodes => nodes

end

/-- The nodes of a tree, of which the root comes first. -/
def nodes (node : Node) : List Node := node :: node.descendants

/-- A node is one of its own nodes. -/
theorem mem_nodes_self (node : Node) : node ∈ node.nodes := List.mem_cons_self

/-- The nodes of an option are those of the node in it. -/
theorem nodesOptional_eq_flatMap (node : Option Node)
    : nodesOptional node = node.toList.flatMap nodes := by
  cases node with
  | none => rfl
  | some node => exact (List.append_nil _).symm

/-- The nodes of a list are those of each node in it, in their order. -/
theorem nodesEach_eq_flatMap (list : List Node) : nodesEach list = list.flatMap nodes := by
  induction list with
  | nil => rfl
  | cons node list ih => rw [nodesEach, ih, List.flatMap_cons, nodes]

/-- The nodes of elements are those of each node among them, in their order. -/
theorem nodesElements_eq_flatMap (elements : List (Option Node))
    : nodesElements elements = (elements.filterMap id).flatMap nodes := by
  induction elements with
  | nil => rfl
  | cons element elements ih =>
      cases element with
      | none => exact ih
      | some node => exact congrArg (nodes node ++ ·) ih

/-- The nodes below a node are those of its children. -/
theorem nodes_eq (node : Node) : node.nodes = node :: node.children.flatMap nodes := by
  cases node <;>
    simp only [nodes, descendants, children, nodesOptional_eq_flatMap, nodesEach_eq_flatMap,
      nodesElements_eq_flatMap, List.flatMap_append, List.flatMap_cons, List.flatMap_nil,
      List.append_nil, List.append_assoc, List.cons_append]

/-- A property of every node follows from its step from the children of a node to the node. -/
theorem induct_children {motive : Node → Prop}
    (step : ∀ node, (∀ child ∈ node.children, motive child) → motive node) (node : Node)
    : motive node := by
  have one {inner : Node} (h : motive inner) : ∀ child ∈ [inner], motive child :=
    List.forall_mem_singleton.mpr h
  have optional {inner : Option Node} (h : ∀ child ∈ inner, motive child)
      : ∀ child ∈ inner.toList, motive child :=
    fun child hm => h child (Option.mem_toList.mp hm)
  induction node with
  | program body location ih | block body location ih | declaration body _ location ih =>
      exact step _ ih
  | expressionStatement inner location ih | unary _ inner _ location ih
  | update _ inner _ location ih => exact step _ (one ih)
  | member left right _ location ihl ihr | binary _ left right location ihl ihr
  | logical _ left right location ihl ihr | assignment _ left right location ihl ihr
  | whileLoop left right location ihl ihr =>
      exact step _ (List.forall_mem_cons.mpr ⟨ihl, one ihr⟩)
  | call callee arguments location ihc iha =>
      exact step _ (List.forall_mem_cons.mpr ⟨ihc, iha⟩)
  | declarator target initial location iht ihi =>
      exact step _ (List.forall_mem_cons.mpr ⟨iht, optional ihi⟩)
  | array elements location ih =>
      refine step _ fun child hm => ih child ?_
      obtain ⟨element, he, rfl⟩ := List.mem_filterMap.mp hm
      exact he
  | ifElse test consequent alternate location iht ihc iha =>
      exact step _ (List.forall_mem_cons.mpr ⟨iht, List.forall_mem_cons.mpr ⟨ihc, optional iha⟩⟩)
  | forLoop initial test advance body location ihi iht iha ihb =>
      have hslots := List.forall_mem_append.mpr ⟨optional ihi, optional iht⟩
      have hheader := List.forall_mem_append.mpr ⟨hslots, optional iha⟩
      exact step _ (List.forall_mem_append.mpr ⟨hheader, one ihb⟩)
  | function name parameters body location ihn ihp ihb =>
      have hheader := List.forall_mem_cons.mpr ⟨ihn, ihp⟩
      exact step _ (List.forall_mem_append.mpr ⟨hheader, one ihb⟩)
  | returning argument location ih => exact step _ (optional ih)
  | _ => exact step _ nofun

/-- The nodes below a node of a tree are nodes of the tree, by induction over the tree. -/
theorem nodes_subset {inner outer : Node} (h : inner ∈ outer.nodes)
    : inner.nodes ⊆ outer.nodes := by
  induction outer using induct_children with
  | step outer ih =>
      rw [nodes_eq outer, List.mem_cons, List.mem_flatMap] at h
      rcases h with rfl | ⟨child, hc, h⟩
      · exact List.Subset.refl _
      · intro node hm
        rw [nodes_eq outer]
        exact List.mem_cons_of_mem _ (List.mem_flatMap.mpr ⟨child, hc, ih child hc h hm⟩)

/-- A child is one of the nodes of its parent. -/
theorem mem_nodes_of_child {child node : Node} (h : child ∈ node.children) : child ∈ node.nodes := by
  rw [nodes_eq]
  exact List.mem_cons_of_mem _ (List.mem_flatMap.mpr ⟨child, h, child.mem_nodes_self⟩)

/-- The nodes of a child are among those of its parent. -/
theorem nodes_subset_of_child {child node : Node} (h : child ∈ node.children)
    : child.nodes ⊆ node.nodes :=
  nodes_subset (mem_nodes_of_child h)

/-- An element of an array is smaller than the list of all of them. -/
theorem sizeOf_element {node : Node} {elements : List (Option Node)}
    (h : node ∈ elements.filterMap id) : sizeOf node < sizeOf elements := by
  obtain ⟨element, hm, rfl⟩ := List.mem_filterMap.mp h
  have hlt : sizeOf (some node) < sizeOf elements := List.sizeOf_lt_of_mem hm
  rw [Option.some.sizeOf_spec] at hlt
  omega

/-- What stands directly below a node is smaller than the node. -/
theorem sizeOf_child {child node : Node} (h : child ∈ node.children)
    : sizeOf child < sizeOf node := by
  have hoptional {inner : Option Node} (hm : child ∈ inner.toList)
      : sizeOf child < sizeOf inner := by
    rw [Option.mem_toList.mp hm, Option.some.sizeOf_spec]
    omega
  cases node with
  | program body location | block body location | declaration body _ location =>
      have hlt : sizeOf child < sizeOf body := List.sizeOf_lt_of_mem h
      exact Nat.lt_trans hlt (by simp +arith)
  | expressionStatement inner location | unary _ inner _ location | update _ inner _ location =>
      rw [List.mem_singleton.mp h]
      simp +arith
  | member left right _ location | binary _ left right location | logical _ left right location
  | assignment _ left right location | whileLoop left right location =>
      simp only [children, List.mem_cons, List.not_mem_nil, or_false] at h
      rcases h with rfl | rfl <;> simp +arith
  | call callee arguments location =>
      rcases List.mem_cons.mp h with rfl | h
      · simp +arith
      · exact Nat.lt_trans (List.sizeOf_lt_of_mem h) (by simp +arith)
  | declarator target initial location =>
      rcases List.mem_cons.mp h with rfl | h
      · simp +arith
      · exact Nat.lt_trans (hoptional h) (by simp +arith)
  | array elements location => exact Nat.lt_trans (sizeOf_element h) (by simp +arith)
  | ifElse test consequent alternate location =>
      rcases List.mem_cons.mp h with rfl | h
      · simp +arith
      rcases List.mem_cons.mp h with rfl | h
      · simp +arith
      · exact Nat.lt_trans (hoptional h) (by simp +arith)
  | forLoop initial test advance body location =>
      simp only [children, List.mem_append, List.mem_singleton] at h
      rcases h with ((h | h) | h) | rfl
      · exact Nat.lt_trans (hoptional h) (by simp +arith)
      · exact Nat.lt_trans (hoptional h) (by simp +arith)
      · exact Nat.lt_trans (hoptional h) (by simp +arith)
      · simp +arith
  | function name parameters body location =>
      simp only [children, List.mem_append, List.mem_cons, List.not_mem_nil, or_false] at h
      rcases h with (rfl | h) | rfl
      · simp +arith
      · exact Nat.lt_trans (List.sizeOf_lt_of_mem h) (by simp +arith)
      · simp +arith
  | returning argument location => exact Nat.lt_trans (hoptional h) (by simp +arith)
  | identifier _ _ | literal _ _ _ | parameter _ _ | unsupported _ _ _ | foreign _ _ =>
      exact absurd h List.not_mem_nil

/-- No node of a tree is larger than the tree, by induction over the tree. -/
theorem sizeOf_le_of_mem_nodes {inner outer : Node} (h : inner ∈ outer.nodes)
    : sizeOf inner ≤ sizeOf outer := by
  induction outer using induct_children with
  | step outer ih =>
      rw [nodes_eq outer, List.mem_cons, List.mem_flatMap] at h
      rcases h with rfl | ⟨child, hc, h⟩
      · exact Nat.le_refl _
      · exact Nat.le_of_lt (Nat.lt_of_le_of_lt (ih child hc h) (sizeOf_child hc))

/-- A property of every node follows from its step from all nodes below a node to the node. -/
theorem induct_nodes {motive : Node → Prop}
    (step
      : ∀ node, (∀ child ∈ node.children, ∀ inner ∈ child.nodes, motive inner) → motive node)
    (node : Node)
    : motive node := by
  have hall : ∀ inner ∈ node.nodes, motive inner := by
    induction node using induct_children with
    | step node ih =>
        intro inner hm
        rw [nodes_eq, List.mem_cons, List.mem_flatMap] at hm
        rcases hm with rfl | ⟨child, hc, hm⟩
        · exact step _ ih
        · exact ih child hc inner hm
  exact hall node node.mem_nodes_self

end DeviceScript.Node
