import DeviceScript.Proofs.Emission.Text

/-! The parts of a node, with what emission does to each: whether braces come to stand around it, and
how often its text is written into the text of the node.
-/

namespace DeviceScript

/-- A node that stands in another one. -/
structure Part where
  node : Node
  /-- Tells whether the outer node puts braces around it. -/
  enclosed : Bool := false
  /-- How often the text of the outer node repeats its text. -/
  copies : Nat := 1

/-- A part that is not left out. -/
def Part.IsWritten (part : Part) : Prop := part.copies ≠ 0

namespace Fragment.Method

/-- How often a call of a method repeats the object. -/
def objectCopies : Method → Nat
  | push | pop => 1
  | shift | reverse => 2
  | splice => 3

/-- The arguments of a call of a method. Those of a method that takes none are left out, and a
position stands in front of both ends of a range. -/
def argumentParts (method : Method) (arguments : List Node) : List Part :=
  match method, arguments with
  | push, arguments => arguments.map fun node => { node }
  | splice, [] => []
  | splice, start :: rest => { node := start, copies := 2 } :: rest.map fun node => { node }
  | pop, arguments | shift, arguments | reverse, arguments =>
    arguments.map fun node => { node, copies := 0 }

/-- A method writes its receiver at least once. -/
theorem objectCopies_ne_zero (method : Method) : method.objectCopies ≠ 0 := by
  cases method <;> exact nofun

/-- An argument of a method that takes arguments is written. -/
theorem exists_argumentPart {method : Method} {arguments : List Node}
    (h : ¬ (method = .pop ∨ method = .shift ∨ method = .reverse)) {argument : Node}
    (hm : argument ∈ arguments)
    : ∃ part ∈ method.argumentParts arguments,
        part.node = argument ∧ part.IsWritten ∧ part.enclosed = false := by
  cases method with
  | push => exact ⟨{ node := argument }, List.mem_map_of_mem hm, rfl, Nat.one_ne_zero, rfl⟩
  | splice =>
      cases arguments with
      | nil => exact absurd hm List.not_mem_nil
      | cons start rest =>
          rcases List.mem_cons.mp hm with rfl | hm
          · exact ⟨_, List.mem_cons_self, rfl, Nat.succ_ne_zero 1, rfl⟩
          · exact ⟨{ node := argument }, List.mem_cons_of_mem _ (List.mem_map_of_mem hm), rfl,
              Nat.one_ne_zero, rfl⟩
  | _ => exact absurd (by decide) h

/-- A method with an argument that is left out takes no arguments. -/
theorem takesNone (method : Method) {arguments : List Node} {part : Part}
    (h : part ∈ method.argumentParts arguments) (unwritten : ¬ part.IsWritten)
    : method = .pop ∨ method = .shift ∨ method = .reverse := by
  have once {nodes : List Node} (hm : part ∈ nodes.map fun node => { node })
      : method = .pop ∨ method = .shift ∨ method = .reverse := by
    obtain ⟨_, _, rfl⟩ := List.mem_map.mp hm
    exact absurd Nat.one_ne_zero unwritten
  cases method with
  | push => exact once h
  | splice =>
      cases arguments with
      | nil => exact absurd h List.not_mem_nil
      | cons start rest =>
          rcases List.mem_cons.mp h with rfl | h
          · exact absurd (Nat.succ_ne_zero 1) unwritten
          · exact once h
  | _ => decide

end Fragment.Method

namespace Node

/-- How often access to a property repeats the object. -/
def accessCopies : Node → Nat
  | identifier name _ => if name = "shift" ∨ name = "reverse" then 2 else 1
  | _ => 1

/-- An access writes its object at least once. -/
theorem accessCopies_ne_zero (property : Node) : property.accessCopies ≠ 0 := by
  unfold accessCopies
  split
  · split <;> exact nofun
  · exact nofun

/-- The statements between the braces of a compound statement. -/
def bodyParts (body : Node) : List Part := body.inner.map fun node => { node, enclosed := true }

/-- The alternative of a conditional, which needs no braces if it is a conditional itself. -/
def alternateParts (node : Node) : List Part :=
  if node.isIfElse then [{ node }] else node.bodyParts

/-- The nodes directly below a node. The name of a method of a container is none of them. -/
def parts : Node → List Part
  | program body _ => body.map fun node => { node }
  | expressionStatement expression _ => [{ node := expression }]
  | call callee arguments _ =>
    match callee.selected? with
    | some (method, object) =>
      { node := object, copies := method.objectCopies } :: method.argumentParts arguments
    | none => { node := callee } :: arguments.map fun node => { node }
  | member object property computed _ =>
    if computed then [{ node := object }, { node := property }]
    else [{ node := object, copies := property.accessCopies }]
  | binary _ left right _ | logical _ left right _ | assignment _ left right _ =>
    [{ node := left }, { node := right }]
  | unary _ argument _ _ | update _ argument _ _ => [{ node := argument }]
  | declaration declarations _ _ => declarations.map fun node => { node }
  | declarator target initial _ => { node := target } :: initial.toList.map fun node => { node }
  | array elements _ => (elements.filterMap id).map fun node => { node }
  | ifElse test consequent alternate _ =>
    { node := test } :: consequent.bodyParts ++ alternate.toList.flatMap alternateParts
  | whileLoop test body _ => { node := test } :: body.bodyParts
  | forLoop initial test advance body _ =>
    (initial.toList ++ test.toList ++ advance.toList).map (fun node => { node }) ++ body.bodyParts
  | block body _ => body.map fun node => { node, enclosed := true }
  | function name parameters body _ =>
    (parameters ++ [name]).map (fun node => { node }) ++ body.bodyParts
  | returning argument _ => argument.toList.map fun node => { node }
  | identifier _ _ | literal _ _ _ | parameter _ _ | unsupported _ _ _ | foreign _ _ => []

/-- A part of the alternate is one of the nodes of it. -/
theorem mem_nodes_of_alternatePart {node : Node} {part : Part} (h : part ∈ node.alternateParts)
    : part.node ∈ node.nodes := by
  unfold alternateParts at h
  split at h
  · rw [List.mem_singleton.mp h]
    exact node.mem_nodes_self
  · obtain ⟨inner, hm, rfl⟩ := List.mem_map.mp h
    exact mem_nodes_of_inner hm

/-- A part of the arguments is one of them. -/
theorem mem_of_mem_argumentParts {method : Fragment.Method} {arguments : List Node} {part : Part}
    (h : part ∈ method.argumentParts arguments)
    : part.node ∈ arguments := by
  cases method with
  | splice =>
      cases arguments with
      | nil => exact absurd h List.not_mem_nil
      | cons start rest =>
          rcases List.mem_cons.mp h with rfl | h
          · exact List.mem_cons_self
          · obtain ⟨node, hm, rfl⟩ := List.mem_map.mp h
            exact List.mem_cons_of_mem _ hm
  | _ =>
      obtain ⟨node, hm, rfl⟩ := List.mem_map.mp h
      exact hm

/-- A part of a node stands in a child of the node, if it is none of the children itself. -/
theorem exists_child_of_part {node : Node} {part : Part} (h : part ∈ node.parts)
    : ∃ child ∈ node.children, part.node ∈ child.nodes := by
  have each {nodes : List Node} (make : Node → Part) (same : ∀ inner, (make inner).node = inner)
      (hsub : nodes ⊆ node.children) (hm : part ∈ nodes.map make)
      : ∃ child ∈ node.children, part.node ∈ child.nodes := by
    obtain ⟨child, hc, rfl⟩ := List.mem_map.mp hm
    rw [same]
    exact ⟨child, hsub hc, child.mem_nodes_self⟩
  have body {outer : Node} (hc : outer ∈ node.children) (hm : part ∈ outer.bodyParts)
      : ∃ child ∈ node.children, part.node ∈ child.nodes := by
    obtain ⟨inner, hi, rfl⟩ := List.mem_map.mp hm
    exact ⟨outer, hc, mem_nodes_of_inner hi⟩
  cases node with
  | program _ location | declaration _ _ location | array _ location | returning _ location
  | expressionStatement _ location | unary _ _ _ location | update _ _ _ location
  | binary _ _ _ location | logical _ _ _ location | assignment _ _ _ location
  | declarator _ _ location =>
      exact each (fun node => { node }) (fun _ => rfl) (List.Subset.refl _) h
  | block _ location =>
      exact each (fun node => { node, enclosed := true }) (fun _ => rfl) (List.Subset.refl _) h
  | call callee arguments location =>
      simp only [parts] at h
      split at h
      · rename_i hs
        rcases List.mem_cons.mp h with rfl | h
        · exact ⟨callee, List.mem_cons_self, mem_nodes_of_selected? hs⟩
        · have hm := List.mem_cons_of_mem callee (mem_of_mem_argumentParts h)
          exact ⟨part.node, hm, part.node.mem_nodes_self⟩
      · exact each (fun node => { node }) (fun _ => rfl) (List.Subset.refl _) h
  | member object property computed location =>
      cases computed with
      | true => exact each (fun node => { node }) (fun _ => rfl) (List.Subset.refl _) h
      | false =>
          rw [List.mem_singleton.mp h]
          exact ⟨object, List.mem_cons_self, object.mem_nodes_self⟩
  | ifElse test consequent alternate location =>
      simp only [parts, List.cons_append, List.mem_cons, List.mem_append, List.mem_flatMap] at h
      rcases h with rfl | h | ⟨inner, hm, h⟩
      · exact ⟨test, List.mem_cons_self, test.mem_nodes_self⟩
      · exact body (List.mem_cons_of_mem _ List.mem_cons_self) h
      · have hc := List.mem_cons_of_mem test (List.mem_cons_of_mem consequent hm)
        exact ⟨inner, hc, mem_nodes_of_alternatePart h⟩
  | whileLoop test inner location =>
      rcases List.mem_cons.mp h with rfl | h
      · exact ⟨test, List.mem_cons_self, test.mem_nodes_self⟩
      · exact body (List.mem_cons_of_mem _ List.mem_cons_self) h
  | forLoop initial test advance inner location =>
      rcases List.mem_append.mp h with h | h
      · exact each (fun node => { node }) (fun _ => rfl) (List.subset_append_left _ _) h
      · exact body (List.mem_append_right _ List.mem_cons_self) h
  | function name parameters inner location =>
      rcases List.mem_append.mp h with h | h
      · refine each (fun node => { node }) (fun _ => rfl) ?_ h
        intro node hm
        simp only [List.mem_append, List.mem_singleton] at hm
        simp only [children, List.mem_append, List.mem_cons]
        exact .inl hm.symm
      · exact body (List.mem_append_right _ List.mem_cons_self) h
  | identifier _ _ | literal _ _ _ | parameter _ _ | unsupported _ _ _ | foreign _ _ =>
      exact absurd h List.not_mem_nil

/-- A part is smaller than the node it stands in. -/
theorem sizeOf_part {node : Node} {part : Part} (h : part ∈ node.parts)
    : sizeOf part.node < sizeOf node := by
  obtain ⟨child, hc, hm⟩ := exists_child_of_part h
  exact Nat.lt_of_le_of_lt (sizeOf_le_of_mem_nodes hm) (sizeOf_child hc)

end Node

end DeviceScript
