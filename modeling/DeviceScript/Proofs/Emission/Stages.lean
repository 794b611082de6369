import DeviceScript.Proofs.Emission.Agreement
import DeviceScript.Proofs.Emission.Refusal

/-! What emission comes to. It comes to all written parts of a node, but in the header of a loop it
passes over the declarators behind the first one and comes to what stands in them.
-/

namespace DeviceScript

namespace Node

/-- A declarator that goes on comes next as a whole, or in its parts. -/
theorem mem_continuedStages {node : Node} {part : Part} (h : part ∈ node.continuedStages)
    : part = { node } ∨ part ∈ node.parts := by
  cases node with
  | declarator target initial location => exact .inr h
  | _ => exact .inl (List.mem_singleton.mp h)

/-- What emission comes to in the first slot of a loop header is a part of a part of the slot, at
most. -/
theorem mem_headerStages {node : Node} {part : Part} (h : part ∈ node.headerStages)
    : part = { node }
      ∨ ∃ inner,
          { node := inner } ∈ node.parts ∧ (part = { node := inner } ∨ part ∈ inner.parts) := by
  cases node with
  | declaration declarations keyword location =>
      cases declarations with
      | nil => exact .inl (List.mem_singleton.mp h)
      | cons first rest =>
          rcases List.mem_cons.mp h with rfl | h
          · exact .inr ⟨first, List.mem_cons_self, .inl rfl⟩
          · obtain ⟨inner, hi, h⟩ := List.mem_flatMap.mp h
            refine .inr ⟨inner, ?_, mem_continuedStages h⟩
            exact List.mem_map_of_mem (List.mem_cons_of_mem first hi)
  | _ => exact .inl (List.mem_singleton.mp h)

/-- What emission comes to next is a part, or stands in the first slot of a loop header. -/
theorem mem_stages {node : Node} {part : Part} (h : part ∈ node.stages)
    : part ∈ node.parts ∨ ∃ inner, { node := inner } ∈ node.parts ∧ part ∈ inner.headerStages := by
  cases node with
  | forLoop initial test advance body location =>
      simp only [stages, List.mem_append, List.mem_flatMap] at h
      rcases h with (⟨inner, hi, h⟩ | h) | h
      · refine .inr ⟨inner, List.mem_append_left _ (List.mem_map_of_mem ?_), h⟩
        exact List.mem_append_left _ (List.mem_append_left _ hi)
      · refine .inl (List.mem_append_left _ ?_)
        rw [List.append_assoc, List.map_append]
        exact List.mem_append_right _ h
      · exact .inl (List.mem_append_right _ h)
  | _ => exact .inl h

/-- What comes next is smaller than the node. -/
theorem sizeOf_stage {node : Node} {part : Part} (h : part ∈ node.stages)
    : sizeOf part.node < sizeOf node := by
  rcases mem_stages h with h | ⟨initial, hi, h⟩
  · exact sizeOf_part h
  · have hinitial : sizeOf initial < sizeOf node := sizeOf_part hi
    rcases mem_headerStages h with rfl | ⟨inner, hm, rfl | h⟩
    · exact hinitial
    · exact Nat.lt_trans (sizeOf_part hm) hinitial
    · exact Nat.lt_trans (sizeOf_part h) (Nat.lt_trans (sizeOf_part hm) hinitial)

-----------------------------------------------------------------------------------------
-- What emission comes to, and what it passes over
-----------------------------------------------------------------------------------------

/-- Emission of a node comes to another one, or to the node itself. -/
inductive Comes : Node → Node → Prop where
  | self (node : Node) : Comes node node
  | stage {outer inner : Node} {part : Part} (member : part ∈ outer.stages)
      (written : part.IsWritten) (below : Comes part.node inner)
    : Comes outer inner

/-- A node goes on behind the first declarator in the header of a loop that stands in a tree. -/
def GoesOnIn (node tree : Node) : Prop :=
  ∃ first rest keyword place test advance body location,
    forLoop (some (declaration (first :: rest) keyword place)) test advance body location
        ∈ tree.nodes
      ∧ node ∈ rest

/-- What goes on in a tree goes on in every tree around it. -/
theorem GoesOnIn.mono {node tree tree' : Node} (h : node.GoesOnIn tree) (ht : tree ∈ tree'.nodes)
    : node.GoesOnIn tree' := by
  obtain ⟨first, rest, keyword, place, test, advance, body, location, hm, hr⟩ := h
  exact ⟨first, rest, keyword, place, test, advance, body, location, nodes_subset ht hm, hr⟩

/-- A node stands in an argument of a method that takes none, which the text of a tree leaves
out. -/
def IsLeftOutOf (node tree : Node) : Prop :=
  ∃ callee arguments location method object argument,
    call callee arguments location ∈ tree.nodes
      ∧ callee.selected? = some (method, object)
      ∧ (method = .pop ∨ method = .shift ∨ method = .reverse)
      ∧ argument ∈ arguments ∧ node ∈ argument.nodes

/-- What is left out of a tree is left out of every tree around it. -/
theorem IsLeftOutOf.mono {node tree tree' : Node} (h : node.IsLeftOutOf tree)
    (ht : tree ∈ tree'.nodes)
    : node.IsLeftOutOf tree' := by
  obtain ⟨callee, arguments, location, method, object, argument, hm, h⟩ := h
  exact ⟨callee, arguments, location, method, object, argument, nodes_subset ht hm, h⟩

/-- Only the arguments of methods that take none are left out. -/
theorem isLeftOutOf_of_not_isWritten {node inner : Node} {part : Part} (hp : part ∈ node.parts)
    (unwritten : ¬ part.IsWritten) (h : inner ∈ part.node.nodes)
    : inner.IsLeftOutOf node := by
  -- All other kinds of parts are written at least once, so that they are ruled out.
  have one {outer : Node} (he : part = { node := outer }) : inner.IsLeftOutOf node :=
    absurd (he ▸ Nat.one_ne_zero) unwritten
  have each (nodes : List Node) (hm : part ∈ nodes.map fun node => { node })
      : inner.IsLeftOutOf node := by
    obtain ⟨outer, _, he⟩ := List.mem_map.mp hm
    exact one he.symm
  have body (outer : Node) (hm : part ∈ outer.bodyParts) : inner.IsLeftOutOf node := by
    obtain ⟨_, _, rfl⟩ := List.mem_map.mp hm
    exact absurd Nat.one_ne_zero unwritten
  cases node with
  | program _ location | declaration _ _ location | array _ location | returning _ location =>
      exact each _ hp
  | expressionStatement _ location | unary _ _ _ location | update _ _ _ location =>
      exact one (List.mem_singleton.mp hp)
  | binary _ left right location | logical _ left right location
  | assignment _ left right location =>
      exact each [left, right] hp
  | declarator _ _ location =>
      rcases List.mem_cons.mp hp with hp | hp
      · exact one hp
      · exact each _ hp
  | block statements location => exact body (.block statements location) hp
  | call callee arguments location =>
      cases hs : callee.selected? with
      | none =>
          simp only [parts, hs] at hp
          rcases List.mem_cons.mp hp with hp | hp
          · exact one hp
          · exact each _ hp
      | some selection =>
          obtain ⟨method, object⟩ := selection
          simp only [parts, hs] at hp
          rcases List.mem_cons.mp hp with rfl | hp
          · exact absurd method.objectCopies_ne_zero unwritten
          · exact ⟨callee, arguments, location, method, object, part.node, mem_nodes_self _, hs,
              method.takesNone hp unwritten, mem_of_mem_argumentParts hp, h⟩
  | member object property computed location =>
      cases computed with
      | true => exact each [object, property] hp
      | false =>
          rw [List.mem_singleton.mp hp] at unwritten
          exact absurd property.accessCopies_ne_zero unwritten
  | ifElse test consequent alternate location =>
      simp only [parts, List.cons_append, List.mem_cons, List.mem_append, List.mem_flatMap] at hp
      rcases hp with hp | hp | ⟨outer, _, hp⟩
      · exact one hp
      · exact body _ hp
      · unfold alternateParts at hp
        split at hp
        · exact one (List.mem_singleton.mp hp)
        · exact body _ hp
  | whileLoop test inner location =>
      rcases List.mem_cons.mp hp with hp | hp
      · exact one hp
      · exact body _ hp
  | forLoop _ _ _ inner location | function _ _ inner location =>
      rcases List.mem_append.mp hp with hp | hp
      · exact each _ hp
      · exact body _ hp
  | identifier _ _ | literal _ _ _ | parameter _ _ | unsupported _ _ _ | foreign _ _ =>
      exact absurd hp List.not_mem_nil

/-- A part of a node is a node of it. -/
theorem mem_nodes_of_part {node : Node} {part : Part} (h : part ∈ node.parts)
    : part.node ∈ node.nodes := by
  obtain ⟨child, hc, hp⟩ := exists_child_of_part h
  exact nodes_subset_of_child hc hp

/-- What comes next is a node of the node. -/
theorem mem_nodes_of_stage {node : Node} {part : Part} (h : part ∈ node.stages)
    : part.node ∈ node.nodes := by
  rcases mem_stages h with h | ⟨initial, hi, h⟩
  · exact mem_nodes_of_part h
  · have hinitial : initial.nodes ⊆ node.nodes := nodes_subset (mem_nodes_of_part hi)
    rcases mem_headerStages h with rfl | ⟨inner, hm, rfl | h⟩
    · exact hinitial initial.mem_nodes_self
    · exact hinitial (mem_nodes_of_part hm)
    · exact hinitial (nodes_subset (mem_nodes_of_part hm) (mem_nodes_of_part h))

-----------------------------------------------------------------------------------------
-- Declarators stand in a node itself or in a part of it
-----------------------------------------------------------------------------------------

section Declarator

variable {target : Node} {initial : Option Node} {place : Option Location}

/-- A declarator in a node that is no declarator itself stands in a child of it. -/
theorem exists_child {node : Node} (h : declarator target initial place ∈ node.nodes)
    : node = declarator target initial place
      ∨ ∃ child ∈ node.children, declarator target initial place ∈ child.nodes := by
  rw [nodes_eq, List.mem_cons, List.mem_flatMap] at h
  exact h.imp Eq.symm id

/-- There is no declarator in a name. -/
theorem not_mem_identifier {name : Text} {location : Option Location}
    : declarator target initial place ∉ (identifier name location).nodes := by
  intro h
  obtain he | ⟨_, hc, _⟩ := exists_child h
  · cases he
  · exact absurd hc List.not_mem_nil

/-- A declarator in a body is in one of its statements. -/
theorem exists_bodyPart {body : Node} (h : declarator target initial place ∈ body.nodes)
    : ∃ part ∈ body.bodyParts, declarator target initial place ∈ part.node.nodes := by
  cases body with
  | block statements location =>
      obtain hs | ⟨child, hc, h⟩ := exists_child h
      · cases hs
      · exact ⟨_, List.mem_map_of_mem hc, h⟩
  | _ => exact ⟨_, List.mem_map_of_mem List.mem_cons_self, h⟩

/-- A declarator in a branch is in one of its parts. -/
theorem exists_alternatePart {node : Node} (h : declarator target initial place ∈ node.nodes)
    : ∃ part ∈ node.alternateParts, declarator target initial place ∈ part.node.nodes := by
  unfold alternateParts
  split
  · exact ⟨_, List.mem_cons_self, h⟩
  · exact exists_bodyPart h

/-- Every argument of a method is one of its parts. -/
theorem exists_argumentPart (method : Fragment.Method) {arguments : List Node} {argument : Node}
    (hm : argument ∈ arguments)
    : ∃ part ∈ method.argumentParts arguments, part.node = argument := by
  by_cases hnone : method = .pop ∨ method = .shift ∨ method = .reverse
  · refine ⟨{ node := argument, copies := 0 }, ?_, rfl⟩
    rcases hnone with rfl | rfl | rfl <;> exact List.mem_map_of_mem hm
  · obtain ⟨part, hp, he, _⟩ := method.exists_argumentPart hnone hm
    exact ⟨part, hp, he⟩

/-- A declarator in a node that is not faulty is the node itself or stands in a part of it, by cases
on the node. -/
theorem exists_part {node : Node} {enclosed : Bool} (faultless : node.isFaulty enclosed = false)
    (h : declarator target initial place ∈ node.nodes)
    : node = declarator target initial place
      ∨ ∃ part ∈ node.parts, declarator target initial place ∈ part.node.nodes := by
  refine (exists_child h).imp id ?_
  clear h
  rintro ⟨child, hc, h⟩
  have each {nodes : List Node} (make : Node → Part) (same : ∀ inner, (make inner).node = inner)
      (hm : child ∈ nodes) (hsub : nodes.map make ⊆ node.parts)
      : ∃ part ∈ node.parts, declarator target initial place ∈ part.node.nodes := by
    refine ⟨make child, hsub (List.mem_map_of_mem hm), ?_⟩
    rw [same]
    exact h
  have body (hsub : child.bodyParts ⊆ node.parts)
      : ∃ part ∈ node.parts, declarator target initial place ∈ part.node.nodes := by
    obtain ⟨part, hm, hd⟩ := exists_bodyPart h
    exact ⟨part, hsub hm, hd⟩
  cases node with
  | program _ location | declaration _ _ location | array _ location | returning _ location
  | expressionStatement _ location | unary _ _ _ location | update _ _ _ location
  | binary _ _ _ location | logical _ _ _ location | assignment _ _ _ location
  | declarator _ _ location =>
      exact each (fun node => { node }) (fun _ => rfl) hc (List.Subset.refl _)
  | block _ location =>
      exact each (fun node => { node, enclosed := true }) (fun _ => rfl) hc (List.Subset.refl _)
  | call callee arguments location =>
      cases hs : callee.selected? with
      | none =>
          refine each (fun node => { node }) (fun _ => rfl) hc ?_
          simp only [parts, hs]
          exact List.Subset.refl _
      | some selection =>
          obtain ⟨method, object⟩ := selection
          simp only [parts, hs]
          rcases List.mem_cons.mp hc with rfl | hm
          -- The callee is no part, but the only declarators in it stand in the object.
          · obtain ⟨name, place', location', rfl, _⟩ := selected?_eq_some hs
            obtain he | ⟨inner, hi, hd⟩ := exists_child h
            · cases he
            · rcases List.mem_cons.mp hi with rfl | hi
              · exact ⟨_, List.mem_cons_self, hd⟩
              · rw [List.mem_singleton.mp hi] at hd
                exact absurd hd not_mem_identifier
          · obtain ⟨part, hp, rfl⟩ := exists_argumentPart method hm
            exact ⟨part, List.mem_cons_of_mem _ hp, h⟩
  | member object property computed location =>
      cases computed with
      | true => exact each (fun node => { node }) (fun _ => rfl) hc (List.Subset.refl _)
      | false =>
          rcases List.mem_cons.mp hc with rfl | hm
          · exact ⟨_, List.mem_cons_self, h⟩
          · rw [List.mem_singleton.mp hm] at h
            cases property with
            | identifier name place' => exact absurd h not_mem_identifier
            | _ => cases faultless
  | ifElse test consequent alternate location =>
      rcases List.mem_cons.mp hc with rfl | hc
      · exact ⟨_, List.mem_cons_self, h⟩
      · rcases List.mem_cons.mp hc with rfl | hc
        · exact body fun part hm => List.mem_cons_of_mem _ (List.mem_append_left _ hm)
        · obtain ⟨part, hm, hd⟩ := exists_alternatePart h
          have hpart := List.mem_flatMap.mpr ⟨child, hc, hm⟩
          exact ⟨part, List.mem_cons_of_mem _ (List.mem_append_right _ hpart), hd⟩
  | whileLoop test inner location =>
      rcases List.mem_cons.mp hc with rfl | hc
      · exact ⟨_, List.mem_cons_self, h⟩
      · rw [List.mem_singleton.mp hc] at body
        exact body fun part hm => List.mem_cons_of_mem _ hm
  | forLoop initial test advance inner location =>
      rcases List.mem_append.mp hc with hc | hc
      · exact each (fun node => { node }) (fun _ => rfl) hc (List.subset_append_left _ _)
      · rw [List.mem_singleton.mp hc] at body
        exact body (List.subset_append_right _ _)
  | function name parameters inner location =>
      rcases List.mem_append.mp hc with hc | hc
      · refine each (fun node => { node }) (fun _ => rfl) hc fun part hm => ?_
        obtain ⟨outer, ho, rfl⟩ := List.mem_map.mp hm
        refine List.mem_append_left _ (List.mem_map_of_mem ?_)
        rw [List.mem_append, List.mem_singleton]
        exact (List.mem_cons.mp ho).symm
      · rw [List.mem_singleton.mp hc] at body
        exact body (List.subset_append_right _ _)
  | identifier _ _ | literal _ _ _ | parameter _ _ | unsupported _ _ _ | foreign _ _ =>
      exact absurd hc List.not_mem_nil

/-- A declarator in one that goes on is that one, or in what comes next. -/
theorem exists_continuedStage {node : Node} (h : declarator target initial place ∈ node.nodes)
    : node = declarator target initial place
      ∨ ∃ part ∈ node.continuedStages,
          part.IsWritten ∧ declarator target initial place ∈ part.node.nodes := by
  cases node with
  | declarator target' initial' place' =>
      refine (exists_child h).imp id ?_
      rintro ⟨child, hc, hd⟩
      have hm := List.mem_map_of_mem (f := fun node => ({ node } : Part)) hc
      exact ⟨{ node := child }, hm, Nat.one_ne_zero, hd⟩
  | _ => exact .inr ⟨_, List.mem_cons_self, Nat.one_ne_zero, h⟩

/-- A declarator in the first slot of a header is in what comes next, or among the declarators
there. -/
theorem exists_headerStage {node : Node} (h : declarator target initial place ∈ node.nodes)
    : (∃ part ∈ node.headerStages,
        part.IsWritten ∧ declarator target initial place ∈ part.node.nodes)
      ∨ ∃ first rest keyword location,
          node = declaration (first :: rest) keyword location
            ∧ declarator target initial place ∈ rest := by
  cases node with
  | declaration declarations keyword location =>
      cases declarations with
      | nil => exact .inl ⟨_, List.mem_cons_self, Nat.one_ne_zero, h⟩
      | cons first rest =>
          obtain he | ⟨child, hc, hd⟩ := exists_child h
          · cases he
          · rcases List.mem_cons.mp hc with rfl | hc
            · exact .inl ⟨_, List.mem_cons_self, Nat.one_ne_zero, hd⟩
            -- A later declarator is passed over, but what stands in it is not.
            · obtain rfl | ⟨part, hp, hs⟩ := exists_continuedStage hd
              · exact .inr ⟨first, rest, keyword, location, rfl, hc⟩
              · have hm := List.mem_flatMap.mpr ⟨child, hc, hp⟩
                exact .inl ⟨part, List.mem_cons_of_mem _ hm, hs⟩
  | _ => exact .inl ⟨_, List.mem_cons_self, Nat.one_ne_zero, h⟩

/-- Emission comes to what stands in a written part, or passes over it in the header of a loop. -/
theorem exists_stage {node : Node} {part : Part} (hp : part ∈ node.parts) (written : part.IsWritten)
    (h : declarator target initial place ∈ part.node.nodes)
    : (∃ part ∈ node.stages, part.IsWritten ∧ declarator target initial place ∈ part.node.nodes)
      ∨ (declarator target initial place).GoesOnIn node := by
  cases node with
  | forLoop initial' test advance body location =>
      rcases List.mem_append.mp hp with hm | hm
      · obtain ⟨inner, hi, rfl⟩ := List.mem_map.mp hm
        rw [List.append_assoc] at hi
        rcases List.mem_append.mp hi with hi | hi
        · rcases exists_headerStage h with ⟨part, hm, hs⟩ | ⟨first, rest, keyword, _, rfl, hr⟩
          · refine .inl ⟨part, List.mem_append_left _ (List.mem_append_left _ ?_), hs⟩
            exact List.mem_flatMap.mpr ⟨inner, hi, hm⟩
          · rw [Option.mem_toList] at hi
            obtain rfl := hi
            exact .inr ⟨first, rest, keyword, _, test, advance, body, _, mem_nodes_self _, hr⟩
        · have hm := List.mem_map_of_mem (f := fun node => ({ node } : Part)) hi
          exact .inl ⟨_, List.mem_append_left _ (List.mem_append_right _ hm), written, h⟩
      · exact .inl ⟨part, List.mem_append_right _ hm, written, h⟩
  | _ => exact .inl ⟨part, hp, written, h⟩

end Declarator

end Node

namespace Fragment

-----------------------------------------------------------------------------------------
-- Emission comes to all declarators but those that it passes over
-----------------------------------------------------------------------------------------

/-- Where emission comes to without an error, there is none. -/
theorem not_anyFatal_stage {style : Style} {depth : Nat} {node : Node}
    (clean : anyFatal (notes style depth node) = false) {part : Part} (hm : part ∈ node.stages)
    (written : part.IsWritten)
    : anyFatal (notes style (depth + part.enclosed.toNat) part.node) = false := by
  have plain : ∀ {outer inner : Node}, anyFatal (notes style depth outer) = false
      → { node := inner } ∈ outer.parts → anyFatal (notes style depth inner) = false :=
    fun houter hi => not_anyFatal_part houter hi Nat.one_ne_zero
  rcases Node.mem_stages hm with hm | ⟨initial, hi, hm⟩
  · exact not_anyFatal_part clean hm written
  · have hinitial := plain clean hi
    rcases Node.mem_headerStages hm with rfl | ⟨inner, hi, rfl | hm⟩
    · exact hinitial
    · exact plain hinitial hi
    · exact not_anyFatal_part (plain hinitial hi) hm written

/-- Emission without an error comes to every declarator but those that go on in the header of a loop
and those in parts that are left out, by induction over the size of the node. -/
theorem comes_or_passes {style : Style} {depth : Nat} {node target : Node} {initial : Option Node}
    {place : Option Location} (clean : anyFatal (notes style depth node) = false)
    (h : .declarator target initial place ∈ node.nodes)
    : node.Comes (.declarator target initial place)
      ∨ (Node.declarator target initial place).GoesOnIn node
      ∨ (Node.declarator target initial place).IsLeftOutOf node := by
  obtain rfl | ⟨part, hp, hd⟩ := Node.exists_part (not_isFaulty clean) h
  · exact .inl (.self _)
  · by_cases written : part.IsWritten
    · obtain ⟨stage, hs, hw, hd⟩ | h := Node.exists_stage hp written hd
      · have hlt := Node.sizeOf_stage hs
        have hbelow := Node.mem_nodes_of_stage hs
        obtain h | h | h := comes_or_passes (not_anyFatal_stage clean hs hw) hd
        · exact .inl (.stage hs hw h)
        · exact .inr (.inl (h.mono hbelow))
        · exact .inr (.inr (h.mono hbelow))
      · exact .inr (.inl h)
    · exact .inr (.inr (Node.isLeftOutOf_of_not_isWritten hp written hd))
termination_by sizeOf node

end Fragment

end DeviceScript
