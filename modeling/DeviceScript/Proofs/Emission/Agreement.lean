import DeviceScript.Proofs.Emission.Notes
import DeviceScript.Proofs.Emission.Part
import DeviceScript.Proofs.Syntax.Nodes
import Mathlib.Data.List.Basic

/-! What the emission of a node depends on. Two runs on one node, perhaps at two depths and in two
styles, agree if they agree on the parts of the node and on what they read besides the parts: the
replaced names, the signs that would run together, and the names that messages cite.
-/

namespace DeviceScript

namespace Fragment

variable {style style' : Style} {depth depth' : Nat}

/-- A part is laid out alike in nodes at two depths and in two styles. -/
def AgreesAt (style style' : Style) (depth depth' : Nat) (part : Part) : Prop :=
  layout style (depth + part.enclosed.toNat) part.node
    = layout style' (depth' + part.enclosed.toNat) part.node

section Parts

variable (style style' depth depth')

/-- A part outside of braces agrees if its node has one layout. -/
theorem agreesAt_open (node : Node) (copies : Nat)
    : AgreesAt style style' depth depth' { node, copies }
      ↔ layout style depth node = layout style' depth' node :=
  Iff.rfl

/-- Parts of a list agree if its nodes have one layout each. -/
theorem agreesAt_each (nodes : List Node)
    : (∀ part ∈ nodes.map (fun node => ({ node } : Part)), AgreesAt style style' depth depth' part)
      ↔ ∀ node ∈ nodes, layout style depth node = layout style' depth' node := by
  rw [List.forall_mem_map]
  rfl

/-- A part that may be missing agrees if its node has one layout. -/
theorem agreesAt_optional (node : Option Node)
    : (∀ part ∈ node.toList.map (fun node => ({ node } : Part)),
          AgreesAt style style' depth depth' part)
      ↔ node.map (layout style depth) = node.map (layout style' depth') := by
  rw [agreesAt_each]
  cases node <;> simp

/-- The parts of a body agree if its statements have one layout each. -/
theorem agreesAt_body (body : Node)
    : (∀ part ∈ body.bodyParts, AgreesAt style style' depth depth' part)
      ↔ body.inner.map (layout style (depth + 1)) = body.inner.map (layout style' (depth' + 1)) := by
  rw [Node.bodyParts, List.forall_mem_map, List.map_inj_left]
  rfl

/-- An argument is laid out alike whether or not it is written. -/
theorem agreesAt_arguments (method : Method) (arguments : List Node)
    : (∀ part ∈ method.argumentParts arguments, AgreesAt style style' depth depth' part)
      ↔ ∀ node ∈ arguments, layout style depth node = layout style' depth' node := by
  cases method with
  | splice =>
      cases arguments with
      | nil => exact iff_of_true nofun nofun
      | cons start rest =>
          rw [Method.argumentParts, List.forall_mem_cons, agreesAt_each, List.forall_mem_cons]
          rfl
  | _ => exact List.forall_mem_map

end Parts

/-- Two tables give a node the same name of its own. -/
def RenamesAlike (shims shims' : ShimTable) (node : Node) : Prop :=
  replacement? shims node.dottedName? = replacement? shims' node.dottedName?

/-- A property that is written in a way of its own is no matter of names. -/
theorem propertyTree_congr {shims shims' : ShimTable} {node : Node}
    (h : RenamesAlike shims shims' node) (property : Node) (object : Cpp.Tree)
    : propertyTree shims node property object = propertyTree shims' node property object := by
  cases property with
  | identifier name location => rw [propertyTree, propertyTree, h]
  | _ => rfl

/-- The second branch has one layout if its parts agree. -/
theorem alternateLayout_congr (opening : Cpp.Tree) {node : Node}
    (h : ∀ part ∈ node.alternateParts, AgreesAt style style' depth depth' part)
    : alternateLayout style depth opening node = alternateLayout style' depth' opening node := by
  unfold alternateLayout
  unfold Node.alternateParts at h
  split at h
  · rename_i hif
    have hnode := (agreesAt_open style style' depth depth' node 1).mp (h _ List.mem_cons_self)
    rw [if_pos hif, if_pos hif, hnode]
  · rename_i hif
    rw [if_neg hif, if_neg hif, (agreesAt_body style style' depth depth' node).mp h]

/-- The layout in the first slot of a loop header is made of the parts of the layout elsewhere. -/
theorem continuedLayout_congr {node : Node} (h : layout style depth node = layout style' depth' node)
    : continuedLayout style depth node = continuedLayout style' depth' node := by
  cases node with
  | declarator target initial location =>
      rw [layout_declarator, layout_declarator] at h
      obtain ⟨_, ht, hi⟩ := Cpp.Tree.declarator.inj h
      rw [continuedLayout_declarator, continuedLayout_declarator, ht, hi]
  | _ => simpa only [continuedLayout] using h

/-- A part of a loop header has one layout if the node has one outside of it. -/
theorem headerLayout_congr {node : Node} (h : layout style depth node = layout style' depth' node)
    : headerLayout style depth node = headerLayout style' depth' node := by
  cases node with
  | declaration declarations keyword location =>
      cases declarations with
      | nil => rw [headerLayout, headerLayout]
      | cons first rest =>
          -- The declarators of the declaration stand in both layouts, so they are alike.
          rw [layout, layout] at h
          have heach := List.map_inj_left.mp (Cpp.Tree.declaration.inj h)
          have hrest : rest.map (continuedLayout style depth)
              = rest.map (continuedLayout style' depth') :=
            List.map_congr_left fun node hm =>
              continuedLayout_congr (heach node (List.mem_cons_of_mem _ hm))
          rw [headerLayout, headerLayout, hrest, heach first List.mem_cons_self]
  | _ => simpa only [headerLayout, Cpp.Tree.slot.injEq] using h

/-- The argument of an operation stands between parentheses in two styles or in neither. -/
def SignsAlike (style : Style) (indent : Text) (depth : Nat) : Node → Prop
  | .unary operator argument _ _ =>
    let tree := argument.placed Operator.leading false (layout style depth argument)
    unaryTree style.indent operator tree = unaryTree indent operator tree
  | _ => True

/-- With one indentation, signs are written alike. -/
theorem SignsAlike.refl (style : Style) (depth : Nat) (node : Node)
    : SignsAlike style style.indent depth node := by
  unfold SignsAlike
  split <;> trivial

/-- A node is laid out alike at two depths and in two styles if its parts are, if no name and no
sign makes a difference, and if both of the depths are inside braces or neither of them, which
matters only to a function. -/
theorem layout_congr {node : Node} (hd : node.kind? = some .function → (depth > 0 ↔ depth' > 0))
    (hn : ∀ inner ∈ node.nodes, RenamesAlike style.shims style'.shims inner)
    (hs : SignsAlike style style'.indent depth node)
    (h : ∀ part ∈ node.parts, AgreesAt style style' depth depth' part)
    : layout style depth node = layout style' depth' node := by
  cases node with
  | program body location | declaration body _ location =>
      simp only [Node.parts, agreesAt_each] at h
      rw [layout, layout, List.map_congr_left h]
  | block body location =>
      have hbody := (agreesAt_body style style' depth depth' (.block body location)).mp h
      rw [layout, layout]
      exact congrArg Cpp.Tree.block hbody
  | array elements location =>
      simp only [Node.parts, agreesAt_each] at h
      rw [layout_array, layout_array, List.map_congr_left fun node hm => by rw [h node hm]]
  | expressionStatement expression location | update _ expression _ location =>
      simp only [Node.parts, List.forall_mem_singleton, agreesAt_open] at h
      rw [layout, layout, h]
  | unary operator argument leading location =>
      simp only [Node.parts, List.forall_mem_singleton, agreesAt_open] at h
      rw [SignsAlike, h] at hs
      rw [layout, layout, h, hs]
  | binary operator left right location | logical operator left right location
  | assignment operator left right location =>
      simp only [Node.parts, List.forall_mem_cons, agreesAt_open] at h
      obtain ⟨hl, hr, _⟩ := h
      rw [layout, layout, hl, hr]
  | member object property computed location =>
      cases computed with
      | true =>
          simp only [Node.parts, if_true, List.forall_mem_cons, agreesAt_open] at h
          obtain ⟨ho, hp, _⟩ := h
          rw [layout, layout, ho, hp, if_pos rfl, if_pos rfl]
      | false =>
          -- The name of a property is not laid out.
          have ho : layout style depth object = layout style' depth' object :=
            h _ List.mem_cons_self
          simp only [layout, ho, Bool.false_eq_true, if_false]
          exact propertyTree_congr (hn _ (Node.mem_nodes_self _)) property _
  | call callee arguments location =>
      simp only [Node.parts] at h
      cases hs : callee.selected? with
      | none =>
          simp only [hs, List.forall_mem_cons, agreesAt_open, agreesAt_each] at h
          obtain ⟨hc, ha⟩ := h
          have hname : RenamesAlike style.shims style'.shims callee :=
            hn callee (Node.mem_nodes_of_child List.mem_cons_self)
          rw [layout_ordinary _ _ _ _ hs, layout_ordinary _ _ _ _ hs, hc, hname,
            List.map_congr_left fun node hm => by rw [ha node hm]]
      | some selection =>
          obtain ⟨method, object⟩ := selection
          simp only [hs, List.forall_mem_cons, agreesAt_open, agreesAt_arguments] at h
          obtain ⟨ho, ha⟩ := h
          rw [layout_selected _ _ _ _ hs, layout_selected _ _ _ _ hs, ho,
            List.map_congr_left fun node hm => by rw [ha node hm]]
  | declarator target initial location =>
      simp only [Node.parts, List.forall_mem_cons, agreesAt_open, agreesAt_optional] at h
      obtain ⟨ht, hi⟩ := h
      rw [layout_declarator, layout_declarator, ht, hi]
  | ifElse test consequent alternate location =>
      simp only [Node.parts, List.cons_append, List.forall_mem_cons, List.forall_mem_append,
        agreesAt_open, agreesAt_body] at h
      obtain ⟨ht, hc, ha⟩ := h
      rw [layout_ifElse, layout_ifElse, ht, hc]
      cases alternate with
      | none => rfl
      | some node =>
          refine alternateLayout_congr _ fun part hm => ha part ?_
          exact List.mem_flatMap.mpr ⟨node, List.mem_cons_self, hm⟩
  | whileLoop test body location =>
      simp only [Node.parts, List.forall_mem_cons, agreesAt_open, agreesAt_body] at h
      obtain ⟨ht, hb⟩ := h
      rw [layout_whileLoop, layout_whileLoop, ht, hb]
  | forLoop initial test advance body location =>
      simp only [Node.parts, List.map_append, List.forall_mem_append, agreesAt_optional,
        agreesAt_body] at h
      obtain ⟨⟨⟨hi, ht⟩, ha⟩, hb⟩ := h
      have hheader : initial.map (headerLayout style depth)
          = initial.map (headerLayout style' depth') := by
        cases initial with
        | none => rfl
        | some node => exact congrArg some (headerLayout_congr (Option.some.inj hi))
      rw [layout_forLoop, layout_forLoop, hheader, ht, ha, hb]
  | function name parameters body location =>
      simp only [Node.parts, List.map_append, List.forall_mem_append, agreesAt_each,
        List.map_singleton, List.forall_mem_singleton, agreesAt_open, agreesAt_body] at h
      obtain ⟨⟨hp, hn⟩, hb⟩ := h
      rw [layout_function, layout_function, List.map_congr_left hp, hn, hb]
      simp only [hd rfl]
  | returning argument location =>
      simp only [Node.parts, agreesAt_optional] at h
      rw [layout_returning, layout_returning, h]
  | identifier _ _ | literal _ _ _ | parameter _ _ | unsupported _ _ _ | foreign _ _ =>
      rw [layout, layout]

/-- A tree is laid out alike in two styles if all of its nodes are, the parts of each apart. -/
theorem layout_eq_of_alike {node : Node}
    (hn : ∀ inner ∈ node.nodes, RenamesAlike style.shims style'.shims inner)
    (hs : ∀ inner ∈ node.nodes, ∀ depth, SignsAlike style style'.indent depth inner) (depth : Nat)
    : layout style depth node = layout style' depth node := by
  induction node using Node.induct_nodes generalizing depth with
  | step node ih =>
      refine layout_congr (fun _ => Iff.rfl) hn (hs node node.mem_nodes_self depth) ?_
      intro part hm
      obtain ⟨child, hc, hpart⟩ := Node.exists_child_of_part hm
      have hsub : part.node.nodes ⊆ node.nodes :=
        Node.nodes_subset (Node.nodes_subset_of_child hc hpart)
      exact ih child hc part.node hpart (fun inner hi => hn inner (hsub hi))
        (fun inner hi => hs inner (hsub hi)) _

/-- What two styles make messages cite is the same: the name that a declarator introduces, and the
type that declarators share in a loop header. -/
def CitesAlike (style style' : Style) (depth : Nat) : Node → Prop
  | .declarator target _ _ => text style depth target = text style' depth target
  | .declaration (first :: rest) keyword location =>
    let shared (style : Style) : List Note :=
      sharedNotes (.declaration (first :: rest) keyword location) (rest.length + 1)
        [text style depth first]
    shared style = shared style'
  | _ => True

/-- What is cited is alike if the texts of the nodes directly below are. -/
theorem citesAlike_of_text {node : Node}
    (h : ∀ child ∈ node.children, text style depth child = text style' depth child)
    : CitesAlike style style' depth node := by
  unfold CitesAlike
  split
  · exact h _ List.mem_cons_self
  · simp only [h _ List.mem_cons_self]
  · trivial

/-- A name that is replaced alike has the same notes. -/
theorem nameNotes_congr {shims shims' : ShimTable} {node : Node}
    (h : RenamesAlike shims shims' node)
    : nameNotes shims node.dottedName? = nameNotes shims' node.dottedName? := by
  unfold RenamesAlike at h
  cases hname : node.dottedName? with
  | none => rfl
  | some source =>
      have hlookup : shims.lookup? source = shims'.lookup? source := by
        rwa [hname] at h
      rw [nameNotes, nameNotes, hlookup]

/-- A property whose name is replaced alike has the same notes. -/
theorem propertyNotes_congr {shims shims' : ShimTable} {node : Node}
    (h : RenamesAlike shims shims' node) (property : Node)
    : propertyNotes shims node property = propertyNotes shims' node property := by
  cases property with
  | identifier name location => rw [propertyNotes, propertyNotes, nameNotes_congr h]
  | _ => rfl

/-- A node that may be missing has the same notes if it has them where it is there. -/
theorem optionalNotes_congr {node : Option Node} {f g : Node → List Note}
    (h : ∀ inner ∈ node.toList, f inner = g inner)
    : node.elim [] f = node.elim [] g := by
  cases node with
  | none => rfl
  | some inner => exact h inner List.mem_cons_self

/-- A body has the same notes if its statements have them. -/
theorem bodyNotes_congr {body : Node} {f g : Node → List Note}
    (h : ∀ inner ∈ body.nodes, f inner = g inner)
    : body.inner.flatMap f = body.inner.flatMap g :=
  List.flatMap_congr fun inner hm => h inner (Node.mem_nodes_of_inner hm)

/-- The second branch has the same notes if all nodes in it have them. -/
theorem alternateNotes_congr {node : Node}
    (h : ∀ inner ∈ node.nodes, ∀ depth, notes style depth inner = notes style' depth inner)
    : alternateNotes style depth node = alternateNotes style' depth node := by
  unfold alternateNotes
  split
  · exact h node node.mem_nodes_self depth
  · exact bodyNotes_congr fun inner hm => h inner hm (depth + 1)

/-- A declarator behind the first one has the same notes if all nodes in it have them. -/
theorem continuedNotes_congr {node : Node}
    (h : ∀ inner ∈ node.nodes, ∀ depth, notes style depth inner = notes style' depth inner)
    : continuedNotes style depth node = continuedNotes style' depth node := by
  cases node with
  | declarator target initial location =>
      have hchild : ∀ child ∈ target :: initial.toList,
          notes style depth child = notes style' depth child :=
        fun child hm => h child (Node.mem_nodes_of_child hm) depth
      rw [continuedNotes_declarator, continuedNotes_declarator, hchild target List.mem_cons_self,
        optionalNotes_congr fun inner hm => hchild inner (List.mem_cons_of_mem _ hm)]
  | _ => simpa only [continuedNotes] using h _ (Node.mem_nodes_self _) depth

/-- Only the first part of a declaration in a loop header tells the type that is shared. -/
theorem headerNotes_congr {node : Node}
    (h : ∀ inner ∈ node.nodes, ∀ depth, notes style depth inner = notes style' depth inner)
    (hc : CitesAlike style style' depth node)
    : headerNotes style depth node = headerNotes style' depth node := by
  cases node with
  | declaration declarations keyword location =>
      cases declarations with
      | nil => rw [headerNotes, headerNotes]
      | cons first rest =>
          have hchild : ∀ child ∈ first :: rest, child.nodes
              ⊆ (Node.declaration (first :: rest) keyword location).nodes :=
            fun child hm => Node.nodes_subset_of_child hm
          have hfirst := h first (hchild first List.mem_cons_self first.mem_nodes_self) depth
          have hrest : rest.flatMap (continuedNotes style depth)
              = rest.flatMap (continuedNotes style' depth) := by
            refine List.flatMap_congr fun child hm => continuedNotes_congr fun inner hi => ?_
            exact h inner (hchild child (List.mem_cons_of_mem _ hm) hi)
          rw [headerNotes, headerNotes, hfirst, hrest]
          exact congrArg _ hc
  | _ => simpa only [headerNotes] using h _ (Node.mem_nodes_self _) depth

/-- A tree is noted alike in two styles if they rename its nodes alike and make messages cite the
same, by induction over the tree. -/
theorem notes_eq_of_alike {node : Node}
    (hn : ∀ inner ∈ node.nodes, RenamesAlike style.shims style'.shims inner)
    (hc : ∀ inner ∈ node.nodes, ∀ depth, CitesAlike style style' depth inner) (depth : Nat)
    : notes style depth node = notes style' depth node := by
  induction node using Node.induct_nodes generalizing depth with
  | step node ih =>
      have small : ∀ child ∈ node.children, ∀ inner ∈ child.nodes, ∀ depth,
          notes style depth inner = notes style' depth inner := by
        intro child hm inner hi
        have hsub : inner.nodes ⊆ node.nodes :=
          Node.nodes_subset (Node.nodes_subset_of_child hm hi)
        exact ih child hm inner hi (fun inner hi => hn inner (hsub hi))
          (fun inner hi => hc inner (hsub hi))
      have hchild : ∀ child ∈ node.children, ∀ depth,
          notes style depth child = notes style' depth child :=
        fun child hm => small child hm child child.mem_nodes_self
      have hname := hn node node.mem_nodes_self
      have hcited := hc node node.mem_nodes_self depth
      cases node with
      | program body location | declaration body _ location =>
          rw [notes, notes]
          exact List.flatMap_congr fun child hm => hchild child hm depth
      | block body location =>
          rw [notes, notes]
          exact List.flatMap_congr fun child hm => hchild child hm (depth + 1)
      | array elements location =>
          have he : ∀ element ∈ elements.filterMap id,
              notes style depth element = notes style' depth element :=
            fun element hm => hchild element hm depth
          rw [notes_array, notes_array, List.flatMap_congr he]
      | expressionStatement inner location | unary _ inner _ location
      | update _ inner _ location =>
          rw [notes, notes, hchild inner List.mem_cons_self]
      | binary operator left right location | logical operator left right location
      | assignment operator left right location =>
          rw [notes, notes, hchild left List.mem_cons_self,
            hchild right (List.mem_cons_of_mem _ List.mem_cons_self)]
      | member object property computed location =>
          rw [notes, notes, hchild object List.mem_cons_self, propertyNotes_congr hname,
            hchild property (List.mem_cons_of_mem _ List.mem_cons_self)]
      | call callee arguments location =>
          have hcallee := small callee List.mem_cons_self
          have ha : ∀ argument ∈ arguments,
              notes style depth argument = notes style' depth argument :=
            fun argument hm => hchild argument (List.mem_cons_of_mem _ hm) depth
          cases hs : callee.selected? with
          | none =>
              have hrename : RenamesAlike style.shims style'.shims callee :=
                hn callee (Node.mem_nodes_of_child List.mem_cons_self)
              rw [notes_ordinary _ _ _ _ hs, notes_ordinary _ _ _ _ hs, List.flatMap_congr ha,
                nameNotes_congr hrename, hrename, hcallee callee callee.mem_nodes_self]
          | some selection =>
              obtain ⟨method, object⟩ := selection
              rw [notes_selected _ _ _ _ hs, notes_selected _ _ _ _ hs,
                hcallee object (Node.mem_nodes_of_selected? hs), List.map_congr_left ha]
      | declarator target initial location =>
          have hi : ∀ value ∈ initial.toList, notes style depth value = notes style' depth value :=
            fun value hm => hchild value (List.mem_cons_of_mem _ hm) depth
          rw [CitesAlike] at hcited
          rw [notes_declarator, notes_declarator, hchild target List.mem_cons_self, hcited,
            optionalNotes_congr fun value hm => by rw [hi value hm]]
      | ifElse test consequent alternate location =>
          have hconsequent : ∀ inner ∈ consequent.nodes, ∀ depth,
              notes style depth inner = notes style' depth inner :=
            small consequent (List.mem_cons_of_mem _ List.mem_cons_self)
          have halternate : alternate.elim [] (alternateNotes style depth)
              = alternate.elim [] (alternateNotes style' depth) := by
            refine optionalNotes_congr fun inner hm => alternateNotes_congr (small inner ?_)
            exact List.mem_cons_of_mem _ (List.mem_cons_of_mem _ hm)
          rw [notes_ifElse, notes_ifElse, hchild test List.mem_cons_self, halternate,
            bodyNotes_congr fun inner hm => hconsequent inner hm (depth + 1)]
      | whileLoop test body location =>
          have hbody := small body (List.mem_cons_of_mem _ List.mem_cons_self)
          rw [notes_whileLoop, notes_whileLoop, hchild test List.mem_cons_self,
            bodyNotes_congr fun inner hm => hbody inner hm (depth + 1)]
      | forLoop initial test advance body location =>
          have hslot : ∀ slot ∈ initial.toList ++ test.toList ++ advance.toList,
              slot ∈ (Node.forLoop initial test advance body location).children :=
            fun slot hm => List.mem_append_left _ hm
          have hi : initial.elim [] (headerNotes style depth)
              = initial.elim [] (headerNotes style' depth) := by
            refine optionalNotes_congr fun slot hm => ?_
            have hmem := hslot slot (List.mem_append_left _ (List.mem_append_left _ hm))
            exact headerNotes_congr (small slot hmem)
              (hc slot (Node.mem_nodes_of_child hmem) depth)
          have ht : ∀ slot ∈ test.toList, notes style depth slot = notes style' depth slot :=
            fun slot hm =>
              hchild slot (hslot slot (List.mem_append_left _ (List.mem_append_right _ hm))) depth
          have ha : ∀ slot ∈ advance.toList, notes style depth slot = notes style' depth slot :=
            fun slot hm => hchild slot (hslot slot (List.mem_append_right _ hm)) depth
          have hbody := small body (List.mem_append_right _ List.mem_cons_self)
          rw [notes_forLoop, notes_forLoop, hi, optionalNotes_congr ht, optionalNotes_congr ha,
            bodyNotes_congr fun inner hm => hbody inner hm (depth + 1)]
      | function name parameters body location =>
          have hp : ∀ parameter ∈ parameters,
              notes style depth parameter = notes style' depth parameter := by
            intro parameter hm
            exact hchild parameter (List.mem_append_left _ (List.mem_cons_of_mem _ hm)) depth
          have hbody := small body (List.mem_append_right _ List.mem_cons_self)
          rw [notes_function, notes_function, List.flatMap_congr hp,
            hchild name (List.mem_append_left _ List.mem_cons_self),
            bodyNotes_congr fun inner hm => hbody inner hm (depth + 1)]
      | returning argument location =>
          rw [notes_returning, notes_returning]
          exact optionalNotes_congr fun value hm => hchild value hm depth
      | identifier _ _ | literal _ _ _ | parameter _ _ | unsupported _ _ _ | foreign _ _ =>
          rw [notes, notes]

end Fragment

end DeviceScript
