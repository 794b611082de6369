import DeviceScript.Proofs.Cpp.Draft
import DeviceScript.Proofs.Emission.Agreement

/-! The tree of every node has a spelling whose indentation is left open, if no name and no operator
of the node and no name that replaces another holds a line break.
-/

namespace DeviceScript

open Cpp (Tree)

/-- No name that the table puts in the place of another holds a line break. -/
def ShimTable.IsUnbroken (shims : ShimTable) : Prop :=
  ∀ entry ∈ shims.entries, .scalar '\n' ∉ entry.2

namespace Node

/-- The names and operators that a node adds to those below it. -/
def words : Node → List Text
  | identifier name _ | parameter name _ => [name]
  | binary operator _ _ _ | logical operator _ _ _ | unary operator _ _ _
  | update operator _ _ _ | assignment operator _ _ _ => [operator]
  | _ => []

/-- No name and no operator of the tree holds a line break. -/
def IsUnbroken (node : Node) : Prop :=
  ∀ inner ∈ node.nodes, ∀ word ∈ inner.words, .scalar '\n' ∉ word

/-- What is in an unbroken tree is unbroken. -/
theorem IsUnbroken.of_mem_nodes {node inner : Node} (h : node.IsUnbroken)
    (hm : inner ∈ node.nodes)
    : inner.IsUnbroken :=
  fun other ho => h other (nodes_subset hm ho)

/-- A tree with its parentheses has a draft if it has one without them. -/
theorem isDrafted_placed {tree : Tree} (h : tree.IsDrafted) (node : Node) (strength : Nat)
    (right : Bool)
    : (node.placed strength right tree).IsDrafted := by
  unfold placed
  split
  · exact Tree.isDrafted_group h
  · exact h

end Node

namespace Fragment

/-- No type that is declared has a line break in it. -/
theorem not_mem_declaredType (initial : Option Node) : .scalar '\n' ∉ declaredType initial := by
  have hvector : ∀ type : ElementType,
      .scalar '\n' ∉ ("std::vector<" ++ type.spelling ++ ">" : Text) := by
    intro type
    cases type <;> decide
  unfold declaredType
  split
  · exact hvector _
  · decide
  · decide

/-- The receiver of a method has a draft, with parentheses or without. -/
theorem isDrafted_methodPlaced {tree : Tree} (h : tree.IsDrafted) (method : Method) (node : Node)
    : (method.placed node tree).IsDrafted := by
  cases method <;> exact Node.isDrafted_placed h node _ _

/-- A literal has a draft. -/
theorem isDrafted_literalTree (value : Literal) : (literalTree value).IsDrafted := by
  cases value with
  | text value => exact Tree.isDrafted_string value
  | boolean value => cases value <;> exact Tree.isDrafted_word (by decide)
  | integer value => exact Tree.isDrafted_number (Cpp.isPhrase_ofInt value).quiet.not_mem
  | null => exact Tree.isDrafted_word (by decide)
  | real number =>
      cases number with
      | finite negative size =>
          exact Tree.isDrafted_number (Cpp.isPhrase_real negative size).quiet.not_mem
      | _ => exact Tree.isDrafted_absent

/-- The translation of an operator has no line break if the operator has none. -/
theorem not_mem_spelling {operator : Text} (h : .scalar '\n' ∉ operator)
    : .scalar '\n' ∉ Operator.spelling operator := by
  unfold Operator.spelling
  split
  · decide
  split
  · decide
  · exact h

/-- An operation has a draft if both of its operands have one. -/
theorem isDrafted_operationTree {operator : Text} (ho : .scalar '\n' ∉ operator)
    {left right : Tree} (hl : left.IsDrafted) (hr : right.IsDrafted)
    : (operationTree operator left right).IsDrafted := by
  unfold operationTree
  split
  · exact Tree.isDrafted_absent
  · exact Tree.isDrafted_binary (not_mem_spelling ho) hl hr

/-- An operation with one operand has a draft if the operand has one. -/
theorem isDrafted_unaryTree {operator : Text} (ho : .scalar '\n' ∉ operator) {argument : Tree}
    (h : argument.IsDrafted) (indent : Text)
    : (unaryTree indent operator argument).IsDrafted := by
  unfold unaryTree
  refine Tree.isDrafted_unary ho ?_
  split
  · exact Tree.isDrafted_group h
  · exact h

/-- A name that replaces another one has no line break. -/
theorem not_mem_replacement {shims : ShimTable} (hshims : shims.IsUnbroken) {name : Option Text}
    {target : Text} (h : replacement? shims name = some target)
    : .scalar '\n' ∉ target := by
  obtain ⟨source, hm⟩ := exists_entry h
  exact hshims (source, target) hm

/-- A property has a draft if its object has one. -/
theorem isDrafted_propertyTree {shims : ShimTable} (hshims : shims.IsUnbroken) (node : Node)
    {property : Node} (hp : ∀ word ∈ property.words, .scalar '\n' ∉ word) {object : Tree}
    (h : object.IsDrafted)
    : (propertyTree shims node property object).IsDrafted := by
  cases property with
  | identifier name location =>
      rw [propertyTree]
      cases ha : object.property? name with
      | some access => exact Tree.isDrafted_property? h ha
      | none =>
          simp only
          split
          · exact h
          · cases hr : replacement? shims node.dottedName? with
            | some target => exact Tree.isDrafted_qualified (not_mem_replacement hshims hr)
            | none => exact Tree.isDrafted_scope h (hp name List.mem_cons_self)
  | _ => exact Tree.isDrafted_absent

section Parts

variable {style : Style} {node : Node}
  (h : ∀ inner ∈ node.nodes, ∀ depth, (layout style depth inner).IsDrafted)

include h

/-- The second branch has a draft behind what opens it. -/
theorem isDrafted_alternateLayout {opening : Tree} (ho : opening.IsDrafted) (depth : Nat)
    : (alternateLayout style depth opening node).IsDrafted := by
  unfold alternateLayout
  split
  · exact Tree.isDrafted_chain ho (h node node.mem_nodes_self depth)
  · refine Tree.isDrafted_otherwise (fun tree hm => ?_) ho
    obtain ⟨inner, hi, rfl⟩ := List.mem_map.mp hm
    exact h inner (Node.mem_nodes_of_inner hi) (depth + 1)

/-- A declarator behind the first one has a draft. -/
theorem isDrafted_continuedLayout (depth : Nat) : (continuedLayout style depth node).IsDrafted := by
  cases node with
  | declarator target initial location =>
      have hchild : ∀ child ∈ target :: initial.toList, (layout style depth child).IsDrafted :=
        fun child hm => h child (Node.mem_nodes_of_child hm) depth
      rw [continuedLayout_declarator]
      refine Tree.isDrafted_declarator nofun (hchild target List.mem_cons_self) fun tree hm => ?_
      obtain ⟨value, hv, rfl⟩ := Option.map_eq_some_iff.mp hm
      exact hchild value (List.mem_cons_of_mem _ (Option.mem_toList.mpr hv))
  | _ => simpa only [continuedLayout] using h _ (Node.mem_nodes_self _) depth

/-- A semicolon is dropped from a node in the first slot of a loop header, unless the node is a
declaration. -/
theorem isSlotted_headerLayout (depth : Nat) : (headerLayout style depth node).IsSlotted := by
  cases node with
  | declaration declarations keyword location =>
      refine Tree.IsDrafted.isSlotted ?_
      cases declarations with
      | nil =>
          rw [headerLayout]
          exact Tree.isDrafted_heading (List.forall_mem_nil _)
      | cons first rest =>
          rw [headerLayout]
          refine Tree.isDrafted_heading (List.forall_mem_cons.mpr ⟨?_, fun tree hm => ?_⟩)
          · exact h first (Node.mem_nodes_of_child List.mem_cons_self) depth
          · obtain ⟨child, hc, rfl⟩ := List.mem_map.mp hm
            have hsub : child.nodes ⊆ (Node.declaration (first :: rest) keyword location).nodes :=
              Node.nodes_subset_of_child (List.mem_cons_of_mem first hc)
            exact isDrafted_continuedLayout (fun inner hi => h inner (hsub hi)) depth
  | _ =>
      simpa only [headerLayout] using Tree.isSlotted_slot (h _ (Node.mem_nodes_self _) depth)

end Parts

section Layout

variable {style : Style} (hshims : style.shims.IsUnbroken)

include hshims

/-- The tree of a node comes of one draft, by induction over the node. -/
theorem isDrafted_layout {node : Node} (h : node.IsUnbroken) (depth : Nat)
    : (layout style depth node).IsDrafted := by
  induction node using Node.induct_nodes generalizing depth with
  | step node ih =>
      have small : ∀ child ∈ node.children, ∀ inner ∈ child.nodes, ∀ depth,
          (layout style depth inner).IsDrafted := by
        intro child hc inner hm
        have hsub := Node.nodes_subset_of_child hc
        exact ih child hc inner hm (h.of_mem_nodes (hsub hm))
      have hchild : ∀ child ∈ node.children, ∀ depth, (layout style depth child).IsDrafted :=
        fun child hc => small child hc child child.mem_nodes_self
      have each : ∀ {nodes : List Node}, nodes ⊆ node.children → ∀ depth,
          ∀ tree ∈ nodes.map (layout style depth), tree.IsDrafted := by
        intro nodes hsub depth tree hm
        obtain ⟨child, hc, rfl⟩ := List.mem_map.mp hm
        exact hchild child (hsub hc) depth
      -- A body may stand between braces of its own, which its statements are taken out of.
      have body : ∀ {outer : Node}, outer ∈ node.children →
          ∀ tree ∈ outer.inner.map (layout style (depth + 1)), tree.IsDrafted := by
        intro outer hc tree hm
        obtain ⟨inner, hi, rfl⟩ := List.mem_map.mp hm
        exact small outer hc inner (Node.mem_nodes_of_inner hi) _
      have hwords : ∀ word ∈ node.words, .scalar '\n' ∉ word := h node node.mem_nodes_self
      cases node with
      | program statements location =>
          rw [layout]
          exact Tree.isDrafted_unit (each (List.Subset.refl _) depth)
      | block statements location =>
          rw [layout]
          exact Tree.isDrafted_block (each (List.Subset.refl _) (depth + 1))
      | declaration declarations keyword location =>
          rw [layout]
          exact Tree.isDrafted_declaration (each (List.Subset.refl _) depth)
      | expressionStatement expression location =>
          rw [layout]
          exact Tree.isDrafted_simple (hchild expression List.mem_cons_self depth)
      | identifier name location =>
          rw [layout]
          exact Tree.isDrafted_word (hwords name List.mem_cons_self)
      | parameter name location =>
          rw [layout]
          exact Tree.isDrafted_parameter (hwords name List.mem_cons_self)
      | literal value raw location =>
          rw [layout]
          exact isDrafted_literalTree value
      | unsupported _ _ _ | foreign _ _ =>
          rw [layout]
          exact Tree.isDrafted_absent
      | array elements location =>
          rw [layout_array]
          split
          · exact Tree.isDrafted_absent
          · refine Tree.isDrafted_list fun tree hm => ?_
            obtain ⟨element, he, rfl⟩ := List.mem_map.mp hm
            exact Node.isDrafted_placed (hchild element he depth) element _ _
      | binary operator left right location | logical operator left right location =>
          have hright := hchild right (List.mem_cons_of_mem _ List.mem_cons_self) depth
          rw [layout]
          exact isDrafted_operationTree (hwords operator List.mem_cons_self)
            (Node.isDrafted_placed (hchild left List.mem_cons_self depth) left _ _)
            (Node.isDrafted_placed hright right _ _)
      | assignment operator left right location =>
          have hright := hchild right (List.mem_cons_of_mem _ List.mem_cons_self) depth
          rw [layout]
          split
          · exact Tree.isDrafted_absent
          · exact Tree.isDrafted_assign (hwords operator List.mem_cons_self)
              (hchild left List.mem_cons_self depth) (Node.isDrafted_placed hright right _ _)
      | unary operator argument leading location =>
          have hargument := hchild argument List.mem_cons_self depth
          rw [layout]
          split
          · exact Tree.isDrafted_absent
          · exact isDrafted_unaryTree (hwords operator List.mem_cons_self)
              (Node.isDrafted_placed hargument argument _ _) _
      | update operator argument leading location =>
          have hargument := hchild argument List.mem_cons_self depth
          rw [layout]
          exact Tree.isDrafted_update (hwords operator List.mem_cons_self)
            (Node.isDrafted_placed hargument argument _ _) leading
      | member object property computed location =>
          have hproperty : property ∈ (Node.member object property computed location).children :=
            List.mem_cons_of_mem _ List.mem_cons_self
          have hobject := Node.isDrafted_placed (hchild object List.mem_cons_self depth) object
            Operator.primary false
          simp only [layout]
          split
          · exact Tree.isDrafted_index hobject (hchild property hproperty depth)
          · exact isDrafted_propertyTree hshims _ (h property (Node.mem_nodes_of_child hproperty))
              hobject
      | call callee arguments location =>
          cases hs : callee.selected? with
          | none =>
              have hcallee : (((replacement? style.shims callee.dottedName?).map Tree.qualified).getD
                  (callee.placed Operator.primary false (layout style depth callee))).IsDrafted := by
                cases hr : replacement? style.shims callee.dottedName? with
                | some target => exact Tree.isDrafted_qualified (not_mem_replacement hshims hr)
                | none =>
                    exact Node.isDrafted_placed (hchild callee List.mem_cons_self depth) callee _ _
              rw [layout_ordinary _ _ _ _ hs]
              refine Tree.isDrafted_call hcallee fun tree hm => ?_
              obtain ⟨argument, ha, rfl⟩ := List.mem_map.mp hm
              exact Node.isDrafted_placed (hchild argument (List.mem_cons_of_mem _ ha) depth) _ _ _
          | some selection =>
              obtain ⟨method, object⟩ := selection
              have hobject :=
                small callee List.mem_cons_self object (Node.mem_nodes_of_selected? hs) depth
              rw [layout_selected _ _ _ _ hs]
              refine Tree.isDrafted_method (Node.isDrafted_placed hobject object _ _) method ?_
              intro tree hm
              obtain ⟨argument, ha, rfl⟩ := List.mem_map.mp hm
              exact isDrafted_methodPlaced (hchild argument (List.mem_cons_of_mem _ ha) depth) _ _
      | declarator target initial location =>
          rw [layout_declarator]
          refine Tree.isDrafted_declarator ?_ (hchild target List.mem_cons_self depth) ?_
          · intro type ht
            rw [← Option.some.inj ht]
            exact not_mem_declaredType initial
          · intro tree hm
            obtain ⟨value, hv, rfl⟩ := Option.map_eq_some_iff.mp hm
            exact hchild value (List.mem_cons_of_mem _ (Option.mem_toList.mpr hv)) depth
      | returning argument location =>
          rw [layout_returning]
          refine Tree.isDrafted_returning fun tree hm => ?_
          obtain ⟨value, hv, rfl⟩ := Option.map_eq_some_iff.mp hm
          exact hchild value (Option.mem_toList.mpr hv) depth
      | whileLoop test inner location =>
          rw [layout_whileLoop]
          exact Tree.isDrafted_whileLoop (body (List.mem_cons_of_mem _ List.mem_cons_self))
            (hchild test List.mem_cons_self depth)
      | ifElse test consequent alternate location =>
          have hopening := Tree.isDrafted_conditional
            (body (List.mem_cons_of_mem _ List.mem_cons_self)) (hchild test List.mem_cons_self depth)
          rw [layout_ifElse]
          cases alternate with
          | none => exact hopening
          | some node =>
              have hnode := List.mem_cons_of_mem test (List.mem_cons_of_mem consequent
                (List.mem_singleton_self node))
              exact isDrafted_alternateLayout (small node hnode) hopening depth
      | forLoop initial test advance inner location =>
          have hslots : ∀ slot ∈ initial.toList ++ test.toList ++ advance.toList,
              slot ∈ (Node.forLoop initial test advance inner location).children :=
            fun slot hm => List.mem_append_left _ hm
          rw [layout_forLoop]
          refine Tree.isDrafted_forLoop (body (List.mem_append_right _ List.mem_cons_self)) ?_ ?_ ?_
          · intro tree hm
            obtain ⟨slot, hs, rfl⟩ := Option.map_eq_some_iff.mp hm
            refine isSlotted_headerLayout (small slot (hslots slot ?_)) depth
            exact List.mem_append_left _ (List.mem_append_left _ (Option.mem_toList.mpr hs))
          · intro tree hm
            obtain ⟨slot, hs, rfl⟩ := Option.map_eq_some_iff.mp hm
            refine hchild slot (hslots slot ?_) depth
            exact List.mem_append_left _ (List.mem_append_right _ (Option.mem_toList.mpr hs))
          · intro tree hm
            obtain ⟨slot, hs, rfl⟩ := Option.map_eq_some_iff.mp hm
            exact hchild slot (hslots slot (List.mem_append_right _ (Option.mem_toList.mpr hs))) depth
      | function name parameters inner location =>
          have hname := List.mem_append_left [inner] (List.mem_cons_self (a := name) (l := parameters))
          have hparameters : parameters
              ⊆ (Node.function name parameters inner location).children :=
            fun parameter hm => List.mem_append_left _ (List.mem_cons_of_mem _ hm)
          rw [layout_function]
          split
          · exact Tree.isDrafted_absent
          · exact Tree.isDrafted_function (body (List.mem_append_right _ List.mem_cons_self))
              (hchild name hname depth) (each hparameters depth)

end Layout

end Fragment

end DeviceScript
