import DeviceScript.Proofs.Emission.Induction
import DeviceScript.Proofs.Emission.Report
import DeviceScript.Proofs.Syntax.Normal

/-! Emission of equal trees. Emission does not see places, so a tree and its normal form are emitted
alike, as long as the normal form of a literal is written and cited like the literal itself.
-/

namespace DeviceScript

open Fragment

namespace Literal

def isFinite : Literal → Bool
  | real number => number.isFinite
  | _ => true

/-- Only numbers that are not finite have no code. -/
theorem literalTree_eq_absent_iff (value : Literal)
    : literalTree value = .absent ↔ ¬value.isFinite = true := by
  cases value with
  | real number =>
      cases hf : number.isFinite <;> simp [literalTree, isFinite, hf, Cpp.Tree.absent]
  | boolean value =>
      refine iff_of_false (fun h => ?_) (fun hn => hn rfl)
      cases value <;> cases h
  | _ =>
      refine iff_of_false (fun h => ?_) (fun hn => hn rfl)
      cases h

end Literal

/-- A normal form of literals that shows neither in the code nor in the types of elements. -/
structure Literal.IsUnwritten (form : Literal → Option Text → Literal) : Prop where
  tree : ∀ value raw, literalTree (form value raw) = literalTree value
  type : ∀ value raw, ElementType.ofLiteral (form value raw) = ElementType.ofLiteral value

/-- A normal form of literals that does not show in messages either. -/
structure Literal.IsUnseen (form : Literal → Option Text → Literal) : Prop
    extends IsUnwritten form where
  cited : ∀ value raw, (form value raw).citedAs raw = value.citedAs raw

namespace Node

variable {form : Literal → Option Text → Literal} (node : Node)

/-- A node and its normal form are of one kind. -/
theorem kindName_normal : (node.normal form).kindName = node.kindName := by
  cases node <;> rfl

/-- An operation and its normal form have one strength. -/
theorem strength_normal : (node.normal form).strength = node.strength := by
  cases node <;> rfl

/-- The statements in a body are those of its normal form. -/
theorem inner_normal : (node.normal form).inner = node.inner.map (normal form) := by
  cases node with
  | block body location => exact normalEach_eq_map form body
  | _ => rfl

/-- The normal form of a branch is a branch. -/
theorem isIfElse_normal : (node.normal form).isIfElse = node.isIfElse := by
  cases node <;> rfl

/-- A normal form needs the parentheses that the node needs. -/
theorem placed_normal (strength : Nat) (right : Bool) (tree : Cpp.Tree)
    : (node.normal form).placed strength right tree = node.placed strength right tree := by
  rw [placed, needsParentheses, strength_normal]
  rfl

/-- Only identifiers make up a dotted name, by induction over the objects of the accesses. -/
theorem dottedName?_normal : (node.normal form).dottedName? = node.dottedName? := by
  induction node with
  | member object property computed location ih _ =>
      cases property <;> cases computed <;> simp only [normal, dottedName?, ih]
  | _ => rfl

/-- A normal form selects the method that the node selects. -/
theorem selected?_normal (form : Literal → Option Text → Literal)
    : (node.normal form).selected?
      = node.selected?.map fun selection => (selection.1, selection.2.normal form) := by
  cases node with
  | member object property computed location =>
      cases property with
      | identifier name place =>
          cases computed with
          | true => rfl
          | false => simp only [normal, selected?, Option.map_map, Function.comp_def]
      | _ => rfl
  | _ => rfl

end Node

namespace ElementType

variable {form : Literal → Option Text → Literal} (h : Literal.IsUnwritten form)
include h

/-- The type of an element does not depend on its normal form. -/
theorem ofElement_normal (element : Option Node)
    : ofElement (element.map (Node.normal form)) = ofElement element := by
  cases element with
  | none => rfl
  | some node =>
      cases node with
      | literal value raw location => exact h.type value raw
      | _ => rfl

/-- The type of a list is that of the normal forms in it. -/
theorem infer_normal (elements : List (Option Node))
    : infer (elements.map (Option.map (Node.normal form))) = infer elements := by
  cases elements with
  | nil => rfl
  | cons element elements => exact ofElement_normal h element

/-- A normal form disagrees with a type where the element does. -/
theorem disagrees_normal (type : ElementType) (element : Option Node)
    : type.disagrees (element.map (Node.normal form)) = type.disagrees element := by
  cases element with
  | none => rfl
  | some node =>
      cases node with
      | literal value raw location => simp only [Option.map_some, Node.normal, disagrees, h.type]
      | _ => rfl

/-- The elements of other types are in the places where their normal forms are. -/
theorem heterogeneous_normal (type : ElementType) (elements : List (Option Node))
    : type.heterogeneous (elements.map (Option.map (Node.normal form)))
      = (type.heterogeneous elements).map fun element =>
          (element.1.normal form, element.2) := by
  unfold heterogeneous
  split
  · rfl
  · rw [List.zipIdx_map, ← List.map_tail, List.filterMap_map, List.map_filterMap]
    congr 1
    funext element
    obtain ⟨element, position⟩ := element
    simp only [Function.comp_apply, Prod.map_apply, disagrees_normal h, id]
    cases element <;> simp

end ElementType

namespace Fragment

variable {form : Literal → Option Text → Literal}

-----------------------------------------------------------------------------------------
-- Normal forms are laid out alike
-----------------------------------------------------------------------------------------

/-- What does not depend on normal forms does not do so in a list. -/
theorem map_normal {α : Type} {f : Node → α} {nodes : List Node}
    (h : ∀ node ∈ nodes, f (node.normal form) = f node)
    : (nodes.map (Node.normal form)).map f = nodes.map f := by
  rw [List.map_map]
  exact List.map_congr_left h

/-- What does not depend on normal forms does not do so in an option. -/
theorem optional_normal {α : Type} {f : Node → α} {node : Option Node}
    (h : ∀ inner ∈ node, f (inner.normal form) = f inner)
    : (node.map (Node.normal form)).map f = node.map f := by
  cases node with
  | none => rfl
  | some node => exact congrArg some (h node rfl)

/-- There are as many holes among normal forms. -/
theorem any_isNone_normal (elements : List (Option Node))
    : (elements.map (Option.map (Node.normal form))).any Option.isNone
      = elements.any Option.isNone := by
  simp only [List.any_map, Function.comp_def, Option.isNone_map]

/-- The normal forms of the elements without the holes are those of all elements, without
the holes. -/
theorem filterMap_id_normal (elements : List (Option Node))
    : (elements.map (Option.map (Node.normal form))).filterMap id
      = (elements.filterMap id).map (Node.normal form) := by
  rw [List.filterMap_map, List.map_filterMap]
  rfl

/-- The receiver of a method needs the parentheses that its normal form needs. -/
theorem method_placed_normal (method : Method) (node : Node) (tree : Cpp.Tree)
    : method.placed (node.normal form) tree = method.placed node tree := by
  cases method <;> exact node.placed_normal _ _ tree

/-- A property is spelled alike for a normal form. -/
theorem propertyTree_normal (form : Literal → Option Text → Literal) (shims : ShimTable)
    (node property : Node) (object : Cpp.Tree)
    : propertyTree shims (node.normal form) (property.normal form) object
      = propertyTree shims node property object := by
  cases property <;> simp only [Node.normal, propertyTree, Node.dottedName?_normal]

variable (style : Style)

/-- A declarator behind the first one is laid out alike in its normal form. -/
theorem continuedLayout_normal {node : Node} {depth : Nat}
    (h : ∀ inner ∈ node.nodes,
      layout style depth (inner.normal form) = layout style depth inner)
    : continuedLayout style depth (node.normal form) = continuedLayout style depth node := by
  cases node with
  | declarator target initial location =>
      have ht := h target (Node.mem_nodes_of_child List.mem_cons_self)
      have hi : ∀ node ∈ initial,
          layout style depth (node.normal form) = layout style depth node := by
        intro node hm
        refine h node (Node.mem_nodes_of_child (List.mem_cons_of_mem _ ?_))
        exact Option.mem_toList.mpr hm
      simp only [Node.normal, continuedLayout_declarator, ht, Node.normalOptional_eq_map,
        optional_normal hi]
  | _ => simpa only [Node.normal, continuedLayout] using h _ (Node.mem_nodes_self _)

/-- A part of a loop header is laid out alike in its normal form. -/
theorem headerLayout_normal {node : Node} {depth : Nat}
    (h : ∀ inner ∈ node.nodes,
      layout style depth (inner.normal form) = layout style depth inner)
    : headerLayout style depth (node.normal form) = headerLayout style depth node := by
  cases node with
  | declaration declarations keyword location =>
      cases declarations with
      | nil => simp only [Node.normal, Node.normalEach, headerLayout]
      | cons first rest =>
          have hf := h first (Node.mem_nodes_of_child List.mem_cons_self)
          have hr : ∀ node ∈ rest,
              continuedLayout style depth (node.normal form) = continuedLayout style depth node :=
            fun node hm => continuedLayout_normal style fun inner hi =>
              h inner (Node.nodes_subset_of_child (List.mem_cons_of_mem first hm) hi)
          simp only [Node.normal, Node.normalEach, headerLayout, hf, Node.normalEach_eq_map,
            map_normal hr]
  | _ =>
      simpa only [Node.normal, headerLayout, Cpp.Tree.slot.injEq] using h _ (Node.mem_nodes_self _)

variable {style : Style}

/-- The members of a list and the arguments of a call are laid out alike. -/
theorem listed_normal {nodes : List Node} {depth : Nat}
    (h : ∀ node ∈ nodes, layout style depth (node.normal form) = layout style depth node)
    : ((nodes.map (Node.normal form)).map fun node =>
        node.placed Operator.argument false (layout style depth node))
      = nodes.map fun node => node.placed Operator.argument false (layout style depth node) := by
  refine map_normal (f := fun node =>
    node.placed Operator.argument false (layout style depth node)) fun node hm => ?_
  rw [h node hm, Node.placed_normal]

variable (h : Literal.IsUnwritten form)
include h

/-- The type that is declared is that of the normal form of the value. -/
theorem declaredType_normal (initial : Option Node)
    : declaredType (initial.map (Node.normal form)) = declaredType initial := by
  cases initial with
  | none => rfl
  | some node =>
      cases node with
      | array elements location =>
          simp only [Option.map_some, Node.normal, declaredType, Node.normalElements_eq_map,
            ElementType.infer_normal h]
      | literal value raw location =>
          have htype := h.type value raw
          simp only [Option.map_some, Node.normal]
          cases hf : form value raw <;> cases value <;> simp_all [declaredType, ElementType.ofLiteral]
      | _ => rfl

/-- A tree and its normal form have one layout, by induction along emission. -/
theorem layout_normal (node : Node) (depth : Nat)
    : layout style depth (node.normal form) = layout style depth node := by
  induction node using Node.induct_emission generalizing depth with
  | program body location hb | declaration body _ location hb =>
      simp only [Node.normal, layout, Node.normalEach_eq_map,
        map_normal fun node hm => hb node hm depth]
  | block body location hb =>
      simp only [Node.normal, layout, Node.normalEach_eq_map,
        map_normal fun node hm => hb node hm (depth + 1)]
  | expressionStatement expression location he => simp only [Node.normal, layout, he]
  | literal value raw location => simp only [Node.normal, layout, h.tree]
  | array elements location hs =>
      simp only [Node.normal, layout_array, Node.normalElements_eq_map, any_isNone_normal,
        filterMap_id_normal, listed_normal fun node hm => hs node hm depth]
  | binary operator left right location hl hr | logical operator left right location hl hr
  | assignment operator left right location hl hr =>
      simp only [Node.normal, layout, hl, hr, Node.placed_normal]
  | unary operator argument leading location ha | update operator argument leading location ha =>
      simp only [Node.normal, layout, ha, Node.placed_normal]
  | member object property computed location ho hp =>
      have hnode := propertyTree_normal form style.shims
        (.member object property computed location) property
      simp only [Node.normal] at hnode ⊢
      simp only [layout, ho, hp, Node.placed_normal, hnode]
  | ordinary callee arguments location hs hc ha =>
      have hselected := callee.selected?_normal form
      rw [hs] at hselected
      rw [Node.normal, Node.normalEach_eq_map, layout_ordinary style depth _ _ hselected,
        layout_ordinary style depth _ _ hs, hc, listed_normal fun node hm => ha node hm depth,
        Node.dottedName?_normal, Node.placed_normal]
  | selected callee arguments location method object hs ho ha =>
      have hselected := callee.selected?_normal form
      rw [hs] at hselected
      have hp : ∀ node ∈ arguments,
          method.placed (node.normal form) (layout style depth (node.normal form))
            = method.placed node (layout style depth node) := by
        intro node hm
        rw [ha node hm, method_placed_normal]
      rw [Node.normal, Node.normalEach_eq_map, layout_selected style depth _ _ hselected,
        layout_selected style depth _ _ hs, ho,
        map_normal (f := fun node => method.placed node (layout style depth node)) hp,
        Node.placed_normal]
  | declarator target initial location ht hi =>
      simp only [Node.normal, layout_declarator, ht, Node.normalOptional_eq_map,
        declaredType_normal h, optional_normal fun node hm => hi node hm depth]
  | ifElse test consequent alternate location ht hc ha =>
      simp only [Node.normal, layout_ifElse, ht, Node.inner_normal,
        map_normal fun node hm => hc node hm (depth + 1), Node.normalOptional_eq_map]
      cases alternate with
      | none => rfl
      | some node =>
          have hb : ∀ inner ∈ node.inner,
              layout style (depth + 1) (inner.normal form) = layout style (depth + 1) inner :=
            fun inner hm => ha node rfl inner (Node.mem_nodes_of_inner hm) (depth + 1)
          simp only [Option.map_some, Option.elim, alternateLayout, Node.isIfElse_normal,
            ha node rfl node node.mem_nodes_self, Node.inner_normal, map_normal hb]
  | whileLoop test body location ht hb =>
      simp only [Node.normal, layout_whileLoop, ht, Node.inner_normal,
        map_normal fun node hm => hb node hm (depth + 1)]
  | forLoop initial test advance body location hi ht ha hb =>
      have hheader : ∀ node ∈ initial,
          headerLayout style depth (node.normal form) = headerLayout style depth node :=
        fun node hm => headerLayout_normal style fun inner hin => hi node hm inner hin depth
      simp only [Node.normal, layout_forLoop, Node.normalOptional_eq_map, optional_normal hheader,
        optional_normal fun node hm => ht node hm depth,
        optional_normal fun node hm => ha node hm depth, Node.inner_normal,
        map_normal fun node hm => hb node hm (depth + 1)]
  | function name parameters body location hn hp hb =>
      simp only [Node.normal, layout_function, hn, Node.normalEach_eq_map,
        map_normal fun node hm => hp node hm depth, Node.inner_normal,
        map_normal fun node hm => hb node hm (depth + 1)]
  | returning argument location ha =>
      simp only [Node.normal, layout_returning, Node.normalOptional_eq_map,
        optional_normal fun node hm => ha node hm depth]
  | identifier name location | parameter name location | unsupported source detail location
  | foreign kind location => simp only [Node.normal, layout]

/-- A node has the text of its normal form. -/
theorem text_normal (node : Node) (depth : Nat)
    : text style depth (node.normal form) = text style depth node :=
  congrArg (Cpp.Tree.print style.indent) (layout_normal h node depth)

/-- A declarator behind the first one has the text of its normal form. -/
theorem continuedText_normal (node : Node) (depth : Nat)
    : continuedText style depth (node.normal form) = continuedText style depth node :=
  congrArg (Cpp.Tree.print style.indent)
    (continuedLayout_normal style fun inner _ => layout_normal h inner depth)

end Fragment

-----------------------------------------------------------------------------------------
-- Normal forms are noted alike
-----------------------------------------------------------------------------------------

/-- A note on the normal form of the node that it is about. -/
def Note.normal (form : Literal → Option Text → Literal) : Note → Note
  | report finding node => report finding (node.normal form)
  | replacement source target => replacement source target

namespace Fragment

section Parts

variable (form : Literal → Option Text → Literal)

/-- There is a note on a literal exactly if it is not finite. -/
theorem literalNotes_eq (value : Literal) (raw : Option Text) (location : Option Location)
    : literalNotes value raw location
      = if value.isFinite then []
        else [.report (.notFinite (value.citedAs raw)) (.literal value raw location)] := by
  cases value <;> rfl

/-- The notes on an operation are those on the normal form, in normal form. -/
theorem operationNotes_normal (node : Node) (operator : Text) (untranslated : List Text)
    {operands operands' : List Note} (h : operands' = operands.map (Note.normal form))
    : (operationNotes node operator untranslated operands).map (Note.normal form)
      = operationNotes (node.normal form) operator untranslated operands' := by
  subst h
  unfold operationNotes
  split <;> rfl

/-- The notes on a name are about no node, so they are in normal form. -/
theorem nameNotes_normal (shims : ShimTable) (name : Option Text)
    : (nameNotes shims name).map (Note.normal form) = nameNotes shims name := by
  unfold nameNotes
  split
  · rfl
  · split <;> rfl

/-- The notes on a property are those on the normal form, in normal form. -/
theorem propertyNotes_normal (shims : ShimTable) (node property : Node)
    : propertyNotes shims (node.normal form) (property.normal form)
      = (propertyNotes shims node property).map (Note.normal form) := by
  cases property with
  | identifier name location =>
      simp only [Node.normal, propertyNotes, Node.dottedName?_normal]
      split
      · rfl
      · split
        · rfl
        · exact (nameNotes_normal form shims node.dottedName?).symm
  | _ => rfl

/-- The note on a shared type is one on the normal form, in normal form. -/
theorem sharedNotes_normal (declaration : Node) (count : Nat) (parts : List Text)
    : sharedNotes (declaration.normal form) count parts
      = (sharedNotes declaration count parts).map (Note.normal form) := by
  simp only [sharedNotes]
  split <;> rfl

/-- The notes on a method are those on the normal form, in normal form. -/
theorem methodNotes_normal (method : Method) (node : Node) (arguments : List (List Note))
    : methodNotes method (node.normal form) (arguments.map (List.map (Note.normal form)))
      = (methodNotes method node arguments).map (Note.normal form) := by
  cases method with
  | pop | shift | reverse => rfl
  | push => rcases arguments with _ | ⟨_, _ | ⟨_, _⟩⟩ <;> simp [methodNotes, Note.normal]
  | splice =>
      rcases arguments with _ | ⟨_, _ | ⟨_, _ | ⟨_, _⟩⟩⟩ <;> simp [methodNotes, Note.normal]

/-- Notes are in normal form for a list if they are for each node of it. -/
theorem flatMap_normal {form : Literal → Option Text → Literal} {nodes : List Node}
    {f : Node → List Note}
    (h : ∀ node ∈ nodes, f (node.normal form) = (f node).map (Note.normal form))
    : (nodes.map (Node.normal form)).flatMap f = (nodes.flatMap f).map (Note.normal form) := by
  rw [List.flatMap_map, List.map_flatMap]
  exact List.flatMap_congr h

end Parts

variable {form : Literal → Option Text → Literal} {style : Style} (h : Literal.IsUnseen form)
include h

/-- The note on a literal is one on the normal form, in normal form. -/
theorem literalNotes_normal (value : Literal) (raw : Option Text) (location : Option Location)
    : literalNotes (form value raw) raw none
      = (literalNotes value raw location).map (Note.normal form) := by
  have hfinite : (form value raw).isFinite = value.isFinite := by
    rw [Bool.eq_iff_iff, ← not_iff_not, ← Literal.literalTree_eq_absent_iff, h.tree,
      Literal.literalTree_eq_absent_iff]
  rw [literalNotes_eq, literalNotes_eq, hfinite, h.cited]
  split <;> rfl

/-- The note on an element of another type is one on the normal form, in normal form. -/
theorem disagreementNotes_normal (name : Text) (type : ElementType) (element : Node)
    : disagreementNotes name type (element.normal form)
      = (disagreementNotes name type element).map (Note.normal form) := by
  cases element with
  | literal value raw location => simp only [Node.normal, disagreementNotes, h.cited]; rfl
  | _ => rfl

/-- The notes on a value that a name is declared with are those on the normal form, in
normal form. -/
theorem initialNotes_normal (name : Text) (value : Node)
    : initialNotes name (value.normal form)
      = (initialNotes name value).map (Note.normal form) := by
  cases value with
  | array elements location =>
      have hwritten := h.toIsUnwritten
      simp only [Node.normal, initialNotes, elementNotes, Node.normalElements_eq_map,
        ElementType.infer_normal hwritten, ElementType.heterogeneous_normal hwritten,
        List.map_append, List.flatMap_map, List.map_flatMap, disagreementNotes_normal h]
      congr 1
      split
      · simp only [List.map_cons, Note.normal, Node.normal, Node.normalElements_eq_map,
          List.map_nil]
      · rfl
  | _ => rfl

omit h in
/-- The notes on a declarator behind the first one are those on the normal form, in normal form. -/
theorem continuedNotes_normal {node : Node} {depth : Nat}
    (h : ∀ inner ∈ node.nodes,
      notes style depth (inner.normal form) = (notes style depth inner).map (Note.normal form))
    : continuedNotes style depth (node.normal form)
      = (continuedNotes style depth node).map (Note.normal form) := by
  cases node with
  | declarator target initial location =>
      simp only [Node.normal, continuedNotes_declarator,
        h target (Node.mem_nodes_of_child List.mem_cons_self), List.map_append]
      cases initial with
      | none => rfl
      | some value =>
          refine congrArg _ (h value (Node.mem_nodes_of_child ?_))
          exact List.mem_cons_of_mem _ List.mem_cons_self
  | _ => simpa only [Node.normal, continuedNotes] using h _ (Node.mem_nodes_self _)

/-- The notes on a part of a loop header are those on the normal form, in normal form. -/
theorem headerNotes_normal {node : Node} {depth : Nat}
    (hn : ∀ inner ∈ node.nodes,
      notes style depth (inner.normal form) = (notes style depth inner).map (Note.normal form))
    : headerNotes style depth (node.normal form)
      = (headerNotes style depth node).map (Note.normal form) := by
  cases node with
  | declaration declarations keyword location =>
      cases declarations with
      | nil => simp only [Node.normal, Node.normalEach, headerNotes, List.map_nil]
      | cons first rest =>
          have hr : ∀ node ∈ rest,
              continuedNotes style depth (node.normal form)
                = (continuedNotes style depth node).map (Note.normal form) :=
            fun node hm => continuedNotes_normal fun inner hi =>
              hn inner (Node.nodes_subset_of_child (List.mem_cons_of_mem first hm) hi)
          have hparts : (rest.map (Node.normal form)).map (continuedText style depth)
              = rest.map (continuedText style depth) :=
            map_normal fun node _ => continuedText_normal h.toIsUnwritten node depth
          have hshared := sharedNotes_normal form
            (.declaration (first :: rest) keyword location) (rest.length + 1)
            (text style depth first :: rest.map (continuedText style depth))
          simp only [Node.normal, Node.normalEach, Node.normalEach_eq_map] at hshared ⊢
          simp only [headerNotes, hn first (Node.mem_nodes_of_child List.mem_cons_self),
            flatMap_normal hr, List.length_map, text_normal h.toIsUnwritten, hparts, hshared,
            List.map_append]
  | _ => simpa only [Node.normal, headerNotes] using hn _ (Node.mem_nodes_self _)

omit h in
/-- Notes are in normal form for an option if they are for the node in it. -/
theorem optionalNotes_normal {node : Option Node} {f : Node → List Note}
    (h : ∀ inner ∈ node, f (inner.normal form) = (f inner).map (Note.normal form))
    : (node.map (Node.normal form)).elim [] f = (node.elim [] f).map (Note.normal form) := by
  cases node with
  | none => rfl
  | some inner => exact h inner rfl

/-- The notes on the normal form of a tree are those on the tree, each on the normal form of its
node, by induction along emission. -/
theorem notes_normal (node : Node) (depth : Nat)
    : notes style depth (node.normal form)
      = (notes style depth node).map (Note.normal form) := by
  induction node using Node.induct_emission generalizing depth with
  | program body location hb | declaration body _ location hb =>
      simp only [Node.normal, notes, Node.normalEach_eq_map,
        flatMap_normal fun node hm => hb node hm depth]
  | block body location hb =>
      simp only [Node.normal, notes, Node.normalEach_eq_map,
        flatMap_normal fun node hm => hb node hm (depth + 1)]
  | expressionStatement expression location he => simp only [Node.normal, notes, he]
  | literal value raw location =>
      simp only [Node.normal, notes, literalNotes_normal h value raw location]
  | array elements location hs =>
      simp only [Node.normal, notes_array, Node.normalElements_eq_map, any_isNone_normal,
        filterMap_id_normal, flatMap_normal fun node hm => hs node hm depth]
      split
      · simp only [List.map_cons, Note.normal, Node.normal, Node.normalElements_eq_map,
          List.map_nil]
      · rfl
  | binary operator left right location hl hr | logical operator left right location hl hr
  | assignment operator left right location hl hr =>
      have hoperands : notes style depth (left.normal form) ++ notes style depth (right.normal form)
          = (notes style depth left ++ notes style depth right).map (Note.normal form) := by
        rw [hl, hr, List.map_append]
      rw [Node.normal, notes, notes, operationNotes_normal form _ operator _ hoperands]
      rfl
  | unary operator argument leading location ha =>
      rw [Node.normal, notes, notes, operationNotes_normal form _ operator _ (ha depth)]
      rfl
  | update operator argument leading location ha => simp only [Node.normal, notes, ha]
  | member object property computed location ho hp =>
      have hnode := propertyNotes_normal form style.shims
        (.member object property computed location) property
      simp only [Node.normal] at hnode ⊢
      simp only [notes, ho, hp, hnode, List.map_append]
      split <;> rfl
  | ordinary callee arguments location hs hc ha =>
      have hselected := callee.selected?_normal form
      rw [hs] at hselected
      rw [Node.normal, Node.normalEach_eq_map, notes_ordinary style depth _ _ hselected,
        notes_ordinary style depth _ _ hs, flatMap_normal fun node hm => ha node hm depth,
        Node.dottedName?_normal, hc]
      simp only [List.map_append, nameNotes_normal]
      split <;> rfl
  | selected callee arguments location method object hs ho ha =>
      have hselected := callee.selected?_normal form
      rw [hs] at hselected
      have hnode := methodNotes_normal form method (.call callee arguments location)
        (arguments.map (notes style depth))
      have harguments : (arguments.map (Node.normal form)).map (notes style depth)
          = (arguments.map (notes style depth)).map (List.map (Note.normal form)) := by
        rw [List.map_map, List.map_map]
        exact List.map_congr_left fun node hm => ha node hm depth
      rw [Node.normal, Node.normalEach_eq_map] at hnode ⊢
      rw [notes_selected style depth _ _ hselected, notes_selected style depth _ _ hs, harguments,
        hnode, ho, List.map_append]
  | declarator target initial location ht hi =>
      have hinitial : ∀ value ∈ initial,
          initialNotes (text style depth target) (value.normal form)
              ++ notes style depth (value.normal form)
            = (initialNotes (text style depth target) value ++ notes style depth value).map
                (Note.normal form) := by
        intro value hm
        rw [initialNotes_normal h, hi value hm, List.map_append]
      simp only [Node.normal, notes_declarator, ht, List.map_append, text_normal h.toIsUnwritten,
        Node.normalOptional_eq_map]
      exact congrArg _ (optionalNotes_normal hinitial)
  | ifElse test consequent alternate location ht hc ha =>
      have halternate : ∀ node ∈ alternate,
          alternateNotes style depth (node.normal form)
            = (alternateNotes style depth node).map (Note.normal form) := by
        intro node hm
        have hb : ∀ inner ∈ node.inner,
            notes style (depth + 1) (inner.normal form)
              = (notes style (depth + 1) inner).map (Note.normal form) :=
          fun inner hin => ha node hm inner (Node.mem_nodes_of_inner hin) (depth + 1)
        simp only [alternateNotes, Node.isIfElse_normal, ha node hm node node.mem_nodes_self,
          Node.inner_normal, flatMap_normal hb]
        split <;> rfl
      simp only [Node.normal, notes_ifElse, ht, Node.inner_normal,
        flatMap_normal fun node hm => hc node hm (depth + 1), Node.normalOptional_eq_map,
        optionalNotes_normal halternate, List.map_append]
  | whileLoop test body location ht hb =>
      simp only [Node.normal, notes_whileLoop, ht, Node.inner_normal,
        flatMap_normal fun node hm => hb node hm (depth + 1), List.map_append]
  | forLoop initial test advance body location hi ht ha hb =>
      have hheader : ∀ node ∈ initial,
          headerNotes style depth (node.normal form)
            = (headerNotes style depth node).map (Note.normal form) :=
        fun node hm => headerNotes_normal h fun inner hin => hi node hm inner hin depth
      simp only [Node.normal, notes_forLoop, Node.normalOptional_eq_map,
        optionalNotes_normal hheader, optionalNotes_normal fun node hm => ht node hm depth,
        optionalNotes_normal fun node hm => ha node hm depth, Node.inner_normal,
        flatMap_normal fun node hm => hb node hm (depth + 1), List.map_append]
  | function name parameters body location hn hp hb =>
      simp only [Node.normal, notes_function, Node.normalEach_eq_map, hn,
        flatMap_normal fun node hm => hp node hm depth, Node.inner_normal,
        flatMap_normal fun node hm => hb node hm (depth + 1)]
      split
      · simp only [List.map_cons, Note.normal, Node.normal, Node.normalEach_eq_map, List.map_nil]
      · simp only [List.map_append]
  | returning argument location ha =>
      simp only [Node.normal, notes_returning, Node.normalOptional_eq_map,
        optionalNotes_normal fun node hm => ha node hm depth]
  | identifier name location | parameter name location => simp only [Node.normal, notes, List.map_nil]
  | unsupported source detail location | foreign kind location =>
      simp only [Node.normal, notes, List.map_cons, Note.normal, List.map_nil]

end Fragment

end DeviceScript
