import DeviceScript.Proofs.Syntax.EmptyStatements
import DeviceScript.Proofs.Syntax.Nodes
import Mathlib.Logic.Basic

/-! Which trees reading comes to, and what it makes of those that no kind of node stands for. They
are refused wherever a single node is read, and only lists of statements are read without the empty
ones.
-/

namespace DeviceScript

/-- A node holds something that was refused under the name that it has in its tree. -/
def Node.Refuses (source : Text) (node : Node) : Prop :=
  ∃ detail place, .unsupported source detail place ∈ node.nodes

namespace Node

variable {source : Text}

/-- Something is refused in a node exactly if it is the node or is refused in a child of it. -/
theorem refuses_iff (node : Node)
    : node.Refuses source
      ↔ (∃ detail place, node = unsupported source detail place)
        ∨ ∃ child ∈ node.children, child.Refuses source := by
  simp only [Refuses, node.nodes_eq, List.mem_cons, List.mem_flatMap]
  constructor
  · rintro ⟨detail, place, he | ⟨child, hc, h⟩⟩
    · exact .inl ⟨detail, place, he.symm⟩
    · exact .inr ⟨child, hc, detail, place, h⟩
  · rintro (⟨detail, place, he⟩ | ⟨child, hc, detail, place, h⟩)
    · exact ⟨detail, place, .inl he.symm⟩
    · exact ⟨detail, place, .inr ⟨child, hc, h⟩⟩

/-- An unsupported node was refused under the name that it cites. -/
@[simp]
theorem refuses_unsupported (source' detail : Text) (place : Option Location)
    : (unsupported source' detail place).Refuses source ↔ source' = source := by
  rw [refuses_iff]
  constructor
  · rintro (⟨detail', place', he⟩ | ⟨_, hc, _⟩)
    · cases he
      rfl
    · exact absurd hc List.not_mem_nil
  · rintro rfl
    exact .inl ⟨detail, place, rfl⟩

/-- Any other node refuses what its children refuse. -/
theorem refuses_iff_children {node : Node}
    (h : ∀ detail place, node ≠ unsupported source detail place)
    : node.Refuses source ↔ ∃ child ∈ node.children, child.Refuses source := by
  rw [refuses_iff, or_iff_right]
  rintro ⟨detail, place, he⟩
  exact h detail place he

end Node

namespace Estree

-----------------------------------------------------------------------------------------
-- What reading comes to in a tree
-----------------------------------------------------------------------------------------

/-- The kind of node that a tree states, if it states one of the closed set. -/
def kind? (tree : Datum) : Option NodeKind :=
  (type? tree).bind fun type => NodeKind.all.find? fun kind => kind.name = type

/-- The trees in the body of a tree, without the empty statements. -/
def bodyItems (tree : Datum) : List Datum :=
  (tree.field "body").items.filter fun item => !isEmptyStatement item

/-- Tells whether a function is one of those that are refused as a whole. -/
def isRefusedFunction (tree : Datum) : Bool :=
  (tree.field "generator").isPresent || (tree.field "async").isPresent
    || (tree.field "isAsync").isPresent

/-- The trees directly below a tree that are read as nodes. -/
def below (tree : Datum) : List Datum :=
  match kind? tree with
  | some .program | some .block => bodyItems tree
  | some .expressionStatement => [tree.field "expression"]
  | some .call => tree.field "callee" :: (tree.field "arguments").items
  | some .member => [tree.field "object", tree.field "property"]
  | some .binary | some .logical | some .assignment => [tree.field "left", tree.field "right"]
  | some .unary | some .update | some .returning => [tree.field "argument"]
  | some .declaration => (tree.field "declarations").items
  | some .declarator =>
    if (tree.field "id").textField "type" = "Identifier" then [tree.field "id", tree.field "init"]
    else []
  | some .array => (tree.field "elements").items
  | some .ifElse => [tree.field "test", tree.field "consequent", tree.field "alternate"]
  | some .whileLoop => [tree.field "test", tree.field "body"]
  | some .forLoop =>
    [tree.field "init", tree.field "test", tree.field "update", tree.field "body"]
  | some .function => if isRefusedFunction tree then [] else bodyItems (tree.field "body")
  | some .literal | some .identifier | some .parameter | some .unsupported | none => []

/-- The trees directly below a tree that are read as parameters. -/
def parameterItems (tree : Datum) : List Datum :=
  match kind? tree with
  | some .function => if isRefusedFunction tree then [] else (tree.field "params").items
  | _ => []

/-- A name that is neither that of a kind of node nor one that reading makes up. -/
structure IsForeignName (source : Text) : Prop where
  apart : ∀ kind ∈ NodeKind.all, kind.name ≠ source
  unshaped : ∀ tree : Datum, tree.shapeName ≠ source
  known : source ≠ "Unknown"

/-- A tree states the kind that the text under its key names. -/
theorem type?_eq_some_iff {tree : Datum} {name : Text} (hn : name ≠ [])
    : type? tree = some name ↔ tree.textField "type" = name := by
  rw [type?, Datum.textField]
  cases tree.field? "type" with
  | none => simp [hn.symm]
  | some value =>
    cases value with
    | text type => cases type <;> simp [hn.symm]
    | _ => simp [hn.symm]

-----------------------------------------------------------------------------------------
-- Trees of foreign kinds are refused where they are read
-----------------------------------------------------------------------------------------

section Refused

variable {source : Text} (hs : IsForeignName source) {tree : Datum}

include hs

/-- A foreign name is not the kind of a tree that has a kind of node. -/
theorem type?_ne {kind : NodeKind} (h : kind? tree = some kind) : type? tree ≠ some source := by
  intro ht
  rw [kind?, ht, Option.bind_some] at h
  have hname := List.find?_some h
  exact hs.apart kind (List.mem_of_find?_eq_some h) (of_decide_eq_true hname)

/-- What is refused as a whole was refused under the kind that it states. -/
theorem refuses_refused (detail : Text)
    : (refused tree detail).Refuses source ↔ type? tree = some source := by
  rw [refused, Node.refuses_unsupported]
  cases type? tree with
  | none => simp [hs.known.symm]
  | some type => simp

/-- A parameter was refused if it is of that kind. -/
theorem refuses_parameter (item : Datum)
    : (parameter item).Refuses source ↔ type? item = some source := by
  rw [parameter]
  by_cases h : item.textField "type" = "Identifier"
  · have hne : "Identifier" ≠ source := hs.apart .identifier (by decide)
    rw [if_pos h, (type?_eq_some_iff (by decide)).mpr h]
    simp [Node.refuses_iff_children, Node.children, hne]
  · rw [if_neg h, refuses_refused hs]

/-- The node of a value refuses nothing of a foreign name if the value is null. -/
theorem exists_toNode? (value : Datum)
    : (∃ node, toNode? value = some node ∧ node.Refuses source)
      ↔ (toNode value).Refuses source := by
  cases value with
  | null => simp [toNode?, Datum.isNull, toNode_null, hs.unshaped]
  | _ => simp [toNode?, Datum.isNull]

/-- An element was refused if the tree of it was. -/
theorem exists_element (items : List Datum)
    : (∃ node, (∃ item ∈ items, toNode? item = some node) ∧ node.Refuses source)
      ↔ ∃ item ∈ items, (toNode item).Refuses source := by
  simp only [← exists_toNode? hs]
  constructor
  · rintro ⟨node, ⟨item, hm, hn⟩, h⟩
    exact ⟨item, hm, node, hn, h⟩
  · rintro ⟨item, hm, node, hn, h⟩
    exact ⟨node, ⟨item, hm, hn⟩, h⟩

/-- What is refused under a foreign name is a tree of that name, read as a node or a parameter. -/
theorem refuses_toNode_iff (tree : Datum)
    : (toNode tree).Refuses source
      ↔ type? tree = some source
        ∨ (∃ inner ∈ below tree, (toNode inner).Refuses source)
        ∨ ∃ item ∈ parameterItems tree, type? item = some source := by
  -- A tree of one of the kinds has another name, also where it is refused for what is in it.
  have hkind : ∀ kind, kind? tree = some kind
      → type? tree ≠ some source ∧ ∀ detail, ¬(refused tree detail).Refuses source := by
    intro kind hk
    have hne := type?_ne hs hk
    exact ⟨hne, fun detail => (refuses_refused hs detail).not.mpr hne⟩
  revert hkind
  unfold parameterItems below kind?
  rw [toNode.eq_def]
  cases type? tree with
  | none => simp [hs.unshaped]
  | some type =>
    dsimp only [Option.bind_some]
    cases NodeKind.all.find? fun kind => kind.name = type with
    | none => simp
    | some kind =>
      intro hkind
      obtain ⟨hne, hrefused⟩ := hkind kind rfl
      cases kind with
      | program | block =>
        simp [Node.refuses_iff_children, Node.children, statements_eq_map, bodyItems, hne]
      | call =>
        simp [Node.refuses_iff_children, Node.children, child_eq_toNode, children_eq_map, hne]
      | declaration => simp [Node.refuses_iff_children, Node.children, children_eq_map, hne]
      | array =>
        simp [Node.refuses_iff_children, Node.children, elements_eq_map, exists_element hs, hne]
      | literal =>
        cases (tree.field "regex").isNull
        · simp [hne, hrefused]
        · simp [Node.refuses_iff_children, Node.children, hne]
      | declarator =>
        by_cases hid : (tree.field "id").textField "type" = "Identifier"
        · simp [Node.refuses_iff_children, Node.children, child_eq_toNode, optional_eq_toNode?,
            exists_toNode? hs, hne, hid]
        · simp [hid, hne, hrefused]
      | function =>
        cases hr : isRefusedFunction tree with
        | true =>
          rw [isRefusedFunction] at hr
          simp [hr, hne, hrefused]
        | false =>
          rw [isRefusedFunction] at hr
          simp [Node.refuses_iff_children, Node.children, functionBody_eq_block,
            statements_eq_map, parameters_eq_map, refuses_parameter hs, bodyItems, hr, hne]
          exact or_comm
      | parameter | unsupported => simp
      | _ =>
        simp [Node.refuses_iff_children, Node.children, child_eq_toNode, optional_eq_toNode?,
          exists_toNode? hs, or_and_right, exists_or, hne]

end Refused

-----------------------------------------------------------------------------------------
-- Empty statements are refused outside of bodies
-----------------------------------------------------------------------------------------

section EmptyStatement

variable {tree outer inner : Datum}

/-- No kind of node has the name of an empty statement. -/
theorem isForeignName_emptyStatement : IsForeignName "EmptyStatement" where
  apart := by decide
  unshaped tree := by
    cases tree with
    | moment value => cases value <;> rw [Datum.shapeName, Moment.kindName] <;> decide
    | _ => rw [Datum.shapeName]; decide
  known := by decide

/-- A tree states the name of empty statements if it is one. -/
theorem type?_eq_emptyStatement_iff
    : type? tree = some (Text.ofString "EmptyStatement") ↔ isEmptyStatement tree = true := by
  rw [isEmptyStatement, decide_eq_true_iff]
  exact type?_eq_some_iff (by decide)

/-- An empty statement is refused where it is read, and in what it is read in. -/
theorem refuses_emptyStatement_iff_below (tree : Datum)
    : (toNode tree).Refuses "EmptyStatement"
      ↔ isEmptyStatement tree
        ∨ (∃ inner ∈ below tree, (toNode inner).Refuses "EmptyStatement")
        ∨ ∃ item ∈ parameterItems tree, isEmptyStatement item := by
  simp only [refuses_toNode_iff isForeignName_emptyStatement tree, type?_eq_emptyStatement_iff]

/-- The trees directly below a tree that are read each for itself, not as one of the statements of a
body. -/
def singles (tree : Datum) : List Datum :=
  match kind? tree with
  | some .program | some .block => []
  | some .function => parameterItems tree
  | _ => below tree

/-- Reading of a tree comes to another tree, or to the tree itself. -/
inductive Reads : Datum → Datum → Prop where
  | self (tree : Datum) : Reads tree tree
  | step {outer inner tree : Datum} (member : inner ∈ below outer) (reads : Reads inner tree)
    : Reads outer tree

/-- No empty statement is left in a body. -/
theorem any_bodyItems (value : Datum) : (bodyItems value).any isEmptyStatement = false := by
  rw [List.any_eq_false]
  intro item hm
  simpa using (List.mem_filter.mp hm).2

/-- An empty statement that is read stands outside the bodies. -/
theorem any_singles (tree : Datum)
    : (singles tree).any isEmptyStatement
      = ((below tree).any isEmptyStatement || (parameterItems tree).any isEmptyStatement) := by
  unfold singles parameterItems below
  cases kind? tree with
  | none => rfl
  | some kind =>
    cases kind with
    | program | block => simp only [any_bodyItems, List.any_nil, Bool.or_false]
    | function =>
      cases isRefusedFunction tree with
      | true => rfl
      | false => simp only [any_bodyItems, Bool.false_or, Bool.false_eq_true, if_false]
    | _ => exact (Bool.or_false _).symm

/-- The trees that are read each for itself are among those below, or parameters. -/
theorem exists_mem_singles_iff (tree : Datum)
    : (∃ item ∈ singles tree, isEmptyStatement item)
      ↔ (∃ item ∈ below tree, isEmptyStatement item)
        ∨ ∃ item ∈ parameterItems tree, isEmptyStatement item := by
  simp only [← List.any_eq_true, any_singles, Bool.or_eq_true]

/-- What is below a tree is smaller than the tree, unless it is missing. -/
theorem sizeOf_lt_of_mem_below (h : inner ∈ below tree)
    : inner = .null ∨ sizeOf inner < sizeOf tree := by
  have hfield (key : Text) := field_eq_null_or_sizeOf_lt tree key
  have hitems {key : Text} (hm : inner ∈ (tree.field key).items) : sizeOf inner < sizeOf tree :=
    sizeOf_items_field_lt hm
  have hbody {value : Datum} (hm : inner ∈ bodyItems value) : sizeOf inner < sizeOf value :=
    sizeOf_items_field_lt (List.mem_filter.mp hm).1
  unfold below at h
  revert h
  cases kind? tree with
  | none => exact fun h => absurd h List.not_mem_nil
  | some kind =>
    cases kind with
    | program | block => exact fun h => .inr (hbody h)
    | declaration | array => exact fun h => .inr (hitems h)
    | call =>
      intro h
      obtain rfl | hm := List.mem_cons.mp h
      · exact hfield _
      · exact .inr (hitems hm)
    | declarator =>
      dsimp only
      split
      · simp only [List.mem_cons, List.not_mem_nil, or_false]
        rintro (rfl | rfl) <;> exact hfield _
      · exact fun h => absurd h List.not_mem_nil
    | function =>
      dsimp only
      split
      · exact fun h => absurd h List.not_mem_nil
      · intro h
        obtain hn | hlt := hfield "body"
        · rw [hn] at h
          exact absurd h List.not_mem_nil
        · exact .inr (Nat.lt_trans (hbody h) hlt)
    | expressionStatement | unary | update | returning =>
      simp only [List.mem_cons, List.not_mem_nil, or_false]
      rintro rfl
      exact hfield _
    | ifElse =>
      simp only [List.mem_cons, List.not_mem_nil, or_false]
      rintro (rfl | rfl | rfl) <;> exact hfield _
    | forLoop =>
      simp only [List.mem_cons, List.not_mem_nil, or_false]
      rintro (rfl | rfl | rfl | rfl) <;> exact hfield _
    | member | binary | logical | assignment | whileLoop =>
      simp only [List.mem_cons, List.not_mem_nil, or_false]
      rintro (rfl | rfl) <;> exact hfield _
    | literal | identifier | parameter | unsupported => exact fun h => absurd h List.not_mem_nil

/-- Whatever is refused as an empty statement is one that reading comes to outside the bodies, by
induction over the size of the tree. -/
theorem exists_emptyStatement_of_refuses (tree : Datum) (h : (toNode tree).Refuses "EmptyStatement")
    : isEmptyStatement tree
      ∨ ∃ outer, Reads tree outer ∧ ∃ item ∈ singles outer, isEmptyStatement item := by
  obtain ht | ⟨inner, hm, hi⟩ | hp := (refuses_emptyStatement_iff_below tree).mp h
  · exact .inl ht
  · obtain rfl | hlt := sizeOf_lt_of_mem_below hm
    · rw [toNode_null, Node.refuses_unsupported] at hi
      exact absurd hi (isForeignName_emptyStatement.unshaped .null)
    · obtain ht | ⟨outer, hr, hs⟩ := exists_emptyStatement_of_refuses inner hi
      · exact .inr ⟨tree, .self tree, (exists_mem_singles_iff tree).mpr (.inl ⟨inner, hm, ht⟩)⟩
      · exact .inr ⟨outer, .step hm hr, hs⟩
  · exact .inr ⟨tree, .self tree, (exists_mem_singles_iff tree).mpr (.inr hp)⟩
termination_by sizeOf tree

/-- Exactly those empty statements are refused that reading comes to outside the bodies. -/
theorem refuses_emptyStatement_iff (tree : Datum)
    : (toNode tree).Refuses "EmptyStatement"
      ↔ isEmptyStatement tree
        ∨ ∃ outer, Reads tree outer ∧ ∃ item ∈ singles outer, isEmptyStatement item := by
  have hself {tree : Datum} (h : isEmptyStatement tree) : (toNode tree).Refuses "EmptyStatement" :=
    (refuses_emptyStatement_iff_below tree).mpr (.inl h)
  have hbelow {outer inner : Datum} (hm : inner ∈ below outer)
      (h : (toNode inner).Refuses "EmptyStatement")
      : (toNode outer).Refuses "EmptyStatement" :=
    (refuses_emptyStatement_iff_below outer).mpr (.inr (.inl ⟨inner, hm, h⟩))
  refine ⟨exists_emptyStatement_of_refuses tree, ?_⟩
  rintro (ht | ⟨outer, hr, hs⟩)
  · exact hself ht
  -- Back from the statement along the way to it.
  · induction hr with
    | self tree =>
      obtain ⟨item, hm, ht⟩ | hp := (exists_mem_singles_iff tree).mp hs
      · exact hbelow hm (hself ht)
      · exact (refuses_emptyStatement_iff_below tree).mpr (.inr (.inr hp))
    | step hm _ ih => exact hbelow hm (ih hs)

end EmptyStatement

end Estree

end DeviceScript
