import DeviceScript.Syntax.Estree

/-! Reading of trees field by field. The nodes under a key are those of the value that stands there,
and a missing field is read like null.
-/

namespace DeviceScript.Datum

/-- The members of a list; nothing else has any. -/
def items : Datum → List Datum
  | list items => items
  | _ => []

variable {datum value : Datum} {key : Text}

/-- A field that is there has its value. -/
theorem field_eq (h : datum.field? key = some value) : datum.field key = value := by
  rw [field, h, Option.getD_some]

/-- A field that is missing is null. -/
theorem field_eq_null (h : datum.field? key = none) : datum.field key = null := by
  rw [field, h, Option.getD_none]

/-- A field with no list in it has no items. -/
theorem items_field_of_no_list (h : ∀ items, datum.field? key ≠ some (list items))
    : (datum.field key).items = [] := by
  cases hf : datum.field? key with
  | none =>
      rw [field_eq_null hf]
      rfl
  | some value =>
      rw [field_eq hf]
      cases value with
      | list items => exact absurd hf (h items)
      | _ => rfl

/-- The text under a key is the value of the field, if that is a text. -/
theorem textField_eq (datum : Datum) (key : Text)
    : datum.textField key = match datum.field key with | text value => value | _ => [] := by
  rw [textField]
  cases hf : datum.field? key with
  | none => rw [field_eq_null hf]
  | some value =>
      rw [field_eq hf]
      cases value <;> rfl

end DeviceScript.Datum

namespace DeviceScript.Estree

variable {tree value : Datum} {items : List Datum} {key : Text}

/-- The node under a key is that of the value there. -/
theorem child_eq (h : tree.field? key = some value) : child tree key = toNode value := by
  rw [child.eq_def]
  split
  · rename_i value' h'
    rw [Option.some.inj (h.symm.trans h')]
  · rename_i h'
    exact absurd (h.symm.trans h') (Option.some_ne_none _)

/-- The nodes of a list are those of its items. -/
theorem each_eq_map (items : List Datum) : each items = items.map toNode := by
  induction items with
  | nil => rw [each, List.map_nil]
  | cons item items ih => rw [each, ih, List.map_cons]

/-- The nodes under a key are those of the list there. -/
theorem children_eq (h : tree.field? key = some (.list items))
    : children tree key = items.map toNode := by
  rw [children.eq_def]
  split
  · rename_i items' h'
    obtain ⟨rfl⟩ := Option.some.inj (h.symm.trans h')
    exact each_eq_map items
  · rename_i hn
    exact absurd h (hn items)

/-- Statements without content are left out, by induction over the list. -/
theorem eachStatement_eq (items : List Datum)
    : eachStatement items = (items.filter fun item => !isEmptyStatement item).map toNode := by
  induction items with
  | nil => rw [eachStatement, List.filter_nil, List.map_nil]
  | cons item items ih =>
      rw [eachStatement, ih, List.filter_cons]
      cases isEmptyStatement item <;> rfl

/-- The statements of a body are those of the list there, without the empty ones. -/
theorem statements_eq (h : tree.field? "body" = some (.list items))
    : statements tree = (items.filter fun item => !isEmptyStatement item).map toNode := by
  rw [statements.eq_def]
  split
  · rename_i items' h'
    obtain ⟨rfl⟩ := Option.some.inj (h.symm.trans h')
    exact eachStatement_eq items
  · rename_i hn
    exact absurd h (hn items)

section Fields

variable (tree : Datum) (key : Text)

/-- Null is read as an unsupported node. -/
theorem toNode_null : toNode .null = .unsupported (Datum.shapeName .null) [] none := by
  rw [toNode.eq_def]
  rfl

/-- The node under a key is that of the field. -/
theorem child_eq_toNode : child tree key = toNode (tree.field key) := by
  cases h : tree.field? key with
  | some value => rw [child_eq h, Datum.field_eq h]
  | none =>
      rw [child.eq_def, Datum.field_eq_null h, toNode_null]
      split
      · rename_i h'
        exact absurd (h'.symm.trans h) (Option.some_ne_none _)
      · rfl

/-- The node of a tree, where null has none. -/
def toNode? (tree : Datum) : Option Node := if tree.isNull then none else some (toNode tree)

/-- The node under a key is that of the field, where null has none. -/
theorem optional_eq_toNode? : optional tree key = toNode? (tree.field key) := by
  rw [optional.eq_def]
  split
  · rename_i h
    rw [Datum.field_eq_null h]
    rfl
  · rename_i h
    rw [Datum.field_eq h]
    rfl
  · rename_i value hn h
    rw [Datum.field_eq h]
    cases value with
    | null => exact absurd rfl hn
    | _ => rfl

/-- The nodes under a key are those of the items of the field. -/
theorem children_eq_map : children tree key = (tree.field key).items.map toNode := by
  rw [children.eq_def]
  split
  · rename_i nodes h
    rw [Datum.field_eq h, each_eq_map]
    rfl
  · rename_i hn
    rw [Datum.items_field_of_no_list hn, List.map_nil]

/-- The statements of a body are those of the items of the field, without the empty ones. -/
theorem statements_eq_map
    : statements tree
      = ((tree.field "body").items.filter fun item => !isEmptyStatement item).map toNode := by
  rw [statements.eq_def]
  split
  · rename_i nodes h
    rw [Datum.field_eq h, eachStatement_eq]
    rfl
  · rename_i hn
    rw [Datum.items_field_of_no_list hn, List.filter_nil, List.map_nil]

/-- The elements of an array are optional nodes, by induction over the list. -/
theorem eachElement_eq (items : List Datum) : eachElement items = items.map toNode? := by
  induction items with
  | nil => rw [eachElement, List.map_nil]
  | cons item items ih =>
      cases item <;> rw [eachElement, ih] <;> first | rfl | (intro h; cases h)

/-- The kind that a tree states is a text under a key. -/
theorem type?_eq_of_field
    : type? tree
      = match tree.field "type" with | .text (point :: name) => some (point :: name) | _ => none := by
  rw [type?]
  cases h : tree.field? "type" with
  | none => rw [Datum.field_eq_null h]
  | some value =>
      rw [Datum.field_eq h]
      cases value with
      | text text => cases text <;> rfl
      | _ => rfl

/-- The elements of an array are those of the items of the field. -/
theorem elements_eq_map : elements tree = (tree.field "elements").items.map toNode? := by
  rw [elements.eq_def]
  split
  · rename_i nodes h
    rw [Datum.field_eq h, eachElement_eq]
    rfl
  · rename_i hn
    rw [Datum.items_field_of_no_list hn, List.map_nil]

/-- The parameters of a function are those of the items of the field. -/
theorem parameters_eq_map : parameters tree = (tree.field "params").items.map parameter := by
  rw [parameters]
  split
  · rename_i nodes h
    rw [Datum.field_eq h]
    rfl
  · rename_i hn
    rw [Datum.items_field_of_no_list hn, List.map_nil]

/-- The body of a function is a block of the statements below it. -/
theorem functionBody_eq_block
    : functionBody tree
      = .block (statements (tree.field "body")) (location? (tree.field "body")) := by
  rw [functionBody.eq_def]
  split
  · rename_i body h
    rw [Datum.field_eq h]
  · rename_i h
    rw [Datum.field_eq_null h, statements_eq_map]
    rfl

end Fields

/-- An item of a list is smaller than the list. -/
theorem sizeOf_items_lt {value item : Datum} (h : item ∈ value.items)
    : sizeOf item < sizeOf value := by
  cases value with
  | list items =>
      have hlt := List.sizeOf_lt_of_mem (show item ∈ items from h)
      rw [Datum.list.sizeOf_spec]
      omega
  | _ => exact absurd h List.not_mem_nil

/-- The value of a field is below the tree, unless there is none. -/
theorem field_eq_null_or_sizeOf_lt (tree : Datum) (key : Text)
    : tree.field key = .null ∨ sizeOf (tree.field key) < sizeOf tree := by
  cases h : tree.field? key with
  | none => exact .inl (Datum.field_eq_null h)
  | some value => exact .inr (Datum.field_eq h ▸ Datum.sizeOf_field?_lt h)

/-- An item of a field is smaller than the tree. -/
theorem sizeOf_items_field_lt {tree item : Datum} {key : Text} (h : item ∈ (tree.field key).items)
    : sizeOf item < sizeOf tree := by
  have hlt := sizeOf_items_lt h
  rcases field_eq_null_or_sizeOf_lt tree key with hn | hf
  · rw [hn] at h
    exact absurd h List.not_mem_nil
  · exact Nat.lt_trans hlt hf

/-- A property of every value follows from its step along reading: it comes to the fields of a tree,
to the items of these, and to the items of what stands in a field of a field, as the statements of a
function do. A missing field is null. -/
@[elab_as_elim]
theorem induct_fields {motive : Datum → Prop} (null : motive .null)
    (step
      : ∀ tree,
          (∀ key, motive (tree.field key))
          → (∀ key, ∀ item ∈ (tree.field key).items, motive item)
          → (∀ key key', ∀ item ∈ ((tree.field key).field key').items, motive item)
          → motive tree)
    (tree : Datum)
    : motive tree := by
  refine step tree (fun key => ?_) (fun key item hm => ?_) fun key key' item hm => ?_
  · rcases field_eq_null_or_sizeOf_lt tree key with hn | hlt
    · rw [hn]
      exact null
    · exact induct_fields null step (tree.field key)
  · have hlt := sizeOf_items_field_lt hm
    exact induct_fields null step item
  · have hlt := sizeOf_items_field_lt hm
    rcases field_eq_null_or_sizeOf_lt tree key with hn | hf
    · rw [hn] at hm
      exact absurd hm List.not_mem_nil
    · have hbelow := Nat.lt_trans hlt hf
      exact induct_fields null step item
termination_by sizeOf tree

end DeviceScript.Estree
