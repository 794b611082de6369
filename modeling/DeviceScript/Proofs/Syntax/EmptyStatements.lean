import DeviceScript.Proofs.Syntax.Mirror

/-! Statements without content in trees. Wherever they stand in the body of a program, of a block or
of a function, the tree is read like the one without them.
-/

namespace DeviceScript.Estree

mutual

/-- A value without the empty statements in the bodies below it, and in itself if it is a body. -/
def strip (isBody : Bool) : Datum → Datum
  | .list items => .list (stripItems isBody items)
  | .table entries => .table (stripEntries entries)
  | value => value
termination_by structural value => value

def stripItems (isBody : Bool) : List Datum → List Datum
  | [] => []
  | item :: items =>
    if isBody && isEmptyStatement item then stripItems isBody items
    else strip false item :: stripItems isBody items
termination_by structural items => items

def stripEntries : List (Text × Datum) → List (Text × Datum)
  | [] => []
  | entry :: entries => stripEntry entry :: stripEntries entries
termination_by structural entries => entries

def stripEntry : Text × Datum → Text × Datum
  | (key, value) => (key, strip (key = "body") value)
termination_by structural entry => entry

end

variable (isBody : Bool) (value : Datum) (key : Text)

/-- Stripping goes on below the fields of a table, by induction over them. -/
theorem lookup_stripEntries (entries : List (Text × Datum))
    : (stripEntries entries).lookup key = (entries.lookup key).map (strip (key = "body")) := by
  induction entries with
  | nil => rfl
  | cons entry entries ih =>
      obtain ⟨name, item⟩ := entry
      rw [stripEntries, stripEntry, List.lookup_cons, List.lookup_cons, ih]
      by_cases h : key = name
      · subst h
        simp only [beq_self_eq_true, Option.map_some]
      · simp only [beq_false_of_ne h]

/-- A field of a stripped tree is the stripped field. -/
theorem field_strip : (strip isBody value).field key = strip (key = "body") (value.field key) := by
  have hfield : (strip isBody value).field? key
      = (value.field? key).map (strip (key = "body")) := by
    cases value with
    | table entries => exact lookup_stripEntries key entries
    | _ => rfl
  rw [Datum.field, Datum.field, hfield]
  cases value.field? key <;> rfl

/-- Stripping only takes items out of lists. -/
theorem hasShapeOf_strip : HasShapeOf value (strip isBody value) := by
  cases value with
  | list items => exact .list _ _
  | table entries => exact .table _ _
  | _ => exact .same _

/-- A place is a table of numbers, which holds no statements. -/
theorem location?_strip : location? (strip isBody value) = location? value := by
  simp only [location?, field_strip]
  cases ((value.field "loc").field "start").field "line" with
  | integer line => cases ((value.field "loc").field "start").field "column" <;> rfl
  | _ => rfl

/-- Only a body may become empty. -/
theorem isPresent_strip : (strip false value).isPresent = value.isPresent := by
  cases value with
  | list items => cases items <;> rfl
  | table entries => cases entries <;> rfl
  | _ => rfl

/-- What is left of a list is stripped item by item. -/
theorem stripItems_eq (items : List Datum)
    : stripItems isBody items
      = (items.filter fun item => !(isBody && isEmptyStatement item)).map (strip false) := by
  induction items with
  | nil => rfl
  | cons item items ih =>
      rw [stripItems, ih, List.filter_cons]
      cases isBody && isEmptyStatement item <;> rfl

/-- The items of a stripped list are those that are left of it. -/
theorem items_strip : (strip isBody value).items = stripItems isBody value.items := by
  cases value <;> rfl

/-- The statements of a body are those of the stripped body. -/
theorem filter_stripItems (items : List Datum)
    : (stripItems isBody items).filter (fun item => !isEmptyStatement item)
      = (items.filter fun item => !isEmptyStatement item).map (strip false) := by
  have hempty : ∀ item, isEmptyStatement (strip false item) = isEmptyStatement item :=
    fun item => isEmptyStatement_eq_of_shape (field_strip false item _ ▸ hasShapeOf_strip _ _)
  rw [stripItems_eq, List.filter_map, List.filter_filter]
  -- An item is empty exactly if it is so when it is stripped, so nothing is left out twice.
  simp only [Function.comp_def, hempty]
  congr 1
  refine List.filter_congr fun item _ => ?_
  cases isEmptyStatement item <;> cases isBody <;> rfl

/-- A stripped tree is an image of the tree, with all places where they are. -/
theorem isMirror_strip : IsMirror (fun tree image => ∃ isBody, image = strip isBody tree) id where
  shape := by
    rintro tree _ ⟨isBody, rfl⟩
    exact hasShapeOf_strip isBody tree
  place := by
    rintro tree _ ⟨isBody, rfl⟩
    exact location?_strip isBody tree
  field := by
    rintro tree _ key ⟨isBody, rfl⟩ _ _
    exact ⟨_, field_strip isBody tree key⟩
  flag := by
    rintro tree _ key ⟨isBody, rfl⟩ hf
    have hkey : key ≠ "body" := by
      rintro rfl
      exact absurd hf (by decide)
    rw [field_strip, decide_eq_false hkey]
    exact ⟨(hasShapeOf_strip false _).isNull_eq, isPresent_strip _⟩
  list := by
    rintro tree _ key ⟨isBody, rfl⟩ _ _ hkey
    have hall : (tree.field key).items.filter (fun item => !(false && isEmptyStatement item))
        = (tree.field key).items :=
      List.filter_eq_self.mpr fun _ _ => rfl
    rw [field_strip, items_strip, decide_eq_false hkey, stripItems_eq, hall,
      List.forall₂_map_right_iff]
    exact List.forall₂_same.mpr fun _ _ => ⟨false, rfl⟩
  body := by
    rintro tree _ ⟨isBody, rfl⟩
    rw [field_strip, items_strip, filter_stripItems, List.forall₂_map_right_iff]
    exact List.forall₂_same.mpr fun _ _ => ⟨false, rfl⟩

/-- Reading does not see empty statements in bodies. -/
theorem toNode_strip (isBody : Bool) (tree : Datum)
    : toNode (strip isBody tree) = toNode tree := by
  have hself : ∀ node : Node, id node = node.rebuild id id := fun node => by
    cases node <;> simp [Node.rebuild]
  exact isMirror_strip.toNode_eq hself ⟨isBody, rfl⟩

end DeviceScript.Estree
