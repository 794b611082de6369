import DeviceScript.Proofs.Syntax.Comparison
import DeviceScript.Proofs.Syntax.Mirror

/-! Places in trees. A tree without places is read as the node without places, so two trees that
differ in their places only are read as two nodes that differ in their places only.
-/

namespace DeviceScript.Estree

mutual

/-- A tree in which no node has a place. -/
def unplaced : Datum → Datum
  | .list items => .list (unplacedItems items)
  | .table entries => .table (unplacedEntries entries)
  | value => value
termination_by structural value => value

def unplacedItems : List Datum → List Datum
  | [] => []
  | item :: items => unplaced item :: unplacedItems items
termination_by structural items => items

def unplacedEntries : List (Text × Datum) → List (Text × Datum)
  | [] => []
  | entry :: entries =>
    if entry.1 = "loc" then unplacedEntries entries
    else unplacedEntry entry :: unplacedEntries entries
termination_by structural entries => entries

def unplacedEntry : Text × Datum → Text × Datum
  | (key, value) => (key, if isFlag key then value else unplaced value)
termination_by structural entry => entry

end

section Fields

variable {key : Text} (value : Datum)

/-- Every field but the place is still there, by induction over the fields. -/
theorem lookup_unplacedEntries (hk : key ≠ "loc") (entries : List (Text × Datum))
    : (unplacedEntries entries).lookup key
      = (entries.lookup key).map fun value => if isFlag key then value else unplaced value := by
  induction entries with
  | nil => rfl
  | cons entry entries ih =>
      obtain ⟨name, item⟩ := entry
      rw [unplacedEntries, List.lookup_cons]
      split
      -- What is left out is not what is looked for.
      · rename_i hloc
        have hne : key ≠ name := fun he => hk (he.trans hloc)
        rw [ih, beq_false_of_ne hne]
      · rw [unplacedEntry, List.lookup_cons, ih]
        by_cases he : key = name
        · subst he
          simp only [beq_self_eq_true, Option.map_some]
        · simp only [beq_false_of_ne he]

/-- The place is left out of the fields. -/
theorem lookup_unplacedEntries_place (entries : List (Text × Datum))
    : (unplacedEntries entries).lookup (Text.ofString "loc") = none := by
  induction entries with
  | nil => rfl
  | cons entry entries ih =>
      obtain ⟨name, item⟩ := entry
      rw [unplacedEntries]
      split
      · exact ih
      · rename_i hne
        rw [unplacedEntry, List.lookup_cons, ih, beq_false_of_ne (Ne.symm hne)]

/-- A field but the place has no places either; the value of a flag is no tree, and remains as it
is. -/
theorem field_unplaced (hk : key ≠ "loc")
    : (unplaced value).field key
      = if isFlag key then value.field key else unplaced (value.field key) := by
  have hfield : (unplaced value).field? key
      = (value.field? key).map fun value => if isFlag key then value else unplaced value := by
    cases value with
    | table entries => exact lookup_unplacedEntries hk entries
    | _ => rfl
  rw [Datum.field, Datum.field, hfield]
  cases value.field? key <;> cases isFlag key <;> rfl

/-- Only the contents of lists and tables lose places. -/
theorem hasShapeOf_unplaced : HasShapeOf value (unplaced value) := by
  cases value with
  | list items => exact .list _ _
  | table entries => exact .table _ _
  | _ => exact .same _

/-- A tree without places has none. -/
theorem location?_unplaced : location? (unplaced value) = none := by
  have hplace : (unplaced value).field "loc" = .null := by
    cases value with
    | table entries =>
        refine Datum.field_eq_null ?_
        exact lookup_unplacedEntries_place entries
    | _ => rfl
  rw [location?, hplace]
  rfl

/-- The items of a list lose their places one by one. -/
theorem items_unplaced : (unplaced value).items = value.items.map unplaced := by
  cases value with
  | list items =>
      change unplacedItems items = items.map unplaced
      induction items with
      | nil => rfl
      | cons item items ih => rw [unplacedItems, ih, List.map_cons]
  | _ => rfl

end Fields

/-- A tree without places is an image of the tree. -/
theorem isMirror_unplaced : IsMirror (fun tree image => image = unplaced tree) fun _ => none where
  shape := by
    rintro tree _ rfl
    exact hasShapeOf_unplaced tree
  place := by
    rintro tree _ rfl
    exact location?_unplaced tree
  field := by
    rintro tree _ key rfl hk hf
    rw [field_unplaced tree hk, if_neg (Bool.not_eq_true _ ▸ hf)]
  flag := by
    rintro tree _ key rfl hf
    have hkey : key ≠ "loc" := by
      rintro rfl
      exact absurd hf (by decide)
    rw [field_unplaced tree hkey, if_pos hf]
    exact ⟨rfl, rfl⟩
  list := by
    rintro tree _ key rfl hk hf _
    rw [field_unplaced tree hk, if_neg (Bool.not_eq_true _ ▸ hf), items_unplaced,
      List.forall₂_map_right_iff]
    exact List.forall₂_same.mpr fun _ _ => rfl
  body := by
    rintro tree _ rfl
    have hempty : ∀ item, isEmptyStatement (unplaced item) = isEmptyStatement item := by
      intro item
      refine isEmptyStatement_eq_of_shape ?_
      rw [field_unplaced item (by decide), if_neg (by decide)]
      exact hasShapeOf_unplaced _
    -- A statement is left out with its place exactly if it is left out without it.
    rw [field_unplaced tree (by decide), if_neg (by decide), items_unplaced, List.filter_map,
      List.forall₂_map_right_iff]
    simp only [Function.comp_def, hempty]
    exact List.forall₂_same.mpr fun _ _ => rfl

/-- Reading keeps places out of everything but places. -/
theorem toNode_unplaced (tree : Datum) : toNode (unplaced tree) = (toNode tree).unplaced := by
  have hunplaced : ∀ node : Node, node.unplaced = node.rebuild Node.unplaced fun _ => none :=
    fun node => by cases node <;> simp [Node.rebuild, Node.unplaced, Node.normal]
  exact isMirror_unplaced.toNode_eq hunplaced rfl

end DeviceScript.Estree
