import DeviceScript.Proofs.Emission.Visits

/-! The replaced names among the notes on a node: one for each node that emission comes to and at
which a dotted name is replaced, whether that node is written or not.
-/

namespace DeviceScript

/-- The dotted name that a note is about, and the name that replaces it. -/
def Note.substitution? : Note → Option (Text × Text)
  | report _ _ => none
  | replacement source target => some (source, target)

/-- The replaced names among some notes. -/
def substitutions (notes : List Note) : List (Text × Text) := notes.filterMap Note.substitution?

/-- Without notes there are no replaced names. -/
@[simp]
theorem substitutions_nil : substitutions [] = [] := rfl

/-- The replaced names of two groups of notes are those of both. -/
@[simp]
theorem substitutions_append (first second : List Note)
    : substitutions (first ++ second) = substitutions first ++ substitutions second :=
  List.filterMap_append

/-- The replaced names of a list are those of its members. -/
@[simp]
theorem substitutions_flatMap {α : Type} (list : List α) (notes : α → List Note)
    : substitutions (list.flatMap notes) = list.flatMap fun a => substitutions (notes a) :=
  List.filterMap_flatMap

/-- The order of notes is that of the replaced names. -/
theorem substitutions_perm {first second : List Note} (h : first.Perm second)
    : (substitutions first).Perm (substitutions second) := h.filterMap _

namespace Fragment

variable {style : Style} {depth : Nat}

-----------------------------------------------------------------------------------------
-- Notes on single kinds of nodes
-----------------------------------------------------------------------------------------

/-- The notes on elements are about no names. -/
theorem substitutions_elementNotes (array : Node) (elements : List (Option Node)) (name : Text)
    : substitutions (elementNotes array elements name) = [] := by
  simp only [elementNotes, substitutions_append, substitutions_flatMap, List.append_eq_nil_iff,
    List.flatMap_eq_nil_iff]
  constructor
  · split <;> rfl
  · intro element _
    unfold disagreementNotes
    split <;> rfl

/-- The notes on a value that a name is declared with are about no names. -/
theorem substitutions_initialNotes (name : Text) (value : Node)
    : substitutions (initialNotes name value) = [] := by
  cases value with
  | array elements location => exact substitutions_elementNotes _ elements name
  | _ => rfl

/-- The note on a shared type is about no name. -/
theorem substitutions_sharedNotes (declaration : Node) (count : Nat) (parts : List Text)
    : substitutions (sharedNotes declaration count parts) = [] := by
  simp only [sharedNotes]
  split <;> rfl

/-- A name is replaced exactly if the table has it. -/
theorem substitutions_nameNotes (shims : ShimTable) (name : Option Text)
    : substitutions (nameNotes shims name)
      = (name.bind fun source =>
          (shims.lookup? source).map fun target => (source, target)).toList := by
  cases name with
  | none => rfl
  | some source =>
      simp only [nameNotes, Option.bind_some]
      cases shims.lookup? source <;> rfl

/-- A property is replaced exactly if the table has the dotted name of the member. -/
theorem substitutions_propertyNotes (shims : ShimTable) (object : Node) (name : Text)
    (place location : Option Location)
    : substitutions (propertyNotes shims (.member object (.identifier name place) false location)
        (.identifier name place))
      = ((Node.member object (.identifier name place) false location).substitution? shims).toList
    := by
  simp only [propertyNotes, Node.substitution?, Node.soughtName?]
  cases hp : property? [] name with
  | some access => rfl
  | none =>
      cases hd : isDeferred name with
      | true => rfl
      | false => exact substitutions_nameNotes shims _

/-- The notes on types are about no names. -/
theorem substitutions_typeNotes (node : Node) : substitutions (typeNotes style depth node) = [] := by
  unfold typeNotes
  split
  · exact substitutions_initialNotes _ _
  · rfl

/-- What is replaced at a node is what its own notes tell of. -/
theorem substitutions_ownNotes (node : Node)
    : substitutions (ownNotes style depth node) = (node.substitution? style.shims).toList := by
  cases node with
  | member object property computed location =>
      cases property with
      | identifier name place =>
          cases computed with
          | true => rfl
          | false => exact substitutions_propertyNotes _ object name place location
      | _ => rfl
  | call callee arguments location =>
      rw [ownNotes, Node.substitution?, Node.soughtName?]
      split
      · exact substitutions_nameNotes _ _
      · rfl
  | declarator target initial location => exact substitutions_typeNotes _
  | forLoop initial test advance body location =>
      cases initial with
      | none => rfl
      | some node =>
          rw [ownNotes]
          unfold headerOwnNotes
          split
          · exact substitutions_sharedNotes _ _ _
          · rfl
  | _ => rfl

/-- What is passed on is about no names. -/
theorem substitutions_passedNotes (node : Node)
    : substitutions (passedNotes style depth node) = [] := by
  unfold passedNotes
  split
  · unfold headerPassedNotes
    split
    · rw [substitutions_flatMap, List.flatMap_eq_nil_iff]
      exact fun node _ => substitutions_typeNotes node
    · rfl
  · rfl

-----------------------------------------------------------------------------------------
-- Names that are replaced in the parts of a node
-----------------------------------------------------------------------------------------

/-- The replaced names in a part. -/
def partSubstitutions (style : Style) (depth : Nat) (part : Part) : List (Text × Text) :=
  substitutions (notes style (depth + part.enclosed.toNat) part.node)

/-- The replaced names in a part, unless it is left out. -/
def writtenSubstitutions (style : Style) (depth : Nat) (part : Part) : List (Text × Text) :=
  if part.copies = 0 then [] else partSubstitutions style depth part

/-- The replaced names of the parts that are written are those of the notes on the parts. -/
theorem flatMap_writtenSubstitutions (parts : List Part)
    : parts.flatMap (writtenSubstitutions style depth)
      = substitutions (parts.flatMap (partNotes style depth)) := by
  have hpart : ∀ part, substitutions (partNotes style depth part)
      = writtenSubstitutions style depth part := by
    intro part
    rw [partNotes, writtenSubstitutions, partSubstitutions]
    split <;> rfl
  simp only [substitutions_flatMap, hpart]

/-- Parts that are left out need not be sought for names, by induction over the parts. -/
theorem flatMap_partSubstitutions (parts : List Part)
    : (parts.filter fun part => part.copies ≠ 0).flatMap (partSubstitutions style depth)
      = parts.flatMap (writtenSubstitutions style depth) := by
  induction parts with
  | nil => rfl
  | cons part parts ih =>
      rw [List.flatMap_cons, List.filter_cons, writtenSubstitutions]
      by_cases hc : part.copies = 0
      · simp only [hc, ne_eq, not_true_eq_false, decide_false, Bool.false_eq_true, if_false,
          if_true, List.nil_append, ih]
      · simp only [hc, ne_eq, not_false_eq_true, decide_true, if_true, if_false,
          List.flatMap_cons, ih]

/-- A chain that a name replaces is sought for names all the same. -/
theorem substitutions_chain {node : Node} (h : node.isReplacedChain style.shims = true)
    : substitutions ((node.notedStages style.shims).flatMap (partNotes style depth))
      = (node.visitedParts style.shims).flatMap (partSubstitutions style depth) := by
  have hstages : node.notedStages style.shims = node.parts := by
    cases node with
    | member _ _ _ _ => rfl
    | _ => cases h
  have hwritten : ∀ part ∈ node.parts, writtenSubstitutions style depth part
      = partSubstitutions style depth { part with copies := 0 } :=
    fun part hm => if_neg (Node.copies_ne_zero_of_isReplacedChain h hm)
  rw [hstages, ← flatMap_writtenSubstitutions, Node.visitedParts, if_pos h, List.flatMap_map]
  exact List.flatMap_congr hwritten

/-- A callee that a name replaces is not sought for names. -/
theorem substitutions_callee {node : Node} (hr : node.isReplaced style.shims = true)
    (hchain : node.isReplacedChain style.shims = false)
    : substitutions ((node.notedStages style.shims).flatMap (partNotes style depth))
      = (node.visitedParts style.shims).flatMap (partSubstitutions style depth) := by
  have hstages : node.notedStages style.shims = node.parts.tail := by
    cases node with
    | call callee arguments location =>
        rw [Node.isReplaced] at hr
        obtain ⟨hs, _⟩ := Bool.and_eq_true _ _ ▸ hr
        rw [Option.isNone_iff_eq_none] at hs
        rw [Node.notedStages, if_pos hr, Node.parts, hs]
        rfl
    | member _ _ _ _ => cases hr.symm.trans hchain
    | _ => cases hr
  rw [hstages, Node.visitedParts_of_not_chain hchain, Node.remainingParts, if_pos hr,
    flatMap_partSubstitutions, flatMap_writtenSubstitutions]

/-- Where no name replaces a node, the notes on its parts tell of the names that are replaced in
them. -/
theorem substitutions_stages {node : Node} (hr : node.isReplaced style.shims = false)
    : (substitutions ((node.notedStages style.shims).flatMap (partNotes style depth))).Perm
        ((node.visitedParts style.shims).flatMap (partSubstitutions style depth)) := by
  have hchain : node.isReplacedChain style.shims = false := by
    refine Bool.eq_false_iff.mpr fun hchain => ?_
    rw [Node.isReplaced_of_isReplacedChain hchain] at hr
    cases hr
  have hstages : node.notedStages style.shims = node.stages := by
    cases node with
    | call callee arguments location =>
        rw [Node.isReplaced] at hr
        rw [Node.notedStages, hr]
        rfl
    | _ => rfl
  have hparts : (substitutions (node.parts.flatMap (partNotes style depth))).Perm
      (substitutions (passedNotes style depth node
        ++ node.stages.flatMap (partNotes style depth))) := substitutions_perm (parts_perm node)
  rw [substitutions_append, substitutions_passedNotes, List.nil_append] at hparts
  rw [hstages, Node.visitedParts_of_not_chain hchain, Node.remainingParts, hr,
    if_neg Bool.false_ne_true, flatMap_partSubstitutions, flatMap_writtenSubstitutions]
  exact hparts.symm

-----------------------------------------------------------------------------------------
-- Names are replaced in the nodes that emission comes to
-----------------------------------------------------------------------------------------

/-- The names that are replaced in a node that is emitted without an error: the one that is replaced
at the node itself, and those that are replaced in the parts that emission comes to. -/
theorem substitutions_notes {node : Node} (clean : anyFatal (notes style depth node) = false)
    : (substitutions (notes style depth node)).Perm
        ((node.substitution? style.shims).toList
          ++ (node.visitedParts style.shims).flatMap (partSubstitutions style depth)) := by
  have faultless := not_isFaulty clean
  have hparts : (substitutions
        ((node.notedStages style.shims).flatMap (partNotes style depth))).Perm
      ((node.visitedParts style.shims).flatMap (partSubstitutions style depth)) := by
    cases hr : node.isReplaced style.shims with
    | false => exact substitutions_stages hr
    | true =>
        cases hchain : node.isReplacedChain style.shims with
        | true => exact .of_eq (substitutions_chain hchain)
        | false => exact .of_eq (substitutions_callee hr hchain)
  refine (substitutions_perm (notes_perm faultless)).trans ?_
  rw [substitutions_append, substitutions_ownNotes]
  exact hparts.append_left _

/-- The names that are replaced in a node that is emitted without an error are those that are
replaced at the nodes that emission comes to, by induction over the size of the node. -/
theorem substitutions_visited (style : Style) (depth : Nat) {node : Node}
    (clean : anyFatal (notes style depth node) = false)
    : (substitutions (notes style depth node)).Perm
        ((node.visited style.shims).filterMap fun occurrence =>
          occurrence.node.substitution? style.shims) := by
  refine (substitutions_notes clean).trans ?_
  rw [Node.visited_eq, List.filterMap_cons, List.filterMap_flatMap]
  have hparts : ((node.visitedParts style.shims).flatMap (partSubstitutions style depth)).Perm
      ((node.visitedParts style.shims).flatMap fun part =>
        ((part.node.visited style.shims).map (Occurrence.within part)).filterMap
          fun occurrence => occurrence.node.substitution? style.shims) := by
    refine List.Perm.flatMap_left _ fun part hm => ?_
    obtain ⟨copies, hpart, hwritten⟩ := Node.exists_writtenPart hm
    have hlt := Node.sizeOf_visitedPart hm
    have hclean := not_anyFatal_part clean hpart hwritten
    rw [List.filterMap_map]
    exact substitutions_visited style _ hclean
  cases hs : node.substitution? style.shims with
  | none => exact hparts
  | some substitution => exact hparts.cons substitution
termination_by sizeOf node

end Fragment

end DeviceScript
