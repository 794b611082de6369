import DeviceScript.Proofs.Emission.OwnNotes
import DeviceScript.Proofs.Emission.Writing

/-! Refusal of programs. What emission cannot translate is reported as an error wherever it stands,
except below an argument of a method that takes none.
-/

namespace DeviceScript

namespace Note

/-- Tells whether a note is the report of an error. -/
def isFatal : Note → Bool
  | report finding _ => finding.severity = .error
  | replacement _ _ => false

end Note

/-- Tells whether there is the report of an error among some notes. -/
def anyFatal (notes : List Note) : Bool := notes.any Note.isFatal

/-- No notes hold no error. -/
@[simp]
theorem anyFatal_nil : anyFatal [] = false := rfl

/-- Two groups of notes hold an error if one of them does. -/
@[simp]
theorem anyFatal_append (first second : List Note)
    : anyFatal (first ++ second) = (anyFatal first || anyFatal second) := List.any_append

/-- The notes on a list hold an error if those on one of its members do. -/
@[simp]
theorem anyFatal_flatMap {α : Type} (list : List α) (notes : α → List Note)
    : anyFatal (list.flatMap notes) = list.any fun a => anyFatal (notes a) := by
  simp only [anyFatal, List.any_flatMap]

/-- The order of notes is no matter of errors. -/
theorem anyFatal_perm {first second : List Note} (h : first.Perm second)
    : anyFatal first = anyFatal second := h.any_eq

/-- Reports are added to those that are there, by induction over the notes. -/
theorem Progress.diagnostics_noteAll (progress : Progress) (notes : List Note)
    : (progress.noteAll notes).diagnostics
      = progress.diagnostics ++ (({} : Progress).noteAll notes).diagnostics := by
  have hnote : ∀ (progress : Progress) (head : Note),
      (progress.note head).diagnostics
        = progress.diagnostics ++ (({} : Progress).note head).diagnostics := by
    intro progress head
    cases head with
    | report finding node => rfl
    | replacement source target => exact (List.append_nil _).symm
  induction notes generalizing progress with
  | nil => exact (List.append_nil _).symm
  | cons head tail ih =>
      change ((progress.note head).noteAll tail).diagnostics
        = progress.diagnostics ++ ((({} : Progress).note head).noteAll tail).diagnostics
      rw [ih, hnote, ih (({} : Progress).note head), List.append_assoc]

/-- Reports hold an error after some notes if they did before or the notes do. -/
theorem Progress.hasFatal_noteAll (progress : Progress) (notes : List Note)
    : hasFatal (progress.noteAll notes).diagnostics
      = (hasFatal progress.diagnostics || anyFatal notes) := by
  induction notes generalizing progress with
  | nil => exact (Bool.or_false _).symm
  | cons head tail ih =>
      change hasFatal ((progress.note head).noteAll tail).diagnostics = _
      rw [ih]
      cases head with
      | report finding node =>
          simp only [Progress.note, hasFatal, anyFatal, List.any_append, List.any_cons,
            List.any_nil, Bool.or_false, Bool.or_assoc]
          rfl
      | replacement source target => rfl

namespace Node

/-- A node stands in another one, or is that node itself, and every part on the way satisfies a
condition. The flags tell whether braces stand around the two nodes. -/
inductive Reaches (through : Part → Prop) : Node → Bool → Bool → Node → Prop where
  | self (node : Node) (enclosed : Bool) : Reaches through node enclosed enclosed node
  | part {outer inner : Node} {enclosed enclosed' : Bool} {part : Part} (member : part ∈ outer.parts)
      (passes : through part)
      (below : Reaches through part.node (enclosed || part.enclosed) enclosed' inner)
    : Reaches through outer enclosed enclosed' inner

end Node

namespace Fragment

variable (style : Style) (depth : Nat)

-----------------------------------------------------------------------------------------
-- Errors among the notes on a node itself
-----------------------------------------------------------------------------------------

/-- The notes on the elements of an array are warnings. -/
theorem anyFatal_elementNotes (array : Node) (elements : List (Option Node)) (name : Text)
    : anyFatal (elementNotes array elements name) = false := by
  simp only [elementNotes, anyFatal_append, anyFatal_flatMap, Bool.or_eq_false_iff,
    List.any_eq_false]
  constructor
  · split <;> rfl
  · intro element _
    unfold disagreementNotes
    split <;> exact Bool.false_ne_true

/-- The notes on a value that a name is declared with are warnings. -/
theorem anyFatal_initialNotes (name : Text) (value : Node)
    : anyFatal (initialNotes name value) = false := by
  cases value with
  | array elements location => exact anyFatal_elementNotes _ elements name
  | _ => rfl

/-- The notes on a name are no errors. -/
theorem anyFatal_nameNotes (shims : ShimTable) (name : Option Text)
    : anyFatal (nameNotes shims name) = false := by
  unfold nameNotes
  split
  · rfl
  · split <;> rfl

/-- The note on a shared type is a warning. -/
theorem anyFatal_sharedNotes (declaration : Node) (count : Nat) (parts : List Text)
    : anyFatal (sharedNotes declaration count parts) = false := by
  simp only [sharedNotes]
  split <;> rfl

/-- A property that is not refused has no note on an error. -/
theorem anyFatal_propertyNotes (shims : ShimTable) (node : Node) (name : Text)
    (place : Option Location)
    : anyFatal (propertyNotes shims node (.identifier name place)) = false := by
  simp only [propertyNotes]
  split
  · rfl
  · split
    · rfl
    · exact anyFatal_nameNotes _ _

/-- The notes on types are warnings. -/
theorem anyFatal_typeNotes (node : Node) : anyFatal (typeNotes style depth node) = false := by
  unfold typeNotes
  split
  · exact anyFatal_initialNotes _ _
  · rfl

/-- A node that is not refused itself has no errors among its own notes. -/
theorem anyFatal_ownNotes (node : Node) : anyFatal (ownNotes style depth node) = false := by
  unfold ownNotes
  split
  · exact anyFatal_propertyNotes _ _ _ _
  · split
    · exact anyFatal_nameNotes _ _
    · rfl
  · exact anyFatal_typeNotes style depth _
  · unfold headerOwnNotes
    split
    · exact anyFatal_sharedNotes _ _ _
    · rfl
  · rfl

/-- A node that is refused itself has a note on an error, whatever else is noted on it. -/
theorem anyFatal_of_isFaulty {node : Node} (faulty : node.isFaulty (decide (depth > 0)) = true)
    : anyFatal (notes style depth node) = true := by
  cases node with
  | literal value raw location =>
      cases value with
      | real number =>
          have infinite : number.isFinite = false := by
            simpa only [Node.isFaulty, Bool.not_eq_true'] using faulty
          rw [notes, literalNotes, infinite]
          rfl
      | _ => cases faulty
  | array elements location =>
      have hole : elements.any Option.isNone = true := faulty
      rw [notes_array, if_pos hole]
      rfl
  | binary operator left right location | logical operator left right location
  | assignment operator left right location | unary operator argument leading location =>
      rw [notes, operationNotes, if_pos (of_decide_eq_true faulty)]
      rfl
  | member object property computed location =>
      cases computed with
      | true => cases faulty
      | false =>
          rw [notes, anyFatal_append]
          cases property with
          | identifier name place => cases faulty
          | _ => exact Bool.or_true _
  | call callee arguments location =>
      cases hs : callee.selected? with
      | none =>
          rw [Node.isFaulty, hs] at faulty
          cases faulty
      | some selection =>
          obtain ⟨method, object⟩ := selection
          have unfit : method.isFaultyCall arguments = true := by
            simpa only [Node.isFaulty, hs] using faulty
          rw [notes_selected _ _ _ _ hs, anyFatal_append]
          cases method with
          | push =>
              rcases arguments with _ | ⟨argument, _ | ⟨_, _⟩⟩
              · exact Bool.or_true _
              · cases unfit
              · exact Bool.or_true _
          | splice =>
              rcases arguments with _ | ⟨start, _ | ⟨count, _ | ⟨_, _⟩⟩⟩
              · exact Bool.or_true _
              · cases unfit
              · cases unfit
              · exact Bool.or_true _
          | _ => cases unfit
  | function name parameters body location =>
      rw [notes_function, if_pos (of_decide_eq_true faulty)]
      rfl
  | unsupported source detail location | foreign kind location =>
      rw [notes]
      rfl
  | _ => cases faulty

-----------------------------------------------------------------------------------------
-- A node is refused exactly if emission reaches a faulty one in it
-----------------------------------------------------------------------------------------

/-- Tells whether a part is written and refused. -/
def refusesPart (part : Part) : Bool :=
  part.copies ≠ 0 && anyFatal (notes style (depth + part.enclosed.toNat) part.node)

/-- The notes on parts hold an error if one of the parts is refused. -/
theorem any_refusesPart (parts : List Part)
    : anyFatal (parts.flatMap (partNotes style depth)) = parts.any (refusesPart style depth) := by
  have hpart : (fun part => anyFatal (partNotes style depth part)) = refusesPart style depth :=
    funext (any_partNotes Note.isFatal)
  rw [anyFatal_flatMap, hpart]

/-- What is passed on with a name is no error. -/
theorem anyFatal_passedNotes (node : Node)
    : anyFatal (passedNotes style depth node) = false := by
  unfold passedNotes
  split
  · unfold headerPassedNotes
    split
    · rw [anyFatal_flatMap, List.any_eq_false]
      exact fun node _ => Bool.eq_false_iff.mp (anyFatal_typeNotes style depth node)
    · rfl
  · rfl

/-- A node is refused for what it is itself or for one of its parts that are written. -/
theorem anyFatal_notes (node : Node)
    : anyFatal (notes style depth node)
      = (node.isFaulty (decide (depth > 0)) || node.parts.any (refusesPart style depth)) := by
  cases hf : node.isFaulty (decide (depth > 0)) with
  | true => rw [anyFatal_of_isFaulty style depth hf, Bool.true_or]
  | false =>
      calc anyFatal (notes style depth node)
          = anyFatal (ownNotes style depth node
              ++ (node.notedStages style.shims).flatMap (partNotes style depth)) :=
            anyFatal_perm (notes_perm hf)
        _ = anyFatal ((node.notedStages style.shims).flatMap (partNotes style depth)) := by
            rw [anyFatal_append, anyFatal_ownNotes, Bool.false_or]
        _ = anyFatal (node.stages.flatMap (partNotes style depth)) :=
            any_notedStages (anyFatal_propertyNotes style.shims) node
        _ = anyFatal (passedNotes style depth node
              ++ node.stages.flatMap (partNotes style depth)) := by
            rw [anyFatal_append, anyFatal_passedNotes, Bool.false_or]
        _ = anyFatal (node.parts.flatMap (partNotes style depth)) :=
            (anyFatal_perm (parts_perm node)).symm
        _ = (false || node.parts.any (refusesPart style depth)) := by
            rw [any_refusesPart, Bool.false_or]

/-- Emission of a node without an error refuses neither the node nor what is written of it. -/
theorem not_isFaulty {style : Style} {depth : Nat} {node : Node}
    (clean : anyFatal (notes style depth node) = false)
    : node.isFaulty (decide (depth > 0)) = false := by
  rw [anyFatal_notes, Bool.or_eq_false_iff] at clean
  exact clean.1

/-- A part that is written has no errors if the node has none. -/
theorem not_anyFatal_part {style : Style} {depth : Nat} {node : Node}
    (clean : anyFatal (notes style depth node) = false)
    {part : Part} (hm : part ∈ node.parts) (written : part.IsWritten)
    : anyFatal (notes style (depth + part.enclosed.toNat) part.node) = false := by
  rw [anyFatal_notes, Bool.or_eq_false_iff, List.any_eq_false] at clean
  have hpart := clean.2 part hm
  have hwritten : decide (part.copies ≠ 0) = true := decide_eq_true written
  rw [refusesPart, hwritten, Bool.true_and] at hpart
  exact Bool.eq_false_iff.mpr hpart

/-- A part is inside of a block if the node is, or if the part is between braces. -/
theorem decide_depth (part : Part)
    : decide (depth + part.enclosed.toNat > 0) = (decide (depth > 0) || part.enclosed) := by
  cases part.enclosed with
  | false => exact (Bool.or_false _).symm
  | true => exact (decide_eq_true (Nat.succ_pos depth)).trans (Bool.or_true _).symm

/-- A node is refused exactly if emission reaches a faulty node in it, by induction over the size of
the node in one direction and over the way to the faulty node in the other. -/
theorem anyFatal_notes_iff (style : Style) (depth : Nat) (node : Node)
    : anyFatal (notes style depth node) = true
      ↔ ∃ enclosed faulty,
          node.Reaches Part.IsWritten (decide (depth > 0)) enclosed faulty
            ∧ faulty.isFaulty enclosed = true := by
  constructor
  · intro h
    rw [anyFatal_notes, Bool.or_eq_true, List.any_eq_true] at h
    rcases h with h | ⟨part, hm, h⟩
    · exact ⟨_, node, .self node _, h⟩
    · rw [refusesPart, Bool.and_eq_true, decide_eq_true_eq] at h
      have hlt := Node.sizeOf_part hm
      obtain ⟨enclosed, faulty, hr, hf⟩ := (anyFatal_notes_iff style _ part.node).mp h.2
      rw [decide_depth] at hr
      exact ⟨enclosed, faulty, .part hm h.1 hr, hf⟩
  · rintro ⟨enclosed, faulty, hr, hf⟩
    generalize ho : decide (depth > 0) = outer at hr
    induction hr generalizing depth with
    | self node enclosed =>
        rw [anyFatal_notes, ho, hf, Bool.true_or]
    | @part outer inner enclosed enclosed' part hm hp _ ih =>
        have hpart := ih (depth + part.enclosed.toNat) hf (by rw [decide_depth, ho])
        rw [anyFatal_notes, Bool.or_eq_true, List.any_eq_true]
        refine .inr ⟨part, hm, ?_⟩
        rw [refusesPart, hpart, Bool.and_true]
        exact decide_eq_true hp
termination_by sizeOf node

end Fragment

end DeviceScript
