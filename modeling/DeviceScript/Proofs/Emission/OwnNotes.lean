import DeviceScript.Proofs.Emission.Part
import DeviceScript.Proofs.Emission.Notes
import Mathlib.Data.List.Perm.Basic

/-! The notes on a node are its own and those on what emission comes to next. Reports of errors,
reports on types and replaced names are all found along this one step.
-/

namespace DeviceScript

-----------------------------------------------------------------------------------------
-- Nodes that are refused for what they are themselves
-----------------------------------------------------------------------------------------

/-- Tells whether the number of arguments keeps a call of a method from being translated. -/
def Fragment.Method.isFaultyCall (method : Method) (arguments : List Node) : Bool :=
  match method with
  | push => arguments.length ≠ 1
  | splice => arguments.length = 0 || arguments.length > 2
  | pop | shift | reverse => false

namespace Node

/-- Tells whether a property that is not in brackets is anything but a name. -/
def isFaultyProperty : Node → Bool
  | identifier _ _ => false
  | _ => true

/-- Tells whether emission refuses a node for what the node itself is. -/
def isFaulty (enclosed : Bool) : Node → Bool
  | unsupported _ _ _ | foreign _ _ => true
  | array elements _ => elements.any Option.isNone
  | binary operator _ _ _ | logical operator _ _ _ => operator ∈ Operator.untranslatedBinary
  | unary operator _ _ _ => operator ∈ Operator.untranslatedUnary
  | assignment operator _ _ _ => operator ∈ Operator.untranslatedAssignment
  | literal (.real number) _ _ => !number.isFinite
  | member _ property computed _ => !computed && property.isFaultyProperty
  | call callee arguments _ =>
    match callee.selected? with
    | some (method, _) => method.isFaultyCall arguments
    | none => false
  | function _ _ _ _ => enclosed
  | _ => false

-----------------------------------------------------------------------------------------
-- What emission comes to next
-----------------------------------------------------------------------------------------

/-- The parts of a declarator that goes on in a loop header, where the declarator itself is passed
over. -/
def continuedStages : Node → List Part
  | declarator target initial _ => { node := target } :: initial.toList.map fun node => { node }
  | node => [{ node }]

/-- The parts of the first slot of a loop header, of which only the first is a whole declarator. -/
def headerStages : Node → List Part
  | declaration (first :: rest) _ _ => { node := first } :: rest.flatMap continuedStages
  | node => [{ node }]

/-- The nodes that emission of a node comes to next. -/
def stages : Node → List Part
  | forLoop initial test advance body _ =>
    initial.toList.flatMap headerStages
      ++ (test.toList ++ advance.toList).map (fun node => { node }) ++ body.bodyParts
  | node => node.parts

/-- The nodes that emission of a node comes to next and makes notes on: a callee that a name
replaces is none of them. -/
def notedStages (shims : ShimTable) : Node → List Part
  | call callee arguments location =>
    if callee.selected?.isNone && (Fragment.replacement? shims callee.dottedName?).isSome then
      arguments.map fun node => { node }
    else (call callee arguments location).parts
  | node => node.stages

end Node

namespace Fragment

/-- The notes on the elements of a declarator, which a loop header makes for the first one only. -/
def typeNotes (style : Style) (depth : Nat) : Node → List Note
  | .declarator target (some value) _ => initialNotes (text style depth target) value
  | _ => []

/-- The notes on the declarators of a loop header together. -/
def headerOwnNotes (style : Style) (depth : Nat) : Node → List Note
  | .declaration (first :: rest) keyword location =>
    sharedNotes (.declaration (first :: rest) keyword location) (rest.length + 1)
      (text style depth first :: rest.map (continuedText style depth))
  | _ => []

/-- The notes on a node for what the node itself is, unless it is refused for that. -/
def ownNotes (style : Style) (depth : Nat) : Node → List Note
  | .member object (.identifier name place) false location =>
    propertyNotes style.shims (.member object (.identifier name place) false location)
      (.identifier name place)
  | .call callee _ _ =>
    if callee.selected?.isNone then nameNotes style.shims callee.dottedName? else []
  | .declarator target initial location =>
    typeNotes style depth (.declarator target initial location)
  | .forLoop (some initial) _ _ _ _ => headerOwnNotes style depth initial
  | _ => []

/-- The notes on a part, of which there are none if the part is left out. -/
def partNotes (style : Style) (depth : Nat) (part : Part) : List Note :=
  if part.copies = 0 then [] else notes style (depth + part.enclosed.toNat) part.node

variable {style : Style} {depth : Nat}

-----------------------------------------------------------------------------------------
-- The notes on the parts of a node
-----------------------------------------------------------------------------------------

section Parts

/-- The notes on a part that is written are those on its node. -/
theorem partNotes_node (node : Node) {copies : Nat} (h : copies ≠ 0)
    : partNotes style depth { node, copies } = notes style depth node :=
  if_neg h

/-- The notes on a part that is written once are those on its node. -/
@[simp]
theorem partNotes_once (node : Node) : partNotes style depth { node } = notes style depth node :=
  partNotes_node node Nat.one_ne_zero

/-- A note on a part is one on its node, unless the part is left out. -/
theorem any_partNotes (p : Note → Bool) (part : Part)
    : (partNotes style depth part).any p
      = (part.copies ≠ 0 && (notes style (depth + part.enclosed.toNat) part.node).any p) := by
  by_cases h : part.copies = 0
  · rw [partNotes, if_pos h, h]
    rfl
  · rw [partNotes, if_neg h, decide_eq_true h, Bool.true_and]

/-- The notes on parts of a list are those on its nodes. -/
@[simp]
theorem flatMap_partNotes (nodes : List Node)
    : (nodes.map fun node => ({ node } : Part)).flatMap (partNotes style depth)
      = nodes.flatMap (notes style depth) := by
  rw [List.flatMap_map]
  rfl

/-- The notes on the parts of a body are those on its statements, one block deeper. -/
@[simp]
theorem flatMap_bodyNotes (body : Node)
    : body.bodyParts.flatMap (partNotes style depth)
      = body.inner.flatMap (notes style (depth + 1)) := by
  rw [Node.bodyParts, List.flatMap_map]
  rfl

/-- The notes on a part that may be missing are those on its node. -/
@[simp]
theorem flatMap_optionNotes (node : Option Node)
    : node.toList.flatMap (notes style depth) = node.elim [] (notes style depth) := by
  cases node with
  | none => rfl
  | some node => exact List.append_nil _

/-- The notes on the parts of the second branch are those on the branch. -/
@[simp]
theorem flatMap_alternateNotes (node : Node)
    : node.alternateParts.flatMap (partNotes style depth) = alternateNotes style depth node := by
  unfold Node.alternateParts alternateNotes
  split
  · exact List.append_nil _
  · exact flatMap_bodyNotes node

/-- The notes on what comes next in a declarator that goes on are those on it. -/
@[simp]
theorem flatMap_continuedStages (node : Node)
    : node.continuedStages.flatMap (partNotes style depth) = continuedNotes style depth node := by
  cases node with
  | declarator target initial location =>
      rw [continuedNotes_declarator, Node.continuedStages, List.flatMap_cons, flatMap_partNotes,
        flatMap_optionNotes, partNotes_once]
  | _ =>
      simp only [continuedNotes]
      exact List.append_nil _

/-- The notes on the first slot of a loop header are those on its stages, and those on all of its
declarators together. -/
theorem headerNotes_eq (node : Node)
    : headerNotes style depth node
      = node.headerStages.flatMap (partNotes style depth) ++ headerOwnNotes style depth node := by
  have hwhole : notes style depth node = [({ node } : Part)].flatMap (partNotes style depth) ++ [] :=
    ((List.append_nil _).trans (List.append_nil _)).symm
  cases node with
  | declaration declarations keyword location =>
      cases declarations with
      | nil =>
          simp only [headerNotes, Node.headerStages, List.flatMap_singleton, partNotes_once, notes,
            List.flatMap_nil]
          rfl
      | cons first rest =>
          have hrest : (rest.flatMap Node.continuedStages).flatMap (partNotes style depth)
              = rest.flatMap (continuedNotes style depth) := by
            simp only [List.flatMap_assoc, flatMap_continuedStages]
          rw [headerNotes, Node.headerStages, List.flatMap_cons, partNotes_once, hrest]
          rfl
  | _ =>
      simp only [headerNotes]
      exact hwhole

end Parts

/-- The notes on a call of a method with as many arguments as it needs are those on the arguments
that are written. -/
theorem methodNotes_eq {method : Method} {arguments : List Node} (node : Node)
    (fits : method.isFaultyCall arguments = false)
    : methodNotes method node (arguments.map (notes style depth))
      = (method.argumentParts arguments).flatMap (partNotes style depth) := by
  cases method with
  | push =>
      rcases arguments with _ | ⟨argument, _ | ⟨_, _⟩⟩
      · cases fits
      · exact (List.append_nil _).symm
      · cases fits
  | splice =>
      rcases arguments with _ | ⟨start, _ | ⟨count, _ | ⟨_, _⟩⟩⟩
      · cases fits
      · exact (List.append_nil _).symm
      · exact congrArg (notes style depth start ++ ·) (List.append_nil _).symm
      · cases fits
  | _ =>
      refine (List.flatMap_eq_nil_iff.mpr fun part hm => ?_).symm
      obtain ⟨argument, _, rfl⟩ := List.mem_map.mp hm
      rfl

-----------------------------------------------------------------------------------------
-- The notes on a node are its own and those on its stages
-----------------------------------------------------------------------------------------

/-- The notes on a node that is not refused itself, up to their order: its own, and those on what
emission comes to next, by cases on the node. -/
theorem notes_perm {node : Node} (faultless : node.isFaulty (decide (depth > 0)) = false)
    : (notes style depth node).Perm
        (ownNotes style depth node
          ++ (node.notedStages style.shims).flatMap (partNotes style depth)) := by
  cases node with
  | program body location | declaration body _ location =>
      refine .of_eq ?_
      simp only [notes, ownNotes, Node.notedStages, Node.stages, Node.parts, flatMap_partNotes,
        List.nil_append]
  | block body location =>
      refine .of_eq ?_
      rw [notes]
      exact (flatMap_bodyNotes (.block body location)).symm
  | expressionStatement inner location | update _ inner _ location =>
      refine .of_eq ?_
      rw [notes]
      exact (List.append_nil _).symm
  | unary operator argument leading location =>
      refine .of_eq ?_
      rw [notes, operationNotes, if_neg (of_decide_eq_false faultless)]
      exact (List.append_nil _).symm
  | binary operator left right location | logical operator left right location
  | assignment operator left right location =>
      refine .of_eq ?_
      rw [notes, operationNotes, if_neg (of_decide_eq_false faultless)]
      exact congrArg (notes style depth left ++ ·) (List.append_nil _).symm
  | array elements location =>
      have full : elements.any Option.isNone = false := faultless
      refine .of_eq ?_
      rw [notes_array, full, if_neg Bool.false_ne_true]
      exact (flatMap_partNotes _).symm
  | literal value raw location =>
      refine .of_eq ?_
      rw [notes]
      cases value with
      | real number =>
          have finite : number.isFinite = true := by
            simpa only [Node.isFaulty, Bool.not_eq_false'] using faultless
          rw [literalNotes, if_pos finite]
          rfl
      | _ => rfl
  | member object property computed location =>
      simp only [notes, Node.notedStages, Node.stages, Node.parts]
      cases computed with
      | true =>
          refine .of_eq ?_
          cases property <;>
            exact congrArg (notes style depth object ++ ·) (List.append_nil _).symm
      | false =>
          have hobject : partNotes style depth { node := object, copies := property.accessCopies }
              = notes style depth object := partNotes_node object property.accessCopies_ne_zero
          cases property with
          | identifier name place =>
              simp only [Bool.false_eq_true, if_false, List.flatMap_singleton, hobject]
              exact List.perm_append_comm
          | _ => cases faultless
  | call callee arguments location =>
      cases hs : callee.selected? with
      | some selection =>
          obtain ⟨method, object⟩ := selection
          have fits : method.isFaultyCall arguments = false := by
            simpa only [Node.isFaulty, hs] using faultless
          refine .of_eq ?_
          rw [notes_selected _ _ _ _ hs, methodNotes_eq _ fits]
          simp only [ownNotes, Node.notedStages, Node.parts, hs, Option.isNone_some,
            Bool.false_and, Bool.false_eq_true, if_false, List.flatMap_cons,
            partNotes_node object method.objectCopies_ne_zero, List.nil_append]
      | none =>
          rw [notes_ordinary _ _ _ _ hs]
          simp only [ownNotes, Node.notedStages, Node.parts, hs, Option.isNone_none, Bool.true_and,
            if_true]
          split
          · rw [flatMap_partNotes, List.append_nil]
            exact List.perm_append_comm
          · rw [List.flatMap_cons, flatMap_partNotes, partNotes_once]
            exact (List.perm_append_comm.append_right _).trans
              ((List.Perm.of_eq (List.append_assoc _ _ _)).trans
                (List.perm_append_comm.append_left _))
  | declarator target initial location =>
      rw [notes_declarator]
      cases initial with
      | none => exact .refl _
      | some value =>
          -- The elements are reviewed behind the target, and the value is written after that.
          have hvalue : notes style depth value = [value].flatMap (notes style depth) :=
            (List.append_nil _).symm
          simp only [Option.elim, ownNotes, typeNotes, Node.notedStages, Node.stages, Node.parts,
            List.flatMap_cons, flatMap_partNotes, partNotes_once, Option.toList_some, ← hvalue]
          exact List.perm_append_comm_assoc _ _ _
  | ifElse test consequent alternate location =>
      refine .of_eq ?_
      rw [notes_ifElse]
      simp only [ownNotes, Node.notedStages, Node.stages, Node.parts, List.cons_append,
        List.flatMap_cons, List.flatMap_append, flatMap_bodyNotes, partNotes_once,
        List.nil_append, List.append_assoc]
      cases alternate with
      | none => rfl
      | some node =>
          rw [Option.toList_some, List.flatMap_singleton, flatMap_alternateNotes]
          rfl
  | whileLoop test body location =>
      refine .of_eq ?_
      rw [notes_whileLoop]
      simp only [ownNotes, Node.notedStages, Node.stages, Node.parts, List.flatMap_cons,
        flatMap_bodyNotes, partNotes_once, List.nil_append]
  | forLoop initial test advance body location =>
      have hslots : ((test.toList ++ advance.toList).map fun node => ({ node } : Part)).flatMap
            (partNotes style depth)
          = test.elim [] (notes style depth) ++ advance.elim [] (notes style depth) := by
        rw [flatMap_partNotes, List.flatMap_append, flatMap_optionNotes, flatMap_optionNotes]
      rw [notes_forLoop]
      simp only [Node.notedStages, Node.stages, List.flatMap_append, hslots, flatMap_bodyNotes,
        List.append_assoc]
      cases initial with
      | none => exact .refl _
      | some node =>
          rw [Option.elim_some, headerNotes_eq, Option.toList_some, List.flatMap_singleton, ownNotes,
            ← List.append_assoc (headerOwnNotes style depth node)]
          exact List.perm_append_comm.append_right _
  | function name parameters body location =>
      have outermost : ¬ depth > 0 := of_decide_eq_false faultless
      refine .of_eq ?_
      rw [notes_function, if_neg outermost]
      simp only [ownNotes, Node.notedStages, Node.stages, Node.parts, List.flatMap_append,
        flatMap_partNotes, flatMap_bodyNotes, List.flatMap_singleton, List.nil_append]
  | returning argument location =>
      refine .of_eq ?_
      rw [notes_returning]
      simp only [ownNotes, Node.notedStages, Node.stages, Node.parts, flatMap_partNotes,
        flatMap_optionNotes, List.nil_append]
  | identifier name location | parameter name location =>
      refine .of_eq ?_
      rw [notes]
      rfl
  | unsupported _ _ _ | foreign _ _ => cases faultless

-----------------------------------------------------------------------------------------
-- What the stages of a node leave out of its parts
-----------------------------------------------------------------------------------------

/-- The notes that the first slot of a loop header passes over. -/
def headerPassedNotes (style : Style) (depth : Nat) : Node → List Note
  | .declaration (_ :: rest) _ _ => rest.flatMap (typeNotes style depth)
  | _ => []

/-- The notes on the parts of a node that emission of the node passes over. -/
def passedNotes (style : Style) (depth : Nat) : Node → List Note
  | .forLoop (some initial) _ _ _ _ => headerPassedNotes style depth initial
  | _ => []

/-- The notes on a node are those on its types and those that it has behind another declarator. -/
theorem notes_perm_continued (node : Node)
    : (notes style depth node).Perm
        (typeNotes style depth node ++ continuedNotes style depth node) := by
  cases node with
  | declarator target initial location =>
      rw [notes_declarator, continuedNotes_declarator]
      cases initial with
      | none => exact .refl _
      | some value => exact List.perm_append_comm_assoc _ _ _
  | _ =>
      refine .of_eq ?_
      simp only [continuedNotes]
      rfl

/-- The notes on a node are those that a header passes over and those on what comes next in it. -/
theorem notes_perm_header (node : Node)
    : (notes style depth node).Perm
        (headerPassedNotes style depth node
          ++ node.headerStages.flatMap (partNotes style depth)) := by
  cases node with
  | declaration declarations keyword location =>
      cases declarations with
      | nil => exact .of_eq (List.append_nil _).symm
      | cons first rest =>
          have hrest : (rest.flatMap (notes style depth)).Perm
              (rest.flatMap (typeNotes style depth)
                ++ rest.flatMap (continuedNotes style depth)) :=
            (List.Perm.flatMap_left _ fun node _ => notes_perm_continued node).trans
              (List.flatMap_append_perm rest _ _).symm
          simp only [notes, headerPassedNotes, Node.headerStages, List.flatMap_cons,
            partNotes_once, List.flatMap_assoc, flatMap_continuedStages]
          exact (hrest.append_left _).trans (List.perm_append_comm_assoc _ _ _)
  | _ => exact .of_eq (List.append_nil _).symm

/-- The notes on the parts of a node, up to their order: those on its stages, and those that it
passes over. -/
theorem parts_perm (node : Node)
    : (node.parts.flatMap (partNotes style depth)).Perm
        (passedNotes style depth node ++ node.stages.flatMap (partNotes style depth)) := by
  cases node with
  | forLoop initial test advance body location =>
      simp only [Node.parts, Node.stages, List.map_append, List.flatMap_append, flatMap_partNotes,
        List.append_assoc]
      rw [← List.append_assoc (passedNotes style depth _)]
      refine List.Perm.append_right _ ?_
      cases initial with
      | none => exact .refl _
      | some node =>
          rw [Option.toList_some, List.flatMap_singleton, List.flatMap_singleton]
          exact notes_perm_header node
  | _ => exact .refl _

-----------------------------------------------------------------------------------------
-- A callee that a name replaces has no notes but replacements
-----------------------------------------------------------------------------------------

section Silent

variable {p : Note → Bool}
  (silent : ∀ node name place,
    (propertyNotes style.shims node (.identifier name place)).any p = false)

include silent

/-- No note on a chain of names is of a kind that properties have none of, by induction over the
chain. -/
theorem any_dotted {node : Node} (h : node.dottedName?.isSome)
    : (notes style depth node).any p = false := by
  induction node with
  | identifier name location =>
      simp only [notes]
      rfl
  | member object property computed location ho _ =>
      cases property with
      | identifier name place =>
          cases computed with
          | true => cases h
          | false =>
              have hobject : object.dottedName?.isSome := by
                simpa only [Node.dottedName?, Option.isSome_map] using h
              simp only [notes, Bool.false_eq_true, if_false, List.any_append, ho hobject, silent,
                Bool.or_false]
      | _ => cases h
  | _ => cases h

/-- A note on what comes next is not one on a callee that is replaced. -/
theorem any_notedStages (node : Node)
    : ((node.notedStages style.shims).flatMap (partNotes style depth)).any p
      = (node.stages.flatMap (partNotes style depth)).any p := by
  cases node with
  | call callee arguments location =>
      change (List.flatMap _ (if _ then _ else _)).any p
        = ((Node.call callee arguments location).parts.flatMap _).any p
      split
      · rename_i h
        rw [Bool.and_eq_true, Option.isNone_iff_eq_none] at h
        obtain ⟨hs, hr⟩ := h
        have hcallee : (notes style depth callee).any p = false :=
          any_dotted silent (Option.isSome_of_isSome_bind hr)
        simp only [Node.parts, hs, List.flatMap_cons, partNotes_once, List.any_append, hcallee,
          Bool.false_or]
      · rfl
  | _ => rfl

end Silent

end Fragment

end DeviceScript
