import DeviceScript.Proofs.Emission.Report
import DeviceScript.Proofs.Emission.Stages

/-! Element types of the arrays that introduce names. Emission reports an array that is empty, that
starts with something without a type or that mixes types, wherever a declarator introduces a name
with it, unless the declarator goes on behind another one in the header of a loop.
-/

namespace DeviceScript

/-- Tells whether a note is a report on the element type of an array. -/
def Note.isTyping : Note → Bool
  | report (.untypedArray _) _ | report (.heterogeneousElement _ _ _) _ => true
  | _ => false

/-- The reports on element types are those of two kinds. -/
theorem exists_typing_reports_iff (notes : List Note)
    : (∃ diagnostic ∈ reports notes,
        diagnostic.kind = .untypedArray ∨ diagnostic.kind = .heterogeneousArray)
      ↔ notes.any Note.isTyping = true := by
  have hkind : ∀ (finding : Finding) (node : Node),
      (finding.kind = .untypedArray ∨ finding.kind = .heterogeneousArray)
        ↔ (Note.report finding node).isTyping = true := by
    intro finding node
    cases finding <;> simp [Finding.kind, Note.isTyping]
  rw [List.any_eq_true]
  constructor
  · rintro ⟨diagnostic, hd, h⟩
    obtain ⟨note, hm, hn⟩ := List.mem_filterMap.mp hd
    cases note with
    | report finding node =>
        obtain rfl := Option.some.inj hn
        exact ⟨_, hm, (hkind finding node).mp h⟩
    | replacement source target => cases hn
  · rintro ⟨note, hm, h⟩
    cases note with
    | report finding node =>
        exact ⟨_, List.mem_filterMap.mpr ⟨_, hm, rfl⟩, (hkind finding node).mpr h⟩
    | replacement source target => cases h

namespace ElementType

-----------------------------------------------------------------------------------------
-- Arrays whose element type is beyond doubt
-----------------------------------------------------------------------------------------

/-- An array that starts with a literal of some type, and all of whose literals have that type. -/
def IsUniform (elements : List (Option Node)) : Prop :=
  ∃ value raw location rest,
    elements = some (.literal value raw location) :: rest
      ∧ ofLiteral value ≠ .unspecified
      ∧ ∀ value' raw' location',
          some (.literal value' raw' location') ∈ rest → ofLiteral value' = ofLiteral value

/-- Tells whether nothing is doubtful about the element type of an array. -/
def isUniform (elements : List (Option Node)) : Bool :=
  infer elements ≠ .unspecified && ((infer elements).heterogeneous elements).isEmpty

/-- Only literals disagree, and those with the chosen type do not. -/
theorem disagrees_eq_true_iff (type : ElementType) (element : Option Node)
    : type.disagrees element = true
      ↔ ∃ value raw location,
          element = some (.literal value raw location) ∧ ofLiteral value ≠ type := by
  unfold disagrees
  split
  · rename_i value raw location
    rw [decide_eq_true_eq]
    exact ⟨fun h => ⟨value, raw, location, rfl, h⟩, by rintro ⟨_, _, _, ⟨⟩, h⟩; exact h⟩
  · rename_i h
    exact ⟨nofun, by rintro ⟨_, _, _, rfl, _⟩; exact absurd rfl (h _ _ _)⟩

/-- An array disagrees with a type in no place exactly if no element behind the first one does. -/
theorem heterogeneous_eq_nil_iff {type : ElementType} (typed : type ≠ .unspecified)
    (element : Option Node) (rest : List (Option Node))
    : type.heterogeneous (element :: rest) = []
      ↔ ∀ element ∈ rest, type.disagrees element = false := by
  have hnone : ∀ member ∈ rest.zipIdx 1,
      (if type.disagrees member.1 then member.1.map fun node => (node, member.2) else none) = none
        ↔ type.disagrees member.1 = false := by
    intro member _
    cases hd : type.disagrees member.1 with
    | false => exact iff_of_true rfl rfl
    | true =>
        obtain ⟨value, raw, location, he, _⟩ := (disagrees_eq_true_iff type member.1).mp hd
        rw [he]
        exact iff_of_false nofun nofun
  have hmembers : (∀ member ∈ rest.zipIdx 1, type.disagrees member.1 = false)
      ↔ ∀ element ∈ rest, type.disagrees element = false := by
    rw [← List.forall_mem_map (P := fun element => type.disagrees element = false),
      List.zipIdx_map_fst]
  rw [heterogeneous, if_neg typed, List.filterMap_eq_nil_iff, ← hmembers]
  exact forall₂_congr hnone

/-- The test for elements of one type decides whether they are. -/
theorem isUniform_iff (elements : List (Option Node))
    : isUniform elements = true ↔ IsUniform elements := by
  rw [isUniform, Bool.and_eq_true, decide_eq_true_eq, List.isEmpty_iff]
  constructor
  · rintro ⟨typed, agree⟩
    unfold infer at typed agree
    split at typed
    · exact absurd rfl typed
    · rename_i element rest
      unfold ofElement at typed agree
      split at typed
      · rename_i value raw location
        refine ⟨value, raw, location, rest, rfl, typed, fun value' raw' location' hm => ?_⟩
        have hd := (heterogeneous_eq_nil_iff typed _ rest).mp agree _ hm
        exact Decidable.not_not.mp (of_decide_eq_false hd)
      · exact absurd rfl typed
  · rintro ⟨value, raw, location, rest, rfl, typed, alike⟩
    refine ⟨typed, (heterogeneous_eq_nil_iff typed _ rest).mpr fun element hm => ?_⟩
    rw [Bool.eq_false_iff, ne_eq, disagrees_eq_true_iff]
    rintro ⟨value', raw', location', rfl, hne⟩
    exact hne (alike value' raw' location' hm)

/-- The elements that disagree are literals. -/
theorem exists_literal_of_heterogeneous {type : ElementType} {elements : List (Option Node)}
    {member : Node × Nat} (h : member ∈ type.heterogeneous elements)
    : ∃ value raw location, member.1 = .literal value raw location := by
  unfold heterogeneous at h
  split at h
  · exact absurd h List.not_mem_nil
  · obtain ⟨element, _, he⟩ := List.mem_filterMap.mp h
    obtain ⟨hd, hm⟩ := Option.ite_none_right_eq_some.mp he
    obtain ⟨value, raw, location, hl, _⟩ := (disagrees_eq_true_iff type element.1).mp hd
    rw [hl] at hm
    obtain rfl := Option.some.inj hm
    exact ⟨value, raw, location, rfl⟩

end ElementType

namespace Node

/-- Tells whether a node introduces a name with an array of a doubtful element type. -/
def isMistyped : Node → Bool
  | declarator _ (some (array elements _)) _ => !ElementType.isUniform elements
  | _ => false

/-- The test for a declarator without one element type decides whether it is an array of
mixed ones. -/
theorem isMistyped_eq_true_iff (node : Node)
    : node.isMistyped = true
      ↔ ∃ target elements place place',
          node = declarator target (some (array elements place)) place'
            ∧ ¬ ElementType.IsUniform elements := by
  constructor
  · intro h
    unfold isMistyped at h
    split at h
    · rename_i target elements place place'
      refine ⟨target, elements, place, place', rfl, fun hu => ?_⟩
      rw [(ElementType.isUniform_iff elements).mpr hu] at h
      cases h
    · cases h
  · rintro ⟨target, elements, place, place', rfl, h⟩
    rw [isMistyped, Bool.not_eq_true', Bool.eq_false_iff, ne_eq, ElementType.isUniform_iff]
    exact h

end Node

namespace Fragment

-----------------------------------------------------------------------------------------
-- Where the notes on a node tell of an element type
-----------------------------------------------------------------------------------------

/-- The elements of an array warn of a type exactly if they have more than one. -/
theorem any_isTyping_elementNotes (array : Node) (elements : List (Option Node)) (name : Text)
    : (elementNotes array elements name).any Note.isTyping = !ElementType.isUniform elements := by
  simp only [elementNotes, List.any_append, List.any_flatMap, ElementType.isUniform, Bool.not_and]
  congr 1
  · by_cases h : ElementType.infer elements = .unspecified
    · simp only [h, if_true, ne_eq, not_true_eq_false, decide_false]
      rfl
    · simp only [h, if_false, ne_eq, not_false_eq_true, decide_true]
      rfl
  · cases hm : (ElementType.infer elements).heterogeneous elements with
    | nil => rfl
    | cons head tail =>
        have hmem := hm ▸ List.mem_cons_self (a := head) (l := tail)
        obtain ⟨value, raw, location, hl⟩ := ElementType.exists_literal_of_heterogeneous hmem
        simp only [List.any_cons, hl, disagreementNotes]
        rfl

variable (style : Style) (depth : Nat)

/-- Tells whether a part is written and has an array of a doubtful element type. -/
def showsTyping (part : Part) : Bool :=
  part.copies ≠ 0 && (notes style (depth + part.enclosed.toNat) part.node).any Note.isTyping

/-- An initial value warns of a type exactly if it is an array of mixed elements. -/
theorem any_isTyping_initialNotes (name : Text) (target value : Node) (location : Option Location)
    : (initialNotes name value).any Note.isTyping
      = (Node.declarator target (some value) location).isMistyped := by
  cases value with
  | array elements place => exact any_isTyping_elementNotes _ elements name
  | _ => rfl

/-- The lookup of a name warns of no type. -/
theorem any_isTyping_nameNotes (shims : ShimTable) (name : Option Text)
    : (nameNotes shims name).any Note.isTyping = false := by
  unfold nameNotes
  split
  · rfl
  · split <;> rfl

/-- Declarators that share a declaration warn of no type. -/
theorem any_isTyping_sharedNotes (declaration : Node) (count : Nat) (parts : List Text)
    : (sharedNotes declaration count parts).any Note.isTyping = false := by
  simp only [sharedNotes]
  split <;> rfl

/-- The lookup of a property warns of no type. -/
theorem any_isTyping_propertyNotes (shims : ShimTable) (node : Node) (name : Text)
    (place : Option Location)
    : (propertyNotes shims node (.identifier name place)).any Note.isTyping = false := by
  simp only [propertyNotes]
  split
  · rfl
  · split
    · rfl
    · exact any_isTyping_nameNotes _ _

/-- Among the own notes of a node is a report on a type exactly if the node introduces a name with
an array of a doubtful type. -/
theorem any_isTyping_ownNotes (node : Node)
    : (ownNotes style depth node).any Note.isTyping = node.isMistyped := by
  cases node with
  | declarator target initial location =>
      cases initial with
      | none => rfl
      | some value => exact any_isTyping_initialNotes _ target value location
  | member object property computed location =>
      cases property with
      | identifier name place =>
          cases computed with
          | true => rfl
          | false => exact any_isTyping_propertyNotes _ _ name place
      | _ => rfl
  | call callee arguments location =>
      rw [ownNotes]
      split
      · exact any_isTyping_nameNotes _ _
      · rfl
  | forLoop initial test advance body location =>
      cases initial with
      | none => rfl
      | some node =>
          rw [ownNotes]
          unfold headerOwnNotes
          split
          · exact any_isTyping_sharedNotes _ _ _
          · rfl
  | _ => rfl

/-- A node that is not faulty has a report on the type of an array of its own or of what emission
comes to next. -/
theorem any_isTyping_notes {style : Style} {depth : Nat} {node : Node}
    (faultless : node.isFaulty (decide (depth > 0)) = false)
    : (notes style depth node).any Note.isTyping
      = (node.isMistyped || node.stages.any (showsTyping style depth)) := by
  have hpart : (fun part => (partNotes style depth part).any Note.isTyping)
      = showsTyping style depth := funext (any_partNotes Note.isTyping)
  rw [(notes_perm faultless).any_eq, List.any_append, any_isTyping_ownNotes,
    any_notedStages (any_isTyping_propertyNotes style.shims), List.any_flatMap, hpart]

/-- A node without an error has a report on the type of an array exactly if emission comes to a
declarator with an array of a doubtful type, by induction over the size of the node in one direction
and over the way to the declarator in the other. -/
theorem any_isTyping_notes_iff {style : Style} {depth : Nat} {node : Node}
    (clean : anyFatal (notes style depth node) = false)
    : (notes style depth node).any Note.isTyping = true
      ↔ ∃ inner, node.Comes inner ∧ inner.isMistyped = true := by
  constructor
  · intro h
    rw [any_isTyping_notes (not_isFaulty clean), Bool.or_eq_true, List.any_eq_true] at h
    rcases h with h | ⟨part, hm, h⟩
    · exact ⟨node, .self node, h⟩
    · rw [showsTyping, Bool.and_eq_true, decide_eq_true_eq] at h
      have hlt := Node.sizeOf_stage hm
      obtain ⟨inner, hc, hi⟩ :=
        (any_isTyping_notes_iff (not_anyFatal_stage clean hm h.1)).mp h.2
      exact ⟨inner, .stage hm h.1 hc, hi⟩
  · rintro ⟨inner, hc, hi⟩
    induction hc generalizing depth with
    | self node => rw [any_isTyping_notes (not_isFaulty clean), hi, Bool.true_or]
    | @stage outer inner part hm written _ ih =>
        have hpart := ih (not_anyFatal_stage clean hm written) hi
        rw [any_isTyping_notes (not_isFaulty clean), Bool.or_eq_true, List.any_eq_true]
        refine .inr ⟨part, hm, ?_⟩
        rw [showsTyping, hpart, Bool.and_true]
        exact decide_eq_true written
termination_by sizeOf node

-----------------------------------------------------------------------------------------
-- What the reports on a program tell of its arrays
-----------------------------------------------------------------------------------------

section Program

variable (style : Style) (body : List Node) (location : Option Location) (progress : Progress)

/-- A program that is emitted without errors has no fatal note. -/
theorem anyFatal_program
    (clean : hasFatal ((emitProgram style body).run progress).1.diagnostics = false)
    : anyFatal (notes style 0 (.program body location)) = false := by
  rw [notes, ← hasFatal_emitProgram style body progress]
  exact clean

/-- A program without errors has a report on the type of an array exactly if emission comes to a
declarator with an array of a doubtful type. -/
theorem exists_typing_iff
    (clean : hasFatal ((emitProgram style body).run progress).1.diagnostics = false)
    : (∃ diagnostic ∈ ((emitProgram style body).run progress).1.diagnostics,
        diagnostic.kind = .untypedArray ∨ diagnostic.kind = .heterogeneousArray)
      ↔ ∃ target elements place place',
          (Node.program body location).Comes
              (.declarator target (some (.array elements place)) place')
            ∧ ¬ ElementType.IsUniform elements := by
  have hclean := anyFatal_program style body location progress clean
  have hnotes : notes style 0 (.program body location) = body.flatMap (notes style 0) := by
    rw [notes]
  rw [diagnostics_emitProgram, exists_typing_reports_iff, ← hnotes, any_isTyping_notes_iff hclean]
  constructor
  · rintro ⟨inner, hc, hi⟩
    obtain ⟨target, elements, place, place', rfl, hu⟩ := (Node.isMistyped_eq_true_iff inner).mp hi
    exact ⟨target, elements, place, place', hc, hu⟩
  · rintro ⟨target, elements, place, place', hc, hu⟩
    exact ⟨_, hc, (Node.isMistyped_eq_true_iff _).mpr ⟨_, _, _, _, rfl, hu⟩⟩

/-- The element types of a program, as far as its reports tell them. Without errors, there is a
report on one exactly if emission comes to a declarator with an array of a doubtful type. Without
any reports, only the declarators that go on in the header of a loop, and those in arguments that
are left out, may have such an array. -/
theorem arrays_of_emitProgram
    : (hasFatal ((emitProgram style body).run progress).1.diagnostics = false →
        ((∃ diagnostic ∈ ((emitProgram style body).run progress).1.diagnostics,
            diagnostic.kind = .untypedArray ∨ diagnostic.kind = .heterogeneousArray)
          ↔ ∃ target elements place place',
              (Node.program body location).Comes
                  (.declarator target (some (.array elements place)) place')
                ∧ ¬ ElementType.IsUniform elements))
      ∧ (((emitProgram style body).run progress).1.diagnostics = [] →
        ∀ target elements place place',
          let declarator := Node.declarator target (some (.array elements place)) place'
          declarator ∈ (Node.program body location).nodes
            → ElementType.IsUniform elements ∨ declarator.GoesOnIn (.program body location)
              ∨ declarator.IsLeftOutOf (.program body location)) := by
  refine ⟨exists_typing_iff style body location progress, ?_⟩
  intro silent target elements place place' declarator hm
  have clean : hasFatal ((emitProgram style body).run progress).1.diagnostics = false := by
    rw [silent]
    rfl
  have hclean := anyFatal_program style body location progress clean
  obtain hc | hpassed := comes_or_passes hclean hm
  · -- A doubtful array that emission comes to would have left a report.
    refine .inl (Classical.byContradiction fun hu => ?_)
    have hexists := (exists_typing_iff style body location progress clean).mpr
      ⟨target, elements, place, place', hc, hu⟩
    rw [silent] at hexists
    obtain ⟨_, hd, _⟩ := hexists
    exact absurd hd List.not_mem_nil
  · exact .inr hpassed

end Program

/-- The declaration of an array of two numbers. -/
def twoNumbers : Node :=
  .declaration
    [.declarator (.identifier "a" none)
      (some (.array
        [some (.literal (.integer 1) none none), some (.literal (.integer 2) none none)] none))
      none] "let" none

/-- Two numbers are an array of one type, so that nothing is reported. -/
theorem arrays_of_twoNumbers
    : ((emitProgram ⟨ShimTable.builtIn, "  "⟩ [twoNumbers]).run {}).1.diagnostics = []
      ∧ ∀ target elements place place',
          let declarator := Node.declarator target (some (.array elements place)) place'
          declarator ∈ (Node.program [twoNumbers] none).nodes
            → ElementType.IsUniform elements ∨ declarator.GoesOnIn (.program [twoNumbers] none)
              ∨ declarator.IsLeftOutOf (.program [twoNumbers] none) := by
  have silent : ((emitProgram ⟨ShimTable.builtIn, "  "⟩ [twoNumbers]).run {}).1.diagnostics = [] :=
    rfl
  exact ⟨silent, (arrays_of_emitProgram _ _ none {}).2 silent⟩

/-- The header of a loop that counts while an empty array stands by. -/
def loopBesideArray : Node :=
  .forLoop
    (some (.declaration
      [.declarator (.identifier "i" none) (some (.literal (.integer 0) none none)) none,
        .declarator (.identifier "a" none) (some (.array [] none)) none] "let" none))
    (some (.binary "<" (.identifier "i" none) (.literal (.integer 1) none none) none))
    (some (.update "++" (.identifier "i" none) false none)) (.block [] none) none

/-- An empty array passes without a report behind another name in the header of a loop. -/
theorem arrays_of_loopBesideArray
    : ((emitProgram ⟨ShimTable.builtIn, "  "⟩ [loopBesideArray]).run {}).1.diagnostics = []
      ∧ .declarator (.identifier "a" none) (some (.array [] none)) none
          ∈ (Node.program [loopBesideArray] none).nodes
      ∧ ¬ ElementType.IsUniform [] := by
  refine ⟨rfl, ?_, ?_⟩
  · simp [loopBesideArray, Node.nodes, Node.descendants, Node.nodesEach, Node.nodesOptional]
  · rintro ⟨_, _, _, _, he, _⟩
    cases he

end Fragment

end DeviceScript
