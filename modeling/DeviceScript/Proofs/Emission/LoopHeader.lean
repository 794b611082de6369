import DeviceScript.Proofs.Emission.Phrase
import DeviceScript.Proofs.Emission.Report

/-! The first slot of a loop header holds what would be written in a statement, up to the semicolons
and up to the types of all declarators but the first. Both ways of writing report the same errors.
-/

namespace DeviceScript

open Cpp (IsUnended)

namespace Cpp

/-- Nothing does not end in a semicolon. -/
theorem isUnended_nil : IsUnended [] := nofun

/-- Two texts do not end in a semicolon side by side if neither of them does. -/
theorem IsUnended.append {first second : Text} (h : IsUnended first) (h' : IsUnended second)
    : IsUnended (first ++ second) := by
  rw [IsUnended, List.getLast?_append]
  rw [IsUnended] at h'
  cases hl : second.getLast? with
  | none => exact h
  | some last =>
      rw [hl] at h'
      exact h'

/-- A text ends as what stands at its end does. -/
theorem isUnended_behind {ending : Text} (h : ending.getLast?.any (· ≠ .scalar ';') = true)
    (text : Text)
    : IsUnended (text ++ ending) := by
  rw [IsUnended, List.getLast?_append]
  cases hl : ending.getLast? with
  | none =>
      rw [hl] at h
      cases h
  | some last =>
      rw [hl] at h
      exact fun he => of_decide_eq_true h (Option.some.inj he)

/-- A word does not end in a semicolon. -/
theorem isUnended_word {name : Text} (h : IsWord name) : IsUnended name :=
  (isPhrase_word h).quiet.isUnended

end Cpp

/-- An operand does not end in a semicolon, with parentheses or without. -/
theorem Node.isUnended_asOperand {text : Text} (h : IsUnended text) (node : Node) (strength : Nat)
    (right : Bool)
    : IsUnended (node.asOperand strength right text) := by
  unfold asOperand
  split
  · exact Cpp.isUnended_behind rfl _
  · exact h

/-- A table whose C++ names do not end in a semicolon. -/
def ShimTable.IsUnended (shims : ShimTable) : Prop := ∀ entry ∈ shims.entries, Cpp.IsUnended entry.2

instance (shims : ShimTable) : Decidable shims.IsUnended :=
  inferInstanceAs (Decidable (∀ entry ∈ shims.entries, entry.2.getLast? ≠ some (.scalar ';')))

namespace Fragment

/-- What stands in front of the name in the text of a declarator: its type and a blank. -/
def typePrefix : Node → Text
  | .declarator _ initial _ => declaredType initial ++ " "
  | _ => []

/-- A literal does not end in a semicolon, not even a string with one in it. -/
theorem isUnended_literalText (value : Literal) : IsUnended (literalText value) := by
  by_cases h : ∀ number, value = .real number → number.isFinite = true
  · exact (isPhrase_literalText h).quiet.isUnended
  · obtain ⟨number, hn⟩ := not_forall.mp h
    obtain ⟨rfl, hf⟩ := Classical.not_imp.mp hn
    rw [literalText, if_neg hf]
    exact Cpp.isUnended_nil

/-- An operation ends as its right operand does. -/
theorem isUnended_operationText (operator left : Text) {right : Text} (hr : IsUnended right)
    : IsUnended (operationText operator left right) := by
  unfold operationText
  split
  · exact Cpp.isUnended_nil
  · exact (Cpp.isUnended_behind rfl _).append hr

/-- An operation with one operand ends as the operand does. -/
theorem isUnended_unary {operator argument : Text} (ho : IsUnended operator)
    (ha : IsUnended argument)
    : IsUnended (unary operator argument) := by
  unfold unary
  split
  · exact ho.append (Cpp.isUnended_behind rfl _)
  · exact ho.append ha

/-- Access to a property of a container that C++ spells differently. -/
theorem isUnended_property? {object name access : Text} (h : property? object name = some access)
    : IsUnended access := by
  rcases property?_eq_some h with
    ⟨rfl, rfl⟩ | ⟨rfl, rfl⟩ | ⟨rfl, rfl⟩ | ⟨rfl, rfl⟩ | ⟨rfl, rfl⟩ | ⟨rfl, rfl⟩
  all_goals exact Cpp.isUnended_behind rfl _

/-- A property does not end in a semicolon. -/
theorem isUnended_propertyText {shims : ShimTable} (hshims : shims.IsUnended) (node : Node)
    {property : Node} (hp : property.IsLexical) {object : Text} (ho : IsUnended object)
    : IsUnended (propertyText shims node property object) := by
  cases hp with
  | @identifier name place isWord =>
      simp only [propertyText]
      split
      · rename_i access ha
        exact isUnended_property? ha
      · split
        · exact ho
        · cases hr : replacement? shims node.dottedName? with
          | some target =>
              obtain ⟨source, hm⟩ := exists_entry hr
              exact hshims _ hm
          | none => exact (Cpp.isUnended_behind rfl object).append (Cpp.isUnended_word isWord)
  | _ => exact Cpp.isUnended_nil

/-- A call of a method of a container does not end in a semicolon. -/
theorem isUnended_methodText (method : Method) (object : Text) (arguments : List (Node × Text))
    : IsUnended (methodText method object arguments) := by
  unfold methodText popped shifted reversed spliced
  split
  iterate 6 exact Cpp.isUnended_behind rfl _
  exact Cpp.isUnended_nil

/-- No expression ends in a semicolon, whatever errors are in it, by induction over it. -/
theorem isUnended_text {style : Style} (hshims : style.shims.IsUnended) (depth : Nat) {node : Node}
    (h : node.IsLexical)
    : IsUnended (text style depth node) := by
  induction h with
  | identifier isWord =>
      rw [text_identifier]
      exact Cpp.isUnended_word isWord
  | literal =>
      rw [text_literal]
      exact isUnended_literalText _
  | array _ _ =>
      rw [text_array]
      split
      · exact Cpp.isUnended_nil
      · split
        · exact Cpp.isUnended_behind rfl "\x7b"
        · exact Cpp.isUnended_behind rfl _
  | binary _ _ _ _ hr =>
      rw [text_binary]
      exact isUnended_operationText _ _ (Node.isUnended_asOperand hr _ _ _)
  | logical _ _ _ _ hr =>
      rw [text_logical]
      exact isUnended_operationText _ _ (Node.isUnended_asOperand hr _ _ _)
  | unary known _ ha =>
      have hall : ∀ operator ∈ Operator.unary, operator.getLast? ≠ some (.scalar ';') := by decide
      rw [text_unary]
      split
      · exact Cpp.isUnended_nil
      · exact isUnended_unary (hall _ known) (Node.isUnended_asOperand ha _ _ _)
  | @update operator argument leading location known _ ha =>
      have hall : ∀ operator ∈ Cpp.Tree.updateOperators,
          operator.getLast? ≠ some (.scalar ';') := by decide
      have hoperator : IsUnended operator := hall operator known
      have hargument := Node.isUnended_asOperand ha argument Operator.trailing false
      rw [text_update]
      split
      · exact hoperator.append hargument
      · exact hargument.append hoperator
  | assignment _ _ _ _ hr =>
      rw [text_assignment]
      split
      · exact Cpp.isUnended_nil
      · exact (Cpp.isUnended_behind rfl _).append (Node.isUnended_asOperand hr _ _ _)
  | @member object property computed location _ hp ho _ =>
      rw [text_member]
      cases computed with
      | true => exact Cpp.isUnended_behind rfl _
      | false =>
          exact isUnended_propertyText hshims _ hp (Node.isUnended_asOperand ho _ _ _)
  | @call callee arguments location _ _ _ _ =>
      cases hs : callee.selected? with
      | none =>
          rw [text_ordinary _ _ _ _ hs]
          exact Cpp.isUnended_behind rfl _
      | some selection =>
          rw [text_selected _ _ _ _ hs]
          exact isUnended_methodText _ _ _
  | unsupported =>
      simp only [text, layout, Cpp.Tree.print_absent]
      exact Cpp.isUnended_nil

variable (style : Style) (depth : Nat)

-----------------------------------------------------------------------------------------
-- A declarator with its type, and without it
-----------------------------------------------------------------------------------------

/-- A declarator that goes on is spelled as in a statement, without its type. -/
theorem text_eq_append_continuedText (node : Node)
    : text style depth node = typePrefix node ++ continuedText style depth node := by
  cases node with
  | declarator target initial location =>
      rw [text_declarator, continuedText_declarator, typePrefix, List.append_assoc]
  | _ => simp only [text, continuedText, continuedLayout, typePrefix, List.nil_append]

section Errors

/-- Without errors there is none to be kept. -/
theorem filter_isFatal_of_not_anyFatal {notes : List Note} (h : anyFatal notes = false)
    : notes.filter Note.isFatal = [] :=
  List.filter_eq_nil_iff.mpr fun note hm => List.any_eq_false.mp h note hm

/-- Without its type, a declarator has the same errors, as a review of its elements has none. -/
theorem filter_isFatal_continuedNotes (node : Node)
    : (continuedNotes style depth node).filter Note.isFatal
      = (notes style depth node).filter Note.isFatal := by
  cases node with
  | declarator target initial location =>
      rw [continuedNotes_declarator, notes_declarator]
      cases initial with
      | none => rfl
      | some value =>
          simp only [Option.elim, List.filter_append, List.nil_append,
            filter_isFatal_of_not_anyFatal (anyFatal_initialNotes _ value)]
  | _ => simp only [continuedNotes]

/-- A node has the same errors in a loop header. -/
theorem filter_isFatal_headerNotes (node : Node)
    : (headerNotes style depth node).filter Note.isFatal
      = (notes style depth node).filter Note.isFatal := by
  cases node with
  | declaration declarations keyword location =>
      cases declarations with
      | nil => simp only [headerNotes, notes, List.flatMap_nil]
      | cons first rest =>
          simp only [headerNotes, notes, List.flatMap_cons, List.filter_append,
            List.filter_flatMap, filter_isFatal_continuedNotes,
            filter_isFatal_of_not_anyFatal (anyFatal_sharedNotes _ _ _), List.append_nil]
  | _ => simp only [headerNotes]

end Errors

-----------------------------------------------------------------------------------------
-- A declaration in a loop header, next to the same one as a statement
-----------------------------------------------------------------------------------------

/-- The parts of a declaration in a loop header, from the texts of its declarators in statements:
all but the first go without their types. -/
def headerParts (texts : Node → Text) : List Node → List Text
  | [] => []
  | first :: rest =>
    texts first :: rest.map fun node => (texts node).drop (typePrefix node).length

/-- A declaration of one name is written in a header as its declarator. -/
theorem headerText_single (node : Node) (keyword : Text) (location : Option Location)
    : headerText style depth (.declaration [node] keyword location) = text style depth node := by
  rw [headerText_declaration, List.map_nil]
  by_cases he : text style depth node = []
  · rw [he]
    rfl
  · rw [present_single he]
    rfl

/-- As a statement, it also has a semicolon, unless there is nothing in front of one. -/
theorem text_single (node : Node) (keyword : Text) (location : Option Location)
    : text style depth (.declaration [node] keyword location)
      = terminated (text style depth node) := by
  rw [text_declaration, List.map_cons, List.map_nil]
  by_cases he : text style depth node = []
  · rw [he]
    rfl
  · rw [present_single he]
    rfl

/-- What a declaration is in a loop header, next to what it is in a statement. -/
structure HeaderAgrees (style : Style) (progress : Progress) (declarations : List Node)
    (header statement : Text × Progress) : Prop where
  /-- In a statement, every declarator starts with its type. -/
  starts : ∀ node ∈ declarations, typePrefix node <+: ((emit style node).run progress).1
  /-- In the header, the types of all but the first are missing, and commas stand in between. -/
  text_eq : header.1
    = Text.join ", "
        (present (headerParts (fun node => ((emit style node).run progress).1) declarations))
  /-- A single declarator lacks only the semicolon. -/
  single : ∀ target initial location, declarations = [.declarator target initial location]
    → header.1 ++ ";" = statement.1
  /-- What has no translation in place of a single declarator is left out in both. -/
  lone : ∀ node, declarations = [node] → terminated header.1 = statement.1
  /-- The errors are the same, in the same order. -/
  errors_eq : header.2.diagnostics.filter Diagnostic.isFatal
    = statement.2.diagnostics.filter Diagnostic.isFatal

/-- The declarators of a header are written as they are in a declaration, with commas
between them. -/
theorem headerAgrees_declaration (progress : Progress) (declarations : List Node) (keyword : Text)
    (location : Option Location)
    : HeaderAgrees style progress declarations
        ((emitHeader style (some (.declaration declarations keyword location))).run progress)
        ((emit style (.declaration declarations keyword location)).run progress) := by
  have hheader : (emitHeader style (some (.declaration declarations keyword location))).run progress
      = _ :=
    emitHeader_writes (fun _ _ inner _ => emit_writes style inner) progress
  have htext : ∀ node, ((emit style node).run progress).1 = text style progress.depth node :=
    fun node => congrArg Prod.fst (emit_writes style node progress)
  have hdrop : ∀ node, (text style progress.depth node).drop (typePrefix node).length
      = continuedText style progress.depth node := by
    intro node
    rw [text_eq_append_continuedText, List.drop_left]
  -- From here on, both are functions of the node and the depth.
  rw [hheader, emit_writes style _ progress]
  constructor
  · intro node _
    rw [htext, text_eq_append_continuedText]
    exact List.prefix_append _ _
  · simp only [htext]
    cases declarations with
    | nil => simp only [Option.elim, headerText, headerLayout, Cpp.Tree.print]; rfl
    | cons first rest => simp only [Option.elim, headerText_declaration, headerParts, hdrop]
  · rintro target initial place rfl
    have hne : text style progress.depth (.declarator target initial place) ≠ [] := by
      rw [text_declarator]
      exact List.append_ne_nil_of_left_ne_nil
        (List.append_ne_nil_of_left_ne_nil
          (List.append_ne_nil_of_right_ne_nil _ (List.cons_ne_nil _ _)) _) _
    simp only [Option.elim, headerText_single, text_single, terminated, if_neg hne]
  · rintro node rfl
    simp only [Option.elim, headerText_single, text_single]
  · simp only [Option.elim, Progress.diagnostics_eq_append_reports, List.filter_append,
      filter_isFatal_reports, filter_isFatal_headerNotes]

/-- A loop header agrees with a statement: an expression is written in the same way, and a
declaration lacks no more than its semicolons and the types of all its declarators but the first. -/
theorem emitHeader_agrees {style : Style} (hshims : style.shims.IsUnended) (progress : Progress)
    : (∀ node : Node, node.IsLexical
        → (emitHeader style (some node)).run progress = (emit style node).run progress)
      ∧ ∀ (declarations : List Node) (keyword : Text) (location : Option Location),
          HeaderAgrees style progress declarations
            ((emitHeader style (some (.declaration declarations keyword location))).run progress)
            ((emit style (.declaration declarations keyword location)).run progress) := by
  refine ⟨fun node h => ?_, headerAgrees_declaration style progress⟩
  have hheader : emitHeader style (some node) = Text.dropTrailing ';' <$> emit style node := by
    cases h <;> rfl
  -- There is no semicolon at the end that could be taken away.
  have hunended := isUnended_text hshims progress.depth h
  rw [hheader, StateM.run_map, emit_writes style node progress, hunended.dropTrailing_eq]

/-- An update and a declaration of two names are written in a header, with no semicolon in it. -/
theorem emitHeader_agrees_twoNames
    : ShimTable.builtIn.IsUnended
      ∧ (emitHeader ⟨ShimTable.builtIn, "  "⟩
          (some (.update "++" (.identifier "i" none) false none))).run {}
        = (("i++" : Text), {})
      ∧ ((emitHeader ⟨ShimTable.builtIn, "  "⟩
          (some (.declaration
            [.declarator (.identifier "i" none) (some (.literal (.integer 0) none none)) none,
              .declarator (.identifier "s" none) (some (.literal (.text "a") none none)) none]
            "let" none))).run {}).1
        = "auto i = 0, s = \"a\"" := by
  have hshims : ShimTable.builtIn.IsUnended := by decide
  have hagrees := @emitHeader_agrees ⟨ShimTable.builtIn, "  "⟩ hshims {}
  have hlexical : (Node.update "++" (.identifier "i" none) false none).IsLexical :=
    .update (by decide) (.identifier (by decide))
  refine ⟨hshims, ?_, ?_⟩
  · rw [hagrees.1 _ hlexical]
    rfl
  · rw [(hagrees.2 _ _ _).text_eq]
    decide

end Fragment

end DeviceScript
