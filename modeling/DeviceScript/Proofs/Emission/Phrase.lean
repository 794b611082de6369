import DeviceScript.Proofs.Cpp.Phrase
import DeviceScript.Proofs.Emission.Expression

/-! The texts of expressions are phrases: whatever stands in an expression, a statement around it ends
where its own semicolon stands.
-/

namespace DeviceScript

open Cpp (IsPhrase IsQuiet)

namespace Node

/-- An operand is a phrase, with parentheses or without. -/
theorem isPhrase_asOperand {text : Text} (h : IsPhrase text) (node : Node) (strength : Nat)
    (right : Bool)
    : IsPhrase (node.asOperand strength right text) := by
  have hopen : IsPhrase "(" := ⟨rfl, rfl⟩
  unfold asOperand
  split
  · exact (hopen.append h.quiet).append rfl
  · exact h

end Node

namespace Operator

/-- The translation of an operator is quiet. -/
theorem isQuiet_spelling {operator : Text} (known : operator ∈ binary)
    (translated : operator ∉ untranslatedBinary)
    : IsQuiet (spelling operator) := by
  have hall : ∀ operator ∈ strengths.map Prod.fst, IsQuiet (spelling operator) := by decide
  exact hall operator ((List.mem_append.mp known).resolve_right translated)

/-- An operator that assigns is quiet. -/
theorem isQuiet_assigning {operator : Text} (known : operator ∈ assigning)
    (translated : operator ∉ untranslatedAssignment)
    : IsQuiet operator := by
  have hall : ∀ operator ∈ Cpp.Tree.assignOperators, IsQuiet operator := by decide
  exact hall operator ((List.mem_append.mp known).resolve_right translated)

/-- An operator in front of its operand. -/
theorem isPhrase_leading {operator : Text}
    (known : operator ∈ Cpp.Tree.unaryOperators ++ Cpp.Tree.updateOperators)
    : IsPhrase operator := by
  have hall : ∀ operator ∈ Cpp.Tree.unaryOperators ++ Cpp.Tree.updateOperators,
      IsQuiet operator ∧ operator.head?.any (fun point => !Cpp.isBlank point) = true := by
    decide
  obtain ⟨quiet, opens⟩ := hall operator known
  exact ⟨quiet, opens⟩

end Operator

/-- A name that replaces another one is a phrase. -/
theorem ShimTable.isPhrase_replacement {shims : ShimTable} (h : shims.IsQualified)
    {name : Option Text} {target : Text} (hr : Fragment.replacement? shims name = some target)
    : IsPhrase target := by
  obtain ⟨source, hm⟩ := Fragment.exists_entry hr
  have hwords : ∀ piece ∈ target.segments, Cpp.IsWord piece := h (source, target) hm
  obtain ⟨first, rest, hs⟩ := List.exists_cons_of_ne_nil target.segments_ne_nil
  have hjoin := target.join_segments
  rw [hs] at hjoin hwords
  rw [← hjoin, Text.join_cons]
  refine (Cpp.isPhrase_word (hwords first List.mem_cons_self)).append ?_
  have hscope : IsQuiet "::" := rfl
  refine Cpp.isQuiet_flatMap hscope fun piece hm => ?_
  exact (Cpp.isPhrase_word (hwords piece (List.mem_cons_of_mem _ hm))).quiet

namespace Fragment

-----------------------------------------------------------------------------------------
-- Templates of containers are phrases if what fills them is
-----------------------------------------------------------------------------------------

section Templates

variable {object : Text} (h : IsPhrase object)

include h

/-- Removal of the last element is a phrase. -/
theorem isPhrase_popped : IsPhrase (popped object) := by
  have hcall : IsQuiet ".pop_back()" := rfl
  exact h.append hcall

/-- Removal of the first element is a phrase. -/
theorem isPhrase_shifted : IsPhrase (shifted object) := by
  have herase : IsQuiet ".erase(" := rfl
  have hbegin : IsQuiet ".begin())" := rfl
  exact ((h.append herase).append h.quiet).append hbegin

/-- Reversal of a container is a phrase. -/
theorem isPhrase_reversed : IsPhrase (reversed object) := by
  have hname : IsPhrase "std::reverse(" := ⟨rfl, rfl⟩
  have hbegin : IsQuiet ".begin(), " := rfl
  have hend : IsQuiet ".end())" := rfl
  exact (((hname.append h.quiet).append hbegin).append h.quiet).append hend

/-- Removal of some elements is a phrase. -/
theorem isPhrase_spliced {start count : Text} (hs : IsPhrase start) (hc : IsPhrase count)
    : IsPhrase (spliced object start count) := by
  have herase : IsQuiet ".erase(" := rfl
  have hbegin : IsQuiet ".begin() + " := rfl
  have hcomma : IsQuiet ", " := rfl
  have hplus : IsQuiet " + " := rfl
  have hclose : IsQuiet ")" := rfl
  have hfirst := (((h.append herase).append h.quiet).append hbegin).append hs.quiet
  have hsecond := (((hfirst.append hcomma).append h.quiet).append hbegin).append hs.quiet
  exact ((hsecond.append hplus).append hc.quiet).append hclose

/-- Access to a property of a container that C++ spells differently. -/
theorem isPhrase_property? {name access : Text} (ha : property? object name = some access)
    : IsPhrase access := by
  rcases property?_eq_some ha with
    ⟨rfl, rfl⟩ | ⟨rfl, rfl⟩ | ⟨rfl, rfl⟩ | ⟨rfl, rfl⟩ | ⟨rfl, rfl⟩ | ⟨rfl, rfl⟩
  · exact h.append rfl
  · exact h.append rfl
  · exact isPhrase_popped h
  · exact isPhrase_shifted h
  · exact h.append rfl
  · exact isPhrase_reversed h

end Templates

-----------------------------------------------------------------------------------------
-- Operations, accesses and calls
-----------------------------------------------------------------------------------------

/-- Commas stand between arguments, which are phrases in parentheses or without. -/
theorem isQuiet_listed {nodes : List Node} {texts : Node → Text}
    (h : ∀ node ∈ nodes, IsPhrase (texts node))
    : IsQuiet (Text.join ", " (nodes.map fun node => listed node (texts node))) := by
  have hcomma : IsQuiet ", " := rfl
  refine Cpp.isQuiet_join hcomma fun text hm => ?_
  obtain ⟨node, hn, rfl⟩ := List.mem_map.mp hm
  exact (Node.isPhrase_asOperand (h node hn) node _ _).quiet

/-- A finite literal is a phrase. -/
theorem isPhrase_literalText {value : Literal}
    (finite : ∀ number, value = .real number → number.isFinite = true)
    : IsPhrase (literalText value) := by
  cases value with
  | text value => exact Cpp.isPhrase_string value
  | boolean value => cases value <;> exact ⟨rfl, rfl⟩
  | integer value => exact Cpp.isPhrase_ofInt value
  | real number =>
      have hfinite := finite number rfl
      rw [literalText, if_pos hfinite]
      cases number with
      | finite negative size => exact Cpp.isPhrase_real negative size
      | _ => cases hfinite
  | null => exact ⟨rfl, rfl⟩

/-- An operation is a phrase if its operands are. -/
theorem isPhrase_operationText {operator left right : Text} (known : operator ∈ Operator.binary)
    (translated : operator ∉ Operator.untranslatedBinary) (hl : IsPhrase left)
    (hr : IsPhrase right)
    : IsPhrase (operationText operator left right) := by
  have hblank : IsQuiet " " := rfl
  have hoperator := Operator.isQuiet_spelling known translated
  rw [operationText, if_neg translated]
  exact (((hl.append hblank).append hoperator).append hblank).append hr.quiet

/-- An operation with one operand is a phrase if the operand is. -/
theorem isPhrase_unary {operator argument : Text} (known : operator ∈ Operator.unary)
    (translated : operator ∉ Operator.untranslatedUnary) (ha : IsPhrase argument)
    : IsPhrase (unary operator argument) := by
  have hoperator := Operator.isPhrase_leading
    (List.mem_append_left _ ((List.mem_append.mp known).resolve_right translated))
  have hopen : IsQuiet "(" := rfl
  have hclose : IsQuiet ")" := rfl
  unfold unary
  split
  · exact hoperator.append ((hopen.append ha.quiet).append hclose)
  · exact hoperator.append ha.quiet

/-- A property is a phrase if its object is. -/
theorem isPhrase_propertyText {shims : ShimTable} (hshims : shims.IsQualified) {object name : Text}
    (node : Node) (place : Option Location) (ho : IsPhrase object) (hn : Cpp.IsWord name)
    : IsPhrase (propertyText shims node (.identifier name place) object) := by
  simp only [propertyText]
  split
  · rename_i access ha
    exact isPhrase_property? ho ha
  · split
    · exact ho
    · cases hr : replacement? shims node.dottedName? with
      | some target => exact ShimTable.isPhrase_replacement hshims hr
      | none =>
          have hscope : IsQuiet "::" := rfl
          exact (ho.append hscope).append (Cpp.isPhrase_word hn).quiet

/-- A call of a method, with as many arguments as it needs. -/
theorem isPhrase_methodText {object : Text} (ho : IsPhrase object) (method : Method)
    {nodes : List Node} {texts : Node → Text}
    (h : ¬ (method = .pop ∨ method = .shift ∨ method = .reverse)
      → ∀ node ∈ nodes, IsPhrase (texts node))
    (fits : method.isFaultyCall nodes = false)
    : IsPhrase (methodText method object (nodes.map fun node => (node, texts node))) := by
  cases method with
  | pop => exact isPhrase_popped ho
  | shift => exact isPhrase_shifted ho
  | reverse => exact isPhrase_reversed ho
  | push =>
      match nodes, fits with
      | [node], _ =>
          have hpush : IsQuiet ".push_back(" := rfl
          have hclose : IsQuiet ")" := rfl
          have hnode := h (by decide) node List.mem_cons_self
          have hargument := Node.isPhrase_asOperand hnode node Operator.argument false
          exact ((ho.append hpush).append hargument.quiet).append hclose
  | splice =>
      have hsummand : ∀ node ∈ nodes, IsPhrase (summand node (texts node)) := fun node hm =>
        Node.isPhrase_asOperand (h (by decide) node hm) node _ _
      match nodes, fits with
      | [start], _ =>
          exact isPhrase_spliced ho (hsummand start List.mem_cons_self) ⟨rfl, rfl⟩
      | [start, count], _ =>
          exact isPhrase_spliced ho (hsummand start List.mem_cons_self)
            (hsummand count (List.mem_cons_of_mem _ List.mem_cons_self))

/-- Elements between braces, none of which is a hole. -/
theorem isPhrase_array {style : Style} {depth : Nat} {elements : List (Option Node)}
    (location : Option Location) (full : elements.any Option.isNone = false)
    (h : ∀ element ∈ elements.filterMap id, IsPhrase (text style depth element))
    : IsPhrase (text style depth (.array elements location)) := by
  have hopen : IsPhrase "\x7b " := ⟨rfl, rfl⟩
  have hclose : IsQuiet " \x7d" := rfl
  rw [text_array, if_neg (by rw [full]; exact Bool.false_ne_true)]
  split
  · exact ⟨rfl, rfl⟩
  · exact (hopen.append (isQuiet_listed h)).append hclose

-----------------------------------------------------------------------------------------
-- The text of an expression is a phrase
-----------------------------------------------------------------------------------------

/-- The text of an expression without an error is a phrase, by induction over the expression. -/
theorem isPhrase_text {style : Style} (hshims : style.shims.IsQualified) (depth : Nat) {node : Node}
    (h : node.IsCleanExpression)
    : IsPhrase (text style depth node) := by
  have hblank : IsQuiet " " := rfl
  have hclose : IsQuiet ")" := rfl
  induction h with
  | identifier isWord =>
      rw [text_identifier]
      exact Cpp.isPhrase_word isWord
  | literal finite =>
      rw [text_literal]
      exact isPhrase_literalText finite
  | array full _ ih => exact isPhrase_array _ full ih
  | binary known translated _ _ hleft hright =>
      rw [text_binary]
      exact isPhrase_operationText known translated (Node.isPhrase_asOperand hleft _ _ _)
        (Node.isPhrase_asOperand hright _ _ _)
  | logical known translated _ _ hleft hright =>
      rw [text_logical]
      exact isPhrase_operationText known translated (Node.isPhrase_asOperand hleft _ _ _)
        (Node.isPhrase_asOperand hright _ _ _)
  | unary known translated _ hargument =>
      rw [text_unary, if_neg translated]
      exact isPhrase_unary known translated (Node.isPhrase_asOperand hargument _ _ _)
  | @update operator argument leading location known _ ih =>
      have hargument := Node.isPhrase_asOperand ih argument Operator.trailing false
      have hoperator := Operator.isPhrase_leading (List.mem_append_right _ known)
      rw [text_update]
      cases leading with
      | true => exact hoperator.append hargument.quiet
      | false => exact hargument.append hoperator.quiet
  | @assignment operator left right location known translated _ _ hleft ih =>
      have hright := Node.isPhrase_asOperand ih right Operator.assignment false
      have hoperator := Operator.isQuiet_assigning known translated
      rw [text_assignment, if_neg translated]
      exact (((hleft.append hblank).append hoperator).append hblank).append hright.quiet
  | @index object property location _ _ ih hproperty =>
      have hobject := Node.isPhrase_asOperand ih object Operator.primary false
      have hopen : IsQuiet "[" := rfl
      have hshut : IsQuiet "]" := rfl
      rw [text_member]
      exact ((hobject.append hopen).append hproperty.quiet).append hshut
  | @access object name place location _ isWord ih =>
      have hobject := Node.isPhrase_asOperand ih object Operator.primary false
      rw [text_member]
      exact isPhrase_propertyText hshims _ place hobject isWord
  | @ordinary callee arguments location apart _ _ ih harguments =>
      have hcallee := Node.isPhrase_asOperand ih callee Operator.primary false
      have hlisted := isQuiet_listed harguments
      have hopen : IsQuiet "(" := rfl
      rw [text_ordinary _ _ _ _ apart]
      cases hr : replacement? style.shims callee.dottedName? with
      | some target =>
          have htarget := ShimTable.isPhrase_replacement hshims hr
          exact ((htarget.append hopen).append hlisted).append hclose
      | none => exact ((hcallee.append hopen).append hlisted).append hclose
  | @selected callee object method arguments location selects fits _ _ ih harguments =>
      have hobject := Node.isPhrase_asOperand ih object Operator.primary false
      rw [text_selected _ _ _ _ selects]
      exact isPhrase_methodText hobject method harguments fits

end Fragment

end DeviceScript
