import DeviceScript.Proofs.Cpp.Digits
import DeviceScript.Proofs.Emission.Equality
import DeviceScript.Proofs.Emission.Phrase
import DeviceScript.Proofs.Emission.Stages

/-! The whole numbers that are written for a node, in the order in which they are written. The
tokens of the text of an expression hold no others that consist of digits alone.
-/

namespace DeviceScript

/-- The size of the whole number that a literal is, if it is one. -/
def Literal.whole? (value : Literal) : Option Nat :=
  if value.isNumeric then value.toInt?.map Int.natAbs else none

/-- The nodes whose texts are written in a call of a method, in order and with repetitions. -/
def Fragment.Method.written (method : Method) (object : Node) (arguments : List Node) : List Node :=
  match method, arguments with
  | push, arguments => object :: arguments
  | pop, _ => [object]
  | shift, _ | reverse, _ => [object, object]
  | splice, [] => []
  | splice, start :: rest => [object, object, start, object, start] ++ rest

/-- The greatest integer that C++ has. -/
def Cpp.greatestInteger : Nat := 18446744073709551615

/-- The object is written, and the arguments are, unless the method takes none. -/
theorem Fragment.Method.mem_written {method : Method} {object inner : Node} {arguments : List Node}
    (h : inner ∈ method.written object arguments)
    : inner = object
      ∨ ¬ (method = .pop ∨ method = .shift ∨ method = .reverse) ∧ inner ∈ arguments := by
  cases method with
  | push => exact (List.mem_cons.mp h).imp_right fun hm => ⟨by decide, hm⟩
  | pop => exact .inl (List.mem_singleton.mp h)
  | shift | reverse =>
    simp only [written, List.mem_cons, List.not_mem_nil, or_false, or_self] at h
    exact .inl h
  | splice =>
    cases arguments with
    | nil => exact absurd h List.not_mem_nil
    | cons start rest =>
      have hne : ¬(splice = pop ∨ splice = shift ∨ splice = reverse) := by decide
      simp only [written, List.mem_append, List.mem_cons, List.not_mem_nil, or_false] at h
      rcases h with (rfl | rfl | rfl | rfl | rfl) | hm
      · exact .inl rfl
      · exact .inl rfl
      · exact .inr ⟨hne, List.mem_cons_self⟩
      · exact .inl rfl
      · exact .inr ⟨hne, List.mem_cons_self⟩
      · exact .inr ⟨hne, List.mem_cons_of_mem _ hm⟩

/-- The count that a call of `splice` without a count stands for. -/
def Fragment.Method.implied : Method → List Node → List Nat
  | splice, [_] => [1]
  | _, _ => []

namespace Node

/-- The nodes whose texts are written in the text of a node, in order and with repetitions. -/
def written : Node → List Node
  | call callee arguments _ =>
    match callee.selected? with
    | some (method, object) => method.written object arguments
    | none => callee :: arguments
  | member object property false _ => List.replicate property.accessCopies object
  | node => node.parts.map Part.node

/-- What is written of a node is one of its parts. -/
theorem exists_part_of_written {node inner : Node} (h : inner ∈ node.written)
    : ∃ part ∈ node.parts, part.node = inner := by
  have hparts (hw : node.written = node.parts.map Part.node)
      : ∃ part ∈ node.parts, part.node = inner :=
    List.mem_map.mp (hw ▸ h)
  cases node with
  | call callee arguments location =>
    simp only [written, parts] at h ⊢
    cases hs : callee.selected? with
    | none =>
      rw [hs] at h
      rcases List.mem_cons.mp h with rfl | hm
      · exact ⟨_, List.mem_cons_self, rfl⟩
      · exact ⟨_, List.mem_cons_of_mem _ (List.mem_map_of_mem hm), rfl⟩
    | some selection =>
      obtain ⟨method, object⟩ := selection
      rw [hs] at h
      rcases Fragment.Method.mem_written h with rfl | ⟨htakes, hm⟩
      · exact ⟨_, List.mem_cons_self, rfl⟩
      · obtain ⟨part, hp, he, _⟩ := method.exists_argumentPart htakes hm
        exact ⟨part, List.mem_cons_of_mem _ hp, he⟩
  | member object property computed location =>
    cases computed with
    | true => exact hparts rfl
    | false => exact ⟨_, List.mem_cons_self, (List.eq_of_mem_replicate h).symm⟩
  | _ => exact hparts rfl

/-- What is written of a node is smaller than the node. -/
theorem sizeOf_written {node inner : Node} (h : inner ∈ node.written)
    : sizeOf inner < sizeOf node := by
  obtain ⟨part, hp, rfl⟩ := exists_part_of_written h
  exact sizeOf_part hp

/-- The whole number that a node is itself. -/
def ownWhole : Node → List Nat
  | literal value _ _ => value.whole?.toList
  | _ => []

/-- The whole number that is written for a node besides those of the source. -/
def impliedWhole : Node → List Nat
  | call callee arguments _ => callee.selected?.elim [] fun (method, _) => method.implied arguments
  | _ => []

/-- The whole numbers that are written for a node, of which an implied count is the last. -/
def wholes (node : Node) : List Nat :=
  node.ownWhole ++ node.written.attach.flatMap (fun inner => wholes inner.1) ++ node.impliedWhole
termination_by sizeOf node
decreasing_by exact sizeOf_written inner.2

/-- The whole numbers of a node are its own one, those of what is written of it, and an
implied one. -/
theorem wholes_eq (node : Node)
    : node.wholes = node.ownWhole ++ node.written.flatMap wholes ++ node.impliedWhole := by
  rw [wholes]
  simp only [List.flatMap_subtype, List.unattach_attach]

/-- Where a whole number that is written for a node comes from: a literal in the node, or a call of
`splice` that leaves the count out. -/
inductive Supplies (node : Node) : Nat → Prop where
  | literal {value : Literal} {raw : Option Text} {place : Option Location} {number : Nat}
      (mem : .literal value raw place ∈ node.nodes) (whole : value.whole? = some number)
    : Supplies node number
  | implied {callee object start : Node} {place : Option Location}
      (mem : .call callee [start] place ∈ node.nodes)
      (selected : callee.selected? = some (.splice, object))
    : Supplies node 1

/-- A number that a node in a tree supplies is supplied by the tree. -/
theorem Supplies.of_mem {inner node : Node} (hm : inner ∈ node.nodes) {number : Nat}
    (h : inner.Supplies number)
    : node.Supplies number := by
  cases h with
  | literal mem whole => exact .literal (nodes_subset hm mem) whole
  | implied mem selected => exact .implied (nodes_subset hm mem) selected

/-- Nothing else is written, by induction over the size of the node. -/
theorem supplies_of_mem_wholes {node : Node} {number : Nat} (h : number ∈ node.wholes)
    : node.Supplies number := by
  rw [wholes_eq, List.mem_append, List.mem_append, List.mem_flatMap] at h
  rcases h with (h | ⟨inner, hi, h⟩) | h
  · cases node with
    | literal value raw place =>
      exact .literal (mem_nodes_self _) (Option.mem_toList.mp h)
    | _ => exact absurd h List.not_mem_nil
  · have hlt := sizeOf_written hi
    have hinner := supplies_of_mem_wholes h
    obtain ⟨part, hp, rfl⟩ := exists_part_of_written hi
    exact hinner.of_mem (mem_nodes_of_part hp)
  · cases node with
    | call callee arguments place =>
      simp only [impliedWhole] at h
      cases hs : callee.selected? with
      | none =>
        rw [hs] at h
        exact absurd h List.not_mem_nil
      | some selection =>
        obtain ⟨method, object⟩ := selection
        rw [hs] at h
        match method, arguments, h with
        | .splice, [start], h =>
          obtain rfl := List.mem_singleton.mp h
          exact .implied (mem_nodes_self _) hs
    | _ => exact absurd h List.not_mem_nil
termination_by sizeOf node

/-- C++ has an integer for each whole literal in a node. -/
def IsRepresentable (node : Node) : Prop :=
  ∀ value raw place number, .literal value raw place ∈ node.nodes → value.whole? = some number
    → number ≤ Cpp.greatestInteger

/-- What a representable tree supplies is not beyond the greatest integer. -/
theorem Supplies.le {node : Node} {number : Nat} (h : node.Supplies number)
    (representable : node.IsRepresentable)
    : number ≤ Cpp.greatestInteger := by
  cases h with
  | literal mem whole => exact representable _ _ _ _ mem whole
  | implied mem selected => decide

-----------------------------------------------------------------------------------------
-- The numbers of a node are those of its parts, in the order of the text
-----------------------------------------------------------------------------------------

/-- The spellings of the whole numbers that are written for a node. -/
def numerals (node : Node) : List Text := node.wholes.map Text.ofNat

/-- The numerals of a node are its own one, those of what is written of it, and an implied one. -/
theorem numerals_eq (node : Node)
    : node.numerals
      = node.ownWhole.map Text.ofNat ++ node.written.flatMap numerals
        ++ node.impliedWhole.map Text.ofNat := by
  rw [numerals, wholes_eq, List.map_append, List.map_append, List.map_flatMap]
  rfl

/-- A node that is no call and no access to a property writes its parts. -/
theorem numerals_of_parts {node : Node} (ho : node.ownWhole = []) (hi : node.impliedWhole = [])
    (hw : node.written = node.parts.map Part.node)
    : node.numerals = node.parts.flatMap fun part => part.node.numerals := by
  rw [numerals_eq, ho, hi, hw, List.flatMap_map]
  simp

/-- A node with one part and no number of its own has the numerals of the part. -/
theorem numerals_of_one {node inner : Node} (ho : node.ownWhole = []) (hi : node.impliedWhole = [])
    (hw : node.written = node.parts.map Part.node) (hp : node.parts = [{ node := inner }])
    : node.numerals = inner.numerals := by
  rw [numerals_of_parts ho hi hw, hp]
  exact List.flatMap_singleton _ _

/-- A node with two parts and no number of its own has the numerals of both. -/
theorem numerals_of_two {node left right : Node} (ho : node.ownWhole = [])
    (hi : node.impliedWhole = []) (hw : node.written = node.parts.map Part.node)
    (hp : node.parts = [{ node := left }, { node := right }])
    : node.numerals = left.numerals ++ right.numerals := by
  rw [numerals_of_parts ho hi hw, hp, List.flatMap_cons, List.flatMap_singleton]

/-- The numerals of the parts of a body are those of its statements. -/
theorem numerals_bodyParts (body : Node)
    : (body.bodyParts.flatMap fun part => part.node.numerals) = body.inner.flatMap numerals := by
  rw [bodyParts, List.flatMap_map]

/-- Access to a property writes the object once or twice. -/
theorem numerals_access (object property : Node) (location : Option Location)
    : (member object property false location).numerals
      = (List.replicate property.accessCopies object.numerals).flatten := by
  have hwritten : (member object property false location).written
      = List.replicate property.accessCopies object := rfl
  rw [numerals_eq, hwritten, List.flatMap_replicate]
  exact List.append_nil _

/-- An ordinary call has the numerals of its callee and of its arguments. -/
theorem numerals_ordinary {callee : Node} (arguments : List Node) (location : Option Location)
    (h : callee.selected? = none)
    : (call callee arguments location).numerals
      = callee.numerals ++ arguments.flatMap numerals := by
  have hwritten : (call callee arguments location).written = callee :: arguments := by
    simp only [written, h]
  have himplied : (call callee arguments location).impliedWhole = [] := by
    simp only [impliedWhole, h, Option.elim]
  rw [numerals_eq, hwritten, himplied]
  exact List.append_nil _

/-- A call of a method has the numerals of what is written of it, and an implied count. -/
theorem numerals_selected {callee object : Node} {method : Fragment.Method} (arguments : List Node)
    (location : Option Location) (h : callee.selected? = some (method, object))
    : (call callee arguments location).numerals
      = (method.written object arguments).flatMap numerals
        ++ (method.implied arguments).map Text.ofNat := by
  have hwritten : (call callee arguments location).written = method.written object arguments := by
    simp only [written, h]
  have himplied : (call callee arguments location).impliedWhole = method.implied arguments := by
    simp only [impliedWhole, h, Option.elim]
  rw [numerals_eq, hwritten, himplied]
  rfl

end Node

namespace Fragment

open Cpp (IsClosing YieldsApart Yields)
open Cpp.Partial (IsOpen IsWhole)

-----------------------------------------------------------------------------------------
-- Leaves and operations spell their own numbers
-----------------------------------------------------------------------------------------

section Texts

variable {text : Text} {written : List Text}

/-- Parentheses around an operand change nothing in its numbers. -/
theorem yields_asOperand (h : YieldsApart text written) (node : Node) (strength : Nat)
    (right : Bool)
    : YieldsApart (node.asOperand strength right text) written := by
  have hopen : IsClosing "(" := ⟨rfl, rfl⟩
  have hclose : IsClosing ")" := ⟨rfl, rfl⟩
  unfold Node.asOperand
  split
  · exact h.enclosed hopen hclose
  · exact h

/-- A text without digits and quotes. -/
theorem yieldsApart_inert (h : text.all Cpp.isInert = true) : YieldsApart text [] :=
  (Cpp.yields_inert h).apart

/-- A natural number is its own numeral. -/
theorem yieldsApart_ofNat (number : Nat)
    : YieldsApart (Text.ofNat number) [Text.ofNat number] := by
  have hdigits : Cpp.digits [.number (Text.ofNat number)] = [Text.ofNat number] := by
    rw [Cpp.digits, List.filterMap_cons_some (Cpp.Token.digits?_ofNat number), List.filterMap_nil]
  exact hdigits ▸ Cpp.yields_numeral (Cpp.isNumeral_ofNat number)

/-- The numeral of an integer is that of its absolute value. -/
theorem yieldsApart_ofInt (number : Int)
    : YieldsApart (Text.ofInt number) [Text.ofNat number.natAbs] := by
  have hsign : IsClosing "-" := ⟨rfl, rfl⟩
  cases number with
  | ofNat number => exact yieldsApart_ofNat number
  | negSucc number => exact (yieldsApart_ofNat (number + 1)).opened hsign

/-- A decimal has a point or an exponent, so it is no number of digits. -/
theorem yieldsApart_ofBinary64 (negative : Bool) (size : Magnitude)
    : YieldsApart (Numeral.ofBinary64 (.finite negative size)) [] := by
  obtain ⟨mark, hm, hmark⟩ := Numeral.exists_mark_of_ofDecimal Numeral.layout size.shortest
  have hnone : ((Numeral.ofDecimal Numeral.layout size.shortest).map CodePoint.scalar).all
      CodePoint.isDecimal = false := by
    rw [List.all_eq_false]
    refine ⟨.scalar mark, List.mem_map_of_mem hm, ?_⟩
    rcases hmark with rfl | rfl <;> decide
  have hnumeral := Cpp.yields_numeral (Cpp.isNumeral_ofDecimal Numeral.layout size.shortest)
  have hdecimal : YieldsApart
      ((Numeral.ofDecimal Numeral.layout size.shortest).map CodePoint.scalar) [] := by
    simpa [Cpp.digits, Cpp.Token.digits?, hnone] using hnumeral
  have hsign : IsClosing "-" := ⟨rfl, rfl⟩
  cases negative with
  | false => exact hdecimal
  | true => exact hdecimal.opened hsign

/-- A finite literal has its whole number as a numeral, if it is one. -/
theorem yieldsApart_literalText {value : Literal}
    (finite : ∀ number, value = .real number → number.isFinite = true)
    : YieldsApart (literalText value) (value.whole?.toList.map Text.ofNat) := by
  cases value with
  | text value => exact (Cpp.yields_string value).apart
  | boolean value => cases value <;> exact yieldsApart_inert (by decide)
  | integer value => exact yieldsApart_ofInt value
  | real number =>
    have hfinite := finite number rfl
    rw [literalText, if_pos hfinite]
    cases number with
    | finite negative size =>
      -- A whole double may also be spelled with an exponent, and then there are no digits alone.
      have hother := (yieldsApart_ofBinary64 negative size).mono (List.nil_sublist
        (((Literal.real (.finite negative size)).whole?.toList).map Text.ofNat))
      unfold real
      split
      · next whole hw =>
        split
        · have hwhole : (Literal.real (.finite negative size)).whole? = some whole.natAbs := by
            rw [Literal.whole?, Literal.toInt?, hw]
            rfl
          rw [hwhole]
          exact yieldsApart_ofInt whole
        · exact hother
      · exact hother
    | _ => cases hfinite
  | null => exact yieldsApart_inert (by decide)

/-- Commas stand between arguments, and parentheses around some of them. -/
theorem yieldsApart_listed {nodes : List Node} {texts : Node → Text} {written : Node → List Text}
    (h : ∀ node ∈ nodes, YieldsApart (texts node) (written node))
    : YieldsApart (Text.join ", " (nodes.map fun node => listed node (texts node)))
        (nodes.flatMap written) := by
  have hcomma : IsClosing ", " := ⟨rfl, rfl⟩
  exact Cpp.yields_join hcomma fun node hm =>
    yields_asOperand (h node hm) node Operator.argument false

/-- A text without quotes and digits, and a blank behind it. -/
theorem isClosing_blank (h : text.all Cpp.isInert = true) : IsClosing (text ++ " ") := by
  refine ⟨?_, ?_⟩
  · rw [List.all_append, h]
    rfl
  · rw [List.getLast?_append]
    rfl

/-- An operator with blanks around it ends a number. -/
theorem isClosing_spaced {operator : Text} (h : operator.all Cpp.isInert = true)
    : IsClosing (" " ++ operator ++ " ") := by
  refine isClosing_blank ?_
  rw [List.all_append, h]
  rfl

/-- An operation has the numbers of both operands. -/
theorem yieldsApart_operationText {operator left right : Text} {written' : List Text}
    (known : operator ∈ Operator.binary) (translated : operator ∉ Operator.untranslatedBinary)
    (hl : YieldsApart left written) (hr : YieldsApart right written')
    : YieldsApart (operationText operator left right) (written ++ written') := by
  have hall : ∀ operator ∈ Operator.strengths.map Prod.fst,
      (Operator.spelling operator).all Cpp.isInert = true := by decide
  have hinert := hall operator ((List.mem_append.mp known).resolve_right translated)
  have hoperation := hl.between (isClosing_spaced hinert) hr
  rw [operationText, if_neg translated]
  simpa only [List.append_assoc] using hoperation

/-- An operator in front of its operand, or behind it. -/
theorem isClosing_leading {operator : Text}
    (known : operator ∈ Cpp.Tree.unaryOperators ++ Cpp.Tree.updateOperators)
    : IsClosing operator := by
  have hall : ∀ operator ∈ Cpp.Tree.unaryOperators ++ Cpp.Tree.updateOperators,
      operator.all Cpp.isInert = true ∧ operator.getLast?.any Cpp.isConnective = true := by decide
  obtain ⟨inert, ends⟩ := hall operator known
  exact ⟨inert, ends⟩

/-- An operation with one operand has the numbers of the operand. -/
theorem yieldsApart_unary {operator : Text} (known : operator ∈ Operator.unary)
    (translated : operator ∉ Operator.untranslatedUnary) (h : YieldsApart text written)
    : YieldsApart (unary operator text) written := by
  have hoperator := isClosing_leading
    (List.mem_append_left _ ((List.mem_append.mp known).resolve_right translated))
  have hopen : IsClosing "(" := ⟨rfl, rfl⟩
  have hclose : IsClosing ")" := ⟨rfl, rfl⟩
  unfold unary
  split
  · exact (h.enclosed hopen hclose).opened hoperator
  · exact h.opened hoperator

/-- A shim replaces names by words, with colons between them. -/
theorem yieldsApart_replacement {shims : ShimTable} (hshims : shims.IsQualified)
    {name : Option Text} {target : Text} (hr : replacement? shims name = some target)
    : YieldsApart target [] := by
  obtain ⟨source, hm⟩ := exists_entry hr
  have hwords : ∀ piece ∈ target.segments, Cpp.IsWord piece := hshims (source, target) hm
  have hscope : IsClosing "::" := ⟨rfl, rfl⟩
  have hjoined : YieldsApart (Text.join "::" (target.segments.map id))
      (target.segments.flatMap fun _ => []) :=
    Cpp.yields_join hscope fun piece hm => (Cpp.yields_word (hwords piece hm)).apart
  rw [List.map_id, target.join_segments] at hjoined
  rwa [List.flatMap_eq_nil_iff.mpr fun _ _ => rfl] at hjoined

end Texts

-----------------------------------------------------------------------------------------
-- Templates of containers repeat what they are filled with
-----------------------------------------------------------------------------------------

section Templates

variable {object : Text} {written : List Text} (h : YieldsApart object written)

include h

/-- Removal of the last element has the numbers of the container. -/
theorem yieldsApart_popped : YieldsApart (popped object) written := by
  have hcall : IsClosing ".pop_back()" := ⟨rfl, rfl⟩
  exact (h.closed hcall).whole

/-- Removal of the first element has the numbers of the container twice. -/
theorem yieldsApart_shifted : YieldsApart (shifted object) (written ++ written) := by
  have herase : IsClosing ".erase(" := ⟨rfl, rfl⟩
  have hbegin : IsClosing ".begin())" := ⟨rfl, rfl⟩
  exact ((h.between herase h).closed hbegin).whole

/-- Reversal has the numbers of the container twice. -/
theorem yieldsApart_reversed : YieldsApart (reversed object) (written ++ written) := by
  have hname : IsClosing "std::reverse(" := ⟨rfl, rfl⟩
  have hbegin : IsClosing ".begin(), " := ⟨rfl, rfl⟩
  have hend : IsClosing ".end())" := ⟨rfl, rfl⟩
  exact (((h.opened hname).between hbegin h).closed hend).whole

/-- Removal of some elements repeats the numbers of the container and of the position. -/
theorem yieldsApart_spliced {start count : Text} {starts counts : List Text}
    (hs : YieldsApart start starts) (hc : YieldsApart count counts)
    : YieldsApart (spliced object start count)
        (written ++ written ++ starts ++ written ++ starts ++ counts) := by
  have herase : IsClosing ".erase(" := ⟨rfl, rfl⟩
  have hbegin : IsClosing ".begin() + " := ⟨rfl, rfl⟩
  have hcomma : IsClosing ", " := ⟨rfl, rfl⟩
  have hplus : IsClosing " + " := ⟨rfl, rfl⟩
  have hclose : IsClosing ")" := ⟨rfl, rfl⟩
  have hfirst := (h.between herase h).between hbegin hs
  have hsecond := (hfirst.between hcomma h).between hbegin hs
  exact ((hsecond.between hplus hc).closed hclose).whole

/-- Access to a property repeats the object as often as it is counted. -/
theorem yieldsApart_property? {name access : Text} (place : Option Location)
    (ha : property? object name = some access)
    : YieldsApart access
        (List.replicate (Node.identifier name place).accessCopies written).flatten := by
  have honce : (List.replicate 1 written).flatten = written := List.append_nil written
  have htwice : (List.replicate 2 written).flatten = written ++ written :=
    congrArg (written ++ ·) honce
  have hsuffix {suffix : Text} (hinert : suffix.all Cpp.isInert = true)
      : YieldsApart (object ++ suffix) (List.replicate 1 written).flatten := by
    have hall := h.append (Cpp.yields_inert hinert)
    rwa [List.append_nil, ← honce] at hall
  rcases property?_eq_some ha with
    ⟨rfl, rfl⟩ | ⟨rfl, rfl⟩ | ⟨rfl, rfl⟩ | ⟨rfl, rfl⟩ | ⟨rfl, rfl⟩ | ⟨rfl, rfl⟩
  · exact hsuffix rfl
  · exact hsuffix rfl
  · exact honce.symm ▸ yieldsApart_popped h
  · exact htwice.symm ▸ yieldsApart_shifted h
  · exact hsuffix rfl
  · exact htwice.symm ▸ yieldsApart_reversed h

end Templates

/-- A property has the numbers of its object as often as the object is copied. -/
theorem yieldsApart_propertyText {shims : ShimTable} (hshims : shims.IsQualified)
    {object name : Text} {written : List Text} (node : Node) (place : Option Location)
    (ho : YieldsApart object written) (hn : Cpp.IsWord name)
    : YieldsApart (propertyText shims node (.identifier name place) object)
        (List.replicate (Node.identifier name place).accessCopies written).flatten := by
  have hcopies : written.Sublist
      (List.replicate (Node.identifier name place).accessCopies written).flatten := by
    obtain ⟨copies, hc⟩ := Nat.exists_eq_succ_of_ne_zero
      (Node.identifier name place).accessCopies_ne_zero
    rw [hc, List.replicate_succ, List.flatten_cons]
    exact List.sublist_append_left _ _
  simp only [propertyText]
  split
  · rename_i access ha
    exact yieldsApart_property? ho place ha
  · split
    · exact ho.mono hcopies
    · -- A shim takes the place of the object, so the numbers in the object are not written.
      cases hr : replacement? shims node.dottedName? with
      | some target => exact (yieldsApart_replacement hshims hr).mono (List.nil_sublist _)
      | none =>
        have hscope : IsClosing "::" := ⟨rfl, rfl⟩
        have hscoped := ho.between hscope (Cpp.yields_word hn).apart
        rw [List.append_nil] at hscoped
        exact hscoped.mono hcopies

/-- A call of a method, with as many arguments as it needs. -/
theorem yieldsApart_methodText {object : Node} {objectText : Text}
    (ho : YieldsApart objectText object.numerals) (method : Method) {nodes : List Node}
    {texts : Node → Text}
    (h : ¬ (method = .pop ∨ method = .shift ∨ method = .reverse)
      → ∀ node ∈ nodes, YieldsApart (texts node) node.numerals)
    (fits : method.isFaultyCall nodes = false)
    : YieldsApart (methodText method objectText (nodes.map fun node => (node, texts node)))
        ((method.written object nodes).flatMap Node.numerals
          ++ (method.implied nodes).map Text.ofNat) := by
  have once : [object].flatMap Node.numerals = object.numerals := List.flatMap_singleton _ _
  have twice : [object, object].flatMap Node.numerals = object.numerals ++ object.numerals :=
    congrArg (object.numerals ++ ·) once
  cases method with
  | pop =>
    refine (yieldsApart_popped ho).mono ?_
    rw [Method.written, once]
    exact List.sublist_append_left _ _
  | shift =>
    refine (yieldsApart_shifted ho).mono ?_
    rw [Method.written, twice]
    exact List.sublist_append_left _ _
  | reverse =>
    refine (yieldsApart_reversed ho).mono ?_
    rw [Method.written, twice]
    exact List.sublist_append_left _ _
  | push =>
    have hnodes := h (by decide)
    rcases nodes with _ | ⟨node, _ | ⟨_, _⟩⟩
    · cases fits
    · have hpush : IsClosing ".push_back(" := ⟨rfl, rfl⟩
      have hclose : IsClosing ")" := ⟨rfl, rfl⟩
      have hargument := yields_asOperand (hnodes node List.mem_cons_self) node Operator.argument
        false
      have hcall := ((ho.between hpush hargument).closed hclose).whole
      simpa [methodText, listed, Method.written, Method.implied] using hcall
    · cases fits
  | splice =>
    have hsummand : ∀ node ∈ nodes, YieldsApart (summand node (texts node)) node.numerals :=
      fun node hm => yields_asOperand (h (by decide) node hm) node _ _
    rcases nodes with _ | ⟨start, _ | ⟨count, _ | ⟨_, _⟩⟩⟩
    · cases fits
    · have hone : YieldsApart "1" [Text.ofNat 1] := yieldsApart_ofNat 1
      have hspliced := yieldsApart_spliced ho (hsummand start List.mem_cons_self) hone
      simpa [methodText, Method.written, Method.implied] using hspliced
    · have hspliced := yieldsApart_spliced ho (hsummand start List.mem_cons_self)
        (hsummand count (List.mem_cons_of_mem _ List.mem_cons_self))
      simpa [methodText, Method.written, Method.implied] using hspliced
    · cases fits

/-- Elements between braces, none of which is a hole. -/
theorem yieldsApart_array {style : Style} {depth : Nat} {elements : List (Option Node)}
    (location : Option Location) (full : elements.any Option.isNone = false)
    (h : ∀ element ∈ elements.filterMap id,
      YieldsApart (text style depth element) element.numerals)
    : YieldsApart (text style depth (.array elements location))
        ((elements.filterMap id).flatMap Node.numerals) := by
  have hopen : IsClosing "\x7b " := ⟨rfl, rfl⟩
  have hclose : IsClosing " \x7d" := ⟨rfl, rfl⟩
  rw [text_array, if_neg (by rw [full]; exact Bool.false_ne_true)]
  split
  · have hempty : YieldsApart "\x7b\x7d" [] := yieldsApart_inert rfl
    exact hempty.mono (List.nil_sublist _)
  · exact (yieldsApart_listed h).enclosed hopen hclose

-----------------------------------------------------------------------------------------
-- The text of an expression spells the numbers that are written for it
-----------------------------------------------------------------------------------------

/-- The numbers of digits alone in the text of an expression without an error are those that are
written for it, by induction over the expression. -/
theorem yieldsApart_text {style : Style} (hshims : style.shims.IsQualified) (depth : Nat)
    {node : Node} (h : node.IsCleanExpression)
    : YieldsApart (text style depth node) node.numerals := by
  induction h with
  | identifier isWord =>
    rw [text_identifier]
    exact (Cpp.yields_word isWord).apart.mono (List.nil_sublist _)
  | literal finite =>
    rw [text_literal, Node.numerals_eq]
    refine (yieldsApart_literalText finite).mono ?_
    rw [List.append_assoc]
    exact List.sublist_append_left _ _
  | array full _ ih =>
    rw [Node.numerals_of_parts rfl rfl rfl, Node.parts, List.flatMap_map]
    exact yieldsApart_array _ full ih
  | binary known translated _ _ hleft hright =>
    rw [text_binary, Node.numerals_of_two rfl rfl rfl rfl]
    exact yieldsApart_operationText known translated (yields_asOperand hleft _ _ _)
      (yields_asOperand hright _ _ _)
  | logical known translated _ _ hleft hright =>
    rw [text_logical, Node.numerals_of_two rfl rfl rfl rfl]
    exact yieldsApart_operationText known translated (yields_asOperand hleft _ _ _)
      (yields_asOperand hright _ _ _)
  | unary known translated _ hargument =>
    rw [text_unary, if_neg translated, Node.numerals_of_one rfl rfl rfl rfl]
    exact yieldsApart_unary known translated (yields_asOperand hargument _ _ _)
  | @update operator argument leading location known _ ih =>
    have hargument := yields_asOperand ih argument Operator.trailing false
    have hoperator := isClosing_leading (List.mem_append_right _ known)
    rw [text_update, Node.numerals_of_one rfl rfl rfl rfl]
    cases leading with
    | true => exact hargument.opened hoperator
    | false => exact (hargument.closed hoperator).whole
  | @assignment operator left right location known translated _ _ hleft ih =>
    have hright := yields_asOperand ih right Operator.assignment false
    have hall : ∀ operator ∈ Cpp.Tree.assignOperators,
        operator.all Cpp.isInert = true := by decide
    have hinert := hall operator ((List.mem_append.mp known).resolve_right translated)
    have hassigned := hleft.between (isClosing_spaced hinert) hright
    rw [text_assignment, if_neg translated, Node.numerals_of_two rfl rfl rfl rfl]
    simpa only [List.append_assoc] using hassigned
  | @index object property location _ _ ih hproperty =>
    have hobject := yields_asOperand ih object Operator.primary false
    have hopen : IsClosing "[" := ⟨rfl, rfl⟩
    have hclose : IsClosing "]" := ⟨rfl, rfl⟩
    rw [text_member, Node.numerals_of_two rfl rfl rfl rfl]
    exact ((hobject.between hopen hproperty).closed hclose).whole
  | @access object name place location _ isWord ih =>
    have hobject := yields_asOperand ih object Operator.primary false
    rw [text_member, Node.numerals_access]
    exact yieldsApart_propertyText hshims _ place hobject isWord
  | @ordinary callee arguments location apart _ _ ih harguments =>
    have hcallee := yields_asOperand ih callee Operator.primary false
    have hlisted := yieldsApart_listed harguments
    have hopen : IsClosing "(" := ⟨rfl, rfl⟩
    have hclose : IsClosing ")" := ⟨rfl, rfl⟩
    rw [text_ordinary _ _ _ _ apart, Node.numerals_ordinary _ _ apart]
    cases hr : replacement? style.shims callee.dottedName? with
    | some target =>
      -- The numbers in a callee that a shim replaces are counted as written, but are not there.
      have htarget := (yieldsApart_replacement hshims hr).mono
        (List.nil_sublist callee.numerals)
      exact ((htarget.between hopen hlisted).closed hclose).whole
    | none => exact ((hcallee.between hopen hlisted).closed hclose).whole
  | @selected callee object method arguments location selects fits _ _ ih harguments =>
    have hobject := yields_asOperand ih object Operator.primary false
    rw [text_selected _ _ _ _ selects, Node.numerals_selected _ _ selects]
    exact yieldsApart_methodText hobject method harguments fits

end Fragment

end DeviceScript
