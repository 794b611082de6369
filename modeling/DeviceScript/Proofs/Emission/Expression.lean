import DeviceScript.Proofs.Cpp.Numeral
import DeviceScript.Proofs.Cpp.Primary
import DeviceScript.Proofs.Cpp.ReadBack
import DeviceScript.Proofs.Emission.Clean
import DeviceScript.Proofs.Emission.Target

/-! Emission of expressions keeps their tree: whatever is emitted without an error reads back as the
C++ expression that the expression stands for.
-/

namespace DeviceScript

open Cpp (Tree)

/-- A table whose C++ names are words with scope operators between them. -/
def ShimTable.IsQualified (shims : ShimTable) : Prop :=
  ∀ entry ∈ shims.entries, ∀ piece ∈ entry.2.segments, Cpp.IsWord piece

instance (shims : ShimTable) : Decidable shims.IsQualified :=
  inferInstanceAs (Decidable (∀ entry ∈ shims.entries, ∀ piece ∈ entry.2.segments, Cpp.IsWord piece))

/-- The names that are built in are words with scope operators between them. -/
theorem ShimTable.isQualified_builtIn : builtIn.IsQualified := by decide

/-- A name that replaces another one is as strong as any expression. -/
theorem ShimTable.isPrimary_replacement {shims : ShimTable} (h : shims.IsQualified) (indent : Text)
    {name : Option Text} {target : Text} (hr : Fragment.replacement? shims name = some target)
    : (Tree.qualified target).IsPrimary indent := by
  obtain ⟨source, hm⟩ := Fragment.exists_entry hr
  exact Tree.isPrimary_qualified (h (source, target) hm)

namespace Literal

/-- Tells whether a literal needs no sign. A double zero may have one, as it is not written. -/
def IsNonNegative : Literal → Prop
  | integer value => 0 ≤ value
  | real (.finite negative size) => negative = true → size.significand = 0
  | _ => True

end Literal

namespace Node

/-- Tells whether an expression is a number. -/
def isNumber : Node → Bool
  | literal value _ _ => value.isNumeric
  | _ => false

/-- Tells whether a value can be assigned to an expression. -/
def isAssignable : Node → Bool
  | identifier _ _ | member _ _ _ _ => true
  | _ => false

/-- An expression as parsers of scripts build it, from the supported kinds of nodes. -/
inductive IsExpression : Node → Prop where
  | identifier {name : Text} {location : Option Location} (isWord : Cpp.IsWord name)
    : IsExpression (.identifier name location)
  | literal {value : Literal} {raw : Option Text} {location : Option Location}
      (nonNegative : value.IsNonNegative)
    : IsExpression (.literal value raw location)
  | array {elements : List (Option Node)} {location : Option Location}
      (isExpression : ∀ element ∈ elements.filterMap id, IsExpression element)
    : IsExpression (.array elements location)
  | binary {operator : Text} {left right : Node} {location : Option Location}
      (known : operator ∈ Operator.binary) (isExpression : IsExpression left)
      (isExpression' : IsExpression right)
    : IsExpression (.binary operator left right location)
  | logical {operator : Text} {left right : Node} {location : Option Location}
      (known : operator ∈ Operator.binary) (isExpression : IsExpression left)
      (isExpression' : IsExpression right)
    : IsExpression (.logical operator left right location)
  | unary {operator : Text} {argument : Node} {leading : Bool} {location : Option Location}
      (known : operator ∈ Operator.unary) (isExpression : IsExpression argument)
    : IsExpression (.unary operator argument leading location)
  | update {operator : Text} {argument : Node} {leading : Bool} {location : Option Location}
      (known : operator ∈ Tree.updateOperators) (assignable : argument.isAssignable = true)
      (isExpression : IsExpression argument)
    : IsExpression (.update operator argument leading location)
  | assignment {operator : Text} {left right : Node} {location : Option Location}
      (known : operator ∈ Operator.assigning) (assignable : left.isAssignable = true)
      (isExpression : IsExpression left) (isExpression' : IsExpression right)
    : IsExpression (.assignment operator left right location)
  | index {object property : Node} {location : Option Location}
      (isExpression : IsExpression object) (isExpression' : IsExpression property)
    : IsExpression (.member object property true location)
  | access {object : Node} {name : Text} {place location : Option Location}
      (isExpression : IsExpression object) (apart : object.isNumber = false)
      (isWord : Cpp.IsWord name)
    : IsExpression (.member object (.identifier name place) false location)
  | call {callee : Node} {arguments : List Node} {location : Option Location}
      (isExpression : IsExpression callee)
      (isExpression' : ∀ argument ∈ arguments, IsExpression argument)
      (bounded : ∀ method object, callee.selected? = some (method, object)
        → method = .pop ∨ method = .shift ∨ method = .reverse → arguments = [])
    : IsExpression (.call callee arguments location)

/-- An expression is lexical. -/
theorem IsExpression.isLexical {node : Node} (h : node.IsExpression) : node.IsLexical := by
  induction h with
  | identifier isWord => exact .identifier isWord
  | literal _ => exact .literal
  | array _ ih => exact .array ih
  | binary known _ _ hl hr => exact .binary known hl hr
  | logical known _ _ hl hr => exact .logical known hl hr
  | unary known _ ha => exact .unary known ha
  | update known _ _ ha => exact .update known ha
  | assignment known _ _ _ hl hr => exact .assignment known hl hr
  | index _ _ ho hp => exact .member ho hp
  | access _ _ isWord ho => exact .member ho (.identifier isWord)
  | call _ _ _ hc ha => exact .call hc ha

end Node

namespace Operator

/-- An operator that has a translation has the strength of its translation. -/
theorem binary_known {operator : Text} (known : operator ∈ binary)
    (translated : operator ∉ untranslatedBinary)
    : Tree.binaryStrength? (spelling operator) = some (strength operator)
        ∧ strength operator ≤ 10 := by
  have hall : ∀ operator ∈ strengths.map Prod.fst,
      Tree.binaryStrength? (spelling operator) = some (strength operator)
        ∧ strength operator ≤ 10 := by
    decide
  exact hall operator ((List.mem_append.mp known).resolve_right translated)

end Operator

namespace Fragment

-----------------------------------------------------------------------------------------
-- Texts that read back as the expression
-----------------------------------------------------------------------------------------

/-- What a node is laid out as can be read, and reads as the expression the node stands for. -/
structure IsFaithful (style : Style) (depth : Nat) (node : Node) : Prop where
  legible : (layout style depth node).Legible style.indent
  strength_eq : (layout style depth node).strength = node.strength
  bounded : node.strength ≤ 13
  apart : node.isNumber = false → (layout style depth node).isNumber = false
  bare_eq : (layout style depth node).bare = node.target style.shims

variable {style : Style} {depth : Nat}

namespace IsFaithful

variable {node : Node} (h : IsFaithful style depth node)

include h

/-- A faithful node is legible with its parentheses. -/
theorem placed_legible (strength : Nat) (right : Bool)
    : (node.placed strength right (layout style depth node)).Legible style.indent := by
  unfold Node.placed
  split
  · exact .group h.legible
  · exact h.legible

/-- An operand binds at least as tightly as its place asks for. -/
theorem le_strength_placed (strength : Nat) (right : Bool) (hle : strength ≤ 13)
    : strength ≤ (node.placed strength right (layout style depth node)).strength := by
  unfold Node.placed
  split
  · exact hle
  · rename_i hn
    simp only [Node.needsParentheses, Bool.or_eq_true, decide_eq_true_eq, not_or] at hn
    rw [h.strength_eq]
    exact Nat.le_of_not_lt hn.1

/-- An operand on the right binds tighter than its operator. -/
theorem lt_strength_placed {strength : Nat} (hlt : strength < 13)
    : strength < (node.placed strength true (layout style depth node)).strength := by
  unfold Node.placed
  split
  · exact hlt
  · rename_i hn
    simp only [Node.needsParentheses, Operator.primary, Bool.or_eq_true, Bool.and_eq_true,
      Bool.true_and, decide_eq_true_eq, not_or, not_and] at hn
    rw [h.strength_eq]
    exact Nat.lt_of_le_of_ne (Nat.le_of_not_lt hn.1) fun he => hn.2 he.symm (decide_eq_true (he ▸ hlt))

/-- A faithful node that is no number is as strong as any expression with its parentheses. -/
theorem isPrimary_placed (apart : node.isNumber = false)
    : (node.placed Operator.primary false (layout style depth node)).IsPrimary style.indent where
  legible := h.placed_legible _ _
  strength_eq := by
    have hle := h.le_strength_placed _ false (Nat.le_refl 13)
    refine Nat.le_antisymm ?_ hle
    unfold Node.placed
    split
    · exact Nat.le_refl 13
    · rw [h.strength_eq]
      exact h.bounded
  isNumber_eq := by
    unfold Node.placed
    split
    · rfl
    · exact h.apart apart

/-- A faithful node has its target, parentheses aside. -/
theorem bare_placed (strength : Nat) (right : Bool)
    : (node.placed strength right (layout style depth node)).bare = node.target style.shims :=
  (Fragment.bare_placed node strength right _).trans h.bare_eq

end IsFaithful

/-- Anything laid out as an expression that binds tightest binds as its node does. -/
theorem isFaithful_of_isPrimary {node : Node}
    (h : (layout style depth node).IsPrimary style.indent) (hs : node.strength = 13)
    (hb : (layout style depth node).bare = node.target style.shims)
    : IsFaithful style depth node where
  legible := h.legible
  strength_eq := h.strength_eq.trans hs.symm
  bounded := Nat.le_of_eq hs
  apart := fun _ => h.isNumber_eq
  bare_eq := hb

-----------------------------------------------------------------------------------------
-- Each kind of expression reads back if its operands do
-----------------------------------------------------------------------------------------

/-- A literal without a sign is read as what it is. -/
theorem isFaithful_literal {value : Literal} (raw : Option Text) (location : Option Location)
    (nonNegative : value.IsNonNegative)
    (finite : ∀ number, value = .real number → number.isFinite = true)
    : IsFaithful style depth (.literal value raw location) := by
  have hlayout : layout style depth (.literal value raw location) = literalTree value := by
    rw [layout]
  have htarget : (Node.literal value raw location).target style.shims = literalTree value := by
    rw [Node.target]
  have hbare := bare_literalTree value
  refine ⟨?_, ?_, Nat.le_refl 13, ?_, by rw [hlayout, htarget, hbare]⟩ <;> rw [hlayout]
  · cases value with
    | text value => exact .string value
    | boolean value => cases value <;> exact .word (by decide)
    | integer value => exact .number (Cpp.isNumeral_ofInt nonNegative)
    | real value =>
        have hfinite := finite value rfl
        cases value with
        | finite negative size => exact .number (Cpp.isNumeral_real size nonNegative)
        | _ => cases hfinite
    | null => exact .word (by decide)
  · cases value with
    | real value => cases value <;> rfl
    | _ => rfl
  · cases value with
    | integer value | real value =>
        intro h
        cases h
    | _ => exact fun _ => rfl

/-- Arguments as a list or an ordinary call places them. -/
theorem listed_isFaithful {nodes : List Node} (h : ∀ node ∈ nodes, IsFaithful style depth node)
    : (∀ tree ∈ nodes.map fun node =>
          node.placed Operator.argument false (layout style depth node),
        tree.Legible style.indent ∧ 1 ≤ tree.strength)
      ∧ (nodes.map fun node => node.placed Operator.argument false (layout style depth node)).map
          Tree.bare
        = nodes.map (Node.target style.shims) := by
  constructor
  · intro tree hm
    obtain ⟨node, hn, rfl⟩ := List.mem_map.mp hm
    exact ⟨(h node hn).placed_legible _ _, (h node hn).le_strength_placed _ _ (by decide)⟩
  · rw [List.map_map]
    exact List.map_congr_left fun node hm => (h node hm).bare_placed _ _

/-- A binary or logical operation reads as it is grouped in the script. -/
theorem isFaithful_operation {node left right : Node} {operator : Text}
    (hlayout : layout style depth node
      = operationTree operator
          (left.placed (Operator.strength operator) false (layout style depth left))
          (right.placed (Operator.strength operator) true (layout style depth right)))
    (htarget : node.target style.shims
      = .binary (Operator.spelling operator) (left.target style.shims) (right.target style.shims))
    (hstrength : node.strength = Operator.strength operator) (known : operator ∈ Operator.binary)
    (translated : operator ∉ Operator.untranslatedBinary) (hl : IsFaithful style depth left)
    (hr : IsFaithful style depth right)
    : IsFaithful style depth node := by
  obtain ⟨hlevel, hbound⟩ := Operator.binary_known known translated
  rw [operationTree, if_neg translated] at hlayout
  refine ⟨?_, ?_, ?_, ?_, ?_⟩
  · rw [hlayout]
    exact .binary hlevel (hl.placed_legible _ _) (hl.le_strength_placed _ _ (by omega))
      (hr.placed_legible _ _) (hr.lt_strength_placed (by omega))
  · rw [hlayout, hstrength, Tree.strength, hlevel, Option.getD_some]
  · omega
  · intro _
    rw [hlayout]
    rfl
  · rw [hlayout, htarget, Tree.bare, hl.bare_placed, hr.bare_placed]

/-- An operation with one operand is read as one on what the operand is read as. -/
theorem isFaithful_unary {argument : Node} {operator : Text} (leading : Bool)
    (location : Option Location) (known : operator ∈ Operator.unary)
    (translated : operator ∉ Operator.untranslatedUnary) (ha : IsFaithful style depth argument)
    : IsFaithful style depth (.unary operator argument leading location) := by
  have hknown := (List.mem_append.mp known).resolve_right translated
  have hlayout : layout style depth (.unary operator argument leading location)
      = unaryTree style.indent operator
          (argument.placed Operator.leading false (layout style depth argument)) := by
    rw [layout, if_neg translated]
  have hlegible := ha.placed_legible Operator.leading false
  have hstrong := ha.le_strength_placed Operator.leading false (by decide)
  have hbare := ha.bare_placed Operator.leading false
  refine ⟨?_, ?_, Nat.le_of_ble_eq_true rfl, ?_, ?_⟩ <;> rw [hlayout]
  · unfold unaryTree
    split
    · have hopen : ∀ operator ∈ Tree.unaryOperators, operator.head? ≠ some (.scalar '(')
          ∧ operator ≠ [] := by
        decide
      refine .unary hknown (.group hlegible) (Nat.le_of_ble_eq_true rfl) ?_
      obtain ⟨hparenthesis, hne⟩ := hopen operator hknown
      obtain ⟨first, rest, rfl⟩ := List.exists_cons_of_ne_nil hne
      cases hs : (Tree.print style.indent (.group
          (argument.placed Operator.leading false (layout style depth argument)))).startsWith
            (first :: rest) with
      | false => rfl
      | true =>
          rw [Tree.print] at hs
          have hfirst := (Bool.and_eq_true _ _ ▸ hs : _ ∧ _).1
          exact absurd (congrArg some (eq_of_beq hfirst)) hparenthesis
    · rename_i hs
      exact .unary hknown hlegible hstrong (Bool.eq_false_iff.mpr hs)
  · rfl
  · exact fun _ => rfl
  · rw [bare_unaryTree, hbare, Node.target]

/-- A call of a method, with as many arguments as it needs, binds tightest. -/
theorem isPrimary_method {object : Tree} (h : object.IsPrimary style.indent) (method : Method)
    {nodes : List Node} (hn : ∀ node ∈ nodes, IsFaithful style depth node)
    (fits : method.isFaultyCall nodes = false)
    : (Tree.method method object
        (nodes.map fun node => method.placed node (layout style depth node))).IsPrimary
          style.indent := by
  cases method with
  | pop => exact Tree.isPrimary_popped h
  | shift => exact Tree.isPrimary_shifted h
  | reverse => exact Tree.isPrimary_reversed h
  | push =>
      match nodes, fits with
      | [node], _ =>
          have hnode := hn node List.mem_cons_self
          refine (h.dot (by decide)).call ?_ ?_
          · intro tree hm
            rw [List.mem_singleton.mp hm]
            exact hnode.placed_legible _ _
          · intro tree hm
            rw [List.mem_singleton.mp hm]
            exact hnode.le_strength_placed _ _ (by decide)
  | splice =>
      match nodes, fits with
      | [position], _ =>
          have hp := hn position List.mem_cons_self
          exact Tree.isPrimary_spliced h (hp.placed_legible _ _) (hp.lt_strength_placed (by decide))
            (.number (Cpp.isNumeral_ofNat 1)) (by decide)
      | [position, count], _ =>
          have hp := hn position List.mem_cons_self
          have hc := hn count (List.mem_cons_of_mem _ List.mem_cons_self)
          exact Tree.isPrimary_spliced h (hp.placed_legible _ _) (hp.lt_strength_placed (by decide))
            (hc.placed_legible _ _) (hc.lt_strength_placed (by decide))

/-- A call of a method of a container is read as the template of the method. -/
theorem isFaithful_method {callee object : Node} {method : Method} {arguments : List Node}
    (location : Option Location) (hs : callee.selected? = some (method, object))
    (ho : IsFaithful style depth object) (apart : object.isNumber = false)
    (ha : ∀ argument ∈ arguments, IsFaithful style depth argument)
    (fits : method.isFaultyCall arguments = false)
    : IsFaithful style depth (.call callee arguments location) := by
  have hlayout := layout_selected style depth arguments location hs
  refine isFaithful_of_isPrimary ?_ rfl ?_ <;> rw [hlayout]
  · exact isPrimary_method (ho.isPrimary_placed apart) method ha fits
  · rw [Tree.bare_method, ho.bare_placed, Node.target_selected _ _ _ hs, List.map_map]
    congr 1
    refine List.map_congr_left fun argument hm => ?_
    exact (bare_methodPlaced method argument _).trans (ha argument hm).bare_eq

/-- An ordinary call is read as one of what the callee is read as, or of what replaces its name. -/
theorem isFaithful_ordinary {callee : Node} {arguments : List Node} (location : Option Location)
    (hshims : style.shims.IsQualified) (hs : callee.selected? = none)
    (hc : IsFaithful style depth callee)
    (ha : ∀ argument ∈ arguments, IsFaithful style depth argument)
    : IsFaithful style depth (.call callee arguments location) := by
  obtain ⟨hlisted, hbare⟩ := listed_isFaithful ha
  have hlayout := layout_ordinary style depth arguments location hs
  refine ⟨?_, by rw [hlayout]; rfl, Nat.le_refl 13, fun _ => by rw [hlayout]; rfl, ?_⟩ <;> rw [hlayout]
  · refine .call ?_ ?_ (fun tree hm => (hlisted tree hm).1) (fun tree hm => (hlisted tree hm).2)
    · cases hr : replacement? style.shims callee.dottedName? with
      | some target => exact (ShimTable.isPrimary_replacement hshims style.indent hr).legible
      | none => exact hc.placed_legible _ _
    · cases hr : replacement? style.shims callee.dottedName? with
      | some target => exact (ShimTable.isPrimary_replacement hshims style.indent hr).strong
      | none => exact Nat.le_of_succ_le (hc.le_strength_placed _ _ (Nat.le_refl 13))
  · rw [Tree.bare, hbare, Node.target_ordinary _ _ _ hs]
    cases replacement? style.shims callee.dottedName? with
    | some target => simp only [Option.map_some, Option.getD_some, Tree.bare_qualified]
    | none => simp only [Option.map_none, Option.getD_none, hc.bare_placed]

/-- A property that is not in brackets binds tightest, whatever it turns into. -/
theorem isFaithful_access {object : Node} {name : Text} (place location : Option Location)
    (hshims : style.shims.IsQualified) (isWord : Cpp.IsWord name)
    (ho : IsFaithful style depth object) (apart : object.isNumber = false)
    : IsFaithful style depth (.member object (.identifier name place) false location) := by
  have hobject := ho.isPrimary_placed apart
  have hlayout : layout style depth (.member object (.identifier name place) false location)
      = propertyTree style.shims (.member object (.identifier name place) false location)
          (.identifier name place)
          (object.placed Operator.primary false (layout style depth object)) := by
    simp only [layout, Bool.false_eq_true, if_false]
  refine isFaithful_of_isPrimary ?_ rfl ?_ <;> rw [hlayout]
  · simp only [propertyTree]
    split
    · rename_i access ha
      exact Tree.isPrimary_property? hobject ha
    · split
      · exact hobject
      · cases hr : replacement? style.shims (Node.dottedName?
            (.member object (.identifier name place) false location)) with
        | some target => exact ShimTable.isPrimary_replacement hshims style.indent hr
        | none => exact hobject.scope isWord
  · simp only [bare_propertyTree, ho.bare_placed, Node.target, Bool.false_eq_true, if_false]

/-- An element at a position is read as one. -/
theorem isFaithful_index {object property : Node} (location : Option Location)
    (ho : IsFaithful style depth object) (hp : IsFaithful style depth property)
    : IsFaithful style depth (.member object property true location) := by
  have hlayout : layout style depth (.member object property true location)
      = .index (object.placed Operator.primary false (layout style depth object))
          (layout style depth property) := by
    simp only [layout, if_true]
  have hstrong := ho.le_strength_placed Operator.primary false (Nat.le_refl 13)
  refine ⟨?_, by rw [hlayout]; rfl, Nat.le_refl 13, fun _ => by rw [hlayout]; rfl, ?_⟩ <;> rw [hlayout]
  · exact .index (ho.placed_legible _ _) (Nat.le_of_succ_le hstrong) hp.legible
  · simp only [Tree.bare, ho.bare_placed, hp.bare_eq, Node.target, if_true]

/-- An array without holes is read as a list. -/
theorem isFaithful_array {elements : List (Option Node)} (location : Option Location)
    (hfull : elements.any Option.isNone = false)
    (he : ∀ element ∈ elements.filterMap id, IsFaithful style depth element)
    : IsFaithful style depth (.array elements location) := by
  obtain ⟨hlisted, hbare⟩ := listed_isFaithful he
  have hlayout : layout style depth (.array elements location)
      = .list ((elements.filterMap id).map fun node =>
          node.placed Operator.argument false (layout style depth node)) := by
    rw [layout_array, hfull]
    rfl
  refine ⟨?_, by rw [hlayout]; rfl, Nat.le_refl 13, fun _ => by rw [hlayout]; rfl, ?_⟩ <;> rw [hlayout]
  · exact .list (fun tree hm => (hlisted tree hm).1) fun tree hm => (hlisted tree hm).2
  · rw [Tree.bare, hbare, Node.target_array]

/-- An update is read as one of what its operand is read as. -/
theorem isFaithful_update {argument : Node} {operator : Text} (leading : Bool)
    (location : Option Location) (known : operator ∈ Tree.updateOperators)
    (ha : IsFaithful style depth argument)
    : IsFaithful style depth (.update operator argument leading location) := by
  have hlayout : layout style depth (.update operator argument leading location)
      = .update operator (argument.placed Operator.trailing false (layout style depth argument))
          leading := by
    rw [layout]
  have hstrong := ha.le_strength_placed Operator.trailing false (by decide)
  refine ⟨?_, by rw [hlayout]; rfl, ?_, fun _ => by rw [hlayout]; rfl, ?_⟩
  · rw [hlayout]
    exact .update known (ha.placed_legible _ _) hstrong
  · cases leading <;> exact Nat.le_of_ble_eq_true rfl
  · rw [hlayout, Tree.bare, ha.bare_placed, Node.target]

/-- An assignment is read as one to what its left side is read as. -/
theorem isFaithful_assignment {left right : Node} {operator : Text} (location : Option Location)
    (known : operator ∈ Operator.assigning) (translated : operator ∉ Operator.untranslatedAssignment)
    (assignable : left.isAssignable = true) (hl : IsFaithful style depth left)
    (hr : IsFaithful style depth right)
    : IsFaithful style depth (.assignment operator left right location) := by
  have hknown := (List.mem_append.mp known).resolve_right translated
  have hlayout : layout style depth (.assignment operator left right location)
      = .assign operator (layout style depth left)
          (right.placed Operator.assignment false (layout style depth right)) := by
    rw [layout, if_neg translated]
  have hstrong : 1 ≤ (layout style depth left).strength := by
    rw [hl.strength_eq]
    cases left with
    | identifier _ _ | member _ _ _ _ => exact Nat.le_of_ble_eq_true rfl
    | _ => cases assignable
  refine ⟨?_, by rw [hlayout]; rfl, Nat.zero_le _, fun _ => by rw [hlayout]; rfl, ?_⟩ <;> rw [hlayout]
  · exact .assign hknown hl.legible hstrong (hr.placed_legible _ _)
  · rw [Tree.bare, hl.bare_eq, hr.bare_placed, Node.target]

-----------------------------------------------------------------------------------------
-- Expressions read back, whatever their shape
-----------------------------------------------------------------------------------------

/-- An expression is laid out faithfully if emission reports no error, by induction over what has a
translation. -/
theorem isFaithful_of_isExpression (hshims : style.shims.IsQualified) {node : Node}
    (h : node.IsExpression) (clean : anyFatal (notes style depth node) = false)
    : IsFaithful style depth node := by
  have hclean := h.isLexical.isClean clean
  clear clean
  induction hclean with
  | @identifier name location isWord =>
      have hlayout : layout style depth (.identifier name location) = .word name := by rw [layout]
      have hprimary : (Tree.word name).IsPrimary style.indent := .word isWord
      refine isFaithful_of_isPrimary (hlayout ▸ hprimary) rfl ?_
      simp only [hlayout, Node.target, Tree.bare]
  | literal finite =>
      cases h with
      | literal nonNegative => exact isFaithful_literal _ _ nonNegative finite
  | array full _ ih =>
      cases h with
      | array isExpression =>
          exact isFaithful_array _ full fun element hm => ih element hm (isExpression element hm)
  | binary known translated _ _ hleft hright =>
      cases h with
      | binary _ hl hr =>
          exact isFaithful_operation (by rw [layout]) (by rw [Node.target]) rfl known translated
            (hleft hl) (hright hr)
  | logical known translated _ _ hleft hright =>
      cases h with
      | logical _ hl hr =>
          exact isFaithful_operation (by rw [layout]) (by rw [Node.target]) rfl known translated
            (hleft hl) (hright hr)
  | unary known translated _ hargument =>
      cases h with
      | unary _ ha => exact isFaithful_unary _ _ known translated (hargument ha)
  | update known _ hargument =>
      cases h with
      | update _ _ ha => exact isFaithful_update _ _ known (hargument ha)
  | assignment known translated _ _ hleft hright =>
      cases h with
      | assignment _ assignable hl hr =>
          exact isFaithful_assignment _ known translated assignable (hleft hl) (hright hr)
  | index _ _ hobject hproperty =>
      cases h with
      | index ho hp => exact isFaithful_index _ (hobject ho) (hproperty hp)
  | access _ isWord hobject =>
      cases h with
      | access ho apart _ => exact isFaithful_access _ _ hshims isWord (hobject ho) apart
  | ordinary apart _ _ hcallee harguments =>
      cases h with
      | call hc ha _ =>
          exact isFaithful_ordinary _ hshims apart (hcallee hc) fun argument hm =>
            harguments argument hm (ha argument hm)
  | @selected callee object method arguments location selects fits _ _ hobject harguments =>
      cases h with
      | call hc ha bounded =>
          have hall : ∀ argument ∈ arguments, IsFaithful style depth argument := by
            intro argument hm
            by_cases hnone : method = .pop ∨ method = .shift ∨ method = .reverse
            · rw [bounded method object selects hnone] at hm
              exact absurd hm List.not_mem_nil
            · exact harguments hnone argument hm (ha argument hm)
          have hcallee := Node.selected?_eq_some selects
          obtain ⟨name, place, location', rfl, _⟩ := hcallee
          cases hc with
          | access ho apart _ =>
              exact isFaithful_method location selects (hobject ho) apart hall fits

/-- What is emitted for an expression without an error reads back, to its end, as the C++ expression
that the expression stands for. -/
theorem read_emit {style : Style} (hshims : style.shims.IsQualified) {node : Node}
    (h : node.IsExpression) (progress : Progress) {added : List Diagnostic}
    (reported : ((emit style node).run progress).2.diagnostics = progress.diagnostics ++ added)
    (clean : hasFatal added = false)
    : Cpp.read ((emit style node).run progress).1 = some (node.target style.shims) := by
  rw [emit_writes style node progress] at reported ⊢
  have hclean : anyFatal (notes style progress.depth node) = false := by
    have hadded : added = (({} : Progress).noteAll (notes style progress.depth node)).diagnostics :=
      List.append_cancel_left (reported.symm.trans (progress.diagnostics_noteAll _))
    rw [hadded, Progress.hasFatal_noteAll] at clean
    exact clean
  have hfaithful := isFaithful_of_isExpression hshims h hclean
  rw [← hfaithful.bare_eq]
  exact Cpp.read_print hfaithful.legible

/-- The difference of a name and a difference in which a method of a container is called. -/
def nestedDifference : Node :=
  .binary "-" (.identifier "a" none)
    (.binary "-"
      (.call (.member (.identifier "b" none) (.identifier "splice" none) false none)
        [.binary "-" (.identifier "i" none) (.literal (.integer 1) none none) none] none)
      (.unary "-" (.unary "-" (.identifier "c" none) true none) true none) none) none

/-- The operands of the outer difference and the position of the call read back as what they are,
whatever parentheses are written. -/
theorem read_emit_nestedDifference
    : let first : Tree :=
        .binary "+" (.call (.dot (.word "b") "begin") []) (.binary "-" (.word "i") (.number "1"))
      Cpp.read ((emit ⟨ShimTable.builtIn, "  "⟩ nestedDifference).run {}).1
        = some (.binary "-" (.word "a")
            (.binary "-"
              (.call (.dot (.word "b") "erase") [first, .binary "+" first (.number "1")])
              (.unary "-" (.unary "-" (.word "c"))))) := by
  intro first
  have htarget : nestedDifference.target ShimTable.builtIn
      = .binary "-" (.word "a")
          (.binary "-"
            (.call (.dot (.word "b") "erase") [first, .binary "+" first (.number "1")])
            (.unary "-" (.unary "-" (.word "c")))) := by
    rw [nestedDifference, Node.target, Node.target, Node.target, Node.target_selected _ _ _ rfl]
    simp only [List.map_cons, List.map_nil, Node.target]
    rfl
  rw [← htarget]
  have hreported : ((emit ⟨ShimTable.builtIn, "  "⟩ nestedDifference).run {}).2.diagnostics = [] :=
    rfl
  refine read_emit ShimTable.isQualified_builtIn ?_ {} hreported rfl
  have hname : ∀ {name : Text} {location : Option Location}, Cpp.IsWord name
      → (Node.identifier name location).IsExpression := .identifier
  have hstart : (Node.binary "-" (.identifier "i" none) (.literal (.integer 1) none none)
      none).IsExpression :=
    .binary (by decide) (hname (by decide)) (.literal (Int.natCast_nonneg 1))
  refine .binary (by decide) (hname (by decide)) (.binary (by decide) ?_ ?_)
  · refine .call (.access (hname (by decide)) rfl (by decide)) ?_ ?_
    · intro argument hm
      rw [List.mem_singleton.mp hm]
      exact hstart
    · rintro method object ⟨⟩ hm
      exact absurd hm (by decide)
  · exact .unary (by decide) (.unary (by decide) (hname (by decide)))

end Fragment

end DeviceScript
