import DeviceScript.Proofs.Cpp.Token
import DeviceScript.Proofs.Emission.Refusal

/-! Expressions and statements as parsers of scripts build them, and those among them for which
emission reports no error. What emission refuses is sorted out here, so that a property of texts is
shown by induction over what is left.
-/

namespace DeviceScript

open Fragment (Method not_anyFatal_part not_isFaulty notes)

namespace Operator

/-- The binary and logical operators of scripts. -/
def binary : List Text := strengths.map Prod.fst ++ untranslatedBinary

def unary : List Text := Cpp.Tree.unaryOperators ++ untranslatedUnary

/-- The assignment operators of scripts. -/
def assigning : List Text := Cpp.Tree.assignOperators ++ untranslatedAssignment

end Operator

namespace Node

-----------------------------------------------------------------------------------------
-- Expressions and statements of scripts
-----------------------------------------------------------------------------------------

/-- An expression whose names are words and whose operators are those of scripts. Unlike in
`IsExpression`, anything may be assigned to or called. -/
inductive IsLexical : Node → Prop where
  | identifier {name : Text} {location : Option Location} (isWord : Cpp.IsWord name)
    : IsLexical (.identifier name location)
  | literal {value : Literal} {raw : Option Text} {location : Option Location}
    : IsLexical (.literal value raw location)
  | array {elements : List (Option Node)} {location : Option Location}
      (isLexical : ∀ element ∈ elements.filterMap id, IsLexical element)
    : IsLexical (.array elements location)
  | binary {operator : Text} {left right : Node} {location : Option Location}
      (known : operator ∈ Operator.binary) (isLexical : IsLexical left)
      (isLexical' : IsLexical right)
    : IsLexical (.binary operator left right location)
  | logical {operator : Text} {left right : Node} {location : Option Location}
      (known : operator ∈ Operator.binary) (isLexical : IsLexical left)
      (isLexical' : IsLexical right)
    : IsLexical (.logical operator left right location)
  | unary {operator : Text} {argument : Node} {leading : Bool} {location : Option Location}
      (known : operator ∈ Operator.unary) (isLexical : IsLexical argument)
    : IsLexical (.unary operator argument leading location)
  | update {operator : Text} {argument : Node} {leading : Bool} {location : Option Location}
      (known : operator ∈ Cpp.Tree.updateOperators) (isLexical : IsLexical argument)
    : IsLexical (.update operator argument leading location)
  | assignment {operator : Text} {left right : Node} {location : Option Location}
      (known : operator ∈ Operator.assigning) (isLexical : IsLexical left)
      (isLexical' : IsLexical right)
    : IsLexical (.assignment operator left right location)
  | member {object property : Node} {computed : Bool} {location : Option Location}
      (isLexical : IsLexical object) (isLexical' : IsLexical property)
    : IsLexical (.member object property computed location)
  | call {callee : Node} {arguments : List Node} {location : Option Location}
      (isLexical : IsLexical callee) (isLexical' : ∀ argument ∈ arguments, IsLexical argument)
    : IsLexical (.call callee arguments location)
  | unsupported {source detail : Text} {location : Option Location}
    : IsLexical (.unsupported source detail location)

/-- The introduction of a name. -/
inductive IsDeclarator : Node → Prop where
  | declarator {target : Node} {initial : Option Node} {location : Option Location}
      (isLexical : target.IsLexical) (isLexical' : ∀ value ∈ initial, value.IsLexical)
    : IsDeclarator (.declarator target initial location)
  | unsupported {source detail : Text} {location : Option Location}
    : IsDeclarator (.unsupported source detail location)

/-- A declaration, which introduces at least one name. -/
inductive IsDeclaration : Node → Prop where
  | declaration {first : Node} {rest : List Node} {keyword : Text} {location : Option Location}
      (isDeclarator : ∀ node ∈ first :: rest, node.IsDeclarator)
    : IsDeclaration (.declaration (first :: rest) keyword location)

inductive IsParameter : Node → Prop where
  | parameter {name : Text} {location : Option Location} (isWord : Cpp.IsWord name)
    : IsParameter (.parameter name location)
  | unsupported {source detail : Text} {location : Option Location}
    : IsParameter (.unsupported source detail location)

/-- A statement as parsers of scripts build it. -/
inductive IsStatement : Node → Prop where
  | expressionStatement {expression : Node} {location : Option Location}
      (isLexical : expression.IsLexical)
    : IsStatement (.expressionStatement expression location)
  | declaration {node : Node} (isDeclaration : node.IsDeclaration) : IsStatement node
  | block {body : List Node} {location : Option Location}
      (isStatement : ∀ node ∈ body, IsStatement node)
    : IsStatement (.block body location)
  | ifElse {test consequent : Node} {alternate : Option Node} {location : Option Location}
      (isLexical : test.IsLexical) (isStatement : IsStatement consequent)
      (isStatement' : ∀ node ∈ alternate, IsStatement node)
    : IsStatement (.ifElse test consequent alternate location)
  | whileLoop {test body : Node} {location : Option Location} (isLexical : test.IsLexical)
      (isStatement : IsStatement body)
    : IsStatement (.whileLoop test body location)
  | forLoop {initial test advance : Option Node} {body : Node} {location : Option Location}
      (isInitial : ∀ node ∈ initial, node.IsDeclaration ∨ node.IsLexical)
      (isLexical : ∀ node ∈ test, node.IsLexical) (isLexical' : ∀ node ∈ advance, node.IsLexical)
      (isStatement : IsStatement body)
    : IsStatement (.forLoop initial test advance body location)
  | function {name : Text} {place : Option Location} {parameters : List Node} {body : Node}
      {location : Option Location} (isWord : Cpp.IsWord name)
      (isParameter : ∀ node ∈ parameters, node.IsParameter) (isStatement : IsStatement body)
    : IsStatement (.function (.identifier name place) parameters body location)
  | returning {argument : Option Node} {location : Option Location}
      (isLexical : ∀ node ∈ argument, node.IsLexical)
    : IsStatement (.returning argument location)
  | unsupported {source detail : Text} {location : Option Location}
    : IsStatement (.unsupported source detail location)

/-- The statements in the body of a compound statement. -/
theorem IsStatement.inner {body : Node} (h : body.IsStatement)
    : ∀ node ∈ body.inner, node.IsStatement := by
  have hself : ∀ node ∈ [body], node.IsStatement := by
    intro node hm
    rw [List.mem_singleton.mp hm]
    exact h
  cases h with
  | block isStatement => exact isStatement
  | declaration isDeclaration =>
      cases isDeclaration with
      | declaration _ => exact hself
  | _ => exact hself

-----------------------------------------------------------------------------------------
-- Expressions without an error
-----------------------------------------------------------------------------------------

/-- An expression all of which has a translation: no operator in it is refused, no array has a hole
and each method of a container has as many arguments as it needs. Arguments of a method that takes
none are not written, so there may be anything in them. -/
inductive IsCleanExpression : Node → Prop where
  | identifier {name : Text} {location : Option Location} (isWord : Cpp.IsWord name)
    : IsCleanExpression (.identifier name location)
  | literal {value : Literal} {raw : Option Text} {location : Option Location}
      (finite : ∀ number, value = .real number → number.isFinite = true)
    : IsCleanExpression (.literal value raw location)
  | array {elements : List (Option Node)} {location : Option Location}
      (full : elements.any Option.isNone = false)
      (isClean : ∀ element ∈ elements.filterMap id, IsCleanExpression element)
    : IsCleanExpression (.array elements location)
  | binary {operator : Text} {left right : Node} {location : Option Location}
      (known : operator ∈ Operator.binary) (translated : operator ∉ Operator.untranslatedBinary)
      (isClean : IsCleanExpression left) (isClean' : IsCleanExpression right)
    : IsCleanExpression (.binary operator left right location)
  | logical {operator : Text} {left right : Node} {location : Option Location}
      (known : operator ∈ Operator.binary) (translated : operator ∉ Operator.untranslatedBinary)
      (isClean : IsCleanExpression left) (isClean' : IsCleanExpression right)
    : IsCleanExpression (.logical operator left right location)
  | unary {operator : Text} {argument : Node} {leading : Bool} {location : Option Location}
      (known : operator ∈ Operator.unary) (translated : operator ∉ Operator.untranslatedUnary)
      (isClean : IsCleanExpression argument)
    : IsCleanExpression (.unary operator argument leading location)
  | update {operator : Text} {argument : Node} {leading : Bool} {location : Option Location}
      (known : operator ∈ Cpp.Tree.updateOperators) (isClean : IsCleanExpression argument)
    : IsCleanExpression (.update operator argument leading location)
  | assignment {operator : Text} {left right : Node} {location : Option Location}
      (known : operator ∈ Operator.assigning)
      (translated : operator ∉ Operator.untranslatedAssignment)
      (isClean : IsCleanExpression left) (isClean' : IsCleanExpression right)
    : IsCleanExpression (.assignment operator left right location)
  | index {object property : Node} {location : Option Location}
      (isClean : IsCleanExpression object) (isClean' : IsCleanExpression property)
    : IsCleanExpression (.member object property true location)
  | access {object : Node} {name : Text} {place location : Option Location}
      (isClean : IsCleanExpression object) (isWord : Cpp.IsWord name)
    : IsCleanExpression (.member object (.identifier name place) false location)
  | ordinary {callee : Node} {arguments : List Node} {location : Option Location}
      (apart : callee.selected? = none) (isClean : IsCleanExpression callee)
      (isClean' : ∀ argument ∈ arguments, IsCleanExpression argument)
    : IsCleanExpression (.call callee arguments location)
  | selected {callee object : Node} {method : Method} {arguments : List Node}
      {location : Option Location} (selects : callee.selected? = some (method, object))
      (fits : method.isFaultyCall arguments = false) (isClean : IsCleanExpression object)
      (isClean' : ¬ (method = .pop ∨ method = .shift ∨ method = .reverse)
        → ∀ argument ∈ arguments, IsCleanExpression argument)
    : IsCleanExpression (.call callee arguments location)

/-- An expression is clean if emission reports no error, by induction over the size of the
expression: the object of a container call stands two levels below the call. -/
theorem IsLexical.isClean {style : Style} {depth : Nat} {node : Node} (h : node.IsLexical)
    (clean : anyFatal (notes style depth node) = false)
    : node.IsCleanExpression := by
  have faultless := not_isFaulty clean
  have part : ∀ part ∈ node.parts, part.IsWritten → part.enclosed = false
      → part.node.IsLexical → part.node.IsCleanExpression := by
    intro part hm written open' he
    have hlt := sizeOf_part hm
    have hpart := not_anyFatal_part clean hm written
    rw [open'] at hpart
    exact he.isClean hpart
  have whole : ∀ inner, { node := inner } ∈ node.parts → inner.IsLexical
      → inner.IsCleanExpression := fun inner hm => part { node := inner } hm Nat.one_ne_zero rfl
  cases h with
  | identifier isWord => exact .identifier isWord
  | literal =>
      refine .literal fun number he => ?_
      subst he
      simpa only [isFaulty, Bool.not_eq_false'] using faultless
  | array isLexical =>
      exact .array faultless fun element hm =>
        whole element (List.mem_map_of_mem hm) (isLexical element hm)
  | @binary operator left right location known hl hr =>
      exact .binary known (of_decide_eq_false faultless) (whole left List.mem_cons_self hl)
        (whole right (List.mem_cons_of_mem _ List.mem_cons_self) hr)
  | @logical operator left right location known hl hr =>
      exact .logical known (of_decide_eq_false faultless) (whole left List.mem_cons_self hl)
        (whole right (List.mem_cons_of_mem _ List.mem_cons_self) hr)
  | @unary operator argument leading location known ha =>
      exact .unary known (of_decide_eq_false faultless) (whole argument List.mem_cons_self ha)
  | @update operator argument leading location known ha =>
      exact .update known (whole argument List.mem_cons_self ha)
  | @assignment operator left right location known hl hr =>
      exact .assignment known (of_decide_eq_false faultless) (whole left List.mem_cons_self hl)
        (whole right (List.mem_cons_of_mem _ List.mem_cons_self) hr)
  | @member object property computed location ho hp =>
      cases computed with
      | true =>
          exact .index (whole object List.mem_cons_self ho)
            (whole property (List.mem_cons_of_mem _ List.mem_cons_self) hp)
      | false =>
          have hobject := part _ List.mem_cons_self property.accessCopies_ne_zero rfl ho
          cases hp with
          | identifier isWord => exact .access hobject isWord
          -- Without brackets, emission refuses any property but a name.
          | _ => cases faultless
  | @call callee arguments location hc ha =>
      cases hs : callee.selected? with
      | none =>
          have hparts : (Node.call callee arguments location).parts
              = { node := callee } :: arguments.map fun node => { node } := by
            simp only [parts, hs]
          rw [hparts] at whole
          exact .ordinary hs (whole callee List.mem_cons_self hc) fun argument hm =>
            whole argument (List.mem_cons_of_mem _ (List.mem_map_of_mem hm)) (ha argument hm)
      | some selection =>
          obtain ⟨method, object⟩ := selection
          have hparts : (Node.call callee arguments location).parts
              = { node := object, copies := method.objectCopies }
                :: method.argumentParts arguments := by
            simp only [parts, hs]
          have hfits : method.isFaultyCall arguments = false := by
            simpa only [isFaulty, hs] using faultless
          rw [hparts] at part
          have hobject : object.IsLexical := by
            obtain ⟨name, place, location', rfl, _⟩ := selected?_eq_some hs
            cases hc with
            | member ho _ => exact ho
          refine .selected hs hfits ?_ fun hmany argument hm => ?_
          · exact part _ List.mem_cons_self method.objectCopies_ne_zero rfl hobject
          · obtain ⟨inner, hi, rfl, written, open'⟩ := method.exists_argumentPart hmany hm
            exact part inner (List.mem_cons_of_mem _ hi) written open' (ha _ hm)
  | unsupported => cases faultless
termination_by sizeOf node

-----------------------------------------------------------------------------------------
-- Statements without an error
-----------------------------------------------------------------------------------------

inductive IsCleanDeclarator : Node → Prop where
  | declarator {target : Node} {initial : Option Node} {location : Option Location}
      (isClean : target.IsCleanExpression) (isClean' : ∀ value ∈ initial, value.IsCleanExpression)
    : IsCleanDeclarator (.declarator target initial location)

inductive IsCleanDeclaration : Node → Prop where
  | declaration {first : Node} {rest : List Node} {keyword : Text} {location : Option Location}
      (isClean : ∀ node ∈ first :: rest, node.IsCleanDeclarator)
    : IsCleanDeclaration (.declaration (first :: rest) keyword location)

inductive IsCleanParameter : Node → Prop where
  | parameter {name : Text} {location : Option Location} (isWord : Cpp.IsWord name)
    : IsCleanParameter (.parameter name location)

/-- A statement at a depth, all of which has a translation there. A function has one outside of all
braces only, and a conditional behind `else` stands at the depth of the conditional in front. -/
inductive IsCleanStatement : Nat → Node → Prop where
  | expressionStatement {depth : Nat} {expression : Node} {location : Option Location}
      (isClean : expression.IsCleanExpression)
    : IsCleanStatement depth (.expressionStatement expression location)
  | declaration {depth : Nat} {node : Node} (isClean : node.IsCleanDeclaration)
    : IsCleanStatement depth node
  | block {depth : Nat} {body : List Node} {location : Option Location}
      (isClean : ∀ node ∈ body, IsCleanStatement (depth + 1) node)
    : IsCleanStatement depth (.block body location)
  | ifElse {depth : Nat} {test consequent : Node} {alternate : Option Node}
      {location : Option Location} (isClean : test.IsCleanExpression)
      (isClean' : ∀ inner ∈ consequent.inner, IsCleanStatement (depth + 1) inner)
      (chains : ∀ node ∈ alternate, node.isIfElse = true → IsCleanStatement depth node)
      (closes : ∀ node ∈ alternate, node.isIfElse = false
        → ∀ inner ∈ node.inner, IsCleanStatement (depth + 1) inner)
    : IsCleanStatement depth (.ifElse test consequent alternate location)
  | whileLoop {depth : Nat} {test body : Node} {location : Option Location}
      (isClean : test.IsCleanExpression)
      (isClean' : ∀ inner ∈ body.inner, IsCleanStatement (depth + 1) inner)
    : IsCleanStatement depth (.whileLoop test body location)
  | forLoop {depth : Nat} {initial test advance : Option Node} {body : Node}
      {location : Option Location}
      (opens : ∀ node ∈ initial, node.IsCleanDeclaration ∨ node.IsCleanExpression)
      (tests : ∀ node ∈ test, node.IsCleanExpression)
      (advances : ∀ node ∈ advance, node.IsCleanExpression)
      (isClean : ∀ inner ∈ body.inner, IsCleanStatement (depth + 1) inner)
    : IsCleanStatement depth (.forLoop initial test advance body location)
  | function {name : Text} {place : Option Location} {parameters : List Node} {body : Node}
      {location : Option Location} (isWord : Cpp.IsWord name)
      (isClean : ∀ node ∈ parameters, node.IsCleanParameter)
      (isClean' : ∀ inner ∈ body.inner, IsCleanStatement 1 inner)
    : IsCleanStatement 0 (.function (.identifier name place) parameters body location)
  | returning {depth : Nat} {argument : Option Node} {location : Option Location}
      (isClean : ∀ node ∈ argument, node.IsCleanExpression)
    : IsCleanStatement depth (.returning argument location)

/-- A declarator without a fatal note is clean. -/
theorem IsDeclarator.isClean {style : Style} {depth : Nat} {node : Node} (h : node.IsDeclarator)
    (clean : anyFatal (notes style depth node) = false)
    : node.IsCleanDeclarator := by
  cases h with
  | @declarator target initial location isLexical isLexical' =>
      refine .declarator ?_ fun value hm => ?_
      · exact isLexical.isClean
          (not_anyFatal_part clean List.mem_cons_self Nat.one_ne_zero)
      · exact (isLexical' value hm).isClean (not_anyFatal_part clean
          (List.mem_cons_of_mem _ (List.mem_map_of_mem (Option.mem_toList.mpr hm)))
          Nat.one_ne_zero)
  | unsupported => exact absurd (not_isFaulty clean) nofun

/-- A declaration without a fatal note is clean. -/
theorem IsDeclaration.isClean {style : Style} {depth : Nat} {node : Node} (h : node.IsDeclaration)
    (clean : anyFatal (notes style depth node) = false)
    : node.IsCleanDeclaration := by
  cases h with
  | declaration isDeclarator =>
      exact .declaration fun node hm => (isDeclarator node hm).isClean
        (not_anyFatal_part clean (List.mem_map_of_mem hm) Nat.one_ne_zero)

/-- A parameter without a fatal note is clean. -/
theorem IsParameter.isClean {style : Style} {depth : Nat} {node : Node} (h : node.IsParameter)
    (clean : anyFatal (notes style depth node) = false)
    : node.IsCleanParameter := by
  cases h with
  | parameter isWord => exact .parameter isWord
  | unsupported => exact absurd (not_isFaulty clean) nofun

/-- A statement is clean if emission reports no error, by induction over the size of the statement:
the statements of a body stand two levels below the statement. -/
theorem IsStatement.isClean {style : Style} {depth : Nat} {node : Node} (h : node.IsStatement)
    (clean : anyFatal (notes style depth node) = false)
    : node.IsCleanStatement depth := by
  have faultless := not_isFaulty clean
  have expression : ∀ inner : Node, { node := inner } ∈ node.parts → inner.IsLexical
      → inner.IsCleanExpression := fun inner hm hi =>
    hi.isClean (not_anyFatal_part clean hm Nat.one_ne_zero)
  have enclosed : ∀ nodes : List Node, (∀ inner ∈ nodes, inner.IsStatement)
      → (∀ inner ∈ nodes, { node := inner, enclosed := true } ∈ node.parts)
      → ∀ inner ∈ nodes, inner.IsCleanStatement (depth + 1) := by
    intro nodes hn hparts inner hm
    have hlt := sizeOf_part (hparts inner hm)
    exact (hn inner hm).isClean
      (not_anyFatal_part clean (hparts inner hm) Nat.one_ne_zero)
  cases h with
  | @expressionStatement inner location isLexical =>
      exact .expressionStatement (expression inner List.mem_cons_self isLexical)
  | declaration isDeclaration => exact .declaration (isDeclaration.isClean clean)
  | @block body location isStatement =>
      exact .block (enclosed body isStatement fun _ hm => List.mem_map_of_mem hm)
  | @ifElse test consequent alternate location isLexical isStatement isStatement' =>
      have hparts : ∀ node ∈ alternate, ∀ part ∈ node.alternateParts,
          part ∈ (Node.ifElse test consequent alternate location).parts := fun node hn part hp =>
        List.mem_cons_of_mem _ (List.mem_append_right _
          (List.mem_flatMap.mpr ⟨node, Option.mem_toList.mpr hn, hp⟩))
      refine .ifElse (expression test List.mem_cons_self isLexical) ?_ ?_ ?_
      · exact enclosed _ isStatement.inner fun _ hm =>
          List.mem_cons_of_mem _ (List.mem_append_left _ (List.mem_map_of_mem hm))
      · intro node hn hi
        have hpart : { node } ∈ node.alternateParts := by
          rw [alternateParts, if_pos hi]
          exact List.mem_cons_self
        have hlt := sizeOf_part (hparts node hn _ hpart)
        exact (isStatement' node hn).isClean
          (not_anyFatal_part clean (hparts node hn _ hpart) Nat.one_ne_zero)
      · intro node hn hi
        refine enclosed _ (isStatement' node hn).inner fun inner hm => hparts node hn _ ?_
        rw [alternateParts, if_neg (Bool.eq_false_iff.mp hi)]
        exact List.mem_map_of_mem hm
  | @whileLoop test body location isLexical isStatement =>
      refine .whileLoop (expression test List.mem_cons_self isLexical) ?_
      exact enclosed _ isStatement.inner fun _ hm =>
        List.mem_cons_of_mem _ (List.mem_map_of_mem hm)
  | @forLoop initial test advance body location isInitial isLexical isLexical' isStatement =>
      have hheader : ∀ inner ∈ initial.toList ++ test.toList ++ advance.toList,
          { node := inner } ∈ (Node.forLoop initial test advance body location).parts := fun _ hm =>
        List.mem_append_left _ (List.mem_map_of_mem hm)
      simp only [List.mem_append, Option.mem_toList] at hheader
      refine .forLoop (fun node hm => ?_) (fun node hm => ?_) (fun node hm => ?_) ?_
      · have hnode := not_anyFatal_part clean (hheader node (.inl (.inl hm))) Nat.one_ne_zero
        exact (isInitial node hm).imp (·.isClean hnode) (·.isClean hnode)
      · exact expression node (hheader node (.inl (.inr hm))) (isLexical node hm)
      · exact expression node (hheader node (.inr hm)) (isLexical' node hm)
      · exact enclosed _ isStatement.inner fun _ hm =>
          List.mem_append_right _ (List.mem_map_of_mem hm)
  | @function name place parameters body location isWord isParameter isStatement =>
      obtain rfl : depth = 0 := Nat.eq_zero_of_not_pos (of_decide_eq_false faultless)
      refine .function isWord (fun node hm => ?_) ?_
      · exact (isParameter node hm).isClean (not_anyFatal_part clean
          (List.mem_append_left _ (List.mem_map_of_mem (List.mem_append_left _ hm)))
          Nat.one_ne_zero)
      · exact enclosed _ isStatement.inner fun _ hm =>
          List.mem_append_right _ (List.mem_map_of_mem hm)
  | @returning argument location isLexical =>
      exact .returning fun value hm =>
        expression value (List.mem_map_of_mem (Option.mem_toList.mpr hm)) (isLexical value hm)
  | unsupported => exact absurd faultless nofun
termination_by sizeOf node

end Node

end DeviceScript
