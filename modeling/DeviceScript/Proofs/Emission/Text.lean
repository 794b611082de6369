import DeviceScript.Proofs.Emission.Layout

/-! The text of a node as a function of the node and of the depth at which it stands. Nothing else
that emission has left behind has any influence on it.
-/

namespace DeviceScript.Fragment

open Cpp (Tree)

/-- The text of an argument of a call or of an element of an array. -/
def listed (node : Node) (text : Text) : Text := node.asOperand Operator.argument false text

/-- The text of a position or a number of elements. -/
def summand (node : Node) (text : Text) : Text := node.asOperand Operator.additive true text

def literalText : Literal → Text
  | .real number => if number.isFinite then real number else []
  | value => ofLiteral value

/-- The text of a binary or logical operation. -/
def operationText (operator left right : Text) : Text :=
  if operator ∈ Operator.untranslatedBinary then []
  else left ++ " " ++ Operator.spelling operator ++ " " ++ right

/-- The properties of containers, and what access to each of them is written as. -/
theorem property?_eq_some {object name access : Text} (h : property? object name = some access)
    : (name = "length" ∧ access = object ++ ".size()")
      ∨ (name = "push" ∧ access = object ++ ".push_back")
      ∨ (name = "pop" ∧ access = popped object) ∨ (name = "shift" ∧ access = shifted object)
      ∨ (name = "splice" ∧ access = object ++ ".erase")
      ∨ (name = "reverse" ∧ access = reversed object) := by
  unfold property? at h
  repeat' split at h
  all_goals grind

/-- The text of a property that is not in brackets. -/
def propertyText (shims : ShimTable) (node property : Node) (object : Text) : Text :=
  match property with
  | .identifier name _ =>
    match property? object name with
    | some access => access
    | none =>
      if isDeferred name then object
      else (replacement? shims node.dottedName?).getD (ShimTable.scopedName object name)
  | _ => []

/-- The text of a call of a method of a container. -/
def methodText (method : Method) (object : Text) (arguments : List (Node × Text)) : Text :=
  match method, arguments with
  | .push, [argument] => object ++ ".push_back(" ++ listed argument.1 argument.2 ++ ")"
  | .pop, _ => popped object
  | .shift, _ => shifted object
  | .reverse, _ => reversed object
  | .splice, [start] => spliced object (summand start.1 start.2) "1"
  | .splice, [start, count] =>
    spliced object (summand start.1 start.2) (summand count.1 count.2)
  | _, _ => []

variable (style : Style) (depth : Nat)

/-- The text of a node at a depth of nesting. -/
def text (node : Node) : Text := (layout style depth node).print style.indent

/-- The text of a node in the first slot of a loop header. -/
def headerText (node : Node) : Text := (headerLayout style depth node).print style.indent

/-- The text of a declarator that goes on without a type of its own. -/
def continuedText (node : Node) : Text := (continuedLayout style depth node).print style.indent

/-- The texts of some nodes are the spellings of their trees. -/
@[simp]
theorem map_print_layout (nodes : List Node)
    : (nodes.map (layout style depth)).map (Tree.print style.indent)
      = nodes.map (text style depth) :=
  List.map_map

-----------------------------------------------------------------------------------------
-- Trees are spelled in the way that texts are put together
-----------------------------------------------------------------------------------------

section Trees

variable (indent : Text)

/-- The tree of a literal is spelled like the literal. -/
theorem print_literalTree (value : Literal)
    : (literalTree value).print indent = literalText value := by
  cases value with
  | real number =>
      simp only [literalTree, literalText]
      split
      · rw [Tree.print]
      · exact Tree.print_absent indent
  | _ => simp only [literalTree, literalText, ofLiteral, Tree.print]

/-- The tree of an operation is spelled like the operation. -/
theorem print_operationTree (operator : Text) (left right : Tree)
    : (operationTree operator left right).print indent
      = operationText operator (left.print indent) (right.print indent) := by
  unfold operationTree operationText
  split
  · exact Tree.print_absent indent
  · rw [Tree.print]

/-- The tree of an operation with one operand is spelled like it. -/
theorem print_unaryTree (operator : Text) (argument : Tree)
    : (unaryTree indent operator argument).print indent
      = unary operator (argument.print indent) := by
  rw [unaryTree, Tree.print, unary]
  split
  · rw [Tree.print]
  · rfl

/-- The tree of a property is spelled like the property. -/
theorem print_propertyTree (shims : ShimTable) (node property : Node) (object : Tree)
    : (propertyTree shims node property object).print indent
      = propertyText shims node property (object.print indent) := by
  cases property with
  | identifier name location =>
      have haccess := object.print_property? indent name
      simp only [propertyTree, propertyText]
      rw [← haccess]
      cases object.property? name with
      | some access => rfl
      | none =>
          simp only [Option.map_none]
          split
          · rfl
          · cases replacement? shims node.dottedName? with
            | some target => exact Tree.print_qualified indent target
            | none =>
                simp only [Option.map_none, Option.getD_none, Tree.print, ShimTable.scopedName]
  | _ => exact Tree.print_absent indent

/-- The call of a method is spelled with its arguments as they are placed in it. -/
theorem print_method (method : Method) (object : Tree) (nodes : List Node) (f : Node → Tree)
    : (Tree.method method object (nodes.map fun node => method.placed node (f node))).print indent
      = methodText method (object.print indent)
          (nodes.map fun node => (node, (f node).print indent)) := by
  cases method with
  | push =>
      rcases nodes with _ | ⟨node, _ | ⟨_, _⟩⟩
      · exact Tree.print_absent indent
      · simp only [List.map_cons, List.map_nil, Tree.method, methodText, Tree.print, Text.join,
          Method.placed, Node.print_placed, listed, List.append_assoc]
        rfl
      · exact Tree.print_absent indent
  | pop => exact Tree.print_popped indent object
  | shift => exact Tree.print_shifted indent object
  | reverse => exact Tree.print_reversed indent object
  | splice =>
      rcases nodes with _ | ⟨start, _ | ⟨count, _ | ⟨_, _⟩⟩⟩
      · exact Tree.print_absent indent
      · simp only [List.map_cons, List.map_nil, Tree.method, methodText, Method.placed,
          Tree.print_spliced, Node.print_placed, summand, Tree.print]
      · simp only [List.map_cons, List.map_nil, Tree.method, methodText, Method.placed,
          Tree.print_spliced, Node.print_placed, summand]
      · exact Tree.print_absent indent

end Trees

-----------------------------------------------------------------------------------------
-- The text of each kind of node, from the texts of its parts
-----------------------------------------------------------------------------------------

/-- A fragment that is not empty is all that is present. -/
theorem present_single {fragment : Text} (h : fragment ≠ []) : present [fragment] = [fragment] :=
  List.filter_cons_of_pos (decide_eq_true h)

/-- The statements of a program stand one below the other. -/
theorem text_program (body : List Node) (location : Option Location)
    : text style depth (.program body location)
      = Text.unlines (present (body.map (text style depth))) := by
  simp only [text, layout, Tree.print, map_print_layout]

/-- A statement that is an expression has a semicolon behind it. -/
theorem text_expressionStatement (expression : Node) (location : Option Location)
    : text style depth (.expressionStatement expression location)
      = terminated (text style depth expression) := by
  simp only [text, layout, Tree.print]

/-- A name is written as it is. -/
theorem text_identifier (name : Text) (location : Option Location)
    : text style depth (.identifier name location) = name := by
  simp only [text, layout, Tree.print]

/-- A literal is written by its value. -/
theorem text_literal (value : Literal) (raw : Option Text) (location : Option Location)
    : text style depth (.literal value raw location) = literalText value := by
  simp only [text, layout, print_literalTree]

/-- The elements of an array stand between braces; with holes there is no text. -/
theorem text_array (elements : List (Option Node)) (location : Option Location)
    : text style depth (.array elements location)
      = if elements.any Option.isNone then []
        else if elements = [] then "\x7b\x7d"
        else
          let texts := (elements.filterMap id).map fun node => listed node (text style depth node)
          ("\x7b " ++ Text.join ", " texts ++ " \x7d" : Text) := by
  rw [text, layout_array]
  split
  · exact Tree.print_absent _
  · rename_i h
    have hempty : (elements.filterMap id = []) = (elements = []) := by
      rw [Bool.not_eq_true, List.any_eq_false] at h
      rw [List.filterMap_eq_nil_iff]
      refine propext ⟨fun hnone => ?_, fun he => he ▸ nofun⟩
      refine List.eq_nil_iff_forall_not_mem.mpr fun element hm => ?_
      exact h element hm (Option.isNone_iff_eq_none.mpr (hnone element hm))
    rw [Tree.print]
    simp only [List.map_eq_nil_iff, hempty, List.map_map, Function.comp_def, Node.print_placed]
    rfl

/-- An operation stands between its operands. -/
theorem text_binary (operator : Text) (left right : Node) (location : Option Location)
    : text style depth (.binary operator left right location)
      = operationText operator
          (left.asOperand (Operator.strength operator) false (text style depth left))
          (right.asOperand (Operator.strength operator) true (text style depth right)) := by
  simp only [text, layout, print_operationTree, Node.print_placed]

/-- A logical operation is written like any other. -/
theorem text_logical (operator : Text) (left right : Node) (location : Option Location)
    : text style depth (.logical operator left right location)
      = operationText operator
          (left.asOperand (Operator.strength operator) false (text style depth left))
          (right.asOperand (Operator.strength operator) true (text style depth right)) := by
  simp only [text, layout, print_operationTree, Node.print_placed]

/-- An operation stands in front of its operand, unless it has no translation. -/
theorem text_unary (operator : Text) (argument : Node) (leading : Bool)
    (location : Option Location)
    : text style depth (.unary operator argument leading location)
      = if operator ∈ Operator.untranslatedUnary then []
        else
          unary operator (argument.asOperand Operator.leading false (text style depth argument)) := by
  simp only [text, layout]
  split
  · exact Tree.print_absent _
  · rw [print_unaryTree, Node.print_placed]

/-- An update is written in front of its operand or behind it. -/
theorem text_update (operator : Text) (argument : Node) (leading : Bool)
    (location : Option Location)
    : text style depth (.update operator argument leading location)
      = let argumentText :=
          argument.asOperand Operator.trailing false (text style depth argument)
        if leading then operator ++ argumentText else argumentText ++ operator := by
  simp only [text, layout, Tree.print, Node.print_placed]

/-- An assignment is written with its value behind it, unless it has no translation. -/
theorem text_assignment (operator : Text) (left right : Node) (location : Option Location)
    : text style depth (.assignment operator left right location)
      = if operator ∈ Operator.untranslatedAssignment then []
        else
          (text style depth left ++ " " ++ operator ++ " "
            ++ right.asOperand Operator.assignment false (text style depth right) : Text) := by
  simp only [text, layout]
  split
  · exact Tree.print_absent _
  · rw [Tree.print, Node.print_placed]

/-- A member is an element at a position, or a property. -/
theorem text_member (object property : Node) (computed : Bool) (location : Option Location)
    : text style depth (.member object property computed location)
      = let objectText := object.asOperand Operator.primary false (text style depth object)
        if computed then objectText ++ "[" ++ text style depth property ++ "]"
        else
          propertyText style.shims (.member object property computed location) property
            objectText := by
  simp only [text, layout]
  split
  · rw [Tree.print, Node.print_placed]
  · rw [print_propertyTree, Node.print_placed]

/-- A call of a method of a container is written by the template of the method. -/
theorem text_selected {callee object : Node} {method : Method} (arguments : List Node)
    (location : Option Location) (h : callee.selected? = some (method, object))
    : text style depth (.call callee arguments location)
      = methodText method (object.asOperand Operator.primary false (text style depth object))
          (arguments.map fun node => (node, text style depth node)) := by
  rw [text, layout_selected _ _ _ _ h, print_method, Node.print_placed]
  rfl

/-- An ordinary call has its arguments behind the name that is called. -/
theorem text_ordinary {callee : Node} (arguments : List Node) (location : Option Location)
    (h : callee.selected? = none)
    : text style depth (.call callee arguments location)
      = (replacement? style.shims callee.dottedName?).getD
            (callee.asOperand Operator.primary false (text style depth callee))
          ++ "("
          ++ Text.join ", " (arguments.map fun node => listed node (text style depth node))
          ++ ")" := by
  rw [text, layout_ordinary _ _ _ _ h, Tree.print]
  simp only [List.map_map, Function.comp_def, Node.print_placed]
  cases replacement? style.shims callee.dottedName? with
  | some target =>
      simp only [Option.map_some, Option.getD_some, Tree.print_qualified]
      rfl
  | none =>
      simp only [Option.map_none, Option.getD_none, Node.print_placed]
      rfl

/-- Declarators stand side by side, each of them with a semicolon. -/
theorem text_declaration (declarations : List Node) (keyword : Text)
    (location : Option Location)
    : text style depth (.declaration declarations keyword location)
      = Text.join " " ((present (declarations.map (text style depth))).map terminated) := by
  simp only [text, layout, Tree.print, map_print_layout]

/-- A declarator has its type in front of its name. -/
theorem text_declarator (target : Node) (initial : Option Node) (location : Option Location)
    : text style depth (.declarator target initial location)
      = declaredType initial ++ " " ++ text style depth target
          ++ (initial.elim [] fun value => " = " ++ text style depth value : Text) := by
  rw [text, layout_declarator, Tree.print_declarator]
  cases initial <;> rfl

/-- A declarator behind the first one has no type. -/
theorem continuedText_declarator (target : Node) (initial : Option Node)
    (location : Option Location)
    : continuedText style depth (.declarator target initial location)
      = text style depth target
          ++ (initial.elim [] fun value => " = " ++ text style depth value : Text) := by
  rw [continuedText, continuedLayout_declarator, Tree.print_declarator]
  cases initial <;> rfl

/-- A parameter has the type that is inferred. -/
theorem text_parameter (name : Text) (location : Option Location)
    : text style depth (.parameter name location) = "auto " ++ name := by
  simp only [text, layout, Tree.print]

/-- A block is written in braces, with its statements one block deeper. -/
theorem text_block (body : List Node) (location : Option Location)
    : text style depth (.block body location)
      = enclosed style.indent (present (body.map (text style (depth + 1)))) := by
  simp only [text, layout, Tree.print, map_print_layout]

/-- A return is written with its value or without. -/
theorem text_returning (argument : Option Node) (location : Option Location)
    : text style depth (.returning argument location)
      = (argument.elim "return;" fun value => "return " ++ text style depth value ++ ";" : Text) := by
  rw [text, layout_returning, Tree.print_returning]
  cases argument <;> rfl

/-- The text of the alternative of a conditional, with what stands in front of it. -/
def alternateText (node : Node) : Text :=
  if node.isIfElse then " else " ++ text style depth node
  else
    " " ++ compound style.indent "else" (present (node.inner.map (text style (depth + 1))))

/-- The layout of the second branch is spelled like the branch. -/
theorem print_alternateLayout (opening : Tree) (node : Node)
    : (alternateLayout style depth opening node).print style.indent
      = opening.print style.indent ++ alternateText style depth node := by
  unfold alternateLayout alternateText
  split
  · rw [Tree.print, List.append_assoc]
    rfl
  · rw [Tree.print, map_print_layout, List.append_assoc]

/-- A conditional statement is written with its branches in braces. -/
theorem text_ifElse (test consequent : Node) (alternate : Option Node)
    (location : Option Location)
    : text style depth (.ifElse test consequent alternate location)
      = compound style.indent ("if (" ++ text style depth test ++ ")")
            (present (consequent.inner.map (text style (depth + 1))))
          ++ alternate.elim [] (alternateText style depth) := by
  have hopening : (Tree.conditional (layout style depth test)
        (consequent.inner.map (layout style (depth + 1)))).print style.indent
      = compound style.indent ("if (" ++ text style depth test ++ ")")
          (present (consequent.inner.map (text style (depth + 1)))) := by
    rw [Tree.print, map_print_layout]
    rfl
  rw [text, layout_ifElse]
  cases alternate with
  | none => exact hopening.trans (List.append_nil _).symm
  | some node =>
      simp only [Option.elim, print_alternateLayout, hopening]

/-- A loop is written with its body in braces. -/
theorem text_whileLoop (test body : Node) (location : Option Location)
    : text style depth (.whileLoop test body location)
      = compound style.indent ("while (" ++ text style depth test ++ ")")
          (present (body.inner.map (text style (depth + 1)))) := by
  rw [text, layout_whileLoop, Tree.print, map_print_layout]
  rfl

/-- A loop with a header is written with its body in braces, and with semicolons in the header. -/
theorem text_forLoop (initial test advance : Option Node) (body : Node)
    (location : Option Location)
    : text style depth (.forLoop initial test advance body location)
      = compound style.indent
          ("for (" ++ initial.elim [] (headerText style depth) ++ "; "
            ++ test.elim [] (text style depth) ++ "; " ++ advance.elim [] (text style depth) ++ ")")
          (present (body.inner.map (text style (depth + 1)))) := by
  rw [text, layout_forLoop, Tree.print_forLoop, map_print_layout]
  cases initial <;> cases test <;> cases advance <;> rfl

/-- A function is written outside of blocks only, with its body in braces. -/
theorem text_function (name : Node) (parameters : List Node) (body : Node)
    (location : Option Location)
    : text style depth (.function name parameters body location)
      = if depth > 0 then []
        else
          compound style.indent
            ("void " ++ text style depth name ++ "("
              ++ Text.join ", " (parameters.map (text style depth)) ++ ")")
            (present (body.inner.map (text style (depth + 1)))) := by
  rw [text, layout_function]
  split
  · exact Tree.print_absent _
  · rw [Tree.print, map_print_layout, map_print_layout]
    rfl

/-- Declarators in a loop header have commas between them. -/
theorem headerText_declaration (first : Node) (rest : List Node) (keyword : Text)
    (location : Option Location)
    : headerText style depth (.declaration (first :: rest) keyword location)
      = Text.join ", "
          (present (text style depth first :: rest.map (continuedText style depth))) := by
  simp only [headerText, headerLayout, Tree.print, List.map_cons, List.map_map]
  rfl

end DeviceScript.Fragment
