import DeviceScript.Proofs.Emission.Text

/-! The notes on a node as a function of the node and of the depth at which it stands: the reports
and the replaced names, in the order in which emission comes to them.
-/

namespace DeviceScript

/-- What emission leaves behind beside a text. -/
inductive Note where
  | report (finding : Finding) (node : Node)
  | replacement (source target : Text)

namespace Fragment

/-- The note on an operation that C++ may not have, or those on its operands. -/
def operationNotes (node : Node) (operator : Text) (untranslated : List Text)
    (operands : List Note) : List Note :=
  if operator ∈ untranslated then [.report (.operator operator) node] else operands

def literalNotes (value : Literal) (raw : Option Text) (location : Option Location) : List Note :=
  match value with
  | .real number =>
    if number.isFinite then []
    else [.report (.notFinite (value.citedAs raw)) (.literal value raw location)]
  | _ => []

/-- The notes on an element whose type is not the one of the first element. -/
def disagreementNotes (name : Text) (type : ElementType) (element : Node) : List Note :=
  match element with
  | .literal value raw _ =>
    [.report (.heterogeneousElement (value.citedAs raw) name type) element]
  | _ => []

/-- The notes on the elements of an array that initialises a name. -/
def elementNotes (array : Node) (elements : List (Option Node)) (name : Text) : List Note :=
  let type := ElementType.infer elements
  (if type = .unspecified then [.report (.untypedArray name) array] else [])
    ++ (type.heterogeneous elements).flatMap fun element =>
      disagreementNotes name type element.1

/-- The notes on the initial value of a name, the value itself apart. -/
def initialNotes (name : Text) : Node → List Note
  | .array elements location => elementNotes (.array elements location) elements name
  | _ => []

/-- The notes on the joined parts of a declaration in a loop header. -/
def sharedNotes (declaration : Node) (count : Nat) (parts : List Text) : List Note :=
  let first := parts.headD []
  if count > 1 ∧ first ≠ [] ∧ ¬ first.startsWith "auto " then
    [.report (.sharedType (Text.before " =" first)) declaration]
  else []

/-- The notes on a dotted name. -/
def nameNotes (shims : ShimTable) (name : Option Text) : List Note :=
  match name with
  | none => []
  | some source =>
    match shims.lookup? source with
    | none => []
    | some target => [.replacement source target]

/-- The notes on a property that is not in brackets. -/
def propertyNotes (shims : ShimTable) (node property : Node) : List Note :=
  match property with
  | .identifier name _ =>
    if (property? [] name).isSome then []
    else if isDeferred name then [.report (.deferredProperty name) node]
    else nameNotes shims node.dottedName?
  | _ => [.report .propertyNotIdentifier node]

/-- The notes on a call of a method of a container, from those on each argument. -/
def methodNotes (method : Method) (node : Node) (arguments : List (List Note)) : List Note :=
  match method, arguments with
  | .push, [argument] => argument
  | .push, arguments => [.report (.pushArguments arguments.length) node]
  | .splice, [] => [.report .spliceWithoutStart node]
  | .splice, [start] => start
  | .splice, [start, count] => start ++ count
  | .splice, _ => [.report .spliceInsertion node]
  | _, _ => []

mutual

/-- The notes on a node at a depth of nesting. -/
def notes (style : Style) (depth : Nat) : Node → List Note
  | .program body _ => body.flatMap (notes style depth)
  | .expressionStatement expression _ => notes style depth expression
  | .identifier _ _ => []
  | .literal value raw location => literalNotes value raw location
  | .array elements location =>
    if elements.any Option.isNone then [.report .arrayHole (.array elements location)]
    else (elements.filterMap id).attach.flatMap fun node => notes style depth node.1
  | .binary operator left right location =>
    operationNotes (.binary operator left right location) operator Operator.untranslatedBinary
      (notes style depth left ++ notes style depth right)
  | .logical operator left right location =>
    operationNotes (.logical operator left right location) operator Operator.untranslatedBinary
      (notes style depth left ++ notes style depth right)
  | .unary operator argument leading location =>
    operationNotes (.unary operator argument leading location) operator
      Operator.untranslatedUnary (notes style depth argument)
  | .update _ argument _ _ => notes style depth argument
  | .assignment operator left right location =>
    operationNotes (.assignment operator left right location) operator
      Operator.untranslatedAssignment (notes style depth left ++ notes style depth right)
  | .member object property computed location =>
    notes style depth object ++
      if computed then notes style depth property
      else propertyNotes style.shims (.member object property computed location) property
  | .call callee arguments location =>
    match _selected : callee.selected? with
    | some (method, object) =>
      notes style depth object
        ++ methodNotes method (.call callee arguments location)
          (arguments.map (notes style depth))
    | none =>
      arguments.flatMap (notes style depth) ++ nameNotes style.shims callee.dottedName?
        ++ if (replacement? style.shims callee.dottedName?).isSome then []
          else notes style depth callee
  | .declaration declarations _ _ => declarations.flatMap (notes style depth)
  | .declarator target initial _ =>
    notes style depth target ++
      match initial with
      | none => []
      | some value => initialNotes (text style depth target) value ++ notes style depth value
  | .block body _ => body.flatMap (notes style (depth + 1))
  | .ifElse test consequent alternate _ =>
    notes style depth test
      ++ (consequent.inner.attach.flatMap fun node => notes style (depth + 1) node.1)
      ++ match alternate with
        | none => []
        | some node =>
          if node.isIfElse then notes style depth node
          else node.inner.attach.flatMap fun node => notes style (depth + 1) node.1
  | .whileLoop test body _ =>
    notes style depth test
      ++ body.inner.attach.flatMap fun node => notes style (depth + 1) node.1
  | .forLoop initial test advance body _ =>
    (match initial with
      | none => []
      | some node => headerNotes style depth node)
      ++ (match test with
        | none => []
        | some node => notes style depth node)
      ++ (match advance with
        | none => []
        | some node => notes style depth node)
      ++ body.inner.attach.flatMap fun node => notes style (depth + 1) node.1
  | .function name parameters body location =>
    if depth > 0 then [.report .nestedFunction (.function name parameters body location)]
    else
      parameters.flatMap (notes style depth) ++ notes style depth name
        ++ body.inner.attach.flatMap fun node => notes style (depth + 1) node.1
  | .parameter _ _ => []
  | .returning argument _ =>
    match argument with
    | none => []
    | some value => notes style depth value
  | .unsupported source detail location =>
    [.report (.construct source detail) (.unsupported source detail location)]
  | .foreign kind location => [.report (.foreignNode kind) (.foreign kind location)]
termination_by node => (sizeOf node, 0)
decreasing_by
  all_goals try decreasing_tactic
  · have hlt := Node.sizeOf_element node.2
    apply Prod.Lex.left
    rw [Node.array.sizeOf_spec]
    omega
  · have hlt := Node.sizeOf_selected? _selected
    apply Prod.Lex.left
    rw [Node.call.sizeOf_spec]
    omega
  all_goals
    have hle := Node.sizeOf_inner_le node.2
    apply Prod.Lex.left
    simp only [Node.ifElse.sizeOf_spec, Node.whileLoop.sizeOf_spec, Node.forLoop.sizeOf_spec,
      Node.function.sizeOf_spec, Option.some.sizeOf_spec]
    omega

/-- The notes on a node in the first slot of a loop header. -/
def headerNotes (style : Style) (depth : Nat) : Node → List Note
  | .declaration [] _ _ => []
  | .declaration (first :: rest) keyword location =>
    notes style depth first ++ rest.flatMap (continuedNotes style depth)
      ++ sharedNotes (.declaration (first :: rest) keyword location) (rest.length + 1)
        (text style depth first :: rest.map (continuedText style depth))
  | node => notes style depth node
termination_by node => (sizeOf node, 1)

/-- The notes on a declarator that goes on without a type of its own. -/
def continuedNotes (style : Style) (depth : Nat) : Node → List Note
  | .declarator target initial _ =>
    notes style depth target
      ++ match initial with
        | none => []
        | some value => notes style depth value
  | node => notes style depth node
termination_by node => (sizeOf node, 1)

end

variable (style : Style) (depth : Nat)

/-- An array with a hole is reported, and its elements are not visited. -/
theorem notes_array (elements : List (Option Node)) (location : Option Location)
    : notes style depth (.array elements location)
      = if elements.any Option.isNone then [.report .arrayHole (.array elements location)]
        else (elements.filterMap id).flatMap (notes style depth) := by
  rw [notes.eq_def]
  simp only [List.flatMap_subtype, List.unattach_attach]

/-- A call of a known method notes its receiver and its arguments. -/
theorem notes_selected {callee object : Node} {method : Method} (arguments : List Node)
    (location : Option Location) (h : callee.selected? = some (method, object))
    : notes style depth (.call callee arguments location)
      = notes style depth object
          ++ methodNotes method (.call callee arguments location)
            (arguments.map (notes style depth)) := by
  rw [notes.eq_def]
  simp only
  split
  · rename_i method' object' h'
    obtain ⟨rfl, rfl⟩ := Prod.mk.inj (Option.some.inj (h.symm.trans h'))
    rfl
  · rename_i h'
    exact absurd (h.symm.trans h') nofun

/-- Any other call notes its arguments first, and its callee only if no shim replaces it. -/
theorem notes_ordinary {callee : Node} (arguments : List Node) (location : Option Location)
    (h : callee.selected? = none)
    : notes style depth (.call callee arguments location)
      = arguments.flatMap (notes style depth) ++ nameNotes style.shims callee.dottedName?
          ++ if (replacement? style.shims callee.dottedName?).isSome then []
            else notes style depth callee := by
  rw [notes.eq_def]
  simp only
  split
  · rename_i h'
    exact absurd (h.symm.trans h') nofun
  · rfl

/-- A declarator notes the type it derives before the value that it is given. -/
theorem notes_declarator (target : Node) (initial : Option Node) (location : Option Location)
    : notes style depth (.declarator target initial location)
      = notes style depth target
          ++ initial.elim [] fun value =>
            initialNotes (text style depth target) value ++ notes style depth value := by
  rw [notes.eq_def]
  cases initial <;> rfl

/-- A declarator behind the first one has no type to derive. -/
theorem continuedNotes_declarator (target : Node) (initial : Option Node)
    (location : Option Location)
    : continuedNotes style depth (.declarator target initial location)
      = notes style depth target ++ initial.elim [] (notes style depth) := by
  rw [continuedNotes.eq_def]
  cases initial <;> rfl

/-- A return has the notes of its value. -/
theorem notes_returning (argument : Option Node) (location : Option Location)
    : notes style depth (.returning argument location)
      = argument.elim [] (notes style depth) := by
  rw [notes.eq_def]
  cases argument <;> rfl

/-- The notes on the alternative of a conditional. -/
def alternateNotes (node : Node) : List Note :=
  if node.isIfElse then notes style depth node
  else node.inner.flatMap (notes style (depth + 1))

/-- A branch has the notes of its test, of its body and of its alternate, in this order. -/
theorem notes_ifElse (test consequent : Node) (alternate : Option Node)
    (location : Option Location)
    : notes style depth (.ifElse test consequent alternate location)
      = notes style depth test ++ consequent.inner.flatMap (notes style (depth + 1))
          ++ alternate.elim [] (alternateNotes style depth) := by
  rw [notes.eq_def]
  simp only [List.flatMap_subtype, List.unattach_attach]
  cases alternate <;> rfl

/-- A loop has the notes of its test and of its body, in this order. -/
theorem notes_whileLoop (test body : Node) (location : Option Location)
    : notes style depth (.whileLoop test body location)
      = notes style depth test ++ body.inner.flatMap (notes style (depth + 1)) := by
  rw [notes.eq_def]
  simp only [List.flatMap_subtype, List.unattach_attach]

/-- A loop with a header has the notes of its slots in the order in which they are written. -/
theorem notes_forLoop (initial test advance : Option Node) (body : Node)
    (location : Option Location)
    : notes style depth (.forLoop initial test advance body location)
      = initial.elim [] (headerNotes style depth) ++ test.elim [] (notes style depth)
          ++ advance.elim [] (notes style depth)
          ++ body.inner.flatMap (notes style (depth + 1)) := by
  rw [notes.eq_def]
  simp only [List.flatMap_subtype, List.unattach_attach]
  cases initial <;> cases test <;> cases advance <;> rfl

/-- A function inside another one is reported, and nothing of it is visited. -/
theorem notes_function (name : Node) (parameters : List Node) (body : Node)
    (location : Option Location)
    : notes style depth (.function name parameters body location)
      = if depth > 0 then
          [.report .nestedFunction (.function name parameters body location)]
        else
          parameters.flatMap (notes style depth) ++ notes style depth name
            ++ body.inner.flatMap (notes style (depth + 1)) := by
  rw [notes.eq_def]
  simp only [List.flatMap_subtype, List.unattach_attach]

end Fragment

end DeviceScript
