import DeviceScript.Proofs.Syntax.EmptyStatements
import DeviceScript.Proofs.Syntax.Induction

/-! Spelling of nodes as trees. Reading inverts it for every node that has a shape of its own in a
tree, whatever statements without content are added to the bodies of the tree.
-/

namespace DeviceScript.Estree

/-- A place in a tree, where columns count from zero. -/
def ofLocation : Option Location → Datum
  | some place =>
    .table [("start",
      .table [("line", .integer place.line), ("column", .integer (place.column - 1))])]
  | none => .null

def ofLiteral : Literal → Datum
  | .text value => .text value
  | .boolean value => .boolean value
  | .integer value => .integer value
  | .real value => .real value
  | .null => .null

def ofRaw : Option Text → Datum
  | some raw => .text raw
  | none => .null

/-- A tree of a type with its place and its other fields. -/
def spelled (type : Text) (location : Option Location) (fields : List (Text × Datum)) : Datum :=
  .table (("type", .text type) :: ("loc", ofLocation location) :: fields)

mutual

/-- The tree of a node. A parameter is an identifier there, and what no kind of node stands for has
only its type and its place. -/
def ofNode : Node → Datum
  | .program body location => spelled "Program" location [("body", .list (ofNodes body))]
  | .expressionStatement expression location =>
    spelled "ExpressionStatement" location [("expression", ofNode expression)]
  | .call callee arguments location =>
    spelled "CallExpression" location
      [("callee", ofNode callee), ("arguments", .list (ofNodes arguments))]
  | .member object property computed location =>
    spelled "MemberExpression" location
      [("computed", .boolean computed), ("object", ofNode object), ("property", ofNode property)]
  | .literal value raw location =>
    spelled "Literal" location [("value", ofLiteral value), ("raw", ofRaw raw)]
  | .identifier name location => spelled "Identifier" location [("name", .text name)]
  | .binary operator left right location =>
    spelled "BinaryExpression" location
      [("operator", .text operator), ("left", ofNode left), ("right", ofNode right)]
  | .logical operator left right location =>
    spelled "LogicalExpression" location
      [("operator", .text operator), ("left", ofNode left), ("right", ofNode right)]
  | .unary operator argument leading location =>
    spelled "UnaryExpression" location
      [("operator", .text operator), ("argument", ofNode argument), ("prefix", .boolean leading)]
  | .assignment operator left right location =>
    spelled "AssignmentExpression" location
      [("operator", .text operator), ("left", ofNode left), ("right", ofNode right)]
  | .declaration declarations keyword location =>
    spelled "VariableDeclaration" location
      [("declarations", .list (ofNodes declarations)), ("kind", .text keyword)]
  | .declarator target initial location =>
    spelled "VariableDeclarator" location [("id", ofNode target), ("init", ofOptional initial)]
  | .array elements location =>
    spelled "ArrayExpression" location [("elements", .list (ofElements elements))]
  | .ifElse test consequent alternate location =>
    spelled "IfStatement" location
      [("test", ofNode test), ("consequent", ofNode consequent),
        ("alternate", ofOptional alternate)]
  | .whileLoop test body location =>
    spelled "WhileStatement" location [("test", ofNode test), ("body", ofNode body)]
  | .forLoop initial test advance body location =>
    spelled "ForStatement" location
      [("init", ofOptional initial), ("test", ofOptional test), ("update", ofOptional advance),
        ("body", ofNode body)]
  | .block body location => spelled "BlockStatement" location [("body", .list (ofNodes body))]
  | .function name parameters body location =>
    spelled "FunctionDeclaration" location
      [("id", ofNode name), ("params", .list (ofNodes parameters)), ("body", ofNode body),
        ("generator", .boolean false), ("async", .boolean false)]
  | .returning argument location =>
    spelled "ReturnStatement" location [("argument", ofOptional argument)]
  | .update operator argument leading location =>
    spelled "UpdateExpression" location
      [("operator", .text operator), ("argument", ofNode argument), ("prefix", .boolean leading)]
  | .parameter name location => spelled "Identifier" location [("name", .text name)]
  | .unsupported source _ location => spelled source location []
  | .foreign kind location => spelled kind location []
termination_by structural node => node

def ofNodes : List Node → List Datum
  | [] => []
  | node :: nodes => ofNode node :: ofNodes nodes
termination_by structural nodes => nodes

def ofOptional : Option Node → Datum
  | none => .null
  | some node => ofNode node
termination_by structural node => node

def ofElements : List (Option Node) → List Datum
  | [] => []
  | element :: elements => ofOptional element :: ofElements elements
termination_by structural elements => elements

end

-----------------------------------------------------------------------------------------
-- The nodes that reading can build
-----------------------------------------------------------------------------------------

/-- A literal that reading keeps: no whole double is spelled as an integer. -/
def IsKept (value : Literal) (raw : Option Text) : Prop :=
  ∀ number spelling, value = .real number → raw = some spelling
    → isIntegerSpelling spelling = true → number.toInt? = none

/-- A node that reading can build without refusing anything. -/
inductive IsSpellable : Node → Prop
  | program {body location} (hb : ∀ node ∈ body, IsSpellable node)
    : IsSpellable (.program body location)
  | expressionStatement {expression location} (he : IsSpellable expression)
    : IsSpellable (.expressionStatement expression location)
  | call {callee arguments location} (hc : IsSpellable callee)
    (ha : ∀ node ∈ arguments, IsSpellable node)
    : IsSpellable (.call callee arguments location)
  | member {object property computed location} (ho : IsSpellable object)
    (hp : IsSpellable property)
    : IsSpellable (.member object property computed location)
  | literal {value raw location} (hk : IsKept value raw)
    : IsSpellable (.literal value raw location)
  | identifier {name location} : IsSpellable (.identifier name location)
  | binary {operator left right location} (hl : IsSpellable left) (hr : IsSpellable right)
    : IsSpellable (.binary operator left right location)
  | logical {operator left right location} (hl : IsSpellable left) (hr : IsSpellable right)
    : IsSpellable (.logical operator left right location)
  | unary {operator argument leading location} (ha : IsSpellable argument)
    : IsSpellable (.unary operator argument leading location)
  | assignment {operator left right location} (hl : IsSpellable left) (hr : IsSpellable right)
    : IsSpellable (.assignment operator left right location)
  | declaration {declarations keyword location} (hd : ∀ node ∈ declarations, IsSpellable node)
    (hk : keyword ≠ [])
    : IsSpellable (.declaration declarations keyword location)
  | declarator {name place initial location} (hi : ∀ node ∈ initial, IsSpellable node)
    : IsSpellable (.declarator (.identifier name place) initial location)
  | array {elements location} (he : ∀ node, some node ∈ elements → IsSpellable node)
    : IsSpellable (.array elements location)
  | ifElse {test consequent alternate location} (ht : IsSpellable test)
    (hc : IsSpellable consequent) (ha : ∀ node ∈ alternate, IsSpellable node)
    : IsSpellable (.ifElse test consequent alternate location)
  | whileLoop {test body location} (ht : IsSpellable test) (hb : IsSpellable body)
    : IsSpellable (.whileLoop test body location)
  | forLoop {initial test advance body location} (hi : ∀ node ∈ initial, IsSpellable node)
    (ht : ∀ node ∈ test, IsSpellable node) (ha : ∀ node ∈ advance, IsSpellable node)
    (hb : IsSpellable body)
    : IsSpellable (.forLoop initial test advance body location)
  | block {body location} (hb : ∀ node ∈ body, IsSpellable node)
    : IsSpellable (.block body location)
  | function {name place parameters body inner location}
    (hp : ∀ node ∈ parameters, ∃ name location, node = .parameter name location)
    (hb : ∀ node ∈ body, IsSpellable node)
    : IsSpellable (.function (.identifier name place) parameters (.block body inner) location)
  | returning {argument location} (ha : ∀ node ∈ argument, IsSpellable node)
    : IsSpellable (.returning argument location)
  | update {operator argument leading location} (ha : IsSpellable argument)
    : IsSpellable (.update operator argument leading location)

-----------------------------------------------------------------------------------------
-- The fields of the tree of a node are read back one by one
-----------------------------------------------------------------------------------------

/-- A list of nodes is spelled node by node. -/
@[simp]
theorem ofNodes_eq_map (nodes : List Node) : ofNodes nodes = nodes.map ofNode := by
  induction nodes with
  | nil => rfl
  | cons node nodes ih => rw [ofNodes, ih, List.map_cons]

/-- The elements of an array are spelled one by one, holes included. -/
@[simp]
theorem ofElements_eq_map (elements : List (Option Node))
    : ofElements elements = elements.map ofOptional := by
  induction elements with
  | nil => rfl
  | cons element elements ih => rw [ofElements, ih, List.map_cons]

/-- The place of a tree is the one that it has been spelled with. -/
theorem location?_spelled (type : Text) (location : Option Location)
    (fields : List (Text × Datum))
    : location? (spelled type location fields) = location := by
  cases location with
  | none => rfl
  | some place =>
      change some (Location.mk place.line (place.column - 1 + 1)) = some place
      rw [Int.sub_add_cancel]

/-- The tree of a node is not null. -/
theorem isNull_ofNode (node : Node) : (ofNode node).isNull = false := by
  cases node <;> rfl

/-- The tree of a node that can be spelled is no empty statement. -/
theorem isEmptyStatement_ofNode {node : Node} (h : IsSpellable node)
    : isEmptyStatement (ofNode node) = false := by
  cases h <;> rfl

/-- A literal that is kept is read back as what it is. -/
theorem literalValue_ofLiteral {value : Literal} {raw : Option Text} (h : IsKept value raw)
    : literalValue (ofLiteral value) raw = value := by
  cases value with
  | real number =>
      cases raw with
      | none => rfl
      | some spelling =>
          simp only [ofLiteral, literalValue]
          cases hi : isIntegerSpelling spelling with
          | true => rw [h number spelling rfl rfl hi]
          | false =>
              cases number.toInt? with
              | none => rfl
              | some whole => simp only [hi, Bool.false_eq_true, if_false]
  | _ => rfl

/-- A list of nodes is read back if each of them is. -/
theorem map_toNode_ofNode {nodes : List Node} (h : ∀ node ∈ nodes, toNode (ofNode node) = node)
    : (nodes.map ofNode).map toNode = nodes := by
  rw [List.map_map]
  exact (List.map_congr_left h).trans (List.map_id' nodes)

/-- An optional node is read back if the node in it is. -/
theorem toNode?_ofOptional {node : Option Node} (h : ∀ inner ∈ node, toNode (ofNode inner) = inner)
    : toNode? (ofOptional node) = node := by
  cases node with
  | none => rfl
  | some node =>
      rw [ofOptional, toNode?, isNull_ofNode, h node rfl]
      rfl

section Fields

variable {tree : Datum} {key : Text} {nodes : List Node}

/-- A list of nodes is read back if each of them is. -/
theorem children_ofNodes (h : tree.field? key = some (.list (ofNodes nodes)))
    (hn : ∀ node ∈ nodes, toNode (ofNode node) = node)
    : children tree key = nodes := by
  rw [children_eq h, ofNodes_eq_map, map_toNode_ofNode hn]

/-- The statements of a body are read back if each of them is. -/
theorem statements_ofNodes (h : tree.field? "body" = some (.list (ofNodes nodes)))
    (hs : ∀ node ∈ nodes, IsSpellable node) (hn : ∀ node ∈ nodes, toNode (ofNode node) = node)
    : statements tree = nodes := by
  have hall : (nodes.map ofNode).filter (fun item => !isEmptyStatement item)
      = nodes.map ofNode := by
    rw [List.filter_eq_self]
    intro item hm
    obtain ⟨node, hn, rfl⟩ := List.mem_map.mp hm
    rw [isEmptyStatement_ofNode (hs node hn)]
    rfl
  rw [statements_eq h, ofNodes_eq_map, hall, map_toNode_ofNode hn]

/-- The body of a function is read back if its statements are. -/
theorem functionBody_ofNode {location : Option Location}
    (h : tree.field? "body" = some (ofNode (.block nodes location)))
    (hs : ∀ node ∈ nodes, IsSpellable node) (hn : ∀ node ∈ nodes, toNode (ofNode node) = node)
    : functionBody tree = .block nodes location := by
  rw [functionBody_eq_block, Datum.field_eq h, ofNode, statements_ofNodes rfl hs hn,
    location?_spelled]

/-- A node that may be missing is read back if it is where it is there. -/
theorem optional_ofOptional {node : Option Node} (h : tree.field? key = some (ofOptional node))
    (hn : ∀ inner ∈ node, toNode (ofNode inner) = inner)
    : optional tree key = node := by
  rw [optional_eq_toNode?, Datum.field_eq h, toNode?_ofOptional hn]

/-- The elements of an array are read back if each of them is. -/
theorem elements_ofElements {elements' : List (Option Node)}
    (h : tree.field? "elements" = some (.list (ofElements elements')))
    (hn : ∀ node, some node ∈ elements' → toNode (ofNode node) = node)
    : elements tree = elements' := by
  rw [elements_eq_map, Datum.field_eq h, Datum.items, ofElements_eq_map, List.map_map]
  refine (List.map_congr_left fun element hm => ?_).trans (List.map_id' elements')
  exact toNode?_ofOptional fun node hnode => hn node (hnode ▸ hm)

/-- Parameters are read by themselves, since they are identifiers in a tree. -/
theorem parameters_ofNodes (h : tree.field? "params" = some (.list (ofNodes nodes)))
    (hp : ∀ node ∈ nodes, ∃ name location, node = .parameter name location)
    : parameters tree = nodes := by
  rw [parameters_eq_map, Datum.field_eq h, Datum.items, ofNodes_eq_map, List.map_map]
  refine (List.map_congr_left fun node hm => ?_).trans (List.map_id' nodes)
  obtain ⟨name, location, rfl⟩ := hp node hm
  change Node.parameter name (location? (spelled _ location _)) = _
  rw [location?_spelled]

end Fields

-----------------------------------------------------------------------------------------
-- Reading inverts spelling
-----------------------------------------------------------------------------------------

/-- A name is read back with its place. -/
theorem toNode_identifier (name : Text) (location : Option Location)
    : toNode (ofNode (.identifier name location)) = .identifier name location := by
  rw [ofNode, toNode.eq_def]
  change Node.identifier name (location? _) = _
  rw [location?_spelled]

/-- Reading inverts spelling, by induction over the node: the fields of its tree are those that the
kind of the node is read from. -/
theorem toNode_ofNode {node : Node} (h : IsSpellable node) : toNode (ofNode node) = node := by
  induction h with
  | program hb ih =>
      -- The type of the tree selects the kind, here and in every case below.
      rw [ofNode, toNode.eq_def]
      change Node.program (statements _) (location? _) = _
      rw [statements_ofNodes rfl hb ih, location?_spelled]
  | expressionStatement he ih =>
      rw [ofNode, toNode.eq_def]
      change Node.expressionStatement (child _ "expression") (location? _) = _
      rw [child_eq rfl, ih, location?_spelled]
  | call hc ha ihc iha =>
      rw [ofNode, toNode.eq_def]
      change Node.call (child _ "callee") (children _ "arguments") (location? _) = _
      rw [child_eq rfl, ihc, children_ofNodes rfl iha, location?_spelled]
  | member ho hp iho ihp =>
      rw [ofNode, toNode.eq_def]
      change Node.member (child _ "object") (child _ "property") _ (location? _) = _
      rw [child_eq rfl, child_eq rfl, iho, ihp, location?_spelled]
      rfl
  | @literal value raw location hk =>
      -- The value is read along with its spelling, which may turn a double into an integer.
      have hraw : raw? (ofNode (.literal value raw location)) = raw := by
        cases raw <;> rfl
      rw [ofNode] at hraw ⊢
      rw [toNode.eq_def]
      change Node.literal (literalValue (ofLiteral value) (raw? _)) (raw? _) (location? _) = _
      rw [hraw, literalValue_ofLiteral hk, location?_spelled]
  | identifier => exact toNode_identifier _ _
  | binary hl hr ihl ihr =>
      rw [ofNode, toNode.eq_def]
      change Node.binary _ (child _ "left") (child _ "right") (location? _) = _
      rw [child_eq rfl, child_eq rfl, ihl, ihr, location?_spelled]
      rfl
  | logical hl hr ihl ihr =>
      rw [ofNode, toNode.eq_def]
      change Node.logical _ (child _ "left") (child _ "right") (location? _) = _
      rw [child_eq rfl, child_eq rfl, ihl, ihr, location?_spelled]
      rfl
  | unary ha ih =>
      rw [ofNode, toNode.eq_def]
      change Node.unary _ (child _ "argument") _ (location? _) = _
      rw [child_eq rfl, ih, location?_spelled]
      rfl
  | assignment hl hr ihl ihr =>
      rw [ofNode, toNode.eq_def]
      change Node.assignment _ (child _ "left") (child _ "right") (location? _) = _
      rw [child_eq rfl, child_eq rfl, ihl, ihr, location?_spelled]
      rfl
  | @declaration declarations keyword location hd hk ih =>
      rw [ofNode, toNode.eq_def]
      change Node.declaration (children _ "declarations") (if keyword = [] then "let" else keyword)
        (location? _) = _
      rw [children_ofNodes rfl ih, if_neg hk, location?_spelled]
  | declarator hi ih =>
      rw [ofNode, toNode.eq_def]
      change Node.declarator (child _ "id") (optional _ "init") (location? _) = _
      rw [child_eq rfl, toNode_identifier, optional_ofOptional rfl ih, location?_spelled]
  | array he ih =>
      rw [ofNode, toNode.eq_def]
      change Node.array (elements _) (location? _) = _
      rw [elements_ofElements rfl ih, location?_spelled]
  | ifElse ht hc ha iht ihc iha =>
      rw [ofNode, toNode.eq_def]
      change Node.ifElse (child _ "test") (child _ "consequent") (optional _ "alternate")
        (location? _) = _
      rw [child_eq rfl, child_eq rfl, iht, ihc, optional_ofOptional rfl iha, location?_spelled]
  | whileLoop ht hb iht ihb =>
      rw [ofNode, toNode.eq_def]
      change Node.whileLoop (child _ "test") (child _ "body") (location? _) = _
      rw [child_eq rfl, child_eq rfl, iht, ihb, location?_spelled]
  | forLoop hi ht ha hb ihi iht iha ihb =>
      rw [ofNode, toNode.eq_def]
      change Node.forLoop (optional _ "init") (optional _ "test") (optional _ "update")
        (child _ "body") (location? _) = _
      rw [optional_ofOptional rfl ihi, optional_ofOptional rfl iht, optional_ofOptional rfl iha,
        child_eq rfl, ihb, location?_spelled]
  | block hb ih =>
      rw [ofNode, toNode.eq_def]
      change Node.block (statements _) (location? _) = _
      rw [statements_ofNodes rfl hb ih, location?_spelled]
  | function hp hb ih =>
      rw [ofNode, toNode.eq_def]
      change Node.function (.identifier _ (location? (ofNode _))) (parameters _) (functionBody _)
        (location? _) = _
      rw [ofNode, location?_spelled, parameters_ofNodes rfl hp, functionBody_ofNode rfl hb ih,
        location?_spelled]
      rfl
  | returning ha ih =>
      rw [ofNode, toNode.eq_def]
      change Node.returning (optional _ "argument") (location? _) = _
      rw [optional_ofOptional rfl ih, location?_spelled]
  | update ha ih =>
      rw [ofNode, toNode.eq_def]
      change Node.update _ (child _ "argument") _ (location? _) = _
      rw [child_eq rfl, ih, location?_spelled]
      rfl

/-- A tree that differs from the tree of a node only in empty statements of bodies is read as that
node, with all its places. -/
theorem toNode_eq_of_strip_eq {node : Node} {tree : Datum} (hn : IsSpellable node)
    (ht : strip false tree = strip false (ofNode node))
    : toNode tree = node := by
  rw [← toNode_strip false tree, ht, toNode_strip, toNode_ofNode hn]

/-- A program of one function that returns its parameter. -/
def identityProgram : Node :=
  .program [.function (.identifier "f" (some ⟨1, 10⟩)) [.parameter "x" (some ⟨1, 12⟩)]
    (.block [.returning (some (.identifier "x" (some ⟨2, 10⟩))) (some ⟨2, 3⟩)] (some ⟨1, 15⟩))
    (some ⟨1, 1⟩)] (some ⟨1, 1⟩)

/-- The tree of that program with an empty statement in each of its bodies. -/
def paddedIdentity : Datum :=
  let empty : Datum := .table [("type", .text "EmptyStatement")]
  spelled "Program" (some ⟨1, 1⟩)
    [("body", .list [
      spelled "FunctionDeclaration" (some ⟨1, 1⟩)
        [("id", ofNode (.identifier "f" (some ⟨1, 10⟩))),
          ("params", .list [ofNode (.parameter "x" (some ⟨1, 12⟩))]),
          ("body", spelled "BlockStatement" (some ⟨1, 15⟩)
            [("body", .list [empty,
              ofNode (.returning (some (.identifier "x" (some ⟨2, 10⟩))) (some ⟨2, 3⟩))])]),
          ("generator", .boolean false), ("async", .boolean false)],
      empty])]

/-- A tree with empty statements in its bodies is read as the program without them. -/
theorem toNode_paddedIdentity
    : IsSpellable identityProgram
      ∧ strip false paddedIdentity = strip false (ofNode identityProgram)
      ∧ toNode paddedIdentity = identityProgram := by
  have hn : IsSpellable identityProgram := by
    refine .program fun node hm => ?_
    obtain rfl := List.mem_singleton.mp hm
    refine .function (fun node hm => ⟨_, _, List.mem_singleton.mp hm⟩) fun node hm => ?_
    obtain rfl := List.mem_singleton.mp hm
    refine .returning fun node hm => ?_
    obtain rfl := Option.mem_some_iff.mp hm
    exact .identifier
  have ht : strip false paddedIdentity = strip false (ofNode identityProgram) := rfl
  exact ⟨hn, ht, toNode_eq_of_strip_eq hn ht⟩

end DeviceScript.Estree
