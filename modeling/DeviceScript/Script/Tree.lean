import DeviceScript.Script.Reader

/-! The syntax trees that reading a script yields, in the form of ESTree. -/

namespace DeviceScript

/-- The constructs that contain each other, and so have to be read through one another. -/
inductive Nonterminal where
  | assignment
  | unary
  | exponentiation
  /-- The callee of a construction, which no argument list ends. -/
  | callee
  /-- An expression with its property accesses and calls. -/
  | postfixed
  /-- A name or a pattern that is bound by a declaration with the given keyword. -/
  | pattern (keyword : Text)
  | statement
  /-- A statement or a declaration. -/
  | item

namespace Tree

/-- The place of a node in ESTree. -/
def location (mark : Mark) : Datum :=
  .table [("start", .table [("line", .integer mark.line), ("column", .integer mark.column)])]

/-- A node of the given type. -/
def node (type : String) (mark : Mark) (fields : List (Text × Datum)) : Datum :=
  .table ((Text.ofString "type", .text type) :: (Text.ofString "loc", location mark) :: fields)

def identifier (name : Text) (mark : Mark) : Datum := node "Identifier" mark [("name", .text name)]

def literal (value : Datum) (raw : Text) (mark : Mark) : Datum :=
  node "Literal" mark [("value", value), ("raw", .text raw)]

/-- Arrow parameters before it is known that an arrow follows them. -/
def parameters (items : List Datum) (async : Bool) : Datum :=
  .table [("type", .text "ArrowParameterPlaceHolder"), ("params", .list items),
    ("async", .boolean async)]

def hasType (tree : Datum) (type : String) : Bool := tree.textField "type" = Text.ofString type

/-- The place where a token starts. The line of a token that spans several is taken to be the one
before its last, and its column is counted from a given line start. -/
def markOf (token : Token) (lineStart : Int) : Mark :=
  if token.column < 0 then ⟨token.start, (token.line : Int) - 1, token.column + lineStart⟩
  else ⟨token.start, token.line, token.column⟩

/-- Tells whether a key has a value that counts. -/
def flag (tree : Datum) (key : Text) : Bool := (tree.field key).isPresent

/-- The items of the list under a key. -/
def items (tree : Datum) (key : Text) : List Datum :=
  match tree.field? key with
  | some (.list items) => items
  | _ => []

/-- An item of a tree is smaller than the tree. -/
theorem sizeOf_items_lt {tree : Datum} {key : Text} {item : Datum} (h : item ∈ items tree key)
    : sizeOf item < sizeOf tree := by
  unfold items at h
  split at h
  · rename_i found hf
    have := Datum.sizeOf_field?_lt hf
    have := List.sizeOf_lt_of_mem h
    simp only [Datum.list.sizeOf_spec] at *
    omega
  · simp at h

/-- An expression read again as a pattern. -/
def asPattern (tree : Datum) : Datum :=
  match tree with
  | .table entries =>
    let type := tree.textField "type"
    let renamed : Text :=
      if type = "ArrayExpression" then "ArrayPattern"
      else if type = "ObjectExpression" then "ObjectPattern"
      else if type = "AssignmentExpression" then "AssignmentPattern"
      else if type = "SpreadElement" then "RestElement"
      else type
    .table (entries.map fun (entry : Text × Datum) =>
      if entry.1 = Text.ofString "type" then (entry.1, .text renamed) else entry)
  | _ => tree

/-- The names that an expression binds as a pattern. -/
def boundNames (tree : Datum) : List Text :=
  let type := tree.textField "type"
  let inside (key : Text) : List Text :=
    match _h : tree.field? key with
    | some value => boundNames value
    | none => []
  if type = "Identifier" then [tree.textField "name"]
  else if type = "SpreadElement" || type = "RestElement" then inside "argument"
  else if type = "AssignmentExpression" || type = "AssignmentPattern" then inside "left"
  else if type = "ArrayExpression" || type = "ArrayPattern" then
    (items tree "elements").attach.flatMap fun item => boundNames item.1
  else if type = "ObjectExpression" || type = "ObjectPattern" then
    (items tree "properties").attach.flatMap fun item =>
      match _h : item.1.field? "value" with
      | some value => boundNames value
      | none => []
  else []
termination_by sizeOf tree
decreasing_by
  · exact Datum.sizeOf_field?_lt _h
  · exact sizeOf_items_lt item.2
  · exact Nat.lt_trans (Datum.sizeOf_field?_lt _h) (sizeOf_items_lt item.2)

end Tree

end DeviceScript
