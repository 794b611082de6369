import DeviceScript.Script.Expression

/-! Patterns that take a value apart, and the declarations that bind them. -/

namespace DeviceScript.Parse

/-- Notes that a pattern binds a token. -/
def bind (token : Token) : Parse Unit :=
  modify fun reader => { reader with bound := token :: reader.bound }

variable (inner : Nonterminal → Parse Datum)

/-- The part of a pattern that takes everything else. -/
def bindingRest (keyword : Text) : Parse Datum := do
  let mark ← here
  expect "..."
  let argument ← inner (.pattern keyword)
  return Tree.node "RestElement" mark [("argument", argument)]

/-- A pattern for the elements of an array. -/
def arrayPattern (keyword : Text) : Parse Datum := do
  let mark ← here
  expect "["
  let _ ← extend
    (fun (open_ : Bool) => do
      if !open_ || (← isPunctuator "]") then return none
      else if ← isPunctuator "," then
        let _ ← advance
        return some true
      else if ← isPunctuator "..." then
        let _ ← bindingRest inner keyword
        return some false
      else
        let _ ← patternWithDefault inner keyword
        if !(← isPunctuator "]") then expect ","
        return some true)
    true
  expect "]"
  return Tree.node "ArrayPattern" mark []

/-- A pattern for one property of an object. -/
def propertyPattern (keyword : Text) : Parse Unit := do
  let token ← peek
  if token.kind = .identifier then
    let _ ← bindingName []
    if ← isPunctuator "=" then
      bind token
      let _ ← advance
      let _ ← inner .assignment
    else if ← isPunctuator ":" then
      expect ":"
      let _ ← patternWithDefault inner keyword
    else bind token
  else
    let _ ← propertyKey inner
    expect ":"
    let _ ← patternWithDefault inner keyword

/-- The part of a pattern that takes all further properties. -/
def propertyRest : Parse Unit := do
  expect "..."
  let _ ← inner (.pattern [])
  if ← isPunctuator "=" then failBehind .defaultForRest
  if !(← isPunctuator "\x7d") then failBehind .propertyAfterRest

/-- A pattern for the properties of an object. -/
def objectPattern (keyword : Text) : Parse Datum := do
  let mark ← here
  expect "\x7b"
  let _ ← many do
    if ← isPunctuator "\x7d" then return none
    else
      if ← isPunctuator "..." then propertyRest inner
      else propertyPattern inner keyword
      if !(← isPunctuator "\x7d") then expect ","
      return some ()
  expect "\x7d"
  return Tree.node "ObjectPattern" mark []

/-- A name or a pattern. -/
def pattern (keyword : Text) : Parse Datum := do
  if ← isPunctuator "[" then arrayPattern inner keyword
  else if ← isPunctuator "\x7b" then objectPattern inner keyword
  else
    if (keyword = "const" || keyword = "let") && (← isKeyword "let") then
      failAt (← peek) .letAsName
    bind (← peek)
    bindingName keyword

/-- Refuses a name that strict code cannot declare. -/
def checkDeclared (name : Datum) : Parse Unit := do
  if (← get).strict && Tree.hasType name "Identifier"
      && Token.isRestricted (name.textField "name") then
    failBefore .strictVariableName

/-- The node of one declared name or pattern. -/
def declaratorNode (mark : Mark) (target initial : Datum) : Datum :=
  Tree.node "VariableDeclarator" mark [("id", target), ("init", initial)]

/-- The initial value behind an equals sign. -/
def initialValue : Parse Datum := do
  expect "="
  isolated (inner .assignment)

/-- One name or pattern that a block declares. -/
def lexicalBinding (keyword : Text) (inFor : Bool) : Parse Datum := do
  let mark ← here
  let (target, _) ← binding (inner (.pattern keyword))
  checkDeclared target
  let initial ←
    if keyword = "const" then
      if (← isKeyword "in") || (← isContextual "of") then pure Datum.null
      else if ← isPunctuator "=" then initialValue inner
      else failBehind (.missingInitializer keyword)
    else if (!inFor && !Tree.hasType target "Identifier") || (← isPunctuator "=") then
      initialValue inner
    else pure Datum.null
  return declaratorNode mark target initial

/-- One name or pattern that a function declares. -/
def variableBinding (inFor : Bool) : Parse Datum := do
  let mark ← here
  let (target, _) ← binding (inner (.pattern "var"))
  checkDeclared target
  let initial ←
    if ← isPunctuator "=" then initialValue inner
    else if !inFor && !Tree.hasType target "Identifier" then do
      expect "="
      pure Datum.null
    else pure Datum.null
  return declaratorNode mark target initial

/-- One or more bindings separated by commas. -/
def bindingList (one : Parse Datum) : Parse (List Datum) := do
  let first ← one
  let others ← many do
    if ← isPunctuator "," then
      let _ ← advance
      let item ← one
      return some item
    else return none
  return first :: others

/-- The node of a declaration. -/
def declarationNode (mark : Mark) (keyword : Text) (declarations : List Datum) : Datum :=
  Tree.node "VariableDeclaration" mark
    [("declarations", .list declarations), ("kind", .text keyword)]

/-- A declaration whose names a block binds. -/
def lexicalDeclaration : Parse Datum := do
  let mark ← here
  let keyword ← advance
  let declarations ← bindingList (lexicalBinding inner keyword.text false)
  endStatement
  return declarationNode mark keyword.text declarations

end DeviceScript.Parse
