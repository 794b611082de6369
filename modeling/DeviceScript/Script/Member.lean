import DeviceScript.Script.Function

/-! Object literals and classes. -/

namespace DeviceScript.Parse

/-- Tells whether a token can be the name of a property. -/
def namesProperty (token : Token) : Bool :=
  match token.kind with
  | .identifier | .string | .boolean | .null | .numeric | .keyword => true
  | .punctuator => token.text = "["
  | _ => false

/-- Tells whether a key is a name or a text that equals the given one. -/
def isKey (key : Datum) (name : String) : Bool :=
  let name := Text.ofString name
  (Tree.hasType key "Identifier" && key.textField "name" = name)
    || (Tree.hasType key "Literal" && key.textField "value" = name)

/-- Tells whether the next token is a punctuator of a list. -/
def isAnyOf (spellings : List String) : Parse Bool := do
  let token ← peek
  return token.kind = .punctuator && Token.isOneOf spellings token.text

variable (inner : Nonterminal → Parse Datum)

/-- An argument or an element that stands for several. -/
def spreadElement : Parse Datum := do
  let mark ← here
  expect "..."
  let argument ← inherited (inner .assignment)
  return Tree.node "SpreadElement" mark [("argument", argument)]

/-- The name of a property. -/
def propertyKey : Parse Datum := do
  let mark ← here
  let token ← advance
  match token.kind with
  | .string | .numeric =>
    if (← get).strict && token.octal then failAt token .strictOctal
    let value := if token.kind = .string then Datum.text token.text else token.number
    return Tree.literal value token.raw mark
  | .identifier | .boolean | .null | .keyword => return Tree.identifier token.text mark
  | .punctuator =>
    if token.text = "[" then
      let key ← isolated (inner .assignment)
      expect "]"
      return key
    else unexpected token
  | _ => unexpected token

/-- The node of a property. -/
def propertyNode (mark : Mark) (kind : String) (computed : Bool) (key value : Datum) : Datum :=
  Tree.node "Property" mark
    [("kind", .text kind), ("computed", .boolean computed), ("key", key), ("value", value)]

/-- A property of an object literal; `seen` tells whether its prototype has been given before. -/
def objectProperty (seen : Bool) : Parse (Datum × Bool) := do
  let mark ← here
  let token ← peek
  let isName := token.kind = .identifier
  let (key, computed, async) ←
    if isName then do
      let _ ← advance
      let computed ← isPunctuator "["
      let async := !(← get).lineBreak && token.text = "async" && !(← isAnyOf [":", "(", "*", ","])
      let key ← if async then propertyKey inner else pure (Tree.identifier token.text mark)
      pure (some key, computed, async)
    else if ← isPunctuator "*" then do
      let _ ← advance
      pure (none, false, false)
    else do
      let computed ← isPunctuator "["
      let key ← propertyKey inner
      pure (some key, computed, false)
  let named := namesProperty (← peek)
  if isName && !async && token.text = "get" && named then
    let computed ← isPunctuator "["
    let key ← propertyKey inner
    let value ← getter inner
    return (propertyNode mark "get" computed key value, seen)
  else if isName && !async && token.text = "set" && named then
    let computed ← isPunctuator "["
    let key ← propertyKey inner
    let value ← setter inner
    return (propertyNode mark "set" computed key value, seen)
  else if token.kind = .punctuator && token.text = "*" && named then
    let computed ← isPunctuator "["
    let key ← propertyKey inner
    let value ← generatorMethod inner
    return (propertyNode mark "init" computed key value, seen)
  else
    match key with
    | none => unexpected (← peek)
    | some key =>
      if !async && (← isPunctuator ":") then
        let isPrototype := !computed && isKey key "__proto__"
        if isPrototype && seen then failBefore .duplicatePrototype
        let _ ← advance
        let value ← inherited (inner .assignment)
        return (propertyNode mark "init" computed key value, seen || isPrototype)
      else if ← isPunctuator "(" then
        let value ← if async then asyncMethod inner else method inner
        return (propertyNode mark "init" computed key value, seen)
      else if isName then
        let name := Tree.identifier token.text mark
        if ← isPunctuator "=" then
          modify fun reader => { reader with patternOnly := some reader.next }
          let _ ← advance
          let right ← isolated (inner .assignment)
          let value := Tree.node "AssignmentPattern" mark [("left", name), ("right", right)]
          return (propertyNode mark "init" computed key value, seen)
        else return (propertyNode mark "init" computed key name, seen)
      else unexpectedNext

/-- An object literal. -/
def objectLiteral : Parse Datum := do
  let mark ← here
  expect "\x7b"
  let (properties, _) ← extend
    (fun ((properties, seen) : List Datum × Bool) => do
      if ← isPunctuator "\x7d" then return none
      else
        let (property, seen) ←
          if ← isPunctuator "..." then do
            let spread ← spreadElement inner
            pure (spread, seen)
          else objectProperty inner seen
        if !(← isPunctuator "\x7d") then expect ","
        return some (properties ++ [property], seen))
    ([], false)
  expect "\x7d"
  return Tree.node "ObjectExpression" mark [("properties", .list properties)]

/-- Refuses a method that a class cannot have, and tells whether it is the constructor. -/
def judgeMethod (seen static : Bool) (token : Token) (kind : String) (isMethod generator : Bool)
    (key : Datum) : Parse Bool := do
  if static then
    if isKey key "prototype" then failAt token .staticPrototype
    return false
  else if isKey key "constructor" then
    if kind ≠ "method" || !isMethod || generator then failAt token .specialConstructor
    if seen then failAt token .duplicateConstructor
    return true
  else return false

/-- The names in front of the parameters of a method in a class. -/
structure MethodHead where
  /-- The token that tells what kind of method follows. -/
  token : Token
  key : Option Datum := none
  computed : Bool := false
  static : Bool := false
  async : Bool := false

/-- Reads the names in front of a method in a class. -/
def methodHead : Parse MethodHead := do
  let token ← peek
  if ← isPunctuator "*" then
    let _ ← advance
    return { token := token }
  else
    let computed ← isPunctuator "["
    let key ← propertyKey inner
    let next ← peek
    let head ←
      if Tree.hasType key "Identifier" && key.textField "name" = "static"
          && (namesProperty next || (← isPunctuator "*")) then do
        let computed ← isPunctuator "["
        if ← isPunctuator "*" then
          let _ ← advance
          pure { token := next, key := some key, computed := computed, static := true : MethodHead }
        else
          let key ← propertyKey inner
          pure { token := next, key := some key, computed := computed, static := true : MethodHead }
      else pure { token := token, key := some key, computed := computed : MethodHead }
    if head.token.kind = .identifier && !(← get).lineBreak && head.token.text = "async"
        && !Token.isOneOf [":", "(", "*"] (← peek).text then
      let token ← peek
      let key ← propertyKey inner
      if token.kind = .identifier && token.text = "constructor" then failAt token .asyncConstructor
      return { head with token := token, key := some key, async := true }
    else return head

/-- A method of a class; `seen` tells whether its constructor has been given before. -/
def classElement (seen : Bool) : Parse (Datum × Bool) := do
  let mark ← here
  let head ← methodHead inner
  let token := head.token
  let named := namesProperty (← peek)
  let accessor := token.kind = .identifier && named && (token.text = "get" || token.text = "set")
  let (kind, key, computed, value, generator) ←
    if accessor then do
      let computed ← isPunctuator "["
      let key ← propertyKey inner
      if token.text = "get" then
        let value ← getter inner
        pure ("get", key, computed, value, false)
      else
        let value ← setter inner
        pure ("set", key, computed, value, false)
    else if token.kind = .punctuator && token.text = "*" && named then do
      let computed ← isPunctuator "["
      let key ← propertyKey inner
      let value ← generatorMethod inner
      pure ("method", key, computed, value, true)
    else
      match head.key with
      | some key =>
        if ← isPunctuator "(" then do
          let value ← if head.async then asyncMethod inner else method inner
          pure ("method", key, head.computed, value, false)
        else unexpected (← peek)
      | none => unexpected (← peek)
  let isConstructor ←
    if computed then pure false
    else judgeMethod seen head.static token kind (kind = "method") generator key
  let tree := Tree.node "MethodDefinition" mark [("key", key), ("value", value)]
  return (tree, seen || isConstructor)

/-- The body of a class. -/
def classBody : Parse Datum := do
  let mark ← here
  expect "\x7b"
  let (methods, _) ← extend
    (fun ((methods, seen) : List Datum × Bool) => do
      if ← isPunctuator "\x7d" then return none
      else if ← isPunctuator ";" then
        let _ ← advance
        return some (methods, seen)
      else
        let (element, seen) ← classElement inner seen
        return some (methods ++ [element], seen))
    ([], false)
  expect "\x7d"
  return Tree.node "ClassBody" mark [("body", .list methods)]

/-- A class, whose code is strict, with a name as the given rule has it. -/
def classRest (type : String) (name : Parse Datum) : Parse Datum := do
  let mark ← here
  let strict := (← get).strict
  modify fun reader => { reader with strict := true }
  expectKeyword "class"
  let name ← name
  let parent ←
    if ← isKeyword "extends" then do
      let _ ← advance
      isolated (inner .postfixed)
    else pure Datum.null
  let body ← classBody inner
  modify fun reader => { reader with strict := strict }
  return Tree.node type mark [("id", name), ("superClass", parent), ("body", body)]

end DeviceScript.Parse
