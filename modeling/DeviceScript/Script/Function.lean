import DeviceScript.Script.Tree

/-! Functions: their parameters and their bodies. Grammar rules that contain each other call one
another through `inner`, which reads a nonterminal one level further down.
-/

namespace DeviceScript

/-- What is known about the parameters of a function. A culprit without a token is a node. -/
structure Parameters where
  items : List Datum := []
  /-- Tells whether every parameter is a plain name. -/
  simple : Bool := true
  /-- The parameter that strict code forbids. -/
  culprit : Option (Option Token) := none
  /-- The first name that is forbidden if the body turns out to be strict. -/
  suspect : Option (Option Token) := none
  fault : Option SyntaxFault := none
  names : List Text := []

namespace Parameters

/-- Takes note of a bound name. -/
def note (parameters : Parameters) (strict : Bool) (token : Option Token) (name : Text)
    : Parameters :=
  let repeated := parameters.names.contains name
  let noted := { parameters with names := name :: parameters.names }
  if strict then
    if repeated then
      { noted with culprit := some token, fault := some .strictParameterRepeated }
    else if Token.isRestricted name then
      { noted with culprit := some token, fault := some .strictParameterName }
    else noted
  else if parameters.suspect.isNone then
    if Token.isRestricted name then
      { noted with suspect := some token, fault := some .strictParameterName }
    else if Token.isOneOf Token.strictWords name then
      { noted with suspect := some token, fault := some .strictReservedWord }
    else if repeated then
      { noted with culprit := some token, fault := some .strictParameterRepeated }
    else noted
  else noted

end Parameters

namespace Parse

/-- Refuses a culprit. -/
def refuse {α : Type} (culprit : Option Token) (fault : SyntaxFault) : Parse α :=
  match culprit with
  | some token => failAt token fault
  | none => failBehind fault

/-- Refuses the parameters of a function that turned out to be strict, if need be. -/
def checkStrict (suspect culprit : Option (Option Token)) (fault : Option SyntaxFault)
    : Parse Unit := do
  if (← get).strict then
    let fault := fault.getD .strictReservedWord
    if let some token := suspect then refuse token fault
    if let some token := culprit then refuse token fault

/-- Reads a pattern and yields the tokens that it binds. -/
def binding {α : Type} (action : Parse α) : Parse (α × List Token) := do
  let outer := (← get).bound
  modify fun reader => { reader with bound := [] }
  let result ← action
  let bound := (← get).bound.reverse
  modify fun reader => { reader with bound := outer }
  return (result, bound)

/-- Tells whether the token behind the next one has a property, which does not take it. A brace that
is looked at counts all the same: it is counted again when it is taken. -/
def second (test : Token → Bool) : Parse Bool := do
  let reader ← get
  let (token, _, _) ← scanned (reader.tokenAfter reader.cursor)
  set { reader with braces := Reader.bracesAfter reader.braces token }
  return test token

/-- Tells whether a call of an import follows its keyword. -/
def isImportCall : Parse Bool :=
  second fun token => token.kind = .punctuator && token.text = "("

/-- Tells whether an asynchronous function follows. -/
def isAsyncFunction : Parse Bool := do
  if ← isContextual "async" then
    let line := (← get).cursor.line
    second fun token => token.line = line && token.kind = .keyword && token.text = "function"
  else return false

/-- A name that a declaration binds. -/
def bindingName (keyword : Text) : Parse Datum := do
  let mark ← here
  let token ← advance
  let reader ← get
  if token.kind = .keyword && token.text = "yield" then
    if reader.strict then failAt token .strictReservedWord
    if !reader.allowYield then unexpected token
  else if token.kind ≠ .identifier then
    if reader.strict && token.kind = .keyword && Token.isOneOf Token.strictWords token.text then
      failAt token .strictReservedWord
    if reader.strict || token.text ≠ "let" || keyword ≠ "var" then unexpected token
  else if reader.allowAwait && token.text = "await" then unexpected token
  return Tree.identifier token.text mark

variable (inner : Nonterminal → Parse Datum)

/-- One or more expressions separated by commas. -/
def expression : Parse Datum := do
  let token ← peek
  let first ← isolated (inner .assignment)
  if ← isPunctuator "," then
    let others ← many do
      if ← isPunctuator "," then
        let _ ← advance
        let item ← isolated (inner .assignment)
        return some item
      else return none
    let fields : List (Text × Datum) := [("expressions", .list (first :: others))]
    return Tree.node "SequenceExpression" (Tree.markOf token 0) fields
  else return first

/-- A name or a pattern with a default value, if one follows. -/
def patternWithDefault (keyword : Text) : Parse Datum := do
  let token ← peek
  let pattern ← inner (.pattern keyword)
  if ← isPunctuator "=" then
    let _ ← advance
    let allowYield := (← get).allowYield
    modify fun reader => { reader with allowYield := true }
    let right ← isolated (inner .assignment)
    modify fun reader => { reader with allowYield := allowYield }
    return Tree.node "AssignmentPattern" (Tree.markOf token 0) [("left", pattern), ("right", right)]
  else return pattern

/-- The parameter that takes all further arguments. -/
def restElement : Parse Datum := do
  let mark ← here
  expect "..."
  let argument ← inner (.pattern [])
  if ← isPunctuator "=" then failBehind .defaultForRest
  if !(← isPunctuator ")") then failBehind .restNotLast
  return Tree.node "RestElement" mark [("argument", argument)]

/-- One parameter of a function. -/
def formalParameter (parameters : Parameters) : Parse Parameters := do
  let (item, bound) ← binding do
    if ← isPunctuator "..." then restElement inner else patternWithDefault inner []
  let strict := (← get).strict
  let noted := bound.foldl (fun parameters token => parameters.note strict (some token) token.text)
    parameters
  return { noted with
    items := noted.items ++ [item]
    simple := noted.simple && Tree.hasType item "Identifier" }

/-- The parameter list of a function. -/
def formalParameters (suspect : Option (Option Token)) : Parse Parameters := do
  expect "("
  let parameters ← extend
    (fun parameters => do
      if (← peek).kind = .endOfInput || (← isPunctuator ")") then return none
      else
        let next ← formalParameter inner parameters
        if !(← isPunctuator ")") then expect ","
        return some next)
    { suspect := suspect : Parameters }
  expect ")"
  return parameters

/-- A statement at the start of a body that is a string alone, and the text of that string. -/
def directive : Parse (Datum × Text) := do
  let token ← peek
  let mark ← here
  let tree ← expression inner
  endStatement
  let text := if Tree.hasType tree "Literal" then (token.raw.drop 1).dropLast else []
  return (Tree.node "ExpressionStatement" mark [("expression", tree)], text)

/-- The directives at the start of a body, the first of which may switch to strict code. -/
def directives : Parse (List Datum) := do
  let (statements, _, _) ← extend
    (fun ((statements, octal, goesOn) : List Datum × Option Token × Bool) => do
      let token ← peek
      if !goesOn || token.kind ≠ .string then return none
      else
        let (statement, text) ← directive inner
        let statements := statements ++ [statement]
        if text = [] then return some (statements, octal, false)
        else if text = "use strict" then
          modify fun reader => { reader with strict := true }
          if let some culprit := octal then failAt culprit .strictOctal
          if !(← get).allowStrictDirective then failAt token .strictDirectiveMisplaced
          return some (statements, octal, true)
        else
          let octal := if octal.isNone && token.octal then some token else octal
          return some (statements, octal, true))
    ([], none, true)
  return statements

/-- The body of a function. -/
def functionBody : Parse Datum := do
  let mark ← here
  expect "\x7b"
  let opening ← directives inner
  let outer ← get
  set { outer with labels := [], inIteration := false, inSwitch := false, inFunction := true }
  let statements ← many do
    if (← peek).kind = .endOfInput || (← isPunctuator "\x7d") then return none
    else
      let statement ← inner .item
      return some statement
  expect "\x7d"
  modify fun reader => { reader with
    labels := outer.labels
    inIteration := outer.inIteration
    inSwitch := outer.inSwitch
    inFunction := outer.inFunction }
  return Tree.node "BlockStatement" mark [("body", .list (opening ++ statements))]

/-- The rest of a function from its parameters on. -/
def functionRest (suspect : Option (Option Token)) (fault : Option SyntaxFault)
    : Parse (Parameters × Datum) := do
  let parameters ← formalParameters inner suspect
  let outer ← get
  set { outer with allowStrictDirective := parameters.simple }
  let body ← functionBody inner
  checkStrict parameters.suspect parameters.culprit (parameters.fault.or fault)
  modify fun reader => { reader with
    strict := outer.strict
    allowStrictDirective := outer.allowStrictDirective }
  return (parameters, body)

/-- Judges the name of a function: in strict code at once, elsewhere once its body is known. -/
def judgeName (token : Token) : Parse (Option (Option Token) × Option SyntaxFault) := do
  if (← get).strict then
    if Token.isRestricted token.text then failAt token .strictFunctionName
    return (none, none)
  else if Token.isRestricted token.text then return (some (some token), some .strictFunctionName)
  else if Token.isOneOf Token.strictWords token.text then
    return (some (some token), some .strictReservedWord)
  else return (none, none)

/-- The words in front of the name of a function, and whether they make it asynchronous or a
generator. -/
def functionHead : Parse (Bool × Bool) := do
  let async ← isContextual "async"
  if async then
    let _ ← advance
  expectKeyword "function"
  let generator ← if async then pure false else isPunctuator "*"
  if generator then
    let _ ← advance
  return (async, generator)

/-- The node of a function. -/
def functionNode (type : String) (mark : Mark) (async generator : Bool) (name : Datum)
    (parameters : Parameters) (body : Datum) : Datum :=
  Tree.node type mark [("id", name), ("params", .list parameters.items), ("body", body),
    ("generator", .boolean generator), ("isAsync", .boolean async)]

/-- A function declaration. -/
def functionDeclaration : Parse Datum := do
  let mark ← here
  let (async, generator) ← functionHead
  let token ← peek
  let name ← bindingName []
  let (suspect, fault) ← judgeName token
  let outer ← get
  set { outer with allowAwait := async, allowYield := !generator }
  let (parameters, body) ← functionRest inner suspect fault
  modify fun reader => { reader with
    allowAwait := outer.allowAwait
    allowYield := outer.allowYield }
  return functionNode "FunctionDeclaration" mark async generator name parameters body

/-- A function in an expression. -/
def functionExpression : Parse Datum := do
  let mark ← here
  let (async, generator) ← functionHead
  let outer ← get
  set { outer with allowAwait := async, allowYield := !generator }
  let (name, suspect, fault) ←
    if ← isPunctuator "(" then pure (Datum.null, none, none)
    else do
      let token ← peek
      let name ←
        if !outer.strict && !generator && (← isKeyword "yield") then do
          let mark ← here
          let word ← advance
          pure (Tree.identifier word.text mark)
        else bindingName []
      let (suspect, fault) ← judgeName token
      pure (name, suspect, fault)
  let (parameters, body) ← functionRest inner suspect fault
  modify fun reader => { reader with
    allowAwait := outer.allowAwait
    allowYield := outer.allowYield }
  return functionNode "FunctionExpression" mark async generator name parameters body

/-- The body of a method. -/
def methodBody (parameters : Parameters) : Parse Datum := do
  notPattern
  let outer ← get
  set { outer with allowStrictDirective := parameters.simple }
  let body ← isolated (functionBody inner)
  checkStrict parameters.suspect parameters.culprit parameters.fault
  modify fun reader => { reader with
    strict := outer.strict
    allowStrictDirective := outer.allowStrictDirective }
  return body

/-- A method from its parameters on, whose parameters and body allow the given words. -/
def methodFunction (async generator : Bool) (check : Parameters → Parse Unit) : Parse Datum := do
  let mark ← here
  let outer ← get
  set { outer with allowYield := !async, allowAwait := async || outer.allowAwait }
  let parameters ← formalParameters inner none
  check parameters
  if generator then modify fun reader => { reader with allowYield := false }
  let body ← methodBody inner parameters
  modify fun reader => { reader with
    allowYield := outer.allowYield
    allowAwait := outer.allowAwait }
  return functionNode "FunctionExpression" mark async generator .null parameters body

def method : Parse Datum := methodFunction inner false false fun _ => return

def asyncMethod : Parse Datum := methodFunction inner true false fun _ => return

def generatorMethod : Parse Datum := methodFunction inner false true fun _ => return

/-- A method that is called to read a property. -/
def getter : Parse Datum := do
  modify fun reader => { reader with allowYield := false }
  methodFunction inner false false fun parameters => do
    if !parameters.items.isEmpty then failBefore .getterParameters

/-- A method that is called to write a property. -/
def setter : Parse Datum :=
  methodFunction inner false false fun parameters => do
    match parameters.items with
    | [item] => if Tree.hasType item "RestElement" then failBefore .setterRest
    | _ => failBefore .setterParameters

end Parse

end DeviceScript
