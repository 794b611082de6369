import DeviceScript.Script.Pattern

/-! Statements. -/

namespace DeviceScript.Parse

/-- Tells whether a declaration follows rather than a use of `let` as a name. -/
def isLexicalDeclaration : Parse Bool :=
  second fun token =>
    match token.kind with
    | .identifier => true
    | .punctuator => token.text = "[" || token.text = "\x7b"
    | .keyword => token.text = "let" || token.text = "yield"
    | _ => false

variable (inner : Nonterminal → Parse Datum)

/-- A block of statements. -/
def block : Parse Datum := do
  let mark ← here
  expect "\x7b"
  let statements ← many do
    if ← isPunctuator "\x7d" then return none
    else
      let statement ← inner .item
      return some statement
  expect "\x7d"
  return Tree.node "BlockStatement" mark [("body", .list statements)]

def expressionNode (mark : Mark) (tree : Datum) : Datum :=
  Tree.node "ExpressionStatement" mark [("expression", tree)]

def expressionStatement : Parse Datum := do
  let mark ← here
  let tree ← expression inner
  endStatement
  return expressionNode mark tree

/-- A branch of a conditional statement. -/
def branch : Parse Datum := do
  if (← get).strict && (← isKeyword "function") then failBefore .strictFunction
  inner .statement

/-- A condition between parentheses. -/
def condition : Parse Datum := do
  expect "("
  let test ← expression inner
  expect ")"
  return test

def ifStatement : Parse Datum := do
  let mark ← here
  expectKeyword "if"
  let test ← condition inner
  let consequent ← branch inner
  let alternate ←
    if ← isKeyword "else" then do
      let _ ← advance
      branch inner
    else pure Datum.null
  return Tree.node "IfStatement" mark
    [("test", test), ("consequent", consequent), ("alternate", alternate)]

/-- The body of a loop. -/
def loopBody (body : Parse Datum) : Parse Datum := do
  let outer := (← get).inIteration
  modify fun reader => { reader with inIteration := true }
  let tree ← body
  modify fun reader => { reader with inIteration := outer }
  return tree

def doWhileStatement : Parse Datum := do
  let mark ← here
  expectKeyword "do"
  let _ ← loopBody (inner .statement)
  expectKeyword "while"
  let _ ← condition inner
  if ← isPunctuator ";" then
    let _ ← advance
  return Tree.node "DoWhileStatement" mark []

def whileStatement : Parse Datum := do
  let mark ← here
  expectKeyword "while"
  let test ← condition inner
  let body ← loopBody (inner .statement)
  return Tree.node "WhileStatement" mark [("test", test), ("body", body)]

/-- Reads something in which `in` is no operator. -/
def withoutIn {α : Type} (action : Parse α) : Parse α := do
  let outer := (← get).allowIn
  modify fun reader => { reader with allowIn := false }
  let result ← action
  modify fun reader => { reader with allowIn := outer }
  return result

/-- The kinds of loop that a header opens, as far as it tells. -/
inductive LoopHeader where
  | counting (initial : Datum)
  | overKeys
  | overValues

/-- The part of a loop header over keys behind the loop variable. -/
def overKeys : Parse LoopHeader := do
  let _ ← advance
  let _ ← expression inner
  return .overKeys

/-- The part of a loop header over values behind the loop variable. -/
def overValues : Parse LoopHeader := do
  let _ ← advance
  let _ ← inner .assignment
  return .overValues

/-- A loop header that starts with a declaration of the function. -/
def variableHeader : Parse LoopHeader := do
  let mark ← here
  let _ ← advance
  let declarations ← withoutIn (bindingList (variableBinding inner true))
  let single := declarations.head?.filter fun _ => declarations.length = 1
  if single.isSome && (← isKeyword "in") then
    let declarator := single.getD .null
    let target := declarator.field "id"
    let isPattern := Tree.hasType target "ArrayPattern" || Tree.hasType target "ObjectPattern"
    if !(declarator.field "init").isNull && (isPattern || (← get).strict) then
      failBefore (.loopInitializer "for-in")
    overKeys inner
  else if single.any (fun declarator => (declarator.field "init").isNull)
      && (← isContextual "of") then
    overValues inner
  else
    expect ";"
    return .counting (declarationNode mark "var" declarations)

/-- A loop header that starts with a declaration of the block. -/
def lexicalHeader : Parse LoopHeader := do
  let mark ← here
  let keyword ← advance
  if !(← get).strict && (← peek).text = "in" then overKeys inner
  else
    let declarations ← withoutIn (bindingList (lexicalBinding inner keyword.text true))
    let single := declarations.head?.filter fun declarator =>
      declarations.length = 1 && (declarator.field "init").isNull
    if single.isSome && (← isKeyword "in") then overKeys inner
    else if single.isSome && (← isContextual "of") then overValues inner
    else
      endStatement
      return .counting (declarationNode mark keyword.text declarations)

/-- A loop header that starts with an expression. -/
def expressionHeader : Parse LoopHeader := do
  let start ← peek
  let first ← withoutIn (inherited (inner .assignment))
  let isTarget := (← get).isTarget && !Tree.hasType first "AssignmentExpression"
  if ← isKeyword "in" then
    if !isTarget then failBefore .invalidForInTarget
    overKeys inner
  else if ← isContextual "of" then
    if !isTarget then failBefore .invalidForTarget
    overValues inner
  else
    let others ← many do
      if ← isPunctuator "," then
        let _ ← advance
        let item ← isolated (inner .assignment)
        return some item
      else return none
    expect ";"
    if others.isEmpty then return .counting first
    else
      let mark := Tree.markOf start 0
      let fields : List (Text × Datum) := [("expressions", .list (first :: others))]
      return .counting (Tree.node "SequenceExpression" mark fields)

/-- The part of a loop header up to its first semicolon, or all of it. -/
def loopHeader : Parse LoopHeader := do
  if ← isPunctuator ";" then
    let _ ← advance
    return .counting .null
  else if ← isKeyword "var" then variableHeader inner
  else if (← isKeyword "const") || (← isKeyword "let") then lexicalHeader inner
  else expressionHeader inner

def forStatement : Parse Datum := do
  let mark ← here
  expectKeyword "for"
  expect "("
  let header ← loopHeader inner
  let (type, fields) ←
    match header with
    | .overKeys => pure ("ForInStatement", [])
    | .overValues => pure ("ForOfStatement", [])
    | .counting initial => do
      let test ← if ← isPunctuator ";" then pure Datum.null else expression inner
      expect ";"
      let update ← if ← isPunctuator ")" then pure Datum.null else expression inner
      pure ("ForStatement",
        [(Text.ofString "init", initial), (Text.ofString "test", test),
          (Text.ofString "update", update)])
  expect ")"
  let body ← loopBody (isolated (inner .statement))
  return Tree.node type mark (fields ++ [(Text.ofString "body", body)])

/-- The label that a jump names, if it names one. -/
def jumpLabel : Parse Bool := do
  let reader ← get
  if reader.next.kind = .identifier && !reader.lineBreak then
    let label ← bindingName []
    let name := label.textField "name"
    if !(← get).labels.contains name then failBehind (.unknownLabel name)
    return true
  else return false

def continueStatement : Parse Datum := do
  let mark ← here
  expectKeyword "continue"
  let labelled ← jumpLabel
  endStatement
  if !labelled && !(← get).inIteration then failBehind .illegalContinue
  return Tree.node "ContinueStatement" mark []

def breakStatement : Parse Datum := do
  let mark ← here
  expectKeyword "break"
  let labelled ← jumpLabel
  endStatement
  let reader ← get
  if !labelled && !reader.inIteration && !reader.inSwitch then failBehind .illegalBreak
  return Tree.node "BreakStatement" mark []

def returnStatement : Parse Datum := do
  if !(← get).inFunction then failBefore .illegalReturn
  let mark ← here
  expectKeyword "return"
  let reader ← get
  let ends := (← isPunctuator ";") || (← isPunctuator "\x7d") || reader.lineBreak
    || reader.next.kind = .endOfInput
  let argument ←
    if ends && reader.next.kind ≠ .string && reader.next.kind ≠ .template then pure Datum.null
    else expression inner
  endStatement
  return Tree.node "ReturnStatement" mark [("argument", argument)]

def withStatement : Parse Datum := do
  if (← get).strict then failBefore .strictWith
  let mark ← here
  expectKeyword "with"
  let _ ← condition inner
  let _ ← inner .statement
  return Tree.node "WithStatement" mark []

/-- One case of a switch; the answer tells whether it is the default. -/
def switchCase : Parse Bool := do
  let isDefault ← isKeyword "default"
  if isDefault then
    let _ ← advance
  else
    expectKeyword "case"
    let _ ← expression inner
  expect ":"
  let _ ← many do
    if (← isPunctuator "\x7d") || (← isKeyword "default") || (← isKeyword "case") then return none
    else
      let statement ← inner .item
      return some statement
  return isDefault

def switchStatement : Parse Datum := do
  let mark ← here
  expectKeyword "switch"
  let _ ← condition inner
  let outer := (← get).inSwitch
  modify fun reader => { reader with inSwitch := true }
  expect "\x7b"
  let _ ← extend
    (fun (seen : Bool) => do
      if ← isPunctuator "\x7d" then return none
      else
        let isDefault ← switchCase inner
        if isDefault && seen then failBehind .repeatedDefault
        return some (seen || isDefault))
    false
  expect "\x7d"
  modify fun reader => { reader with inSwitch := outer }
  return Tree.node "SwitchStatement" mark []

/-- A class declaration. -/
def classDeclaration : Parse Datum :=
  classRest inner "ClassDeclaration" (bindingName [])

/-- The statement behind a label. -/
def labelledBody : Parse Datum := do
  if ← isKeyword "class" then unexpected (← peek)
  else if ← isKeyword "function" then
    let token ← peek
    let declaration ← functionDeclaration inner
    if (← get).strict then failAt token .strictFunction
    if Tree.flag declaration "generator" then failAt token .generatorAsBody
    return declaration
  else inner .statement

/-- A statement that starts with a name: an expression, or a statement with a label. -/
def labelledStatement : Parse Datum := do
  let mark ← here
  let tree ← expression inner
  if Tree.hasType tree "Identifier" && (← isPunctuator ":") then
    let _ ← advance
    let name := tree.textField "name"
    let labels := (← get).labels
    if labels.contains name then failBehind (.repeatedLabel name)
    modify fun reader => { reader with labels := name :: labels }
    let _ ← labelledBody inner
    modify fun reader => { reader with labels := reader.labels.erase name }
    return Tree.node "LabeledStatement" mark []
  else
    endStatement
    return expressionNode mark tree

def throwStatement : Parse Datum := do
  let mark ← here
  expectKeyword "throw"
  if (← get).lineBreak then failBehind .lineBreakAfterThrow
  let _ ← expression inner
  endStatement
  return Tree.node "ThrowStatement" mark []

/-- Refuses a name that is bound already. -/
def checkDistinct (names : List Text) : List Token → Parse Unit
  | [] => return
  | token :: tokens => do
    if names.contains token.text then failBefore (.duplicateBinding token.text)
    checkDistinct (token.text :: names) tokens

/-- The handler of a try statement. -/
def catchClause : Parse Unit := do
  expectKeyword "catch"
  expect "("
  if ← isPunctuator ")" then unexpected (← peek)
  let (target, bound) ← binding (inner (.pattern []))
  checkDistinct [] bound
  if (← get).strict && Tree.hasType target "Identifier"
      && Token.isRestricted (target.textField "name") then
    failBefore .strictCatchName
  expect ")"
  let _ ← block inner

def tryStatement : Parse Datum := do
  let mark ← here
  expectKeyword "try"
  let _ ← block inner
  let handled ← isKeyword "catch"
  if handled then catchClause inner
  let finished ← isKeyword "finally"
  if finished then
    let _ ← advance
    let _ ← block inner
  if !handled && !finished then failBehind .missingHandler
  return Tree.node "TryStatement" mark []

def debuggerStatement : Parse Datum := do
  let mark ← here
  expectKeyword "debugger"
  endStatement
  return Tree.node "DebuggerStatement" mark []

def variableStatement : Parse Datum := do
  let mark ← here
  expectKeyword "var"
  let declarations ← bindingList (variableBinding inner false)
  endStatement
  return declarationNode mark "var" declarations

def emptyStatement : Parse Datum := do
  let mark ← here
  expect ";"
  return Tree.node "EmptyStatement" mark []

/-- The statements that start with a keyword. -/
def keywordStatements : List (String × Parse Datum) :=
  [("break", breakStatement), ("continue", continueStatement), ("debugger", debuggerStatement),
    ("do", doWhileStatement inner), ("for", forStatement inner),
    ("function", functionDeclaration inner), ("if", ifStatement inner),
    ("return", returnStatement inner), ("switch", switchStatement inner),
    ("throw", throwStatement inner), ("try", tryStatement inner), ("var", variableStatement inner),
    ("while", whileStatement inner), ("with", withStatement inner)]

/-- A statement. -/
def statement : Parse Datum := do
  let token ← peek
  match token.kind with
  | .punctuator =>
    if token.text = "\x7b" then block inner
    else if token.text = ";" then emptyStatement
    else expressionStatement inner
  | .identifier =>
    if ← isAsyncFunction then functionDeclaration inner else labelledStatement inner
  | .keyword =>
    match (keywordStatements inner).find? fun entry => Text.ofString entry.1 = token.text with
    | some (_, rule) => rule
    | none => expressionStatement inner
  | .endOfInput => unexpected token
  | _ => expressionStatement inner

/-- A statement or a declaration. -/
def item : Parse Datum := do
  modify fun reader => { reader with isTarget := true, isBinding := true }
  let token ← peek
  if token.kind = .keyword then
    if token.text = "export" then failAt token .unexpectedModuleItem
    else if token.text = "import" then
      if ← isImportCall then expressionStatement inner
      else failAt token .unexpectedModuleItem
    else if token.text = "const" then lexicalDeclaration inner
    else if token.text = "function" then functionDeclaration inner
    else if token.text = "class" then classDeclaration inner
    else if token.text = "let" then
      if ← isLexicalDeclaration then lexicalDeclaration inner else statement inner
    else statement inner
  else statement inner

/-- The rule of a nonterminal. -/
def rule : Nonterminal → Parse Datum
  | .assignment => assignment inner
  | .unary => unary inner
  | .exponentiation => exponentiation inner
  | .callee => callee inner
  | .postfixed => postfixed inner
  | .pattern keyword => pattern inner keyword
  | .statement => statement inner
  | .item => item inner

end DeviceScript.Parse

namespace DeviceScript.Script

/-- Reads a nonterminal whose constructs nest no deeper than a given number of levels. -/
def read : Nat → Nonterminal → Parse Datum
  | 0, _ => Parse.failBehind .nestingTooDeep
  | levels + 1, nonterminal => Parse.rule (read levels) nonterminal

/-- The statements of a script and its place. -/
def program (inner : Nonterminal → Parse Datum) : Parse Datum := do
  let mark ← Parse.here
  let opening ← Parse.directives inner
  let statements ← Parse.many do
    if (← Parse.peek).kind = .endOfInput then return none
    else
      let statement ← inner .item
      return some statement
  return Tree.node "Program" mark [("body", .list (opening ++ statements))]

/-- The syntax tree of a script. Every construct takes at least one code point before another one of
its kind opens inside it, so the length of the text bounds the nesting. -/
def parse (text : Text) : Except Unreadable Datum := do
  let reader ← (Reader.start text).mapError .refused
  let (tree, _) ← (program (read (4 * text.length + 8))).run reader
  return tree

end DeviceScript.Script
