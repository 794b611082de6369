import DeviceScript.Script.Member

/-! Expressions, from names and literals up to assignments and arrow functions. -/

namespace DeviceScript.Parse

/-- The binding strength of binary operators; zero marks the end of an operation. -/
def operatorStrengths : List (String × Nat) :=
  [("||", 1), ("&&", 2), ("|", 3), ("^", 4), ("&", 5), ("==", 6), ("!=", 6), ("===", 6), ("!==", 6),
    ("<", 7), (">", 7), ("<=", 7), (">=", 7), ("<<", 8), (">>", 8), (">>>", 8), ("+", 9), ("-", 9),
    ("*", 11), ("/", 11), ("%", 11)]

def strengthOf (allowIn : Bool) (token : Token) : Nat :=
  match token.kind with
  | .punctuator =>
    ((operatorStrengths.find? fun entry => Text.ofString entry.1 = token.text).map Prod.snd).getD 0
  | .keyword => if token.text = "instanceof" || (allowIn && token.text = "in") then 7 else 0
  | _ => 0

def assignmentOperators : List String :=
  ["=", "*=", "**=", "/=", "%=", "+=", "-=", "<<=", ">>=", ">>>=", "&=", "^=", "|="]

/-- An operation that waits for its right operand to end. -/
structure Pending where
  left : Datum
  operator : Text
  strength : Nat
  /-- The token at which the left operand starts. -/
  start : Token

/-- The node of a binary or logical operation. -/
def operationNode (operator : Text) (left right : Datum) (mark : Mark) : Datum :=
  let type := if operator = "||" || operator = "&&" then "LogicalExpression" else "BinaryExpression"
  Tree.node type mark [("operator", .text operator), ("left", left), ("right", right)]

/-- Ends the pending operations that bind at least as tightly as an operator that follows. -/
def reduce (strength : Nat) (right : Datum) (start : Token)
    : List Pending → Datum × Token × List Pending
  | [] => (right, start, [])
  | pending :: rest =>
    if strength ≤ pending.strength then
      reduce strength
        (operationNode pending.operator pending.left right (Tree.markOf pending.start 0))
        pending.start rest
    else (right, start, pending :: rest)

/-- Ends all pending operations. -/
def reduceAll (right : Datum) (start : Token) : List Pending → Datum
  | [] => right
  | pending :: rest =>
    reduceAll
      (operationNode pending.operator pending.left right
        (Tree.markOf pending.start start.lineStart))
      pending.start rest

variable (inner : Nonterminal → Parse Datum)

/-- An array literal. -/
def arrayLiteral : Parse Datum := do
  let mark ← here
  expect "["
  let elements ← many do
    if ← isPunctuator "]" then return none
    else if ← isPunctuator "," then
      let _ ← advance
      return some Datum.null
    else if ← isPunctuator "..." then
      let element ← spreadElement inner
      if !(← isPunctuator "]") then
        notPattern
        expect ","
      return some element
    else
      let element ← inherited (inner .assignment)
      if !(← isPunctuator "]") then expect ","
      return some element
  expect "]"
  return Tree.node "ArrayExpression" mark [("elements", .list elements)]

/-- A template with its substitutions. -/
def templateLiteral : Parse Datum := do
  if !(← peek).head then throw .strayTemplate
  let mark ← here
  let head ← advance
  let _ ← extend
    (fun (tail : Bool) => do
      if tail then return none
      else
        let _ ← expression inner
        if (← peek).kind ≠ .template then failBehind .illegalCharacter
        let piece ← advance
        return some piece.tail)
    head.tail
  return Tree.node "TemplateLiteral" mark []

/-- What follows the first expression of a group: more expressions, or the end of arrow
parameters. -/
inductive Group where
  | open (items : List Datum)
  | arrow (items : List Datum)

/-- Goes on with a group behind a comma. -/
def groupStep : Group → Parse (Option Group)
  | .arrow _ => return none
  | .open items => do
    if (← peek).kind = .endOfInput || !(← isPunctuator ",") then return none
    else
      let _ ← advance
      if ← isPunctuator ")" then
        let _ ← advance
        return some (.arrow items)
      else if ← isPunctuator "..." then
        if !(← get).isBinding then unexpected (← peek)
        let rest ← restElement inner
        expect ")"
        if !(← isPunctuator "=>") then expect "=>"
        modify fun reader => { reader with isBinding := false }
        return some (.arrow (items ++ [rest]))
      else
        let item ← inherited (inner .assignment)
        return some (.open (items ++ [item]))

/-- Expressions between parentheses, or the parameters of an arrow function. -/
def group : Parse Datum := do
  expect "("
  if ← isPunctuator ")" then
    let _ ← advance
    if !(← isPunctuator "=>") then expect "=>"
    return Tree.parameters [] false
  else
    let start ← peek
    if ← isPunctuator "..." then
      let rest ← restElement inner
      expect ")"
      if !(← isPunctuator "=>") then expect "=>"
      return Tree.parameters [rest] false
    else
      modify fun reader => { reader with isBinding := true }
      let first ← inherited (inner .assignment)
      if ← isPunctuator "," then modify fun reader => { reader with isTarget := false }
      match ← extend (groupStep inner) (.open [first]) with
      | .arrow items => return Tree.parameters (items.map Tree.asPattern) false
      | .open items =>
        let tree :=
          match items with
          | [item] => item
          | items =>
            Tree.node "SequenceExpression" (Tree.markOf start 0) [("expressions", .list items)]
        expect ")"
        let result ←
          if ← isPunctuator "=>" then do
            if !(items.length = 1 && Tree.hasType first "Identifier"
                && first.textField "name" = "yield") then
              if !(← get).isBinding then unexpected (← peek)
            pure (Tree.parameters (items.map Tree.asPattern) false)
          else pure tree
        modify fun reader => { reader with isBinding := false }
        return result

/-- A name, a literal, a group, or another expression that no operator takes apart. -/
def primary : Parse Datum := do
  let mark ← here
  let token ← peek
  let literal (value : Datum) : Parse Datum := do
    notPattern
    let _ ← advance
    return Tree.literal value token.raw mark
  match token.kind with
  | .identifier =>
    if (← get).allowAwait && token.text = "await" then unexpected token
    if ← isAsyncFunction then functionExpression inner
    else
      let _ ← advance
      return Tree.identifier token.text mark
  | .numeric | .string =>
    if (← get).strict && token.octal then failAt token .strictOctal
    literal (if token.kind = .string then .text token.text else token.number)
  | .boolean => literal (.boolean (token.text = "true"))
  | .null => literal .null
  | .template => templateLiteral inner
  | .punctuator =>
    if token.text = "(" then
      modify fun reader => { reader with isBinding := false }
      inherited (group inner)
    else if token.text = "[" then inherited (arrayLiteral inner)
    else if token.text = "\x7b" then inherited (objectLiteral inner)
    else if token.text = "/" || token.text = "/=" then
      notPattern
      let reader ← get
      let (pattern, stop) ← scanned reader.ahead.pattern
      set { reader with next := pattern, cursor := stop }
      let _ ← advance
      return Tree.node "Literal" mark
        [("value", .null), ("raw", .text pattern.raw), ("regex", .table [("pattern", .null)])]
    else unexpectedNext
  | .keyword =>
    let reader ← get
    if !reader.strict && reader.allowYield && token.text = "yield" then
      let _ ← advance
      return Tree.identifier token.text mark
    else if !reader.strict && token.text = "let" then
      let _ ← advance
      return Tree.identifier token.text mark
    else
      notPattern
      if token.text = "function" then functionExpression inner
      else if token.text = "this" then
        let _ ← advance
        return Tree.node "ThisExpression" mark []
      else if token.text = "class" then
        classRest inner "ClassExpression" do
          if (← peek).kind = .identifier then bindingName [] else return .null
      else if token.text = "import" && (← isImportCall) then
        let _ ← advance
        return Tree.node "Import" mark []
      else unexpectedNext
  | _ => unexpectedNext

/-- The arguments of a call. -/
def arguments (argument : Parse Datum) : Parse (List Datum) := do
  expect "("
  let items ← many do
    if ← isPunctuator ")" then return none
    else
      let item ← if ← isPunctuator "..." then spreadElement inner else isolated argument
      if !(← isPunctuator ")") then expect ","
      return some item
  expect ")"
  return items

/-- The name of a property behind a point. -/
def propertyName : Parse Datum := do
  let mark ← here
  let token ← advance
  match token.kind with
  | .identifier | .keyword | .boolean | .null => return Tree.identifier token.text mark
  | _ => unexpected token

/-- The node of a property access. -/
def memberNode (mark : Mark) (object property : Datum) (computed : Bool) : Datum :=
  Tree.node "MemberExpression" mark
    [("object", object), ("property", property), ("computed", .boolean computed)]

/-- Goes on with a property access or a template behind an expression. -/
def memberStep (mark : Mark) (object : Datum) : Parse (Option Datum) := do
  let token ← peek
  if ← isPunctuator "." then
    targetOnly
    expect "."
    let property ← propertyName
    return some (memberNode mark object property false)
  else if ← isPunctuator "[" then
    targetOnly
    expect "["
    let property ← isolated (expression inner)
    expect "]"
    return some (memberNode mark object property true)
  else if token.kind = .template && token.head then
    let _ ← templateLiteral inner
    return some (Tree.node "TaggedTemplateExpression" mark [])
  else return none

/-- The parent of the object, where a method may name it. -/
def parentObject (followers : List String) : Parse Datum := do
  let mark ← here
  expectKeyword "super"
  if !(← isAnyOf followers) then unexpected (← peek)
  return Tree.node "Super" mark []

/-- A construction. -/
def construction : Parse Datum := do
  let mark ← here
  let _ ← advance
  if ← isPunctuator "." then
    let _ ← advance
    if (← get).inFunction && (← isContextual "target") then
      let _ ← advance
      return Tree.node "MetaProperty" mark []
    else unexpected (← peek)
  else if ← isKeyword "import" then unexpected (← peek)
  else
    let _ ← isolated (inner .callee)
    if ← isPunctuator "(" then
      let _ ← arguments inner (inner .assignment)
    notPattern
    return Tree.node "NewExpression" mark []

/-- A construction or a primary expression. -/
def constructionOrPrimary : Parse Datum := do
  inherited (if ← isKeyword "new" then construction inner else primary inner)

/-- The callee of a construction. -/
def callee : Parse Datum := do
  let mark := Tree.markOf (← peek) 0
  let first ←
    if (← get).inFunction && (← isKeyword "super") then parentObject ["[", "."]
    else constructionOrPrimary inner
  extend (memberStep inner mark) first

/-- An expression with its property accesses and calls. -/
def postfixed : Parse Datum := do
  let token ← peek
  let mark := Tree.markOf token 0
  let mayBeAsync ← isContextual "async"
  let allowIn := (← get).allowIn
  modify fun reader => { reader with allowIn := true }
  let first ←
    if (← get).inFunction && (← isKeyword "super") then parentObject ["(", ".", "["]
    else constructionOrPrimary inner
  let tree ← extend
    (fun tree => do
      if ← isPunctuator "(" then
        let async := mayBeAsync && token.line = (← peek).line
        notPattern
        let items ←
          if async then
            arguments inner do
              let item ← inner .assignment
              modify fun reader => { reader with patternOnly := none }
              return item
          else arguments inner (inner .assignment)
        if Tree.hasType tree "Import" && items.length ≠ 1 then failBefore .importArguments
        if async && (← isPunctuator "=>") then
          return some (Tree.parameters (items.map Tree.asPattern) true)
        else
          let fields : List (Text × Datum) := [("callee", tree), ("arguments", .list items)]
          return some (Tree.node "CallExpression" mark fields)
      else memberStep inner mark tree)
    first
  modify fun reader => { reader with allowIn := allowIn }
  return tree

/-- Refuses an increment of what strict code does not let change, or of what cannot change. -/
def checkIncrement (tree : Datum) (fault : SyntaxFault) : Parse Unit := do
  let reader ← get
  if reader.strict && Tree.hasType tree "Identifier"
      && Token.isRestricted (tree.textField "name") then
    failBefore fault
  if !reader.isTarget then failBefore .invalidAssignmentTarget

/-- An increment or a decrement. -/
def updateNode (mark : Mark) (operator : Text) (argument : Datum) (leading : Bool) : Datum :=
  Tree.node "UpdateExpression" mark
    [("operator", .text operator), ("argument", argument), ("prefix", .boolean leading)]

def update : Parse Datum := do
  let token ← peek
  if ← isAnyOf ["++", "--"] then
    let _ ← advance
    let argument ← inherited (inner .unary)
    checkIncrement argument .strictIncrement
    notPattern
    return updateNode (Tree.markOf token 0) token.text argument true
  else
    let argument ← inherited (postfixed inner)
    if !(← get).lineBreak && (← isAnyOf ["++", "--"]) then
      checkIncrement argument .strictDecrement
      notPattern
      let operator ← advance
      return updateNode (Tree.markOf token 0) operator.text argument false
    else return argument

/-- An expression with its leading operators. -/
def unary : Parse Datum := do
  let token ← peek
  let isWord := token.kind = .keyword && Token.isOneOf ["delete", "void", "typeof"] token.text
  if isWord || (← isAnyOf ["+", "-", "~", "!"]) then
    let _ ← advance
    let argument ← inherited (inner .unary)
    if (← get).strict && token.text = "delete" && Tree.hasType argument "Identifier" then
      failBefore .strictDelete
    notPattern
    return Tree.node "UnaryExpression" (Tree.markOf token 0)
      [("operator", .text token.text), ("argument", argument), ("prefix", .boolean true)]
  else if (← get).allowAwait && (← isContextual "await") then
    let mark ← here
    let _ ← advance
    let _ ← inner .unary
    return Tree.node "AwaitExpression" mark []
  else update inner

/-- A power, or an expression with its leading operators. -/
def exponentiation : Parse Datum := do
  let token ← peek
  let left ← inherited (unary inner)
  if !Tree.hasType left "UnaryExpression" && (← isPunctuator "**") then
    let _ ← advance
    notPattern
    let right ← isolated (inner .exponentiation)
    return operationNode "**" left right (Tree.markOf token 0)
  else return left

/-- Operands and the operators between them, grouped by binding strength. -/
def binary : Parse Datum := do
  let token ← peek
  let first ← inherited (exponentiation inner)
  let (last, start, pending) ← extend
    (fun ((right, start, pending) : Datum × Token × List Pending) => do
      let reader ← get
      let strength := strengthOf reader.allowIn reader.next
      if strength = 0 then return none
      else
        let (left, start, pending) := reduce strength right start pending
        let operator ← advance
        if pending.isEmpty then notPattern
        let next ← peek
        let operand ← isolated (exponentiation inner)
        return some (operand, next, ⟨left, operator.text, strength, start⟩ :: pending))
    (first, token, [])
  return reduceAll last start pending

/-- A choice between two expressions, or an operation. -/
def conditional : Parse Datum := do
  let token ← peek
  let test ← inherited (binary inner)
  if ← isPunctuator "?" then
    let _ ← advance
    let allowIn := (← get).allowIn
    modify fun reader => { reader with allowIn := true }
    let _ ← isolated (inner .assignment)
    modify fun reader => { reader with allowIn := allowIn }
    expect ":"
    let _ ← isolated (inner .assignment)
    notPattern
    return Tree.node "ConditionalExpression" (Tree.markOf token 0) [("test", test)]
  else return test

/-- Tells whether an operand of a yield follows. -/
def startsExpression : Parse Bool := do
  let token ← peek
  match token.kind with
  | .punctuator =>
    return Token.isOneOf ["[", "(", "\x7b", "+", "-", "!", "~", "++", "--", "/", "/="] token.text
  | .keyword =>
    return Token.isOneOf
      ["class", "delete", "function", "let", "new", "super", "this", "typeof", "void", "yield"]
      token.text
  | _ => return true

/-- A yield in a generator. -/
def yield : Parse Datum := do
  let mark ← here
  expectKeyword "yield"
  if !(← get).lineBreak then
    let allowYield := (← get).allowYield
    modify fun reader => { reader with allowYield := false }
    if ← isPunctuator "*" then
      let _ ← advance
      let argument ← inner .assignment
      modify fun reader => { reader with allowYield := allowYield }
      return Tree.node "YieldExpression" mark [("argument", argument)]
    else if ← startsExpression then
      let argument ← inner .assignment
      modify fun reader => { reader with allowYield := allowYield }
      return Tree.node "YieldExpression" mark [("argument", argument)]
    else
      modify fun reader => { reader with allowYield := allowYield }
      return Tree.node "YieldExpression" mark []
  else return Tree.node "YieldExpression" mark []

/-- Checks an expression as the parameters of an arrow function. -/
def arrowParameters (items : List Datum) (async : Bool) : Parse Parameters := do
  let reader ← get
  let noted ← items.foldlM
    (fun (parameters : Parameters) item => do
      if Tree.hasType item "AssignmentPattern" then
        let right := item.field "right"
        if Tree.hasType right "YieldExpression" && !(right.field "argument").isNull then
          unexpected reader.next
      else if async && Tree.hasType item "Identifier" && item.textField "name" = "await" then
        unexpected reader.next
      let noted := (Tree.boundNames item).foldl
        (fun parameters name => parameters.note reader.strict none name) parameters
      return { noted with simple := noted.simple && Tree.hasType item "Identifier" })
    ({ items := items } : Parameters)
  if (reader.strict || !reader.allowYield) && items.any (Tree.hasType · "YieldExpression") then
    unexpected reader.next
  if noted.fault = some .strictParameterRepeated then failBehind .strictParameterRepeated
  return noted

/-- The rest of an arrow function from its arrow on. -/
def arrowFunction (start : Token) (items : List Datum) (async : Bool) : Parse Datum := do
  let parameters ← arrowParameters items async
  if (← get).lineBreak then unexpected (← peek)
  let outer ← get
  set { outer with
    patternOnly := none
    allowStrictDirective := parameters.simple
    allowYield := true
    allowAwait := async }
  expect "=>"
  if ← isPunctuator "\x7b" then
    let allowIn := (← get).allowIn
    modify fun reader => { reader with allowIn := true }
    let _ ← functionBody inner
    modify fun reader => { reader with allowIn := allowIn }
  else
    let _ ← isolated (inner .assignment)
  checkStrict parameters.suspect parameters.culprit parameters.fault
  modify fun reader => { reader with
    strict := outer.strict
    allowStrictDirective := outer.allowStrictDirective
    allowYield := outer.allowYield
    allowAwait := outer.allowAwait }
  return Tree.node "ArrowFunctionExpression" (Tree.markOf start 0) []

/-- An assignment behind its left side. -/
def assignmentRest (start : Token) (left : Datum) : Parse Datum := do
  let reader ← get
  if !reader.isTarget then failBefore .invalidAssignmentTarget
  if reader.strict && Tree.hasType left "Identifier" then
    let name := left.textField "name"
    if Token.isRestricted name then failAt start .strictAssignment
    if Token.isOneOf Token.strictWords name then failAt start .strictReservedWord
  let plain ← isPunctuator "="
  if !plain then notPattern
  let operator ← advance
  let right ← isolated (inner .assignment)
  modify fun reader => { reader with patternOnly := none }
  return Tree.node "AssignmentExpression" (Tree.markOf start 0)
    [("operator", .text operator.text), ("left", if plain then Tree.asPattern left else left),
      ("right", right)]

/-- An assignment, an arrow function, or any expression that binds tighter. -/
def assignment : Parse Datum := do
  if !(← get).allowYield && (← isKeyword "yield") then yield inner
  else
    let start ← peek
    let tree ← conditional inner
    let next ← peek
    let tree ←
      if start.kind = .identifier && start.line = next.line && start.text = "async"
          && (next.kind = .identifier || (← isKeyword "yield")) then do
        let argument ← primary inner
        pure (Tree.parameters [Tree.asPattern argument] true)
      else pure tree
    if Tree.hasType tree "ArrowParameterPlaceHolder" then
      notPattern
      arrowFunction inner start (Tree.items tree "params") (Tree.flag tree "async")
    else if ← isPunctuator "=>" then
      notPattern
      if Tree.hasType tree "Identifier" then arrowFunction inner start [tree] false
      else return tree
    else if ← isAnyOf assignmentOperators then assignmentRest inner start tree
    else return tree

end DeviceScript.Parse
