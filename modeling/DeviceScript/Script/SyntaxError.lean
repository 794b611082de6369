import DeviceScript.Text.Basic

/-! The ways in which a text fails to be a script, and what keeps a text from being read. -/

namespace DeviceScript

/-- The reason why a text is no script. -/
inductive SyntaxFault where
  | illegalCharacter
  | unexpectedToken (spelling : Text)
  | unexpectedIdentifier
  | unexpectedNumber
  | unexpectedString
  | unexpectedTemplate (spelling : Text)
  | unexpectedEnd
  | unexpectedReservedWord
  | unexpectedModuleItem
  | importArguments
  | escapedReservedWord
  | invalidHexadecimalEscape
  | octalInTemplate
  | unterminatedPattern
  | invalidPattern
  | invalidAssignmentTarget
  | invalidForInTarget
  | invalidForTarget
  | loopInitializer (loop : Text)
  | missingInitializer (keyword : Text)
  | letAsName
  | defaultForRest
  | propertyAfterRest
  | restNotLast
  | duplicatePrototype
  | duplicateBinding (name : Text)
  | duplicateConstructor
  | specialConstructor
  | asyncConstructor
  | staticPrototype
  | getterParameters
  | setterParameters
  | setterRest
  | generatorAsBody
  | illegalReturn
  | illegalBreak
  | illegalContinue
  | unknownLabel (name : Text)
  | repeatedLabel (name : Text)
  | lineBreakAfterThrow
  | missingHandler
  | repeatedDefault
  | strictDirectiveMisplaced
  | strictOctal
  | strictDelete
  | strictFunction
  | strictFunctionName
  | strictAssignment
  | strictIncrement
  | strictDecrement
  | strictWith
  | strictParameterName
  | strictParameterRepeated
  | strictReservedWord
  | strictVariableName
  | strictCatchName
  | nestingTooDeep
  deriving DecidableEq

namespace SyntaxFault

def message : SyntaxFault → Text
  | illegalCharacter => "Unexpected token ILLEGAL"
  | unexpectedToken spelling => "Unexpected token " ++ spelling
  | unexpectedIdentifier => "Unexpected identifier"
  | unexpectedNumber => "Unexpected number"
  | unexpectedString => "Unexpected string"
  | unexpectedTemplate spelling => "Unexpected quasi " ++ spelling
  | unexpectedEnd => "Unexpected end of input"
  | unexpectedReservedWord => "Unexpected reserved word"
  | unexpectedModuleItem => "Unexpected token"
  | importArguments => "Unexpected token"
  | escapedReservedWord => "Keyword must not contain escaped characters"
  | invalidHexadecimalEscape => "Invalid hexadecimal escape sequence"
  | octalInTemplate => "Octal literals are not allowed in template strings."
  | unterminatedPattern => "Invalid regular expression: missing /"
  | invalidPattern => "Invalid regular expression"
  | invalidAssignmentTarget => "Invalid left-hand side in assignment"
  | invalidForInTarget => "Invalid left-hand side in for-in"
  | invalidForTarget => "Invalid left-hand side in for-loop"
  | loopInitializer loop => loop ++ " loop variable declaration may not have an initializer"
  | missingInitializer keyword => "Missing initializer in " ++ keyword ++ " declaration"
  | letAsName => "let is disallowed as a lexically bound name"
  | defaultForRest => "Unexpected token ="
  | propertyAfterRest => "Unexpected token"
  | restNotLast => "Rest parameter must be last formal parameter"
  | duplicatePrototype => "Duplicate __proto__ fields are not allowed in object literals"
  | duplicateBinding name => "Duplicate binding " ++ name
  | duplicateConstructor => "A class may only have one constructor"
  | specialConstructor => "Class constructor may not be an accessor"
  | asyncConstructor => "Class constructor may not be an async method"
  | staticPrototype => "Classes may not have static property named prototype"
  | getterParameters => "Getter must not have any formal parameters"
  | setterParameters => "Setter must have exactly one formal parameter"
  | setterRest => "Setter function argument must not be a rest parameter"
  | generatorAsBody => "Generator declarations are not allowed in legacy contexts"
  | illegalReturn => "Illegal return statement"
  | illegalBreak => "Illegal break statement"
  | illegalContinue => "Illegal continue statement"
  | unknownLabel name => "Undefined label '" ++ name ++ "'"
  | repeatedLabel name => "Label '" ++ name ++ "' has already been declared"
  | lineBreakAfterThrow => "Illegal newline after throw"
  | missingHandler => "Missing catch or finally after try"
  | repeatedDefault => "More than one default clause in switch statement"
  | strictDirectiveMisplaced =>
    "Illegal 'use strict' directive in function with non-simple parameter list"
  | strictOctal => "Octal literals are not allowed in strict mode."
  | strictDelete => "Delete of an unqualified identifier in strict mode."
  | strictFunction =>
    "In strict mode code, functions can only be declared at top level or inside a block"
  | strictFunctionName => "Function name may not be eval or arguments in strict mode"
  | strictAssignment => "Assignment to eval or arguments is not allowed in strict mode"
  | strictIncrement =>
    "Prefix increment/decrement may not have eval or arguments operand in strict mode"
  | strictDecrement =>
    "Postfix increment/decrement may not have eval or arguments operand in strict mode"
  | strictWith => "Strict mode code may not include a with statement"
  | strictParameterName => "Parameter name eval or arguments is not allowed in strict mode"
  | strictParameterRepeated => "Strict mode function may not have duplicate parameter names"
  | strictReservedWord => "Use of future reserved word in strict mode"
  | strictVariableName => "Variable name may not be eval or arguments in strict mode"
  | strictCatchName => "Catch variable may not be eval or arguments in strict mode"
  | nestingTooDeep => "Nesting too deep"

end SyntaxFault

/-- A fault and the place where it was noticed. -/
structure SyntaxError where
  fault : SyntaxFault
  line : Int
  column : Int
  deriving DecidableEq

namespace SyntaxError

/-- The fault behind the number of its line. -/
def description (error : SyntaxError) : Text :=
  "Line " ++ Text.ofInt error.line ++ ": " ++ error.fault.message

end SyntaxError

/-- A report on a text that is no script, with the place of the fault where there is one. -/
structure SyntaxReport where
  description : Text
  line : Option Int := none
  column : Option Int := none
  deriving DecidableEq

/-- The report on a fault. -/
def SyntaxError.report (error : SyntaxError) : SyntaxReport :=
  ⟨error.description, some error.line, some error.column⟩

/-- What keeps a text from being read to its end. -/
inductive Unreadable where
  | refused (error : SyntaxError)
  /-- A refusal in the words of another parser. -/
  | reported (report : SyntaxReport)
  /-- A later piece of a template where an expression is expected, at which reading breaks off
  without a place to report. -/
  | strayTemplate
  deriving DecidableEq

/-- The report on a text that was read to its end or to a fault. -/
def Unreadable.report? : Unreadable → Option SyntaxReport
  | refused error => some error.report
  | reported report => some report
  | strayTemplate => none

end DeviceScript
