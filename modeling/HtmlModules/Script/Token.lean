/-!
# Tokens of a script

A token knows the range of characters it takes, the line it ends on and, where that matters, what it
stands for. `Fault` lists the reasons for which a script is refused and `Fault.text` words them.
-/

namespace HtmlModules.Script

/-- The kinds of tokens. -/
inductive TokenKind where
  | boolean
  | endOfInput
  | identifier
  | keyword
  | null
  | number
  | punctuator
  | string
  | regex
  | template
deriving DecidableEq, Repr, Inhabited

/-- One token. For a string, `value` is the text it stands for; for a number, its shortest decimal; for
a template part, the raw text between its delimiters. -/
structure Token where
  kind : TokenKind
  value : String
  start : Nat
  stop : Nat
  line : Nat
  /-- Holds an octal escape, or is an octal number of the old form. -/
  octal : Bool := false
  /-- The first part of a template. -/
  head : Bool := false
  /-- The last part of a template. -/
  tail : Bool := false
  /-- The flags of a regular expression. -/
  flags : String := ""
deriving DecidableEq, Repr, Inhabited

/-- Why a script is refused. -/
inductive Fault where
  | asyncConstructor
  | badContinue
  | badBreak
  | badReturn
  | badGetterArity
  | badSetterArity
  | badSetterRest
  | classConstructorAccessor
  | deleteIdentifier
  | duplicateBinding (name : String)
  | duplicateConstructor
  | duplicateProto
  | escapedKeyword
  | generatorInLegacyContext
  | illegalToken
  | invalidHexEscape
  | invalidRegex
  | invalidTarget
  | invalidTargetForIn
  | invalidTargetForLoop
  | labelRedeclared (name : String)
  | letAsName
  | longNumber
  | loopInitializer (loop : String)
  | missingCatch
  | missingInitializer (kind : String)
  | multipleDefaults
  | newlineAfterThrow
  | octalInTemplate
  | reservedWord
  | restNotLast
  | staticPrototype
  | strictAssignment
  | strictCatchName
  | strictDirectiveForbidden
  | strictDuplicateParameter
  | strictFunctionName
  | strictNestedFunction
  | strictOctal
  | strictParameterName
  | strictPostfix
  | strictPrefix
  | strictReservedWord
  | strictVariableName
  | strictWith
  | templateHeadExpected
  | tooDeep
  | unexpected (value : String)
  | unexpectedBare
  | unexpectedEnd
  | unexpectedIdentifier
  | unexpectedNumber
  | unexpectedString
  | unexpectedTemplate (value : String)
  | unknownLabel (name : String)
  | unterminatedRegex
deriving DecidableEq, Repr

/-- The wording of a fault. -/
def Fault.text : Fault → String
  | .asyncConstructor => "Class constructor may not be an async method"
  | .badContinue => "Illegal continue statement"
  | .badBreak => "Illegal break statement"
  | .badReturn => "Illegal return statement"
  | .badGetterArity => "Getter must not have any formal parameters"
  | .badSetterArity => "Setter must have exactly one formal parameter"
  | .badSetterRest => "Setter function argument must not be a rest parameter"
  | .classConstructorAccessor => "Class constructor may not be an accessor"
  | .deleteIdentifier => "Delete of an unqualified identifier in strict mode."
  | .duplicateBinding name => s!"Duplicate binding {name}"
  | .duplicateConstructor => "A class may only have one constructor"
  | .duplicateProto => "Duplicate __proto__ fields are not allowed in object literals"
  | .escapedKeyword => "Keyword must not contain escaped characters"
  | .generatorInLegacyContext => "Generator declarations are not allowed in legacy contexts"
  | .illegalToken => "Unexpected token ILLEGAL"
  | .invalidHexEscape => "Invalid hexadecimal escape sequence"
  | .invalidRegex => "Invalid regular expression"
  | .invalidTarget => "Invalid left-hand side in assignment"
  | .invalidTargetForIn => "Invalid left-hand side in for-in"
  | .invalidTargetForLoop => "Invalid left-hand side in for-loop"
  | .labelRedeclared name => s!"Label '{name}' has already been declared"
  | .letAsName => "let is disallowed as a lexically bound name"
  | .longNumber =>
    "Exceeds the limit (4300 digits) for integer string conversion; " ++
      "use sys.set_int_max_str_digits() to increase the limit"
  | .loopInitializer loop => s!"{loop} loop variable declaration may not have an initializer"
  | .missingCatch => "Missing catch or finally after try"
  | .missingInitializer kind => s!"Missing initializer in {kind} declaration"
  | .multipleDefaults => "More than one default clause in switch statement"
  | .newlineAfterThrow => "Illegal newline after throw"
  | .octalInTemplate => "Octal literals are not allowed in template strings."
  | .reservedWord => "Unexpected reserved word"
  | .restNotLast => "Rest parameter must be last formal parameter"
  | .staticPrototype => "Classes may not have static property named prototype"
  | .strictAssignment => "Assignment to eval or arguments is not allowed in strict mode"
  | .strictCatchName => "Catch variable may not be eval or arguments in strict mode"
  | .strictDirectiveForbidden =>
    "Illegal 'use strict' directive in function with non-simple parameter list"
  | .strictDuplicateParameter => "Strict mode function may not have duplicate parameter names"
  | .strictFunctionName => "Function name may not be eval or arguments in strict mode"
  | .strictNestedFunction =>
    "In strict mode code, functions can only be declared at top level or inside a block"
  | .strictOctal => "Octal literals are not allowed in strict mode."
  | .strictParameterName => "Parameter name eval or arguments is not allowed in strict mode"
  | .strictPostfix =>
    "Postfix increment/decrement may not have eval or arguments operand in strict mode"
  | .strictPrefix =>
    "Prefix increment/decrement may not have eval or arguments operand in strict mode"
  | .strictReservedWord => "Use of future reserved word in strict mode"
  | .strictVariableName => "Variable name may not be eval or arguments in strict mode"
  | .strictWith => "Strict mode code may not include a with statement"
  | .templateHeadExpected => "Template literal must start with a template head"
  | .tooDeep => "maximum recursion depth exceeded"
  | .unexpected value => s!"Unexpected token {value}"
  | .unexpectedBare => "Unexpected token"
  | .unexpectedEnd => "Unexpected end of input"
  | .unexpectedIdentifier => "Unexpected identifier"
  | .unexpectedNumber => "Unexpected number"
  | .unexpectedString => "Unexpected string"
  | .unexpectedTemplate value => s!"Unexpected quasi {value}"
  | .unknownLabel name => s!"Undefined label '{name}'"
  | .unterminatedRegex => "Invalid regular expression: missing /"

/-- A fault with the place it is reported at, if it has one. -/
structure SyntaxError where
  fault : Fault
  place : Option (Nat × Int)
deriving DecidableEq, Repr

/-- The fault behind its line. -/
def SyntaxError.text (e : SyntaxError) : String :=
  match e.place with
  | some (line, _) => s!"Line {line}: {e.fault.text}"
  | none => e.fault.text

end HtmlModules.Script
