import DocQuery.Expr.Kind
import DocQuery.Script.Token
import DocQuery.Text.Position

/-!
# DocQuery.Script.Error

What can be wrong with a script. A `Complaint` is a violation of the grammar and has a place in the
source; `Unsupported` is a construct of the grammar that no expression tree can hold.
-/

namespace DocQuery.Script

/-- A violation of the grammar. -/
inductive Complaint where
  /-- The source ends too early. -/
  | endOfInput
  /-- A token that may not stand here. -/
  | unexpectedToken (text : String)
  /-- A name that may not stand here. -/
  | unexpectedName
  /-- A number that may not stand here. -/
  | unexpectedNumber
  /-- A string that may not stand here. -/
  | unexpectedString
  /-- A word kept for the future. -/
  | reservedWord
  /-- A keyword with escapes in it. -/
  | escapedKeyword
  /-- A number literal without a value. -/
  | badNumber
  /-- An underscore that does not stand between digits. -/
  | strayUnderscore
  /-- A pattern without its closing slash. -/
  | unclosedPattern
  /-- An escape that a template may not have. -/
  | templateEscape (text : String)
  /-- A template after an optional chain. -/
  | templateOnChain
  /-- Something that cannot be assigned to. -/
  | assignmentTarget
  /-- Something that a loop cannot assign to. -/
  | loopTarget
  /-- A loop variable with a value of its own. -/
  | loopInitializer
  /-- An item that a destructuring assignment cannot assign to. -/
  | destructuringTarget
  /-- An item that a destructuring declaration cannot bind. -/
  | bindingTarget
  /-- A rest element that is no name. -/
  | bindingRest
  /-- A rest element before another element. -/
  | restNotLast
  /-- A comma after a rest element. -/
  | commaAfterRest
  /-- A pattern declared without a value. -/
  | missingInitializer
  /-- Logical and coalescing operators without parentheses between them. -/
  | mixedCoalesce
  /-- A prefix operator on the base of a power. -/
  | unaryBeforePower
  /-- The keyword `super` on its own. -/
  | straySuper
  /-- A return outside functions. -/
  | illegalReturn
  /-- A break outside loops and switches. -/
  | illegalBreak
  /-- A continue outside loops. -/
  | illegalContinue
  /-- A line end after throw. -/
  | newlineAfterThrow
  /-- A try without catch and finally. -/
  | missingCatch
  /-- A second default in a switch. -/
  | secondDefault
  /-- A label that there is not. -/
  | undefinedLabel (name : String)
  /-- A label that there is already. -/
  | duplicateLabel (name : String)
  /-- A declaration where only a statement may stand. -/
  | lexicalDeclaration
  /-- Something in front of an arrow that is no parameter list. -/
  | arrowParameters
  /-- An await among parameters. -/
  | awaitInParameters
  /-- A yield among parameters. -/
  | yieldInParameters
  /-- A getter with parameters. -/
  | getterParameters
  /-- A setter without exactly one parameter. -/
  | setterParameters
  /-- A static property named `prototype`. -/
  | staticPrototype
  /-- A constructor that is a getter or a setter. -/
  | accessorConstructor
  /-- A constructor that is an async method. -/
  | asyncConstructor
  /-- A constructor that is a generator. -/
  | generatorConstructor
  /-- A private constructor. -/
  | privateConstructor
  /-- A field named `constructor`. -/
  | fieldConstructor
deriving Repr, DecidableEq

/-- The wording of a complaint. -/
def Complaint.message : Complaint → String
  | .endOfInput => "Unexpected end of input"
  | .unexpectedToken text => "Unexpected token " ++ text
  | .unexpectedName => "Unexpected identifier"
  | .unexpectedNumber => "Unexpected number"
  | .unexpectedString => "Unexpected string"
  | .reservedWord => "Unexpected reserved word"
  | .escapedKeyword => "Keyword must not contain escaped characters"
  | .badNumber => "Illegal numeric literal"
  | .strayUnderscore => "Only one underscore is allowed as numeric separator"
  | .unclosedPattern => "Invalid regular expression: missing /"
  | .templateEscape text => text
  | .templateOnChain => "Invalid template literal on optional chain"
  | .assignmentTarget => "Invalid left-hand side in assignment"
  | .loopTarget => "Invalid left-hand side in for-in or for-of"
  | .loopInitializer => "for-in loop variable declaration may not have an initializer"
  | .destructuringTarget => "Invalid destructuring assignment target"
  | .bindingTarget => "Invalid destructuring binding target"
  | .bindingRest => "Invalid binding rest"
  | .restNotLast => "Rest element must be last element"
  | .commaAfterRest => "Comma is not allowed here"
  | .missingInitializer => "Missing initializer in destructuring declaration"
  | .mixedCoalesce =>
    "Logical expressions and coalesce expressions cannot be mixed. Wrap either by parentheses"
  | .unaryBeforePower =>
    "Unary operator used immediately before exponentiation expression. Parenthesis must be used " ++
      "to disambiguate operator precedence"
  | .straySuper => "'super' keyword unexpected here"
  | .illegalReturn => "Illegal return statement"
  | .illegalBreak => "Illegal break statement"
  | .illegalContinue => "Illegal continue statement"
  | .newlineAfterThrow => "Illegal newline after throw"
  | .missingCatch => "Missing catch or finally after try"
  | .secondDefault => "Already saw a default in switch"
  | .undefinedLabel name => "Undefined label '" ++ name ++ "'"
  | .duplicateLabel name => "Label '" ++ name ++ "' already exists"
  | .lexicalDeclaration => "Lexical declaration cannot appear in a single-statement context"
  | .arrowParameters => "Malformed arrow function parameter list"
  | .awaitInParameters => "Illegal await-expression in formal parameters of async function"
  | .yieldInParameters => "Yield expression not allowed in formal parameter"
  | .getterParameters => "Getter must not have any formal parameters."
  | .setterParameters => "Setter must have exactly one formal parameter."
  | .staticPrototype => "Classes may not have a static property named 'prototype'"
  | .accessorConstructor => "Class constructor may not be an accessor"
  | .asyncConstructor => "Class constructor may not be an async method"
  | .generatorConstructor => "Class constructor may not be a generator"
  | .privateConstructor => "Class constructor may not be a private method"
  | .fieldConstructor => "Classes may not have a field named 'constructor'"

/-- A complaint with the byte offset it is about. -/
structure Fault where
  /-- What is wrong. -/
  complaint : Complaint
  /-- Where. -/
  start : Nat
deriving Repr, DecidableEq

/-- A grammar violation as it is reported. -/
structure SyntaxError where
  /-- What is wrong, in words. -/
  message : String
  /-- The line and byte column, in the lines of scripts. -/
  place : Text.Place
  /-- The byte offset that the place denotes in lines ended by newlines. -/
  offset : Nat
  /-- The text of that line. -/
  sourceLine : String
deriving Repr, DecidableEq

/-- The report of a fault in a source. -/
def Fault.report (src : String) (f : Fault) : SyntaxError :=
  let place := Text.scriptPosition src f.start
  { message := f.complaint.message
    place
    offset := Text.offsetOf src place
    sourceLine := Text.sourceLine src place.line }

/-- The text of a syntax error: place and message. -/
def SyntaxError.text (e : SyntaxError) : String :=
  toString e.place.line ++ ":" ++ toString e.place.column ++ ": " ++ e.message

/-- A construct that no expression tree can hold. -/
structure Unsupported where
  /-- The nearest kind of node, `invalid` when there is none. -/
  kind : Kind
  /-- The name of the construct. -/
  construct : String
  /-- The line and byte column. -/
  place : Text.Place
  /-- The byte offset, one before the source for a construct that has no place of its own. -/
  offset : Int
deriving Repr, DecidableEq

/-- The text of an unsupported construct: place and name. -/
def Unsupported.text (u : Unsupported) : String :=
  toString u.place.line ++ ":" ++ toString u.place.column ++ ": unsupported " ++ u.construct

/-- Why a source has no expression tree. -/
inductive ParseError where
  /-- It violates the grammar. -/
  | syntaxError (error : SyntaxError)
  /-- It uses a construct that trees cannot hold. -/
  | unsupported (construct : Unsupported)
deriving Repr, DecidableEq

end DocQuery.Script
