/-!
# DocQuery.Script.Token

The tokens of scripts. A token knows its kind, where it starts, how it was written and, for names
and strings, what it means once its escapes are read.
-/

namespace DocQuery.Script

/-- The kind of a token. -/
inductive TokenKind where
  /-- The end of the source. -/
  | endOfInput
  /-- Something that is no token. -/
  | illegal
  /-- A name. -/
  | identifier
  /-- A name after a number sign. -/
  | privateName
  /-- A reserved word with escapes in it. -/
  | escapedWord
  /-- One of the words `true` and `false`. -/
  | boolean
  /-- The word `null`. -/
  | null
  /-- A number literal. -/
  | number
  /-- A string literal. -/
  | string
  /-- A word kept for the future. -/
  | reserved
  /-- A keyword, by its text. -/
  | word (text : String)
  /-- Punctuation, by its text. -/
  | mark (text : String)
deriving Repr, DecidableEq, Inhabited

namespace TokenKind

/-- The text of a token kind in a message. -/
def text : TokenKind → String
  | .endOfInput => "EOF"
  | .illegal => "ILLEGAL"
  | .identifier => "IDENTIFIER"
  | .privateName => "PRIVATE_IDENTIFIER"
  | .escapedWord => "ESCAPED_RESERVED_WORD"
  | .boolean => "BOOLEAN"
  | .null => "NULL"
  | .number => "NUMBER"
  | .string => "STRING"
  | .reserved => "KEYWORD"
  | .word text => text
  | .mark text => text

/-- Whether a token may follow a point as the name of a property. -/
def isPropertyName : TokenKind → Bool
  | .identifier | .escapedWord | .boolean | .null | .reserved | .word _ => true
  | _ => false

end TokenKind

/-- A token. -/
structure Token where
  /-- What it is. -/
  kind : TokenKind
  /-- The byte offset where it starts. -/
  start : Nat
  /-- How it is written. -/
  written : String
  /-- What a name or a string means. -/
  meaning : String
deriving Repr, DecidableEq, Inhabited

/-- Keywords that are never names. -/
def keywords : List String :=
  ["if", "in", "do", "var", "for", "new", "try", "this", "else", "case", "void", "with", "while",
    "break", "catch", "throw", "return", "typeof", "delete", "switch", "default", "finally",
    "function", "continue", "debugger", "instanceof", "const", "class", "extends", "super"]

/-- Keywords that are names where their special meaning does not apply. -/
def contextualKeywords : List String := ["let", "static", "async", "await", "yield"]

/-- Words kept for the future. -/
def reservedWords : List String := ["enum", "export", "import"]

/-- The kind of a word, when it is no plain name. -/
def wordKind? (s : String) : Option TokenKind :=
  if s = "true" || s = "false" then some .boolean
  else if s = "null" then some .null
  else if keywords.contains s || contextualKeywords.contains s then some (.word s)
  else if reservedWords.contains s then some .reserved
  else none

/-- Keywords that may end a statement, so that a line end after them can stand for a semicolon. -/
def endsStatement (s : String) : Bool :=
  s ∈ ["this", "break", "throw", "yield", "return", "continue", "debugger"]

end DocQuery.Script
