import DocQuery.Script.Lexer
import DocQuery.Script.Tree

/-!
# DocQuery.Script.State

What the grammar of scripts works with: the current token, the rest of the source, the scope, and
the first complaint.

A complaint does not stop the reading, because what looked wrong inside parentheses may turn out to
be a parameter list when an arrow follows: the reading then starts again from where the parentheses
opened (`restore`), and what was complained about since is forgotten. After a complaint that leaves
nothing sensible to go on with, the rest up to a word that starts a statement is passed over
(`recover`). Of all complaints that are not forgotten the first is the one that is reported.

The rules of the grammar call each other in circles. A `Grammar` holds those rules through which the
circles run; every rule is written over a grammar, and `DocQuery.Script.Grammar` ties the knot.
-/

namespace DocQuery.Script

/-- What the surroundings allow. -/
structure Scope where
  /-- Whether the word `in` is an operator. -/
  allowIn : Bool := true
  /-- Whether a declaration may stand here. -/
  allowLet : Bool := false
  /-- Whether `await` is an operator. -/
  allowAwait : Bool := false
  /-- Whether `yield` is an operator. -/
  allowYield : Bool := false
  /-- Whether this is the body of a function. -/
  inFunction : Bool := false
  /-- Whether this is the body of an async function. -/
  inAsync : Bool := false
  /-- Whether this is a list of parameters. -/
  inParameters : Bool := false
  /-- Whether this is the body of a loop. -/
  inLoop : Bool := false
  /-- Whether this is the body of a switch. -/
  inSwitch : Bool := false
  /-- The labels around. -/
  labels : List String := []
deriving Repr, DecidableEq

/-- Whether a contextual keyword is a name in a scope. -/
def Scope.isName (scope : Scope) (word : String) : Bool :=
  contextualKeywords.contains word &&
    !(word == "await" && scope.allowAwait) && !(word == "yield" && scope.allowYield)

/-- Whether a token can be a name in a scope. -/
def Scope.bindsName (scope : Scope) : TokenKind → Bool
  | .identifier => true
  | .word text => scope.isName text
  | _ => false

/-- Where the reading last recovered from a complaint, so that it cannot recover at one place for
ever. -/
structure Recovery where
  /-- The offset after the first byte of the word it stopped at; zero before the first time. -/
  mark : Nat := 0
  /-- How often it stopped there again. -/
  again : Nat := 0
deriving Repr, DecidableEq

/-- The state of the reading. -/
structure State where
  /-- The whole source. -/
  source : List Char
  /-- The current token. -/
  token : Token
  /-- Whether a line end before the current token stands for a semicolon. -/
  afterLine : Bool
  /-- What follows the current token. -/
  cursor : Cursor
  /-- Where the token before the current one ended. -/
  lastEnd : Nat
  /-- The scope. -/
  scope : Scope
  /-- The first complaint. -/
  noted : Option Fault
  /-- Where the reading last recovered. -/
  recovery : Recovery

/-- A rule of the grammar: it reads something, and may complain. -/
abbrev Rule := StateM State

namespace Rule

/-- Note a fault, if there is one and there was none before. -/
def note (fault : Option Fault) : Rule Unit :=
  modify fun s => { s with noted := s.noted.or fault }

/-- Note a complaint, unless there was an earlier one. -/
def complain (complaint : Complaint) (start : Nat) : Rule Unit := note (some ⟨complaint, start⟩)

/-- The place of a construct; a construct without a place is complained about where the reading
has come to. -/
def placeOf (start : Option Nat) : Rule Nat := do
  let s ← get
  return start.getD s.cursor.offset

/-- The kind of the current token. -/
def kind : Rule TokenKind := return (← get).token.kind

/-- Where the current token starts. -/
def here : Rule Nat := return (← get).token.start

/-- Whether the current token is the given mark. -/
def isMark (text : String) : Rule Bool := return (← kind) == .mark text

/-- Whether the current token is the given keyword. -/
def isWord (text : String) : Rule Bool := return (← kind) == .word text

/-- Whether the source is at its end. -/
def atEnd : Rule Bool := return (← kind) == .endOfInput

/-- Go on to the next token. -/
def advance : Rule Unit := do
  let s ← get
  let next := scan s.scope.isName s.cursor
  set { s with
    token := next.token, afterLine := next.afterLine, cursor := next.cursor,
    lastEnd := s.cursor.offset }
  note next.fault

/-- The kind of the token after the current one. -/
def peek : Rule TokenKind := do
  let s ← get
  let next := scan s.scope.isName s.cursor
  note next.fault
  return next.token.kind

/-- The complaint about a token that may not stand where it does. -/
def unexpected (kind : TokenKind) : Rule (Complaint × Nat) := do
  let s ← get
  return match kind with
    | .endOfInput => (.endOfInput, s.cursor.offset)
    | .boolean | .null => (.unexpectedToken s.token.written, s.token.start)
    | .identifier => (.unexpectedName, s.token.start)
    | .reserved => (.reservedWord, s.token.start)
    | .escapedWord => (.escapedKeyword, s.token.start)
    | .number => (.unexpectedNumber, s.token.start)
    | .string => (.unexpectedString, s.token.start)
    | other => (.unexpectedToken other.text, s.token.start)

/-- Complain about a token, at the place of the current one. -/
def complainAbout (kind : TokenKind) : Rule Unit := do
  let (complaint, start) ← unexpected kind
  complain complaint start

/-- Pass over a token of the given kind, and complain when the current one is another. The answer is
where it starts. -/
def expect (kind : TokenKind) : Rule Nat := do
  let s ← get
  if s.token.kind != kind then complainAbout s.token.kind
  advance
  return s.token.start

/-- Pass over a mark. -/
def expectMark (text : String) : Rule Nat := expect (.mark text)

/-- Pass over a keyword. -/
def expectWord (text : String) : Rule Nat := expect (.word text)

/-- Take the current token as a name where it can be one. -/
def wordToName : Rule Unit := modify fun s =>
  if s.scope.bindsName s.token.kind then
    { s with token := { s.token with kind := .identifier } }
  else s

/-- Go back to an earlier place and forget what was complained about since. The scope stays. -/
def restore (earlier : State) : Rule Unit :=
  modify fun s => { earlier with scope := s.scope, recovery := s.recovery }

/-- Words at which the reading can go on after a complaint. -/
def resumingWords : List String :=
  ["break", "continue", "for", "if", "return", "switch", "var", "do", "try", "with", "while",
    "throw", "catch", "finally"]

/-- Whether the reading stops at the current token after a complaint. It does so at a word that
starts a statement, but not more than ten times again at the same one, nor before it. -/
def resumes : Rule Bool := do
  let s ← get
  match s.token.kind with
  | .word text =>
    let mark := s.token.start + 1
    if !resumingWords.contains text then return false
    else if mark == s.recovery.mark && s.recovery.again < 10 then
      set { s with recovery := { s.recovery with again := s.recovery.again + 1 } }
      return true
    else if s.recovery.mark < mark then
      set { s with recovery := { mark } }
      return true
    else return false
  | kind => return kind == .endOfInput

/-- Pass over tokens, at most `limit` of them, up to one where the reading can go on. -/
def passOver : (limit : Nat) → Rule Unit
  | 0 => return
  | limit + 1 => do
    if !(← resumes) then
      advance
      passOver limit

/-- Pass over tokens up to a word that starts a statement, or the end of the source. -/
def recover : Rule Unit := do passOver ((← get).cursor.rest.length + 1)

/-- Complain and recover; nothing is left of what was being read. -/
def fail {α : Type} [Inhabited α] (complaint : Complaint) (start : Nat) : Rule α := do
  complain complaint start
  recover
  return default

/-- Complain about the current token, pass over it and recover. -/
def failToken {α : Type} [Inhabited α] : Rule α := do
  let _ ← expect .identifier
  recover
  return default

/-- Read with a changed scope, and change it back by `undo` afterwards. -/
def within {α : Type} (change : Scope → Scope) (undo : Scope → Scope → Scope) (rule : Rule α) :
    Rule α := do
  let outer := (← get).scope
  modify fun s => { s with scope := change s.scope }
  let result ← rule
  modify fun s => { s with scope := undo outer s.scope }
  return result

/-- Change what the scope says about declarations. -/
def allowLet (allowed : Bool) : Rule Unit :=
  modify fun s => { s with scope := { s.scope with allowLet := allowed } }

/-- Take `in` as an operator or not from here on. -/
def setIn (allowed : Bool) : Rule Unit :=
  modify fun s => { s with scope := { s.scope with allowIn := allowed } }

/-- Read with `in` as an operator or not. -/
def withIn {α : Type} (allowed : Bool) : Rule α → Rule α :=
  within ({ · with allowIn := allowed }) fun outer inner => { inner with allowIn := outer.allowIn }

/-- What a rule answers where no more calls or repetitions are allowed. -/
def exhausted {α : Type} [Inhabited α] : Rule α := do
  complainAbout (← kind)
  return default

/-- Repeat a step until it answers; more than `rounds` steps are refused. -/
def loop {σ β : Type} [Inhabited β] (step : σ → Rule (σ ⊕ β)) : (rounds : Nat) → σ → Rule β
  | 0, _ => exhausted
  | rounds + 1, x => do
    match ← step x with
    | .inl y => loop step rounds y
    | .inr b => return b

end Rule

/-- The rules through which the circles of the grammar run. -/
structure Grammar where
  /-- How often a repetition may repeat: more often than the source has tokens. -/
  rounds : Nat
  /-- An expression without commas. -/
  assignment : Rule Tree
  /-- A prefix operator and its operand. -/
  unary : Rule Tree
  /-- A primary expression. -/
  primary : Rule Tree
  /-- A primary expression with its properties. -/
  member : Rule Tree
  /-- A primary expression with its properties and calls. -/
  chain : Rule Tree
  /-- A statement. -/
  statement : Rule Statement

end DocQuery.Script
