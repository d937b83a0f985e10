import DocQuery.Script.Expression

/-!
# DocQuery.Script.Statement

The statements of scripts. Of every statement but an expression only its name and place are kept;
it is read in full all the same, since it may violate the grammar. Nothing is kept of a statement
that was complained about as a whole.
-/

namespace DocQuery.Script

open Rule

/-! ## Semicolons -/

/-- The end of an expression statement: a semicolon, a line end that stands for one, a closing brace
or the end of the source. -/
def endOfExpression : Rule Unit := do
  if ← isMark ";" then advance
  else if (← get).afterLine then modify fun s => { s with afterLine := false }
  else if !(← atEnd) && !(← isMark "\x7d") then
    let _ ← expectMark ";"

/-- The end of any other statement. A closing parenthesis or brace is left alone. -/
def endOfStatement : Rule Unit := do
  if !(← isMark ")") && !(← isMark "\x7d") then
    if (← get).afterLine then modify fun s => { s with afterLine := false }
    else
      let _ ← expectMark ";"

/-! ## Declarations -/

/-- Declared names and patterns with commas between them. -/
def declaredList (g : Grammar) : Rule (List Declared) := do
  let items ← loop (fun (items : List Declared) => do
    let items := (← declared g) :: items
    if ← isMark "," then
      advance
      return .inl items
    else return .inr items) g.rounds []
  return items.reverse

/-- Complain about the first pattern that is declared without a value. -/
def requireValues (list : List Declared) : Rule Unit :=
  match list.find? fun d => d.isPattern && d.value.isNone with
  | some d => complain .missingInitializer d.stop
  | none => return

/-- A declaration by `var`. -/
def variableStatement (g : Grammar) : Rule Statement := do
  let start ← expectWord "var"
  requireValues (← declaredList g)
  endOfStatement
  return .other "VariableStatement" (some start)

/-- A declaration by `let` or `const`. -/
def lexicalDeclaration (g : Grammar) (word : String) : Rule Statement := do
  let start ← expectWord word
  if !(← get).scope.allowLet then complain .lexicalDeclaration start
  requireValues (← declaredList g)
  endOfStatement
  return .other "LexicalDeclaration" (some start)

/-! ## Branches and loops -/

/-- An expression between parentheses. -/
def condition (g : Grammar) : Rule Unit := do
  let _ ← expectMark "("
  let _ ← expression g
  let _ ← expectMark ")"

/-- A statement where no declaration may stand. -/
def lone (g : Grammar) : Rule Unit := do
  allowLet false
  let _ ← g.statement

/-- A block, or a statement where no declaration may stand. -/
def blockOrLone (g : Grammar) : Rule Unit := do
  if ← isMark "\x7b" then
    let _ ← block g
  else lone g

/-- Read the body of a loop. -/
def inLoop {α : Type} : Rule α → Rule α :=
  within ({ · with inLoop := true }) fun outer inner => { inner with inLoop := outer.inLoop }

/-- A branch. -/
def ifStatement (g : Grammar) : Rule Statement := do
  let _ ← expectWord "if"
  condition g
  blockOrLone g
  if ← isWord "else" then
    advance
    lone g
  return .other "IfStatement" none

/-- A loop that tests after its body. -/
def doStatement (g : Grammar) : Rule Statement := do
  let start ← expectWord "do"
  inLoop (blockOrLone g)
  let _ ← expectWord "while"
  condition g
  if ← isMark ";" then advance
  return .other "DoWhileStatement" (some start)

/-- A loop that tests before its body. -/
def whileStatement (g : Grammar) : Rule Statement := do
  let start ← expectWord "while"
  condition g
  inLoop (lone g)
  return .other "WhileStatement" (some start)

/-- A statement in the scope of an object. -/
def withStatement (g : Grammar) : Rule Statement := do
  let start ← expectWord "with"
  condition g
  lone g
  return .other "WithStatement" (some start)

/-- The three kinds of counted and running loops. -/
inductive LoopForm where
  /-- Start, test and step. -/
  | counted
  /-- Over the keys of something. -/
  | overKeys
  /-- Over the items of something. -/
  | overItems
deriving DecidableEq

/-- The word that makes a loop run over something, if there is one. -/
def runningForm : Rule LoopForm := do
  let token := (← get).token
  if token.kind == .word "in" then
    advance
    return .overKeys
  else if token.kind == .identifier && token.written == "of" then
    advance
    return .overItems
  else return .counted

/-- Whether a loop's head declares names. -/
def declaresHead : Rule Bool := do
  match ← kind with
  | .word "var" => return true
  | .word "const" => return true
  | .word "let" => do
    let next ← peek
    return next == .identifier || next == .mark "[" || next == .mark "\x7b"
  | _ => return false

/-- The names that a loop's head declares. -/
def declaredHead (g : Grammar) : Rule LoopForm := do
  advance
  let list ← declaredList g
  match list with
  | [d] =>
    let form ← runningForm
    if form == .counted then requireValues list
    else match d.value with
      | some valueStart => complainOf .loopInitializer valueStart
      | none => pure ()
    return form
  | _ =>
    requireValues list
    return .counted

/-- What a loop's head assigns to. Nothing is left of a loop that cannot assign to it. -/
def assignedHead (g : Grammar) (start : Nat) : Rule (Option LoopForm) := do
  let target ← expression g
  let form ← runningForm
  if form == .counted || target.isAssignable then return some form
  else match target with
    | .array _ _ _ | .object _ _ _ =>
      let _ ← asAssigned false target
      return some form
    | _ => fail .loopTarget start

/-- The head of a loop, in which `in` is no operator. It stays so when nothing is left of the
loop. -/
def loopHead (g : Grammar) (start : Nat) : Rule (Option LoopForm) := do
  let outer := (← get).scope.allowIn
  setIn false
  let form ← if ← declaresHead then some <$> declaredHead g else assignedHead g start
  if form.isSome then setIn outer
  return form

/-- The rest of a loop with a head. -/
def loopRest (g : Grammar) (start : Nat) : LoopForm → Rule Statement
  | .overKeys => do
    let _ ← expression g
    let _ ← expectMark ")"
    inLoop (lone g)
    return .other "ForInStatement" (some start)
  | .overItems => do
    let _ ← g.assignment
    let _ ← expectMark ")"
    inLoop (lone g)
    return .other "ForOfStatement" (some start)
  | .counted => do
    let _ ← expectMark ";"
    if !(← isMark ";") then
      let _ ← expression g
    let _ ← expectMark ";"
    if !(← isMark ")") then
      let _ ← expression g
    let _ ← expectMark ")"
    inLoop (lone g)
    return .other "ForStatement" (some start)

/-- A loop with a head. -/
def forStatement (g : Grammar) : Rule Statement := do
  let start ← expectWord "for"
  let _ ← expectMark "("
  let form ← if ← isMark ";" then pure (some .counted) else loopHead g start
  match form with
  | some form => loopRest g start form
  | none => return .bad

/-! ## Switches -/

/-- A case of a switch. The answer says whether it is the default one. -/
def caseClause (g : Grammar) : Rule Bool := do
  let isDefault ← isWord "default"
  if isDefault then advance
  else
    let _ ← expectWord "case"
    let _ ← expression g
  let _ ← expectMark ":"
  loop (fun (_ : Unit) => do
    if (← atEnd) || (← isMark "\x7d") || (← isWord "case") || (← isWord "default") then
      return .inr ()
    else
      allowLet true
      let _ ← g.statement
      return .inl ()) g.rounds ()
  return isDefault

/-- A switch. -/
def switchStatement (g : Grammar) : Rule Statement := do
  let start ← expectWord "switch"
  condition g
  let _ ← expectMark "\x7b"
  within ({ · with inSwitch := true })
      (fun outer inner => { inner with inSwitch := outer.inSwitch }) <|
    loop (fun (sawDefault : Bool) => do
      if ← atEnd then return .inr ()
      else if ← isMark "\x7d" then
        advance
        return .inr ()
      else
        let clause ← here
        let isDefault ← caseClause g
        if isDefault && sawDefault then complain .secondDefault clause
        return .inl (sawDefault || isDefault)) g.rounds false
  return .other "SwitchStatement" (some start)

/-! ## Jumps -/

/-- A jump to a label, after its word. -/
def labelledJump (word : String) (illegal : Complaint) (start : Nat) : Rule Statement := do
  wordToName
  let token := (← get).token
  if token.kind == .identifier then
    advance
    let scope := (← get).scope
    if !scope.labels.contains token.meaning then
      complain (.undefinedLabel token.meaning) start
      return .bad
    else if word == "continue" && !scope.inLoop then fail illegal start
    else
      endOfStatement
      return .other "BranchStatement" (some start)
  else
    let _ ← expect .identifier
    fail illegal start

/-- A jump out of a loop or a switch, or to the next round of a loop. -/
def jumpStatement (word : String) (illegal : Complaint) (allowed : Scope → Bool) :
    Rule Statement := do
  let start ← expectWord word
  let ended := (← get).afterLine
  let semicolon ← isMark ";"
  if semicolon then advance
  if ended || semicolon || (← isMark "\x7d") then
    modify fun s => { s with afterLine := false }
    if allowed (← get).scope then return .other "BranchStatement" (some start)
    else fail illegal start
  else labelledJump word illegal start

/-- A return from a function. -/
def returnStatement (g : Grammar) : Rule Statement := do
  let start ← expectWord "return"
  let s ← get
  if !s.scope.inFunction then fail .illegalReturn start
  else
    if !s.afterLine && s.token.kind != .mark ";" && s.token.kind != .mark "\x7d" &&
        s.token.kind != .endOfInput then
      let _ ← expression g
    endOfStatement
    return .other "ReturnStatement" (some start)

/-- A throw, whose value must start on the same line. -/
def throwStatement (g : Grammar) : Rule Statement := do
  let start ← expectWord "throw"
  let s ← get
  if s.afterLine then
    fail (if s.cursor.rest.isEmpty then .endOfInput else .newlineAfterThrow) start
  else
    let _ ← expression g
    endOfStatement
    return .other "ThrowStatement" (some start)

/-- A block with handlers. -/
def tryStatement (g : Grammar) : Rule Statement := do
  let start ← expectWord "try"
  let _ ← block g
  let hasCatch ← isWord "catch"
  if hasCatch then
    advance
    if ← isMark "(" then
      advance
      let _ ← boundTarget g
      let _ ← expectMark ")"
    let _ ← block g
  let hasFinally ← isWord "finally"
  if hasFinally then
    advance
    let _ ← block g
  if hasCatch || hasFinally then return .other "TryStatement" (some start)
  else
    complain .missingCatch start
    return .bad

/-! ## Statements -/

/-- A labelled statement, after its label. -/
def labelledStatement (g : Grammar) (start : Nat) (label : String) : Rule Statement := do
  advance
  if (← get).scope.labels.contains label then complain (.duplicateLabel label) start
  within (fun s => { s with labels := label :: s.labels })
    (fun outer inner => { inner with labels := outer.labels }) (lone g)
  return .other "LabelledStatement" (some start)

/-- An expression statement, or a labelled one. -/
def expressionStatement (g : Grammar) : Rule Statement := do
  let tree ← expression g
  match tree, ← isMark ":" with
  | .identifier start label, true => labelledStatement g start label
  | tree, _ =>
    endOfExpression
    return .expression tree

/-- A statement. -/
def statement (g : Grammar) : Rule Statement := do
  let s ← get
  let start := s.token.start
  match s.token.kind with
  | .endOfInput =>
    complainAbout .endOfInput
    return .bad
  | .mark ";" =>
    advance
    return .empty
  | .mark "\x7b" =>
    let _ ← block g
    return .other "BlockStatement" (some start)
  | .word "if" => ifStatement g
  | .word "do" => doStatement g
  | .word "while" => whileStatement g
  | .word "for" => forStatement g
  | .word "break" => jumpStatement "break" .illegalBreak fun scope => scope.inLoop || scope.inSwitch
  | .word "continue" => jumpStatement "continue" .illegalContinue (·.inLoop)
  | .word "debugger" =>
    advance
    endOfStatement
    return .other "DebuggerStatement" (some start)
  | .word "with" => withStatement g
  | .word "var" => variableStatement g
  | .word "const" => lexicalDeclaration g "const"
  | .word "let" =>
    let next ← peek
    if next == .mark "[" ||
        (s.scope.allowLet && (next.isPropertyName || next == .mark "\x7b")) then
      lexicalDeclaration g "let"
    else
      modify fun s => { s with cursor := { s.cursor with mayEnd := true } }
      expressionStatement g
  | .word "async" =>
    if (← peek) == .word "function" then
      advance
      let _ ← function g true true start
      return .other "FunctionDeclaration" (some start)
    else expressionStatement g
  | .word "function" =>
    let _ ← function g true false start
    return .other "FunctionDeclaration" (some start)
  | .word "class" =>
    let _ ← classLiteral g true
    return .other "ClassDeclaration" (some start)
  | .word "switch" => switchStatement g
  | .word "return" => returnStatement g
  | .word "throw" => throwStatement g
  | .word "try" => tryStatement g
  | _ => expressionStatement g

end DocQuery.Script
