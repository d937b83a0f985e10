import DocQuery.Script.Function

/-!
# DocQuery.Script.Expression

The expressions of scripts, from primary expressions up to comma expressions. Relational operators
and powers associate to the right, all other binary operators to the left. Parentheses leave no
trace in the tree.
-/

namespace DocQuery.Script

open Rule

/-! ## Primary expressions -/

/-- A regular expression, from its slash on. What stands directly behind it may be its flags. -/
def patternLiteral : Rule Tree := do
  let s ← get
  let start := s.token.start
  let span := spanPattern false s.cursor.rest
  let cursor := s.cursor.skip span.length
  set { s with cursor }
  if !span.closed then complain .unclosedPattern start
  let direct := cursor.rest.head?.any fun c => !Text.isLineEnd c && !(isBlank c && c.toNat != 0x85)
  advance
  if direct && (← kind) == .identifier then
    advance
    return .other "RegExpLiteral" (some start) ((← get).cursor.offset - 1) false
  else return .other "RegExpLiteral" (some start) cursor.offset false

/-- The next piece of a template. The answer says whether it is the last one. -/
def templatePiece (tagged : Bool) : Rule Bool := do
  let s ← get
  match spanTemplate s.cursor.rest with
  | none =>
    let cursor := s.cursor.skip s.cursor.rest.length
    set { s with cursor }
    complain .endOfInput cursor.offset
    advance
    return true
  | some piece =>
    let cursor := { s.cursor.skip piece.length with mayEnd := true }
    set { s with cursor }
    if !tagged then
      match templateFault? piece.body with
      | some fault => complain (.templateEscape fault.message) (cursor.skip 1).offset
      | none => pure ()
    advance
    return piece.closed

/-- A template, from its first mark on. -/
def template (g : Grammar) (tagged : Bool) : Rule Tree := do
  let start ← here
  let stop ← loop (fun (_ : Unit) => do
    let last ← templatePiece tagged
    if last then return .inr (← get).lastEnd
    else
      let _ ← expression g
      if !(← isMark "\x7d") then complainAbout (← kind)
      return .inl ()) g.rounds ()
  return .other "TemplateLiteral" (some start) stop false

/-- A further expression between parentheses. The expressions are kept from the last one on. -/
def parenthesizedStep (g : Grammar) (items : List Tree) : Rule (List Tree ⊕ List Tree) := do
  let item ← if ← isMark "..." then
      complainAbout (.mark "...")
      advance
      let _ ← g.assignment
      pure .bad
    else g.assignment
  let items := item :: items
  if ← isMark "," then
    advance
    if ← isMark ")" then
      complainAbout (.mark ")")
      return .inr items
    else return .inl items
  else return .inr items

/-- Expressions between parentheses. Spreads, a comma at the end and empty parentheses are
complained about, since only a parameter list may have them. -/
def parenthesized (g : Grammar) : Rule Tree := do
  let _ ← expectMark "("
  let items ← if ← isMark ")" then pure [] else loop (parenthesizedStep g) g.rounds []
  let _ ← expectMark ")"
  match items with
  | [] =>
    complainAbout (.mark ")")
    return .bad
  | [item] => return if (← get).noted.isNone then item else .sequence [item]
  | items => return .sequence items.reverse

/-- A further argument of a call. The arguments are kept from the last one on. -/
def argumentStep (g : Grammar) (items : List Tree) : Rule (List Tree ⊕ List Tree) := do
  if ← isMark ")" then return .inr items
  else
    let spread ← isMark "..."
    if spread then advance
    let item ← g.assignment
    let items := (if spread then .spread item else item) :: items
    if ← isMark "," then
      advance
      return .inl items
    else return .inr items

/-- The arguments of a call, with their parentheses, and where they stop. -/
def arguments (g : Grammar) : Rule (List Tree × Nat) := do
  let _ ← expectMark "("
  let items ← loop (argumentStep g) g.rounds []
  let closing ← expectMark ")"
  return (items.reverse, closing + 1)

/-- A call. -/
def callOf (g : Grammar) (callee : Tree) : Rule Tree := do
  let (args, stop) ← arguments g
  return .call callee args stop

/-- A property in brackets. -/
def bracketMember (g : Grammar) (base : Tree) : Rule Tree := do
  let _ ← expectMark "["
  let _ ← expression g
  let closing ← expectMark "]"
  return .other "BracketExpression" base.start (closing + 1) true

/-- The name of a property after a point. -/
def namedMember (base : Tree) : Rule Tree := do
  let token := (← get).token
  if token.kind.isPropertyName then
    advance
    return .dot base token.meaning (token.start + nameLength token.meaning)
  else failToken

/-- A property after a point, which may be private. -/
def dotMember (base : Tree) : Rule Tree := do
  advance
  let token := (← get).token
  if token.kind == .privateName then
    advance
    let stop := token.start + nameLength token.meaning
    return .other "PrivateDotExpression" base.start stop true
  else namedMember base

/-- What follows the word `super`, which must be used. -/
def superUse (g : Grammar) : Rule Tree := do
  let start ← here
  let base := Tree.other "SuperExpression" (some start) (start + 5) false
  advance
  if ← isMark "." then
    advance
    namedMember base
  else if ← isMark "[" then bracketMember g base
  else if ← isMark "(" then callOf g base
  else fail .straySuper start

/-- A primary expression. -/
def primary (g : Grammar) : Rule Tree := do
  let token := (← get).token
  let start := token.start
  let name : Rule Tree := do
    if (← get).scope.bindsName token.kind then
      advance
      return .identifier start token.meaning
    else
      complainAbout token.kind
      recover
      return .bad
  match token.kind with
  | .null =>
    advance
    return .null start
  | .boolean =>
    advance
    return .bool start (token.meaning == "true")
  | .string =>
    advance
    let length := Text.byteLength token.written.toList
    return .string start (start + length) token.meaning
  | .number =>
    advance
    match NumberValue.read? token.written.toList with
    | some value => return .number start token.written value
    | none =>
      complain .badNumber start
      return .number start token.written (.int 0)
  | .mark "/" => patternLiteral
  | .mark "/=" => patternLiteral
  | .mark "\x7b" => objectLiteral g
  | .mark "[" => arrayLiteral g
  | .mark "(" => parenthesized g
  | .word "this" =>
    advance
    return .other "ThisExpression" (some start) (start + 4) false
  | .word "super" => superUse g
  | .word "async" =>
    if (← peek) == .word "function" then
      advance
      function g false true start
    else name
  | .word "function" => function g false false start
  | .word "class" => classLiteral g false
  | kind => if kind == .mark (String.singleton templateMark) then template g false else name

/-! ## Properties and calls -/

/-- An expression after `new`. Empty parentheses do not belong to it. -/
def newExpression (g : Grammar) : Rule Tree := do
  let start ← expectWord "new"
  if ← isMark "." then
    advance
    let token := (← get).token
    if token.written == "target" then
      advance
      return .other "MetaProperty" none (token.start + nameLength token.meaning) false
    else complainAbout .identifier
  let callee ← g.member
  if callee.isBad then return .bad
  let (args, stop) ← if ← isMark "(" then arguments g else pure ([], callee.stop)
  return .other "NewExpression" (some start) (if args.isEmpty then callee.stop else stop) false

/-- A primary expression or one after `new`. -/
def newOrPrimary (g : Grammar) : Rule Tree := do
  if ← isWord "new" then newExpression g else primary g

/-- A primary expression with its properties. -/
def member (g : Grammar) : Rule Tree := do
  let first ← newOrPrimary g
  loop (fun (left : Tree) => do
    if ← isMark "." then return .inl (← dotMember left)
    else if ← isMark "[" then return .inl (← bracketMember g left)
    else if ← isMark (String.singleton templateMark) then return .inl (← template g true)
    else return .inr left) g.rounds first

/-- The state of a chain of properties and calls. -/
inductive Chain where
  /-- It has no optional part so far. -/
  | plain (left : Tree)
  /-- It has an optional part. -/
  | optional (left : Tree)
  /-- It was complained about. -/
  | broken

/-- What a chain has come to. -/
def Chain.left : Chain → Tree
  | .plain left => left
  | .optional left => left
  | .broken => .bad

/-- A chain that goes on with another tree. -/
def Chain.to : Chain → Tree → Chain
  | .plain _, left => .plain left
  | .optional _, left => .optional left
  | .broken, _ => .broken

/-- A chain as an expression. -/
def Chain.toTree : Chain → Tree
  | .plain left => left
  | .optional left => .other "OptionalChain" left.start left.stop false
  | .broken => .bad

/-- One more part of a chain; nothing when it ends. -/
def chainPart (g : Grammar) (c : Chain) : Rule (Option Chain) := do
  let opener := String.singleton templateMark
  if ← isMark "." then return some (c.to (← dotMember c.left))
  else if ← isMark "[" then return some (c.to (← bracketMember g c.left))
  else if ← isMark "(" then return some (c.to (← callOf g c.left))
  else if ← isMark opener then
    match c with
    | .plain _ => return some (.plain (← template g true))
    | _ =>
      complain .templateOnChain (← here)
      recover
      return some .broken
  else if ← isMark "?." then
    let next ← peek
    if next == .mark "[" || next == .mark "(" || next == .mark opener then
      advance
      return some (.optional c.left)
    else return some (.optional (← dotMember c.left))
  else return none

/-- Go on with a chain, or answer with its expression. -/
def chainStep (g : Grammar) (c : Chain) : Rule (Chain ⊕ Tree) := do
  match ← chainPart g c with
  | none => return .inr c.toTree
  | some .broken => return .inr .bad
  | some next => return .inl next

/-- A primary expression with its properties and calls. -/
def chain (g : Grammar) : Rule Tree := withIn true do
  let first ← newOrPrimary g
  loop (chainStep g) g.rounds (.plain first)

/-! ## Operators -/

/-- An operand with an increment or a decrement before or after it. -/
def update (g : Grammar) : Rule Tree := do
  let token := (← get).token
  if token.kind == .mark "++" || token.kind == .mark "--" then
    advance
    let operand ← g.unary
    if operand.isAssignable then return .unary token.start token.kind.text operand
    else fail .assignmentTarget token.start
  else
    let operand ← chain g
    let s ← get
    if (s.token.kind == .mark "++" || s.token.kind == .mark "--") && !s.afterLine then
      advance
      if operand.isAssignable then return .suffixed s.token.kind.text operand
      else fail .assignmentTarget s.token.start
    else return operand

/-- The prefix operators other than updates. -/
def unaryOperators : List TokenKind :=
  [.mark "+", .mark "-", .mark "!", .mark "~", .word "delete", .word "void", .word "typeof"]

/-- A prefix operator and its operand. -/
def unary (g : Grammar) : Rule Tree := do
  let s ← get
  if unaryOperators.contains s.token.kind then
    advance
    return .unary s.token.start s.token.kind.text (← g.unary)
  else if s.token.kind == .word "await" && s.scope.allowAwait then
    advance
    if !s.scope.inAsync then
      complainAbout (.word "await")
      return .bad
    else
      if s.scope.inParameters then complain .awaitInParameters s.token.start
      let operand ← g.unary
      return .other "AwaitExpression" (some s.token.start) operand.stop false
  else update g

/-- A further operand after one of the given operators. -/
def leftStep (operators : List String) (operand : Rule Tree) (left : Tree) :
    Rule (Tree ⊕ Tree) := do
  match ← kind with
  | .mark op =>
    if operators.contains op then
      advance
      return .inl (.binary op left (← operand))
    else return .inr left
  | _ => return .inr left

/-- Operands of an operator that associates to the left. -/
def leftChain (g : Grammar) (operators : List String) (operand : Rule Tree) : Rule Tree := do
  let first ← operand
  loop (leftStep operators operand) g.rounds first

/-- Fold operands that associate to the right. The list holds, from the last one on, each operand
but the last with the operator after it. -/
def foldRight (pending : List (Tree × String)) (last : Tree) : Tree :=
  pending.foldl (fun right (left, op) => .binary op left right) last

/-- A further operand of a power. -/
def powerStep (g : Grammar) (pending : List (Tree × String)) :
    Rule (List (Tree × String) ⊕ Tree) := do
  let parenthesized ← isMark "("
  let operand ← unary g
  if ← isMark "**" then
    if !parenthesized && operand.isPlainUnary then complain .unaryBeforePower (← here)
    advance
    return .inl ((operand, "**") :: pending)
  else return .inr (foldRight pending operand)

/-- A power. -/
def power (g : Grammar) : Rule Tree := loop (powerStep g) g.rounds []

/-- Products, sums and shifts. -/
def shift (g : Grammar) : Rule Tree :=
  leftChain g ["<<", ">>", ">>>"] <|
    leftChain g ["+", "-"] <|
      leftChain g ["*", "/", "%"] (power g)

/-- The relational operator that the current token is, if any. -/
def relationalOperator (allowIn : Bool) : TokenKind → Option String
  | .mark text => if ["<", "<=", ">", ">="].contains text then some text else none
  | .word "instanceof" => some "instanceof"
  | .word "in" => if allowIn then some "in" else none
  | _ => none

/-- A further operand of a comparison. A private name may stand alone or before `in`. -/
def relationalStep (g : Grammar) (outer : Bool) (pending : List (Tree × String)) :
    Rule (List (Tree × String) ⊕ Tree) := do
  let allowIn := outer || !pending.isEmpty
  let token := (← get).token
  if allowIn && token.kind == .privateName then
    let stop := token.start + nameLength token.meaning
    let left := Tree.other "PrivateIdentifier" (some token.start) stop false
    advance
    if ← isWord "in" then
      advance
      return .inr (foldRight pending (.binary "in" left (← shift g)))
    else return .inr (foldRight pending left)
  else
    let left ← if pending.isEmpty then shift g else withIn true (shift g)
    match relationalOperator allowIn (← kind) with
    | some op =>
      advance
      return .inl ((left, op) :: pending)
    | none => return .inr (foldRight pending left)

/-- A comparison. The surroundings say whether `in` is an operator before the first operand. -/
def relational (g : Grammar) : Rule Tree := do
  let outer := (← get).scope.allowIn
  loop (relationalStep g outer) g.rounds []

/-- Equality and bitwise operators and conjunction. -/
def conjunction (g : Grammar) : Rule Tree :=
  leftChain g ["&&"] <|
    leftChain g ["|"] <|
      leftChain g ["^"] <|
        leftChain g ["&"] <|
          leftChain g ["==", "!=", "===", "!=="] (relational g)

/-- A further operand of a disjunction. -/
def orStep (g : Grammar) (left : Tree) : Rule (Tree ⊕ Tree) := do
  if ← isMark "||" then
    advance
    return .inl (.binary "||" left (← conjunction g))
  else
    if ← isMark "??" then complain .mixedCoalesce (← here)
    return .inr left

/-- A further operand of the coalescing operator. -/
def coalesceStep (g : Grammar) (left : Tree) : Rule (Tree ⊕ Tree) := do
  if ← isMark "??" then
    let start ← here
    advance
    let parenthesized ← isMark "("
    let right ← conjunction g
    if !parenthesized && right.isConjunction then
      complain .mixedCoalesce start
      return .inr left
    else return .inl (.binary "??" left right)
  else
    if ← isMark "||" then complain .mixedCoalesce (← here)
    return .inr left

/-- Disjunctions, or operands of the coalescing operator. The two do not mix without parentheses. -/
def disjunction (g : Grammar) : Rule Tree := do
  let parenthesized ← isMark "("
  let first ← conjunction g
  if (← isMark "||") || (!parenthesized && first.isConjunction) then
    loop (orStep g) g.rounds first
  else loop (coalesceStep g) g.rounds first

/-- A choice between two expressions. -/
def conditional (g : Grammar) : Rule Tree := do
  let test ← disjunction g
  if ← isMark "?" then
    advance
    let _ ← withIn true g.assignment
    let _ ← expectMark ":"
    let alternative ← g.assignment
    return .other "ConditionalExpression" test.start alternative.stop false
  else return test

/-! ## Assignments and arrow functions -/

/-- The assignment operator that a mark is, if any. -/
def assignmentOperator (text : String) : Option String :=
  let operators :=
    ["=", "+=", "-=", "*=", "/=", "%=", "**=", "<<=", ">>=", ">>>=", "&=", "|=", "^="]
  if operators.contains text then some text else none

/-- A yield expression. Of a value that leaves nothing but a complaint, nothing is read. -/
def yieldExpression (g : Grammar) : Rule Tree := do
  let start ← expectWord "yield"
  let result (stop : Nat) := Tree.other "YieldExpression" (some start) stop false
  if (← get).scope.inParameters then complain .yieldInParameters start
  if !(← get).afterLine && (← isMark "*") then advance
  let s ← get
  if s.afterLine || s.token.kind == .mark ";" || s.token.kind == .mark "\x7d" ||
      s.token.kind == .endOfInput then
    return result (start + 5)
  else
    let value ← g.assignment
    if value.isBad then
      restore s
      return result (start + 5)
    else return result value.stop

/-- How an expression that may turn out to be an arrow function begins. -/
inductive Opening where
  /-- With anything else. -/
  | plain
  /-- With a parenthesis. -/
  | parenthesis
  /-- With the word `async` and a parenthesis. -/
  | async
deriving DecidableEq

/-- An arrow function whose parameters were read as the expression `left`. -/
def arrow (g : Grammar) (opening : Opening) (earlier : State) (left : Tree) : Rule Tree := do
  let start := earlier.token.start
  match opening, left with
  | _, .identifier _ _ => arrowFunction g false start
  | .parenthesis, left =>
    match left, (← get).noted with
    | .sequence items, none => checkParameters items
    | _, _ =>
      restore earlier
      let _ ← parameters g
    arrowFunction g false start
  | .async, .call _ _ _ =>
    withKeywords true earlier.scope.allowYield do
      restore earlier
      advance
      let _ ← parameters g
      arrowFunction g true start
  | _, _ => spoil .arrowParameters left.start

/-- An assignment to what was read as the expression `left`. -/
def assignTo (g : Grammar) (opening : Opening) (op : String) (left : Tree) : Rule Tree := do
  advance
  let isPattern := match left with
    | .array _ _ _ => true
    | .object _ _ _ => true
    | _ => false
  if left.isAssignable then return .assign op left (← g.assignment)
  else if isPattern && opening != .parenthesis && op == "=" then
    let pattern ← asAssigned false left
    return .assign op pattern (← g.assignment)
  else fail .assignmentTarget (← placeOf left.start)

/-- An arrow function with one parameter after `async`. -/
def asyncArrow (g : Grammar) (start : Nat) : Rule Tree := do
  advance
  withKeywords true (← get).scope.allowYield do
    wordToName
    if (← kind) != .identifier then
      complainAbout (← kind)
      advance
      return .bad
    else
      advance
      arrowFunction g true start

/-- A choice, with the arrow or the assignment that may follow it. The reading was at `earlier` when
the expression began. -/
def assignmentFrom (g : Grammar) (earlier : State) (opening : Opening) : Rule Tree := do
  let left ← conditional g
  match ← kind with
  | .mark "=>" => arrow g opening earlier left
  | .mark text =>
    match assignmentOperator text with
    | some op => assignTo g opening op left
    | none => return left
  | _ => return left

/-- An expression without commas. -/
def assignment (g : Grammar) : Rule Tree := do
  let earlier ← get
  match earlier.token.kind with
  | .mark "(" => assignmentFrom g earlier .parenthesis
  | .word "async" =>
    let next ← peek
    if earlier.scope.bindsName next then asyncArrow g earlier.token.start
    else assignmentFrom g earlier (if next == .mark "(" then .async else .plain)
  | kind =>
    if kind == .word "yield" && earlier.scope.allowYield then yieldExpression g
    else
      wordToName
      assignmentFrom g earlier .plain

end DocQuery.Script
