import DocQuery.Script.Pattern

/-!
# DocQuery.Script.Function

Comma expressions, literals with members, and functions: arrays, objects, parameter lists, function
bodies, methods and classes.
-/

namespace DocQuery.Script

open Rule

/-- A further member of a comma expression. The members are kept from the last one on. -/
def expressionStep (g : Grammar) (items : List Tree) : Rule (List Tree ⊕ List Tree) := do
  if ← isMark "," then
    advance
    return .inl ((← g.assignment) :: items)
  else return .inr items

/-- A comma expression. -/
def expression (g : Grammar) : Rule Tree := do
  let first ← g.assignment
  let items ← loop (expressionStep g) g.rounds [first]
  return if items.length ≤ 1 then first else .sequence items.reverse

/-! ## Names and parameters -/

/-- A name or a pattern that is declared. The answer says whether it is a pattern. -/
def boundTarget (g : Grammar) : Rule Bool := do
  wordToName
  match ← kind with
  | .identifier =>
    advance
    return false
  | kind =>
    if kind == .mark "[" || kind == .mark "\x7b" then
      checkBound false (← g.primary)
      return true
    else failToken

/-- A declared name or pattern with its optional value. -/
structure Declared where
  /-- Whether it is a pattern. -/
  isPattern : Bool
  /-- Where the name or pattern ends. -/
  stop : Nat
  /-- Where its value starts, if it has one. -/
  value : Option (Option Nat)

/-- Read a declared name or pattern with its optional value. -/
def declared (g : Grammar) : Rule Declared := do
  let isPattern ← boundTarget g
  let stop := (← get).lastEnd
  if ← isMark "=" then
    advance
    let value ← g.assignment
    return { isPattern, stop, value := some value.start }
  else return { isPattern, stop, value := none }

/-- How many parameters there are, and whether there is a rest parameter. -/
structure Parameters where
  /-- The number of parameters before the rest. -/
  count : Nat
  /-- Whether there is a rest parameter. -/
  hasRest : Bool
deriving Inhabited

/-- The parameters of a function, with their parentheses. -/
def parameters (g : Grammar) : Rule Parameters := do
  let _ ← expectMark "("
  let list ← within ({ · with inParameters := true })
    (fun outer inner => { inner with inParameters := outer.inParameters }) <|
    loop (fun (count : Nat) => do
      if (← isMark ")") || (← atEnd) then return .inr { count, hasRest := false }
      else if ← isMark "..." then
        advance
        checkBound false (← g.assignment)
        return .inr ({ count, hasRest := true } : Parameters)
      else
        let _ ← declared g
        if !(← isMark ")") then
          let _ ← expectMark ","
        return .inl (count + 1)) g.rounds 0
  let _ ← expectMark ")"
  return list

/-! ## Bodies -/

/-- The statements up to a closing brace. -/
def statements (g : Grammar) : Rule Unit :=
  loop (fun (_ : Unit) => do
    if (← isMark "\x7d") || (← atEnd) then return .inr ()
    else
      allowLet true
      let _ ← g.statement
      return .inl ()) g.rounds ()

/-- Statements between braces. The answer is where they stop. -/
def block (g : Grammar) : Rule Nat := do
  let _ ← expectMark "\x7b"
  statements g
  return (← expectMark "\x7d") + 1

/-- The body of a function, in a scope of its own. The answer is where it stops. -/
def functionBody (g : Grammar) (inAsync allowAwait allowYield : Bool) : Rule Nat :=
  within (fun _ => { inFunction := true, inAsync, allowAwait, allowYield }) (fun outer _ => outer)
    (block g)

/-- Read with `await` and `yield` as operators or not. -/
def withKeywords {α : Type} (allowAwait allowYield : Bool) : Rule α → Rule α :=
  within ({ · with allowAwait, allowYield }) fun outer inner =>
    { inner with allowAwait := outer.allowAwait, allowYield := outer.allowYield }

/-- What a method is for. -/
inductive MethodRole where
  /-- An ordinary method. -/
  | plain
  /-- A getter. -/
  | getter
  /-- A setter. -/
  | setter
deriving DecidableEq

/-- The parameters and the body of a method. -/
def method (g : Grammar) (role : MethodRole) (generator async : Bool) : Rule Unit := do
  let start ← here
  withKeywords async generator do
    let list ← parameters g
    if role == .getter && (list.count != 0 || list.hasRest) then complain .getterParameters start
    if role == .setter && (list.count != 1 || list.hasRest) then complain .setterParameters start
    let _ ← functionBody g async async generator

/-- A function, from the word `function` on. -/
def function (g : Grammar) (declaration async : Bool) (start : Nat) : Rule Tree := do
  let _ ← expectWord "function"
  let generator ← isMark "*"
  if generator then advance
  let name : Rule Unit := do
    wordToName
    if (← kind) == .identifier then advance
    else if declaration then
      let _ ← expect .identifier
  let body : Rule Nat := do
    let _ ← parameters g
    functionBody g async async generator
  let stop ← if declaration then do
      name
      withKeywords async generator body
    else withKeywords async generator do
      name
      body
  return .other "FunctionLiteral" (some start) stop false

/-- The body of an arrow function, from the arrow on. -/
def arrowFunction (g : Grammar) (async : Bool) (start : Nat) : Rule Tree := do
  let _ ← expectMark "=>"
  if ← isMark "\x7b" then
    let stop ← functionBody g async async false
    return .other "ArrowFunctionLiteral" (some start) stop false
  else
    let scope := (← get).scope
    let changed := async != scope.inAsync || async != scope.allowAwait
    let change (s : Scope) : Scope :=
      if changed then { s with inAsync := async, allowAwait := async, allowYield := false } else s
    let body ← within change (fun outer inner =>
      { inner with
        inAsync := outer.inAsync, allowAwait := outer.allowAwait, allowYield := outer.allowYield })
      g.assignment
    return .other "ArrowFunctionLiteral" (some start) body.stop false

/-! ## Members -/

/-- A key that has been read. -/
structure Key where
  /-- Where it starts; a computed key starts with its expression. -/
  start : Option Nat
  /-- Its token; nothing for a computed key. -/
  token : Option Token

/-- Whether a key is a private name. -/
def Key.isPrivate (k : Key) : Bool := k.token.any (·.kind == .privateName)

/-- Whether a key is the given name. -/
def Key.isNamed (k : Key) (name : String) : Bool := k.token.any fun t =>
  t.kind != .number && t.meaning == name

/-- The key of a member. A token that is no key is complained about, at the token after it. -/
def key (g : Grammar) : Rule (Option Key) := do
  let token := (← get).token
  if ← isMark "[" then
    advance
    let computed ← g.assignment
    let _ ← expectMark "]"
    return some { start := computed.start, token := none }
  else
    advance
    let found : Key := { start := some token.start, token := some token }
    match token.kind with
    | .string | .privateName => return some found
    | .number =>
      if (NumberValue.read? token.written.toList).isSome then return some found
      else
        complain .badNumber token.start
        return none
    | other =>
      if other.isPropertyName then return some found
      else
        complainAbout other
        return none

/-- A member of an object literal; nothing when its key is bad. -/
def property (g : Grammar) : Rule (Option Property) := do
  if ← isMark "..." then
    advance
    return some (.spread (← g.assignment))
  let generator ← isMark "*"
  if generator then advance
  let some k ← key g | return none
  let scope := (← get).scope
  if !k.isPrivate then
    if generator then
      method g .plain true false
      return some (.method k.start)
    if ← isMark "(" then
      method g .plain false false
      return some (.method k.start)
    if (← isMark ",") || (← isMark "\x7d") || (← isMark "=") then
      if k.token.any fun t => scope.bindsName t.kind then
        if ← isMark "=" then
          advance
          let _ ← g.assignment
        return some .short
      else complainAbout (← kind)
    else if !(← isMark ":") then
      let isAsync := k.token.any (·.kind == .word "async")
      let isGetter := k.token.any (·.written == "get")
      if isAsync || isGetter || k.token.any (·.written == "set") then
        let some second ← key g | return none
        let role := if isAsync then .plain else if isGetter then .getter else .setter
        method g role false isAsync
        return some (.method second.start)
  let _ ← expectMark ":"
  return some (.keyed (← g.assignment))

/-- An object literal. -/
def objectLiteral (g : Grammar) : Rule Tree := do
  let start ← expectMark "\x7b"
  let members ← loop (fun (members : List Property) => do
    if (← isMark "\x7d") || (← atEnd) then return .inr members
    else
      let found ← property g
      let members := found.toList ++ members
      if ← isMark "\x7d" then return .inr members
      else
        let _ ← expectMark ","
        return .inl members) g.rounds []
  let closing ← expectMark "\x7d"
  return .object start (closing + 1) members.reverse

/-- A further item of an array literal. The items are kept from the last one on. -/
def arrayStep (g : Grammar) (items : List Tree) : Rule (List Tree ⊕ List Tree) := do
  if (← isMark "]") || (← atEnd) then return .inr items
  else if ← isMark "," then
    advance
    return .inl (.elision :: items)
  else
    let spread ← isMark "..."
    if spread then advance
    let item ← g.assignment
    if !(← isMark "]") then
      let _ ← expectMark ","
    return .inl ((if spread then .spread item else item) :: items)

/-- An array literal. -/
def arrayLiteral (g : Grammar) : Rule Tree := do
  let start ← expectMark "["
  let items ← loop (arrayStep g) g.rounds []
  let closing ← expectMark "]"
  return .array start (closing + 1) items.reverse

/-! ## Classes -/

/-- Whether the word `static`, `get`, `set` or `async` before a token is itself the name of a class
member. -/
def endsMemberName (alsoValue : Bool) : TokenKind → Bool
  | .mark text => text == ";" || text == "(" || (alsoValue && (text == "=" || text == "\x7d"))
  | _ => false

/-- What stands before the key of a class member. -/
structure MemberModifiers where
  /-- Whether there is `get`, `set` or `async`. -/
  modified : Bool
  /-- Whether it is `async`. -/
  async : Bool
  /-- What a method is for. -/
  role : MethodRole
  /-- Whether there is a star. -/
  generator : Bool

/-- Read what stands before the key of a class member. -/
def memberModifiers : Rule MemberModifiers := do
  let written := (← get).token.written
  let isAsync ← isWord "async"
  let modified ← if written == "get" || written == "set" || isAsync then
      pure !(endsMemberName false (← peek))
    else pure false
  let role : MethodRole :=
    if !modified || isAsync then .plain else if written == "get" then .getter else .setter
  if modified then advance
  let generator ← (return (← isMark "*") && role == .plain)
  if generator then advance
  return { modified, async := modified && isAsync, role, generator }

/-- A method of a class, after its key. -/
def classMethod (g : Grammar) (isStatic : Bool) (m : MemberModifiers) (k : Key) : Rule Unit := do
  if k.isNamed "constructor" then
    if !isStatic then
      if m.role != .plain then complainOf .accessorConstructor k.start
      else if m.async then complainOf .asyncConstructor k.start
      else if m.generator then complainOf .generatorConstructor k.start
    else if k.isPrivate then complainOf .privateConstructor k.start
  method g m.role m.generator m.async

/-- A field of a class, after its key. The answer says whether another member may follow. -/
def classField (g : Grammar) (k : Key) : Rule Bool := do
  if k.isNamed "constructor" then complainOf .fieldConstructor k.start
  if ← isMark "=" then
    advance
    let _ ← expression g
  if !(← get).afterLine && !(← isMark ";") && !(← isMark "\x7d") then
    complainAbout (← kind)
    return false
  return true

/-- A method or field of a class. The answer says whether another member may follow. -/
def classMember (g : Grammar) (isStatic : Bool) : Rule Bool := do
  let m ← memberModifiers
  let some k ← key g | return true
  if isStatic && !k.isPrivate && k.isNamed "prototype" then complainOf .staticPrototype k.start
  if m.modified || m.generator || (← isMark "(") then
    classMethod g isStatic m k
    return true
  else classField g k

/-- A class. -/
def classLiteral (g : Grammar) (declaration : Bool) : Rule Tree := do
  if !(← get).scope.allowLet then complainAbout (.word "class")
  let start ← expectWord "class"
  wordToName
  if (← kind) == .identifier then advance
  else if declaration then
    let _ ← expect .identifier
  if !(← isMark "\x7b") then
    let _ ← expectWord "extends"
    let _ ← g.chain
  let _ ← expectMark "\x7b"
  loop (fun (_ : Unit) => do
    if (← isMark "\x7d") || (← atEnd) then return .inr ()
    else if ← isMark ";" then
      advance
      return .inl ()
    else
      let isStatic ← if ← isWord "static" then pure !(endsMemberName true (← peek)) else pure false
      if isStatic then advance
      if isStatic && (← isMark "\x7b") then
        let _ ← functionBody g false true false
        return .inl ()
      else if ← classMember g isStatic then return .inl ()
      else return .inr ()) g.rounds ()
  let closing ← expectMark "\x7d"
  return .other "ClassLiteral" (some start) (closing + 1) false

end DocQuery.Script
