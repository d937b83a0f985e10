import DocQuery.Script.State

/-!
# DocQuery.Script.Pattern

Array and object literals as patterns. A literal in front of an assignment must hold things that
can be assigned to; one that declares names must hold names. In both, an item may have a default
value, and the last one may be a rest.

Design points:

* a literal that is assigned to becomes a pattern in the tree (`asAssigned`); one that declares is
  only checked (`checkBound`), since no tree holds a declaration;
* the items of a declaring array literal are held to the rules of assignments, its rest and
  everything in an object literal to those of declarations;
* what follows a rest must not have a comma in it. That is a matter of the text between the rest and
  the closing bracket, so that a comma in a comment counts as well.
-/

namespace DocQuery.Script

/-- The offset of the first comma in a text that starts at `offset`, from `low` on and before
`high`. -/
def commaBetween (low high : Nat) : (offset : Nat) → List Char → Option Nat
  | _, [] => none
  | offset, c :: cs =>
    if high ≤ offset then none
    else if c == ',' && low ≤ offset then some offset
    else commaBetween low high (offset + c.utf8Size) cs

namespace Rule

/-- Complain about a construct. -/
def complainOf (complaint : Complaint) (start : Option Nat) : Rule Unit := do
  complain complaint (← placeOf start)

/-- Complain about a construct, of which nothing is left then. -/
def spoil (complaint : Complaint) (start : Option Nat) : Rule Tree := do
  complainOf complaint start
  return .bad

/-- Complain about a comma between a rest element and the end of its array. -/
def checkComma (rest : Tree) (stop : Nat) : Rule Unit := do
  match commaBetween rest.stop (stop - 1) 0 (← get).source with
  | some start => complain .commaAfterRest start
  | none => return

end Rule

open Rule

/-! ## Patterns that are assigned to -/

mutual

/-- Take what is assigned to as a pattern. An element of a pattern may have a default value. -/
def asAssigned (element : Bool) : Tree → Rule Tree
  | .assign op target value => do
    if element && op == "=" then return .assign op (← asAssigned false target) value
    else spoil .destructuringTarget target.start
  | .array start stop items => do return .arrayPattern start stop (← assignedItems stop items)
  | .object start stop members => do return .objectPattern start stop (← assignedMembers members)
  | .arrayPattern start stop items => return .arrayPattern start stop items
  | .objectPattern start stop members => return .objectPattern start stop members
  | .elision => return .elision
  | t => if t.isAssignable then return t else spoil .destructuringTarget t.start

/-- Take the items of an array literal that stops at `stop` as elements. -/
def assignedItems (stop : Nat) : List Tree → Rule (List Tree)
  | [] => return []
  | .spread inner :: rest => do
    if rest.isEmpty then
      checkComma inner stop
      return [.spread (← asAssigned false inner)]
    else
      complainOf .restNotLast inner.start
      return []
  | t :: rest => do
    let t ← asAssigned true t
    return t :: (← assignedItems stop rest)

/-- Take the members of an object literal as elements. What a rest assigns to is not checked. -/
def assignedMembers : List Property → Rule (List Property)
  | [] => return []
  | .keyed value :: rest => do
    let value ← asAssigned true value
    return .keyed value :: (← assignedMembers rest)
  | .short :: rest => do return .short :: (← assignedMembers rest)
  | .spread inner :: rest => do
    if !rest.isEmpty then complainOf .restNotLast inner.start
    return [.spread inner]
  | .method start :: _ => do
    complainOf .destructuringTarget start
    return []

end

/-! ## Patterns that declare names -/

/-- Check the rest of a declaring object pattern. -/
def checkBoundRest : Tree → Rule Unit
  | .identifier _ _ => return
  | t => complainOf .bindingRest t.start

mutual

/-- Check what declares. An element of a pattern, or a parameter, may have a default value. -/
def checkBound (element : Bool) : Tree → Rule Unit
  | .assign op target _ => do
    if !element then complainOf .bindingTarget target.start
    else if op == "=" then checkBound false target
    else complainOf .destructuringTarget target.start
  | .array _ stop items => checkBoundItems stop items
  | .object _ _ members => checkBoundMembers members
  | .arrayPattern _ _ items => checkBoundElements items
  | .objectPattern _ _ members => checkBoundMembers members
  | .elision => return
  | .identifier start name => do
    if name == "await" && (← get).scope.allowAwait then complain .bindingTarget start
  | t => complainOf .bindingTarget t.start

/-- Check the items of a declaring array literal that stops at `stop`. -/
def checkBoundItems (stop : Nat) : List Tree → Rule Unit
  | [] => return
  | .spread inner :: rest => do
    if rest.isEmpty then
      checkComma inner stop
      checkBound false inner
    else complainOf .restNotLast inner.start
  | t :: rest => do
    let _ ← asAssigned true t
    checkBoundItems stop rest

/-- Check the elements of an array literal that was assigned to and turns out to declare. None may
have a default value. -/
def checkBoundElements : List Tree → Rule Unit
  | [] => return
  | .spread inner :: rest => do
    checkBound false inner
    checkBoundElements rest
  | t :: rest => do
    checkBound false t
    checkBoundElements rest

/-- Check the members of a declaring object literal. -/
def checkBoundMembers : List Property → Rule Unit
  | [] => return
  | .keyed value :: rest => do
    checkBound true value
    checkBoundMembers rest
  | .short :: rest => checkBoundMembers rest
  | .spread inner :: rest => do
    if rest.isEmpty then checkBoundRest inner else complainOf .restNotLast inner.start
  | .method start :: _ => complainOf .bindingTarget start

end

/-- Check parameters that were read as a comma expression. -/
def checkParameters : List Tree → Rule Unit
  | [] => return
  | t :: rest => do
    checkBound true t
    checkParameters rest

end DocQuery.Script
