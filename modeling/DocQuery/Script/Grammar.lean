import DocQuery.Script.Statement

/-!
# DocQuery.Script.Grammar

The knot of the grammar, and whole scripts. `grammar n` lets the rules call each other to the depth
`n`. A source of `k` characters needs less than `2 * k + 16`: on the way down each call passes over
a character, except that a statement may begin with an expression. A repetition needs no more rounds
than that either: a round that passes over nothing is followed by one that does.

A comment `//# sourceMappingURL=` in the last line is a comment like any other here. A parser that
loads the source map it names may fail because of that file.
-/

namespace DocQuery.Script

/-- The rules of the grammar, up to a depth of calls. -/
def grammar (rounds : Nat) : (depth : Nat) → Grammar
  | 0 =>
    { rounds
      assignment := Rule.exhausted
      unary := Rule.exhausted
      primary := Rule.exhausted
      member := Rule.exhausted
      chain := Rule.exhausted
      statement := Rule.exhausted }
  | depth + 1 =>
    { rounds
      assignment := fun s => assignment (grammar rounds depth) s
      unary := fun s => unary (grammar rounds depth) s
      primary := fun s => primary (grammar rounds depth) s
      member := fun s => member (grammar rounds depth) s
      chain := fun s => chain (grammar rounds depth) s
      statement := fun s => statement (grammar rounds depth) s }

/-- A further statement of a script. The statements are kept from the last one on. -/
def scriptStep (g : Grammar) (body : List Statement) : Rule (List Statement ⊕ List Statement) := do
  if ← Rule.atEnd then return .inr body
  else
    Rule.allowLet true
    return .inl ((← g.statement) :: body)

/-- The statements of a whole script. -/
def script (g : Grammar) : Rule (List Statement) := do
  Rule.advance
  let body ← Rule.loop (scriptStep g) g.rounds []
  return body.reverse

/-- The state before the first token. -/
def State.start (src : String) : State where
  source := src.toList
  token := { kind := .endOfInput, start := 0, written := "", meaning := "" }
  afterLine := false
  cursor := .start src
  lastEnd := 0
  scope := {}
  noted := none
  recovery := {}

/-- Read a script. -/
def read (src : String) : Except Fault (List Statement) :=
  let limit := 2 * src.length + 16
  let (body, s) := (script (grammar limit limit)).run (.start src)
  match s.noted with
  | some fault => .error fault
  | none => .ok body

end DocQuery.Script
