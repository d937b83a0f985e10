import DocQuery.Json.Payload
import DocQuery.Value.Json

/-!
# DocQuery.Value.Indent

Indented JSON text, made from compact text that passes the check of `DocQuery.Json.Payload`.
Punctuation outside strings decides where lines break: after an opening bracket (unless it closes at
once), after a comma and before a closing bracket. A string is copied as it is.

The check is what a value can fail at that has a compact text: arrays and documents may nest deeper
than it allows.
-/

namespace DocQuery.Json

/-- The white space a layout is made of. -/
structure Indentation where
  /-- What every new line starts with. -/
  margin : String
  /-- What is added for each level. -/
  step : String

/-- A line break followed by the indentation of a level. -/
def Indentation.newline (w : Indentation) (depth : Nat) : List Char :=
  '\n' :: w.margin.toList ++ (List.replicate depth w.step.toList).flatten

/-- Where the layout stands outside strings. -/
structure LayoutState where
  /-- The number of open brackets whose content has begun. -/
  depth : Nat
  /-- An opening bracket was the last thing written, and still waits for its line break. -/
  pending : Bool

/-- How deep the text stands that begins here, unless it is a closing bracket. -/
def LayoutState.level (s : LayoutState) : Nat := if s.pending then s.depth + 1 else s.depth

/-- The line break that is still waited for. -/
def LayoutState.lead (w : Indentation) (s : LayoutState) : List Char :=
  if s.pending then w.newline s.level else []

/-- Lay out compact text; `inString` tells whether it starts inside a string. -/
def layoutFrom (w : Indentation) : (inString : Bool) → LayoutState → List Char → List Char
  | _, _, [] => []
  | true, s, '\\' :: c :: rest => '\\' :: c :: layoutFrom w true s rest
  | true, s, c :: rest => c :: layoutFrom w (c != '"') s rest
  | false, s, c :: rest =>
    if c.toNat == 0x7d || c == ']' then
      if s.pending then c :: layoutFrom w false { s with pending := false } rest
      else w.newline (s.depth - 1) ++ c :: layoutFrom w false { s with depth := s.depth - 1 } rest
    else if c.toNat == 0x7b || c == '[' then
      s.lead w ++ c :: layoutFrom w false { depth := s.level, pending := true } rest
    else if c == ',' then
      s.lead w ++ c :: w.newline s.level ++
        layoutFrom w false { depth := s.level, pending := false } rest
    else if c == ':' then
      s.lead w ++ c :: ' ' :: layoutFrom w false { depth := s.level, pending := false } rest
    else s.lead w ++ c :: layoutFrom w (c == '"') { depth := s.level, pending := false } rest

section Equations

attribute [local simp] layoutFrom

variable (w : Indentation) (s : LayoutState) (rest : List Char)

/-- Inside a string an escape is copied. -/
theorem layoutFrom_escape (c : Char) :
    layoutFrom w true s ('\\' :: c :: rest) = '\\' :: c :: layoutFrom w true s rest := by
  simp

/-- Inside a string a character is copied that is neither a quote nor a backslash. -/
theorem layoutFrom_plain {c : Char} (hquote : c ≠ '"') (hbackslash : c ≠ '\\') :
    layoutFrom w true s (c :: rest) = c :: layoutFrom w true s rest := by
  rw [layoutFrom, bne_iff_ne.2 hquote]
  intro _ _ heq
  exact absurd heq hbackslash

/-- A quote ends a string. -/
theorem layoutFrom_quote :
    layoutFrom w true s ('"' :: rest) = '"' :: layoutFrom w false s rest := by
  rw [layoutFrom]
  · rfl
  · intro _ _ heq
    exact absurd heq (by simp)

/-- A bracket opens behind the line break that is waited for, and waits for its own. -/
theorem layoutFrom_opening {c : Char} (h : c = '[' ∨ c = Char.ofNat 0x7b) :
    layoutFrom w false s (c :: rest) =
      s.lead w ++ c :: layoutFrom w false { depth := s.level, pending := true } rest := by
  rw [layoutFrom]
  rcases h with rfl | rfl <;> rfl

/-- A bracket without content closes where it was opened. -/
theorem layoutFrom_close_pending {c : Char} (h : c = ']' ∨ c = Char.ofNat 0x7d) (depth : Nat) :
    layoutFrom w false { depth, pending := true } (c :: rest) =
      c :: layoutFrom w false { depth, pending := false } rest := by
  rw [layoutFrom]
  rcases h with rfl | rfl <;> rfl

/-- A bracket with content closes on a line of its own. -/
theorem layoutFrom_close {c : Char} (h : c = ']' ∨ c = Char.ofNat 0x7d) (depth : Nat) :
    layoutFrom w false { depth, pending := false } (c :: rest) =
      w.newline (depth - 1) ++ c ::
        layoutFrom w false { depth := depth - 1, pending := false } rest := by
  rw [layoutFrom]
  rcases h with rfl | rfl <;> rfl

/-- A line ends behind a comma. -/
theorem layoutFrom_comma :
    layoutFrom w false s (',' :: rest) =
      s.lead w ++ ((',' :: w.newline s.level) ++
        layoutFrom w false { depth := s.level, pending := false } rest) := by
  rw [layoutFrom, ← List.append_assoc]
  rfl

/-- A blank follows a colon. -/
theorem layoutFrom_colon :
    layoutFrom w false s (':' :: rest) =
      s.lead w ++ ':' :: ' ' :: layoutFrom w false { depth := s.level, pending := false } rest := by
  rw [layoutFrom]
  rfl

/-- A string begins behind the line break that is waited for. -/
theorem layoutFrom_string :
    layoutFrom w false s ('"' :: rest) =
      s.lead w ++ '"' :: layoutFrom w true { depth := s.level, pending := false } rest := by
  rw [layoutFrom]
  rfl

end Equations

/-- Lay out compact JSON text over several lines, once it has been checked. -/
def layout (w : Indentation) (cs : List Char) : Except PayloadFault (List Char) := do
  checkPayload cs
  .ok (layoutFrom w false { depth := 0, pending := false } cs)

/-- Compact JSON text made safe for a page of markup: angle brackets, the ampersand and the line
separators are escaped. None of them can stand outside a string. -/
def escapeMarkup (cs : List Char) : List Char :=
  cs.flatMap fun c =>
    if c == '<' || c == '>' || c == '&' || c.toNat == 0x2028 || c.toNat == 0x2029 then
      '\\' :: 'u' :: Text.hexDigits 4 c.toNat
    else [c]

end DocQuery.Json

namespace DocQuery

/-- Why a value has no indented text. -/
inductive IndentError where
  /-- It has no compact text. -/
  | render (error : RenderError)
  /-- Its compact text cannot be laid out. -/
  | layout (fault : Json.PayloadFault)
deriving Repr, DecidableEq

/-- The wording of an indentation error. -/
def IndentError.message : IndentError → String
  | .render error => error.message
  | .layout fault => fault.message

/-- Indented JSON text of a value. -/
def Value.toIndentedJson (w : Json.Indentation) (v : Value) : Except IndentError String := do
  let text ← v.writeJson.mapError .render
  let laid ← (Json.layout w text).mapError .layout
  .ok (String.ofList laid)

end DocQuery
