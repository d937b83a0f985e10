/-!
# DocQuery.Text.Position

Places in a source text: byte offsets, and lines and columns counted from one, where a column
counts bytes and a line ends at a newline character. `position` and `offsetOf` go from one to the
other, and `sourceLine` is the text of a line.

Scripts know more line ends than that: a carriage return, the pair of both, and the two line
separators. `scriptPosition` counts those.
-/

namespace DocQuery.Text

/-- A place: a line and a byte column, both from one. -/
structure Place where
  /-- The line. -/
  line : Nat
  /-- The byte column. -/
  column : Nat
deriving Repr, DecidableEq

/-- The bytes of a text. -/
def bytes (src : String) : List UInt8 := src.toUTF8.toList

/-- The newline byte. -/
def newlineByte : UInt8 := 10

/-- An offset moved into a text of the given length. -/
def clamp (length : Nat) (offset : Int) : Nat := min offset.toNat length

/-- The place of a byte offset, which is first moved into the text. -/
def position (src : String) (offset : Int) : Place :=
  let before := (bytes src).take (clamp (bytes src).length offset)
  { line := before.count newlineByte + 1
    column := (before.reverse.takeWhile (· != newlineByte)).length + 1 }

/-- How many bytes the first `n` lines take, with their newlines; nothing when there are fewer. -/
def lineBytes : (n : Nat) → List UInt8 → Option Nat
  | 0, _ => some 0
  | _ + 1, [] => none
  | n + 1, b :: rest =>
    if b = newlineByte then (lineBytes n rest).map (· + 1)
    else (lineBytes (n + 1) rest).map (· + 1)

/-- The byte offset of a place, at most the length of the text. -/
def offsetOf (src : String) (p : Place) : Nat :=
  match lineBytes (p.line - 1) (bytes src) with
  | none => (bytes src).length
  | some start => min (start + p.column - 1) (bytes src).length

/-- The lines of a text, without their newlines. There is always at least one. -/
def splitLines : List Char → List (List Char)
  | [] => [[]]
  | c :: rest =>
    if c = '\n' then [] :: splitLines rest
    else match splitLines rest with
      | [] => [[c]]
      | line :: lines => (c :: line) :: lines

/-- A line without one carriage return at its end. -/
def dropReturn (line : List Char) : List Char :=
  if line.getLast? = some '\r' then line.dropLast else line

/-- The text of a line, counted from one; empty when there is no such line. -/
def sourceLine (src : String) (line : Nat) : String :=
  if line = 0 then ""
  else String.ofList (dropReturn ((splitLines src.toList)[line - 1]?.getD []))

/-! ## Lines of scripts -/

/-- Whether a character ends a line of a script. -/
def isLineEnd (c : Char) : Bool :=
  c == '\n' || c == '\r' || c.toNat == 0x2028 || c.toNat == 0x2029

/-- Walk to a byte offset, from `p` on; `left` is the number of bytes still to go. -/
def scriptPositionFrom (p : Place) : (left : Nat) → List Char → Place
  | _, [] => p
  | left, '\r' :: '\n' :: rest =>
    if left < 2 then { p with column := p.column + left }
    else scriptPositionFrom { line := p.line + 1, column := 1 } (left - 2) rest
  | left, c :: rest =>
    if left < c.utf8Size then { p with column := p.column + left }
    else if isLineEnd c then
      scriptPositionFrom { line := p.line + 1, column := 1 } (left - c.utf8Size) rest
    else
      scriptPositionFrom { p with column := p.column + c.utf8Size } (left - c.utf8Size) rest

/-- The place of a byte offset in the lines of a script. -/
def scriptPosition (src : String) (offset : Nat) : Place :=
  scriptPositionFrom { line := 1, column := 1 } offset src.toList

end DocQuery.Text
