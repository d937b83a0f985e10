/-!
# DocQuery.Text.Utf8

The byte view of text. Every offset and column of the library counts bytes of the UTF-8 encoding,
and a text cut at a byte boundary may end, or start, inside a character. Such a cut text is a list
of `Glyph`s: whole characters, and the stray bytes of a torn one.
-/

namespace DocQuery.Text

/-- A character of cut text, or a byte that belongs to no whole character. -/
inductive Glyph where
  /-- A whole character. -/
  | char (c : Char)
  /-- A byte left over from a character that was cut. -/
  | stray (byte : UInt8)
deriving Repr, DecidableEq

/-- The UTF-8 bytes of one character. -/
def charBytes (c : Char) : List UInt8 :=
  String.utf8EncodeChar c

/-- The number of UTF-8 bytes of a text. -/
def byteLength (cs : List Char) : Nat :=
  cs.foldr (fun c n => c.utf8Size + n) 0

@[simp] theorem byteLength_nil : byteLength [] = 0 := rfl

@[simp] theorem byteLength_cons (c : Char) (cs : List Char) :
    byteLength (c :: cs) = c.utf8Size + byteLength cs := rfl

@[simp] theorem byteLength_append (xs ys : List Char) :
    byteLength (xs ++ ys) = byteLength xs + byteLength ys := by
  induction xs with
  | nil => simp
  | cons c cs ih => simp [ih, Nat.add_assoc]

/-- The first `n` bytes of a text. A character that only partly fits leaves its first bytes. -/
def takeBytes : Nat → List Char → List Glyph
  | _, [] => []
  | n, c :: cs =>
    if n = 0 then []
    else if c.utf8Size ≤ n then .char c :: takeBytes (n - c.utf8Size) cs
    else ((charBytes c).take n).map .stray

/-- A text without its first `n` bytes. A character cut in two leaves its last bytes. -/
def dropBytes : Nat → List Char → List Glyph
  | _, [] => []
  | n, c :: cs =>
    if n = 0 then (c :: cs).map .char
    else if c.utf8Size ≤ n then dropBytes (n - c.utf8Size) cs
    else ((charBytes c).drop n).map .stray ++ cs.map .char

/-- The text without its first `n` bytes, when the cut falls between two characters. -/
def dropBytes? : Nat → List Char → Option (List Char)
  | 0, cs => some cs
  | _ + 1, [] => none
  | n + 1, c :: cs => if c.utf8Size ≤ n + 1 then dropBytes? (n + 1 - c.utf8Size) cs else none
termination_by _ cs => cs.length

/-- A whole text as glyphs. -/
def glyphs (cs : List Char) : List Glyph := cs.map .char

end DocQuery.Text
