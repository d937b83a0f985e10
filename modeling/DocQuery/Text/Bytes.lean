import DocQuery.Text.Position
import DocQuery.Text.Utf8

/-!
# DocQuery.Text.Bytes

Strings that nobody has checked. A script is UTF-8 before it is read, and so is a configuration file;
the strings of a tree file, or of a value that is handed in, are whatever bytes were there. Reading
such a string takes characters where there are any, and every byte that belongs to no character by
itself.

Design points:

* a string of bytes is kept as a *byte text*: a text with one character below U+0100 for each byte.
  Whatever only compares strings and passes them on handles byte texts as it handles texts;
* reading never fails: a byte that begins no character is a stray glyph, and it is taken for the
  replacement character where only characters will do (`readAs`);
* the byte text of a text (`encode`) is its UTF-8 encoding.
-/

namespace DocQuery.Text

/-- The byte text of a row of bytes. -/
def ofBytes (bs : List UInt8) : String :=
  String.ofList (bs.map fun b => Char.ofNat b.toNat)

/-- The byte that a character of a byte text stands for. -/
def byteOf (c : Char) : UInt8 := UInt8.ofNat c.toNat

/-- The byte text of a text: one character for each byte of its UTF-8 encoding. -/
def encode (s : String) : String := ofBytes (bytes s)

/-- The character that a row of bytes begins with, if it begins with one. -/
def firstChar? (bs : List UInt8) : Option Char := bs.toByteArray.utf8DecodeChar? 0

/-- The glyphs of a row of bytes; the first `skip` bytes belong to a character already taken. -/
def decodeFrom : (skip : Nat) → List UInt8 → List Glyph
  | _, [] => []
  | skip + 1, _ :: rest => decodeFrom skip rest
  | 0, b :: rest =>
    match firstChar? (b :: rest) with
    | some c => .char c :: decodeFrom (c.utf8Size - 1) rest
    | none => .stray b :: decodeFrom 0 rest

/-- The glyphs of a byte text. -/
def readGlyphs (cs : List Char) : List Glyph := decodeFrom 0 (cs.map byteOf)

/-- The character that a stray byte is taken for. -/
def replacement : Char := Char.ofNat 0xfffd

/-- A glyph where only characters will do. -/
def Glyph.read : Glyph → Char
  | .char c => c
  | .stray _ => replacement

/-- A byte text read as text. -/
def readAs (s : String) : String := String.ofList ((readGlyphs s.toList).map Glyph.read)

end DocQuery.Text
