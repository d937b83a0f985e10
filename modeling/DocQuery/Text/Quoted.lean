import DocQuery.Text.Printable
import DocQuery.Text.Utf8

/-!
# DocQuery.Text.Quoted

Text in double quotes, as diagnostics show it. A quote and a backslash are escaped, the seven
control characters with a letter of their own take it (`\a` to `\v`), every other character that is
not printable is written by its code in hexadecimal (`\x`, `\u` or `\U`, the shortest that holds
it), and a stray byte of a torn character is written as `\x` and two digits.

Design points:

* `quoteChar` is the rule for one character, with the closing of the text left to `quoteGlyphs`;
* escapes are lower-case hexadecimal of a fixed width, so that nothing after them can be absorbed.
-/

namespace DocQuery.Text

/-- The lower-case hexadecimal digit of `n`. -/
def hexDigit (n : Nat) : Char :=
  if n < 10 then Char.ofNat (48 + n) else Char.ofNat (87 + n)

/-- The `width` low hexadecimal digits of `n`. -/
def hexDigits : (width : Nat) → Nat → List Char
  | 0, _ => []
  | width + 1, n => hexDigits width (n / 16) ++ [hexDigit (n % 16)]

@[simp] theorem length_hexDigits (width n : Nat) : (hexDigits width n).length = width := by
  induction width generalizing n with
  | zero => rfl
  | succ width ih => simp [hexDigits, ih]

/-- The letter that escapes a control character of its own. -/
def escapeLetter (c : Char) : Option Char :=
  match c.toNat with
  | 0x07 => some 'a'
  | 0x08 => some 'b'
  | 0x0c => some 'f'
  | 0x0a => some 'n'
  | 0x0d => some 'r'
  | 0x09 => some 't'
  | 0x0b => some 'v'
  | _ => none

/-- One character inside double quotes. -/
def quoteChar (c : Char) : List Char :=
  if c == '"' || c == '\\' then ['\\', c]
  else if isPrintable c then [c]
  else match escapeLetter c with
    | some letter => ['\\', letter]
    | none =>
      if c.toNat < 0x20 || c.toNat == 0x7f then '\\' :: 'x' :: hexDigits 2 c.toNat
      else if c.toNat < 0x10000 then '\\' :: 'u' :: hexDigits 4 c.toNat
      else '\\' :: 'U' :: hexDigits 8 c.toNat

/-- One character, or stray byte, inside double quotes. -/
def quoteGlyph : Glyph → List Char
  | .char c => quoteChar c
  | .stray byte => '\\' :: 'x' :: hexDigits 2 byte.toNat

/-- A text in double quotes. -/
def quoteChars (cs : List Char) : List Char :=
  '"' :: cs.flatMap quoteChar ++ ['"']

/-- A cut text in double quotes. -/
def quoteGlyphs (gs : List Glyph) : String :=
  String.ofList ('"' :: gs.flatMap quoteGlyph ++ ['"'])

/-- A text in double quotes. -/
def quote (s : String) : String :=
  String.ofList (quoteChars s.toList)

end DocQuery.Text
