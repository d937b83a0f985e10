import DocQuery.Text.Bytes
import DocQuery.Value.Canonical

/-!
# DocQuery.Value.Bytes

Canonical JSON text of values whose strings and keys are byte texts. Where all of them are the
encodings of texts it is the canonical text of the value that holds those texts. Otherwise

* keys are compared as they are read, so keys that differ in stray bytes only are beside each other,
  and stay in the order in which they were given;
* strings are composed in the stretches between stray bytes: a stray byte is a starter that composes
  with nothing;
* a stray byte is written as the escape of the replacement character, whichever byte it is.
-/

namespace DocQuery

namespace Json

open Text (Glyph)

/-- Glyphs with the characters between stray bytes in normal form; `stretch` holds the characters
since the last stray byte. -/
def normalGlyphsFrom (stretch : List Char) : List Glyph → List Glyph
  | [] => Text.glyphs (Text.Normal.normalForm stretch)
  | .char c :: rest => normalGlyphsFrom (stretch ++ [c]) rest
  | .stray b :: rest =>
    Text.glyphs (Text.Normal.normalForm stretch) ++ .stray b :: normalGlyphsFrom [] rest

/-- The glyphs of a byte text, in normal form. -/
def normalGlyphs (cs : List Char) : List Glyph := normalGlyphsFrom [] (Text.readGlyphs cs)

/-- The escape of the replacement character. -/
def replacementEscape : List Char := ['\\', 'u', 'f', 'f', 'f', 'd']

/-- One glyph inside a JSON string. -/
def escapeGlyph : Glyph → List Char
  | .char c => escapeChar c
  | .stray _ => replacementEscape

/-- A JSON string, from glyphs. -/
def writeGlyphs (gs : List Glyph) : List Char := '"' :: gs.flatMap escapeGlyph ++ ['"']

/-- A canonical JSON string, from a byte text. -/
def writeByteString (cs : List Char) : List Char :=
  unescapeSeparators (writeGlyphs (normalGlyphs cs))

end Json

namespace Value

/-- The canonical JSON text of a value of byte texts. -/
def writeCanonicalBytes (v : Value) : Except RenderError (List Char) :=
  (v.sortKeys Text.readAs).writeWith Json.writeByteString

end Value

end DocQuery
