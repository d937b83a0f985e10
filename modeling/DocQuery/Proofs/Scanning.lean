import DocQuery.Proofs.ScriptLiterals

/-!
# DocQuery.Proofs.Scanning

**Each lexeme of a source is scanned as itself** (`scan_scans`): where the rest of a source is a
list of lexemes with blanks before them, the next token has the kind and the meaning of the first
lexeme, and the other lexemes are left.

The lexer takes the longest mark there is, reads names as far as they go and looks behind the word
`async` for a line end. A blank after each lexeme stops all of that: what follows a lexeme is
`Gapped`, and what follows a gap starts a token (`startsToken`) rather than a comment.
-/

namespace DocQuery.Script

open Decimal Json

/-! ## Words -/

theorem exists_of_isAsciiName {name : String} (h : isAsciiName name = true) :
    ∃ c cs, name.toList = c :: cs ∧ isAsciiStart c = true ∧ ∀ d ∈ cs, isAsciiPart d = true := by
  unfold isAsciiName at h
  split at h
  · cases h
  · next c cs hname =>
      rw [Bool.and_eq_true, List.all_eq_true] at h
      exact ⟨c, cs, hname, h⟩

theorem isAsciiPart_of_isAsciiStart {c : Char} (h : isAsciiStart c = true) :
    isAsciiPart c = true := by
  simp only [isAsciiStart, Bool.or_eq_true] at h
  rcases h with (h | h) | h <;> simp [isAsciiPart, Char.isAlphanum, h]

theorem isNamePart_of_isAsciiPart {c : Char} (h : isAsciiPart c = true) :
    Text.isNamePart c = true := by
  simp only [isAsciiPart, Bool.or_eq_true] at h
  rcases h with (h | h) | h <;> simp [Text.isNamePart, h]

theorem readName_ascii {cs tail : List Char} (h : ∀ c ∈ cs, isAsciiPart c = true)
    (htail : Gapped tail) (first : Bool) :
    readName 0 first (cs ++ tail) =
      { meaning := cs, escaped := false, used := cs.length, legal := true } := by
  induction cs generalizing first with
  | nil =>
      cases htail with
      | nothing => cases first <;> rfl
      | blank cs => rfl
  | cons c cs ih =>
      have hc := h c List.mem_cons_self
      have hbackslash : ¬ (c == '\\') = true := by
        intro heq
        obtain rfl := eq_of_beq heq
        exact absurd hc (by decide)
      rw [List.cons_append, readName, if_neg hbackslash, if_pos (isNamePart_of_isAsciiPart hc),
        ih fun d hd => h d (List.mem_cons_of_mem _ hd)]
      rfl

theorem wordKind?_of_short {text : String} (h : text.toList.length ≤ 1) :
    wordKind? text = none := by
  have hlong : ∀ ks : List String, (∀ k ∈ ks, 1 < k.toList.length) → text ∉ ks :=
    fun ks hks hmem => absurd h (Nat.not_le.2 (hks text hmem))
  have hliterals := hlong ["true", "false", "null"] (by decide)
  have hkeywords := hlong keywords (by decide)
  have hcontextual := hlong contextualKeywords (by decide)
  have hreserved := hlong reservedWords (by decide)
  simp only [List.mem_cons, List.not_mem_nil, or_false, not_or] at hliterals
  simp [wordKind?, hliterals, hkeywords, hcontextual, hreserved]

/-! ## Marks -/

/-- The marks of a spelling. -/
def spellingMarks : List String :=
  ["(", ")", "[", "]", ",", ".", "!", "++"] ++ binaryOperators ++ assignOperators

/-- Whether a text starts with neither a name nor a number, a string or a private name. -/
def opensMark : List Char → Bool
  | [] => false
  | d :: ds =>
    !startsName d && !(d.isDigit || (d == '.' && ds.head?.any Char.isDigit)) &&
      !(d == '"' || d == '\'') && !(d == '#')

/-- Whether a text starts with a token, and not with a gap. -/
def startsToken : List Char → Bool
  | [] => false
  | '/' :: '/' :: _ => false
  | '/' :: '*' :: _ => false
  | d :: _ => !isBlank d && !Text.isLineEnd d && d != '#'

/-- A mark with a gap after it is the longest one there, and nothing but a mark. -/
theorem spelled_mark {m : String} (hm : m ∈ spellingMarks) {tail : List Char}
    (htail : Gapped tail) :
    mark? (m.toList ++ tail) = some m ∧ opensMark (m.toList ++ tail) = true ∧
      startsToken (m.toList ++ tail) = true := by
  simp only [spellingMarks, binaryOperators, assignOperators, List.cons_append,
    List.nil_append] at hm
  cases htail <;> fin_cases hm <;> exact ⟨rfl, rfl, rfl⟩

/-! ## Gaps -/

theorem skipGap_of_startsToken {cs : List Char} (h : startsToken cs = true) (offset : Nat)
    (mayEnd afterLine : Bool) :
    skipGap .plain offset mayEnd afterLine cs = ⟨⟨cs, offset, mayEnd⟩, afterLine, false⟩ := by
  unfold startsToken at h
  split at h
  · cases h
  · cases h
  · cases h
  · next d ds hslash hstar =>
      simp only [Bool.and_eq_true, Bool.not_eq_true', bne_iff_ne] at h
      obtain ⟨⟨hblank, hline⟩, hhash⟩ := h
      rw [skipGap]
      · simp [hblank, hline, hhash]
      · exact fun _ h => by cases h
      · exact fun h => by cases h
      · exact fun cs _ => hslash cs
      · exact fun cs _ => hstar cs

theorem skipGap_blank (cs : List Char) (offset : Nat) (mayEnd afterLine : Bool) :
    skipGap .plain offset mayEnd afterLine (' ' :: cs) =
      skipGap .plain (offset + 1) mayEnd afterLine cs := by
  rw [skipGap]
  · rfl
  · exact fun _ h => by cases h
  · exact fun h => by cases h
  · exact fun _ _ h => by cases h
  · exact fun _ _ h => by cases h

/-- A lexeme that the lexer knows. -/
inductive Lexeme.Known : Lexeme → Prop where
  /-- A name. -/
  | word {text : String} (h : isAsciiName text = true) : Known (.word text)
  /-- A number literal without a sign. -/
  | number {literal : String} (hnumber : Decimal.isNumber literal = true)
      (hsign : literal.toList.head? ≠ some '-') : Known (.number literal)
  /-- Any string. -/
  | string (value : String) : Known (.string value)
  /-- A mark. -/
  | mark {text : String} (h : text ∈ spellingMarks) : Known (.mark text)

theorem exists_number_parts {literal : String} (hnumber : Decimal.isNumber literal = true)
    (hsign : literal.toList.head? ≠ some '-') :
    ∃ whole fraction exponent, literal.toList = whole ++ (fraction ++ exponent) ∧
      WholeText whole ∧ FractionText fraction ∧ ExponentText exponent := by
  obtain ⟨sign, whole, fraction, exponent, hchars, rfl | rfl, hw, hf, he⟩ :=
    (isNumberChars_iff _).1 hnumber
  · exact ⟨whole, fraction, exponent, hchars, hw, hf, he⟩
  · rw [hchars] at hsign
    exact absurd rfl hsign

theorem toNat_of_isAlphanum {c : Char} (h : c.isAlphanum = true) :
    48 ≤ c.toNat ∧ c.toNat ≤ 122 := by
  simp only [Char.isAlphanum, Char.isAlpha, Char.isUpper, Char.isLower, Char.isDigit,
    Bool.or_eq_true, Bool.and_eq_true, decide_eq_true_eq, UInt32.le_iff_toNat_le, ge_iff_le] at h
  have : c.toNat = c.val.toNat := rfl
  have : 'A'.val.toNat = 65 := rfl
  have : 'Z'.val.toNat = 90 := rfl
  have : 'a'.val.toNat = 97 := rfl
  have : 'z'.val.toNat = 122 := rfl
  have : '0'.val.toNat = 48 := rfl
  have : '9'.val.toNat = 57 := rfl
  omega

theorem startsToken_of_isAlphanum {d : Char} (h : d.isAlphanum = true) (ds : List Char) :
    startsToken (d :: ds) = true := by
  have hrange := toNat_of_isAlphanum h
  have hne : ∀ c : Char, c.isAlphanum = false → d ≠ c := by
    rintro c hc rfl
    rw [h] at hc
    cases hc
  have hblank : isBlank d = false := by
    simp only [isBlank, Bool.or_eq_false_iff, beq_eq_false_iff_ne, Bool.and_eq_false_iff,
      decide_eq_false_iff_not]
    omega
  have hline : Text.isLineEnd d = false := by
    simp only [Text.isLineEnd, Bool.or_eq_false_iff, beq_eq_false_iff_ne]
    exact ⟨⟨⟨hne _ rfl, hne _ rfl⟩, by omega⟩, by omega⟩
  unfold startsToken
  split
  · next heq => cases heq
  · next heq => exact absurd (List.cons.inj heq).1 (hne '/' rfl)
  · next heq => exact absurd (List.cons.inj heq).1 (hne '/' rfl)
  · next heq =>
      obtain ⟨rfl, rfl⟩ := List.cons.inj heq
      simp [hblank, hline, hne '#' rfl]

theorem Lexeme.Known.startsToken {l : Lexeme} (h : l.Known) {tail : List Char}
    (htail : Gapped tail) : startsToken (l.text ++ tail) = true := by
  cases h with
  | @word text h =>
    obtain ⟨c, cs, htext, hc, -⟩ := exists_of_isAsciiName h
    simp only [Lexeme.text, htext, List.cons_append]
    simp only [isAsciiStart, Bool.or_eq_true, beq_iff_eq] at hc
    rcases hc with (hc | rfl) | rfl
    · exact startsToken_of_isAlphanum (by simp [Char.isAlphanum, hc]) _
    · rfl
    · rfl
  | number hnumber hsign =>
    obtain ⟨whole, fraction, exponent, htext, hw, -, -⟩ := exists_number_parts hnumber hsign
    simp only [Lexeme.text, htext, List.append_assoc]
    cases hw with
    | zero => rfl
    | digits hd _ _ => exact startsToken_of_isAlphanum (by simp [Char.isAlphanum, hd]) _
  | string value => rfl
  | mark h => exact (spelled_mark h htail).2.2

/-! ## Tokens -/

/-- What is left of a source before the given lexemes. The blank before the first of them may be
passed over already. -/
def Precedes (cs : List Char) (ls : List Lexeme) : Prop :=
  cs = Lexeme.spaced ls ∨ ' ' :: cs = Lexeme.spaced ls

/-- A token that is the lexeme `l`, with `ls` after it. -/
structure Scans (x : Scanned) (l : Lexeme) (ls : List Lexeme) : Prop where
  /-- It has the kind of the lexeme. -/
  kind : x.token.kind = l.kind
  /-- It is written as the lexeme. -/
  written : x.token.written = String.ofList l.text
  /-- It means what the lexeme means. -/
  meaning : x.token.meaning = l.meaning
  /-- The other lexemes are left. -/
  rest : Precedes x.cursor.rest ls
  /-- Nothing is wrong. -/
  fault : x.fault = none

theorem gapped_spaced (ls : List Lexeme) : Gapped (Lexeme.spaced ls) := by
  cases ls with
  | nil => exact .nothing
  | cons l ls => exact .blank _

theorem scans_takeToken {l : Lexeme} {ls : List Lexeme} {c : Cursor} {length : Nat}
    {kind : TokenKind} {meaning : String} (hrest : c.rest = l.text ++ Lexeme.spaced ls)
    (hlength : length = l.text.length) (hkind : kind = l.kind) (hmeaning : meaning = l.meaning)
    (mayEnd : Bool) : Scans (takeToken c length kind meaning mayEnd) l ls where
  kind := hkind
  written := by simp [takeToken, hrest, hlength]
  meaning := hmeaning
  rest := .inl (by simp [takeToken, Cursor.skip, hrest, hlength])
  fault := rfl

theorem exists_of_startsToken {cs : List Char} (h : startsToken cs = true) :
    ∃ d ds, cs = d :: ds ∧ isBlank d = false ∧ Text.isLineEnd d = false := by
  unfold startsToken at h
  split at h
  · cases h
  · cases h
  · cases h
  · next d ds _ _ =>
      simp only [Bool.and_eq_true, Bool.not_eq_true', bne_iff_ne] at h
      exact ⟨d, ds, rfl, h.1⟩

theorem scanAsync_eq {c : Cursor} {used blanks : Nat} {meaning : String}
    (hblanks : blanksAhead (c.rest.drop used) = blanks)
    (hline : ((c.rest.drop used).drop blanks).head?.any Text.isLineEnd = false) :
    scanAsync c used meaning =
      { takeToken c used (.word meaning) meaning c.mayEnd with
        cursor := (takeToken c used (.word meaning) meaning c.mayEnd).cursor.skip blanks } := by
  rw [List.drop_drop] at hline
  simp only [scanAsync, hblanks, hline, Bool.false_eq_true, if_false]

/-- Before a line end the word `async` is a name, but no line end follows. The blank after it is
passed over with it. -/
theorem scanAsync_scans {ls : List Lexeme} (hls : ∀ l ∈ ls, l.Known) {c : Cursor}
    (hrest : c.rest = "async".toList ++ Lexeme.spaced ls) :
    Scans (scanAsync c "async".toList.length "async") (.word "async") ls := by
  have hdrop : c.rest.drop "async".toList.length = Lexeme.spaced ls := by
    rw [hrest, List.drop_left]
  have htake : Scans (takeToken c "async".toList.length (.word "async") "async" c.mayEnd)
      (.word "async") ls := scans_takeToken (l := .word "async") hrest rfl rfl rfl c.mayEnd
  cases ls with
  | nil =>
      have hblanks : blanksAhead (c.rest.drop "async".toList.length) = 0 := by rw [hdrop]; rfl
      rw [scanAsync_eq hblanks (by rw [hdrop]; rfl)]
      exact htake
  | cons l ls =>
      have hstarts := (hls l List.mem_cons_self).startsToken (gapped_spaced ls)
      obtain ⟨d, ds, htext, hblank, hline⟩ := exists_of_startsToken hstarts
      have hspaced : Lexeme.spaced (l :: ls) = ' ' :: d :: ds := by rw [Lexeme.spaced, htext]
      have hreturn : d ≠ '\r' := by
        rintro rfl
        exact absurd hline (by decide)
      have hblanks : blanksAhead (' ' :: d :: ds) = 1 := by
        simp [blanksAhead, hblank, show isBlank ' ' = true from rfl, List.isPrefixOf, hreturn.symm]
      rw [scanAsync_eq (by rw [hdrop, hspaced, hblanks])
        (by rw [hdrop, hspaced]; simpa using hline)]
      refine { htake with rest := .inr ?_ }
      show ' ' :: (c.rest.drop "async".toList.length).drop 1 = Lexeme.spaced (l :: ls)
      rw [hdrop, hspaced]
      rfl

theorem scanWord_scans (isName : String → Bool) {text : String} (hname : isAsciiName text = true)
    {ls : List Lexeme} (hls : ∀ l ∈ ls, l.Known) {c : Cursor}
    (hrest : c.rest = text.toList ++ Lexeme.spaced ls) :
    Scans (scanWord isName c) (.word text) ls := by
  have hpart : ∀ d ∈ text.toList, isAsciiPart d = true := by
    obtain ⟨d, ds, htext, hd, hds⟩ := exists_of_isAsciiName hname
    rw [htext]
    exact List.forall_mem_cons.2 ⟨isAsciiPart_of_isAsciiStart hd, hds⟩
  have hspan := readName_ascii hpart (gapped_spaced ls) true
  have hshort : (if text.toList.length ≤ 1 then none else wordKind? text) = wordKind? text := by
    split
    · next h => exact (wordKind?_of_short h).symm
    · rfl
  have htake : ∀ {kind : TokenKind} (mayEnd : Bool), kind = (wordKind? text).getD .identifier →
      Scans (takeToken c text.toList.length kind text mayEnd) (.word text) ls :=
    fun mayEnd hkind => scans_takeToken (l := .word text) hrest rfl hkind rfl mayEnd
  unfold scanWord
  simp only [hrest, hspan, String.ofList_toList, hshort, Bool.not_true, Bool.false_eq_true,
    if_false]
  split
  · next hkind => exact htake true (by rw [hkind]; rfl)
  · next kind hkind =>
      split
      · exact htake true (by rw [hkind]; rfl)
      · split
        · next htext =>
            obtain rfl := eq_of_beq htext
            exact scanAsync_scans hls hrest
        · exact htake c.mayEnd (by rw [hkind]; rfl)

theorem scanNumber_scans {literal : String} (hnumber : Decimal.isNumber literal = true)
    (hsign : literal.toList.head? ≠ some '-') {ls : List Lexeme} {c : Cursor}
    (hrest : c.rest = literal.toList ++ Lexeme.spaced ls) :
    Scans (scanNumber c) (.number literal) ls := by
  obtain ⟨whole, fraction, exponent, htext, hw, hf, he⟩ := exists_number_parts hnumber hsign
  have hspan : NumberSpan.read c.rest = ⟨literal.toList.length, true, none⟩ := by
    rw [hrest, htext, List.append_assoc, List.append_assoc]
    exact read_number hw hf he (gapped_spaced ls)
  unfold scanNumber
  rw [hspan]
  exact { scans_takeToken (l := .number literal) hrest rfl rfl rfl true with fault := rfl }

theorem scanString_scans (value : String) {ls : List Lexeme} {c : Cursor}
    (hrest : c.rest = (Lexeme.string value).text ++ Lexeme.spaced ls) :
    Scans (scanString c '"') (.string value) ls := by
  have hspan : spanString '"' (c.rest.drop 1) = ⟨value.toList.flatMap quoteChar, true⟩ := by
    have hdrop : c.rest.drop 1 = value.toList.flatMap quoteChar ++ '"' :: Lexeme.spaced ls := by
      simp [hrest, Lexeme.text]
    rw [hdrop, spanString_quoted]
  unfold scanString
  simp only [hspan, if_true, stringMeaning?_quoted]
  exact scans_takeToken hrest (by simp [Lexeme.text]) rfl rfl true

theorem scanMark_scans {m : String} (hm : m ∈ spellingMarks) {ls : List Lexeme} {c : Cursor}
    (hrest : c.rest = m.toList ++ Lexeme.spaced ls) :
    Scans (scanMark c false) (.mark m) ls := by
  have hpoint : ¬ (m == "." && (c.rest.drop 1).head? == some '.') = true := by
    simp only [Bool.and_eq_true, beq_iff_eq, not_and]
    rintro rfl
    rw [hrest]
    cases ls with
    | nil => decide
    | cons l ls => simp [Lexeme.spaced]
  unfold scanMark
  rw [hrest, (spelled_mark hm (gapped_spaced ls)).1, ← hrest]
  simp only [hpoint, Bool.and_false, Bool.false_eq_true, if_false]
  exact scans_takeToken (l := .mark m) hrest String.length_toList.symm rfl rfl (markMayEnd m)

/-! ## Sources -/

theorem scan_of_startsToken (isName : String → Bool) {here : Cursor} {d : Char} {ds : List Char}
    (hstarts : startsToken (d :: ds) = true)
    (hrest : here.rest = d :: ds ∨ here.rest = ' ' :: d :: ds) :
    ∃ c : Cursor, c.rest = d :: ds ∧ (scan isName here).toScanned =
      if startsName d then scanWord isName c
      else if d.isDigit || (d == '.' && ds.head?.any Char.isDigit) then scanNumber c
      else if d == '"' || d == '\'' then scanString c d
      else if d == '#' then scanPrivate c
      else scanMark c false := by
  rcases hrest with hrest | hrest
  · refine ⟨⟨d :: ds, here.offset, here.mayEnd⟩, rfl, ?_⟩
    unfold scan
    rw [hrest, skipGap_of_startsToken hstarts]
  · refine ⟨⟨d :: ds, here.offset + 1, here.mayEnd⟩, rfl, ?_⟩
    unfold scan
    rw [hrest, skipGap_blank, skipGap_of_startsToken hstarts]

theorem startsName_of_isDigit {d : Char} (h : d.isDigit = true) : startsName d = false := by
  have hrange : 48 ≤ d.toNat ∧ d.toNat ≤ 57 := by
    simpa [Char.isDigit, UInt32.le_iff_toNat_le] using h
  have hne : ∀ c : Char, c.isDigit = false → d ≠ c := by
    rintro c hc rfl
    rw [h] at hc
    cases hc
  have halpha : d.isAlpha = false := by
    simp only [Char.isAlpha, Char.isUpper, Char.isLower, Bool.or_eq_false_iff,
      Bool.and_eq_false_iff, decide_eq_false_iff_not, UInt32.le_iff_toNat_le, ge_iff_le]
    have : d.toNat = d.val.toNat := rfl
    have : 'A'.val.toNat = 65 := rfl
    have : 'a'.val.toNat = 97 := rfl
    omega
  have hascii : ¬ 0x80 ≤ d.toNat := by omega
  simp [startsName, Text.isNameStart, hne '$' rfl, hne '_' rfl, hne '\\' rfl, halpha, hascii]

/-- **Each lexeme of a source is scanned as itself.** -/
theorem scan_scans (isName : String → Bool) {here : Cursor} {l : Lexeme} {ls : List Lexeme}
    (hl : l.Known) (hls : ∀ l ∈ ls, l.Known) (hrest : Precedes here.rest (l :: ls)) :
    Scans (scan isName here).toScanned l ls := by
  have hstarts := hl.startsToken (gapped_spaced ls)
  obtain ⟨d, ds, htext, -, -⟩ := exists_of_startsToken hstarts
  have hhere : here.rest = d :: ds ∨ here.rest = ' ' :: d :: ds := by
    rw [← htext]
    exact hrest.symm.imp_left fun h => (List.cons.inj h).2
  obtain ⟨c, hc, hscan⟩ := scan_of_startsToken isName (htext ▸ hstarts) hhere
  rw [← htext] at hc
  rw [hscan]
  cases hl with
  | @word text h =>
      have hd : startsName d = true := by
        obtain ⟨a, as, has, ha, -⟩ := exists_of_isAsciiName h
        rw [Lexeme.text, has, List.cons_append] at htext
        obtain ⟨rfl, -⟩ := List.cons.inj htext
        simp only [isAsciiStart, Bool.or_eq_true] at ha
        rcases ha with (ha | ha) | ha <;> simp [startsName, Text.isNameStart, ha]
      rw [if_pos hd]
      exact scanWord_scans isName h hls hc
  | @number literal hnumber hsign =>
      have hd : d.isDigit = true := by
        obtain ⟨whole, fraction, exponent, hparts, hw, -, -⟩ := exists_number_parts hnumber hsign
        rw [Lexeme.text, hparts] at htext
        cases hw with
        | zero => exact (List.cons.inj htext).1 ▸ rfl
        | digits hd _ _ => exact (List.cons.inj htext).1 ▸ hd
      rw [startsName_of_isDigit hd, hd]
      exact scanNumber_scans hnumber hsign hc
  | string value =>
      obtain ⟨rfl, -⟩ := List.cons.inj htext
      exact scanString_scans value hc
  | @mark m h =>
      have hopens : opensMark (d :: ds) = true := htext ▸ (spelled_mark h (gapped_spaced ls)).2.1
      simp only [opensMark, Bool.and_eq_true, Bool.not_eq_true'] at hopens
      obtain ⟨⟨⟨hname, hdigit⟩, hquote⟩, hhash⟩ := hopens
      rw [hname, hdigit, hquote, hhash]
      exact scanMark_scans h hc

theorem scan_end (isName : String → Bool) {here : Cursor} (hrest : Precedes here.rest []) :
    (scan isName here).token.kind = .endOfInput ∧ (scan isName here).cursor.rest = [] ∧
      (scan isName here).fault = none := by
  rcases hrest with hrest | hrest
  · unfold scan
    rw [hrest]
    exact ⟨rfl, rfl, rfl⟩
  · cases hrest

/-! ## The lexer knows the lexemes of a spelling -/

theorem known_lexemesAt {e : Expr} (h : ∀ l ∈ e.lexemes, l.Known) (p : Nat) :
    ∀ l ∈ e.lexemesAt p, l.Known := by
  by_cases hlevel : e.level < p
  · rw [Expr.lexemesAt_of_lt hlevel]
    simp only [parenthesize, List.forall_mem_append, List.forall_mem_cons, List.not_mem_nil,
      false_imp_iff, implies_true, and_true]
    exact ⟨.mark (by decide), h, .mark (by decide)⟩
  · rw [Expr.lexemesAt_of_le (Nat.not_lt.1 hlevel)]
    exact h

theorem known_listLexemes {es : List Expr} (h : ∀ e ∈ es, ∀ l ∈ e.lexemes, l.Known) :
    ∀ l ∈ Expr.listLexemes es, l.Known := by
  induction es with
  | nil => simp [Expr.listLexemes]
  | cons e rest ih =>
      obtain ⟨he, hrest⟩ := List.forall_mem_cons.1 h
      by_cases hempty : rest = []
      · subst hempty
        rw [Expr.listLexemes_singleton]
        exact known_lexemesAt he 2
      · rw [Expr.listLexemes_cons e hempty]
        simp only [List.forall_mem_append, List.forall_mem_cons]
        exact ⟨known_lexemesAt he 2, .mark (by decide), ih hrest⟩

theorem Spellable.known {e : Expr} (h : Spellable e) : ∀ l ∈ e.lexemes, l.Known := by
  induction h with
  | string value =>
      rw [Expr.lexemes]
      exact List.forall_mem_singleton.2 (.string value)
  | number hnumber hsign =>
      rw [Expr.lexemes]
      exact List.forall_mem_singleton.2 (.number hnumber hsign)
  | bool value =>
      rw [Expr.lexemes]
      refine List.forall_mem_singleton.2 (.word ?_)
      cases value <;> rfl
  | null =>
      rw [Expr.lexemes]
      exact List.forall_mem_singleton.2 (.word rfl)
  | identifier hname _ =>
      rw [Expr.lexemes]
      exact List.forall_mem_singleton.2 (.word hname)
  | member _ hname ih =>
      rw [Expr.lexemes_member]
      simp only [List.forall_mem_append, List.forall_mem_cons, List.not_mem_nil, false_imp_iff,
        implies_true, and_true]
      exact ⟨known_lexemesAt ih 14, .mark (by decide), .word hname⟩
  | @binary op left right hop _ _ ihleft ihright =>
      have hmark : op ∈ spellingMarks := by simp [spellingMarks, hop]
      rw [Expr.lexemes_binary]
      simp only [List.forall_mem_append, List.forall_mem_cons]
      exact ⟨known_lexemesAt ihleft _, .mark hmark, known_lexemesAt ihright _⟩
  | @unary op operand hop _ ih =>
      rw [Expr.lexemes_unary]
      refine List.forall_mem_cons.2 ⟨?_, known_lexemesAt ih 13⟩
      fin_cases hop
      · exact .mark (by decide)
      · exact .mark (by decide)
      · exact .word rfl
  | increment _ _ ih =>
      rw [Expr.lexemes_unary]
      exact List.forall_mem_cons.2 ⟨.mark (by decide), known_lexemesAt ih 13⟩
  | array _ ih =>
      rw [Expr.lexemes_array]
      simp only [List.forall_mem_append, List.forall_mem_cons, List.not_mem_nil, false_imp_iff,
        implies_true, and_true]
      exact ⟨.mark (by decide), known_listLexemes ih, .mark (by decide)⟩
  | call _ hname _ ihfield ihargs =>
      rw [Expr.lexemes_call]
      simp only [List.forall_mem_append, List.forall_mem_cons, List.not_mem_nil, false_imp_iff,
        implies_true, and_true]
      exact ⟨known_lexemesAt ihfield 14, .mark (by decide), .word hname, .mark (by decide),
        known_listLexemes ihargs, .mark (by decide)⟩
  | @assign op target value hop _ _ _ ihtarget ihvalue =>
      have hmark : op ∈ spellingMarks := by simp [spellingMarks, hop]
      rw [Expr.lexemes_assign]
      simp only [List.forall_mem_append, List.forall_mem_cons]
      exact ⟨known_lexemesAt ihtarget 14, .mark hmark, known_lexemesAt ihvalue 2⟩
  | sequence _ _ ihleft ihright =>
      rw [Expr.lexemes_sequence]
      simp only [List.forall_mem_append, List.forall_mem_cons]
      exact ⟨known_lexemesAt ihleft 2, .mark (by decide), known_lexemesAt ihright 1⟩

end DocQuery.Script
