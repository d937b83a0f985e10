import DocQuery.Config.Reader
import DocQuery.Proofs.ValueText

/-!
# DocQuery.Proofs.ConfigTokens

**JSON texts become tokens of configuration files.** Configuration files have the strings,
numbers, lists and structs of JSON texts, but in them a line end behind a value counts as a comma,
unless a comma or a colon comes next. So a JSON text may get commas that it does not have, but only
before a bracket that closes a list or a struct, where they do not hurt.

`ValueTokens` is the grammar of such tokens, one production for each of JSON, and each JSON text for
a value becomes tokens of that value, wherever it stands (`Means.lexes`). Strings are the larger
part of that, because two escapes may spell one character (`readString_of_bodySpells`).
-/

namespace DocQuery.Config

open Json (BlankText StringMeans BodySpells ListMeans MemberMeans Means NumberText)
open Text (charUnits)

/-! ### Strings -/

theorem hexDigit?_of_hexValue? {c : Char} {n : Nat} (h : Json.hexValue? c = some n) :
    Script.hexDigit? c = some n := by
  have hletters : ∀ m < 128, Json.hexValue? (Char.ofNat m) ≠ none →
      Script.hexDigit? (Char.ofNat m) = Json.hexValue? (Char.ofNat m) := by decide
  have hc := hletters c.toNat (Json.toNat_lt_of_hexValue? h)
  rw [Char.ofNat_toNat] at hc
  rw [hc (by rw [h]; simp), h]

theorem hexValue?_of_hexNumber? {cs : List Char} {n : Nat} (h : Json.hexNumber? cs = some n) :
    Script.hexValue? cs = some n := by
  induction cs using List.reverseRecOn generalizing n with
  | nil => exact h
  | append_singleton cs c ih =>
      rw [Json.hexNumber?_concat, Option.bind_eq_some_iff] at h
      obtain ⟨m, hm, hc⟩ := h
      obtain ⟨d, hd, hn⟩ := Option.map_eq_some_iff.1 hc
      have hhead := ih hm
      rw [Script.hexValue?] at hhead ⊢
      rw [List.foldl_append, hhead]
      simp only [List.foldl_cons, List.foldl_nil, Option.bind_some, hexDigit?_of_hexValue? hd,
        Option.map_some]
      rw [← hn, Nat.mul_comm]

theorem escapeMeaning?_of_json {x c : Char} (h : Json.escapeMeaning? x = some c) :
    escapeMeaning? x = some c ∧ x ≠ 'u' ∧ x ≠ 'U' := by
  unfold Json.escapeMeaning? at h
  split at h <;> cases h <;> exact ⟨rfl, by decide, by decide⟩

/-- Characters that were skipped are not read. -/
theorem readString_skip (skipped cs : List Char) :
    readString skipped.length (skipped ++ cs) = readString 0 cs := by
  induction skipped with
  | nil => rfl
  | cons c skipped ih => rw [List.length_cons, List.cons_append, readString, ih]

theorem readString_plain {c : Char} (hc : 0x20 ≤ c.toNat) (hquote : c ≠ '"') (hbackslash : c ≠ '\\')
    (cs : List Char) :
    readString 0 (c :: cs) = (readString 0 cs).map fun (body, rest) => (c :: body, rest) := by
  have hline : (c == '\n' || c == '\r') = false := by
    rw [Bool.or_eq_false_iff, beq_eq_false_iff_ne, beq_eq_false_iff_ne]
    constructor
    · rintro rfl
      exact absurd hc (by decide)
    · rintro rfl
      exact absurd hc (by decide)
  rw [readString, hline]
  · rfl
  · exact hquote
  · exact hbackslash

theorem readString_escape {c : Char} (escape : List Char) {cs body rest : List Char}
    (h : readEscape (escape ++ cs) = some (c, escape.length))
    (hread : readString 0 cs = some (body, rest)) :
    readString 0 ('\\' :: (escape ++ cs)) = some (c :: body, rest) := by
  rw [readString, h]
  simp only [Option.bind_eq_bind, Option.bind_some, readString_skip, hread]
  rfl

/-- The first unit of a character is no low surrogate. -/
theorem charUnits_eq_cons (c : Char) :
    ∃ u us, charUnits c = u :: us ∧ ¬(0xdc00 ≤ u ∧ u < 0xe000) := by
  have hvalid : c.toNat < 0xd800 ∨ 0xdfff < c.toNat ∧ c.toNat < 0x110000 := c.valid
  unfold charUnits
  split
  · exact ⟨_, _, rfl, by omega⟩
  · exact ⟨_, _, rfl, by omega⟩

/-- Only a code spells a low surrogate. -/
theorem bodySpells_low {body : List Char} {u : Nat} {us : List Nat} (h : BodySpells body (u :: us))
    (hu : 0xdc00 ≤ u ∧ u < 0xe000) :
    ∃ a b c d rest, body = '\\' :: 'u' :: a :: b :: c :: d :: rest ∧
      Json.hexNumber? [a, b, c, d] = some u ∧ BodySpells rest us := by
  generalize hall : u :: us = all at h
  cases h with
  | nil => cases hall
  | @plain c _ us' _ _ _ _ =>
      obtain ⟨v, vs, hv, hlow⟩ := charUnits_eq_cons c
      rw [hv, List.cons_append] at hall
      cases hall
      exact absurd hu hlow
  | @letter _ c _ us' _ _ =>
      obtain ⟨v, vs, hv, hlow⟩ := charUnits_eq_cons c
      rw [hv, List.cons_append] at hall
      cases hall
      exact absurd hu hlow
  | code hn hrest =>
      cases hall
      exact ⟨_, _, _, _, _, rfl, hn, hrest⟩

/-- Units that start with those of a character spell a text that starts with it. -/
theorem eq_cons_of_flatMap_charUnits {c : Char} {us : List Nat} {cs : List Char}
    (h : charUnits c ++ us = cs.flatMap charUnits) :
    ∃ ds, cs = c :: ds ∧ us = ds.flatMap charUnits := by
  have hcs : cs = c :: Text.ofUnits us := by
    rw [← Text.ofUnits_flatMap_charUnits cs, ← h, Text.ofUnits_charUnits]
  refine ⟨_, hcs, ?_⟩
  rw [hcs, List.flatMap_cons] at h
  exact List.append_cancel_left h

theorem ofPair_charUnits {x : Char} {high low : Nat} (h : charUnits x = [high, low]) :
    Text.ofPair high low = x ∧ 0xd800 ≤ high ∧ high < 0xdc00 ∧ 0xdc00 ≤ low ∧ low < 0xe000 := by
  have hvalid : x.toNat < 0xd800 ∨ 0xdfff < x.toNat ∧ x.toNat < 0x110000 := x.valid
  have hread := Text.ofUnits_charUnits x []
  rw [h] at hread
  unfold charUnits at h
  split at h
  · simp at h
  · simp only [List.cons.injEq, and_true] at h
    obtain ⟨rfl, rfl⟩ := h
    have hranges : 0xd800 + (x.toNat - 0x10000) / 0x400 < 0xdc00 ∧
        0xdc00 + (x.toNat - 0x10000) % 0x400 < 0xe000 := by omega
    refine ⟨?_, by omega, hranges.1, by omega, hranges.2⟩
    simpa [Text.ofUnits, hranges] using hread

/-- The two escapes of a pair are read as one character. -/
theorem readEscape_pair {a b c d a' b' c' d' x : Char} {high low : Nat} (rest : List Char)
    (hhigh : Json.hexNumber? [a, b, c, d] = some high)
    (hlow : Json.hexNumber? [a', b', c', d'] = some low) (hx : charUnits x = [high, low]) :
    readEscape ('u' :: a :: b :: c :: d :: '\\' :: 'u' :: a' :: b' :: c' :: d' :: rest) =
      some (x, 11) := by
  obtain ⟨hpair, hranges⟩ := ofPair_charUnits hx
  have hsurrogate : Text.isSurrogate high = true := by
    simp only [Text.isSurrogate, Bool.and_eq_true, decide_eq_true_eq]
    omega
  simp only [readEscape, List.take_succ_cons, List.take_zero, hexValue?_of_hexNumber? hhigh,
    hexValue?_of_hexNumber? hlow, hsurrogate, List.drop_succ_cons, List.drop_zero,
    Option.bind_eq_bind, Option.bind_some, List.length_cons, hpair]
  rw [if_neg (by omega), if_pos trivial, if_neg]
  · rfl
  · simp only [Bool.or_eq_true, decide_eq_true_eq]
    omega

theorem readEscape_code {a b c d x : Char} (rest : List Char)
    (h : Json.hexNumber? [a, b, c, d] = some x.toNat) :
    readEscape ('u' :: a :: b :: c :: d :: rest) = some (x, 5) := by
  have hchar : charOf? x.toNat = some x := by
    rw [charOf?, if_pos (show x.toNat.isValidChar from x.valid), Char.ofNat_toNat]
  simp only [readEscape, List.take_succ_cons, List.take_zero, hexValue?_of_hexNumber? h,
    Json.not_isSurrogate x, Option.bind_eq_bind, Option.bind_some, List.length_cons, hchar]
  rw [if_neg (by omega)]
  rfl

/-- **The inside of a JSON string is read as the text whose units it spells.** -/
theorem readString_of_bodySpells {body cs : List Char} (h : BodySpells body (cs.flatMap charUnits))
    (rest : List Char) : readString 0 (body ++ '"' :: rest) = some (cs, rest) := by
  -- a pair of escapes is read at once, so that the induction is on the length
  induction hn : body.length using Nat.strong_induction_on generalizing body cs with
  | _ n ih =>
      generalize hus : cs.flatMap charUnits = us at h
      cases h with
      | nil =>
          cases cs with
          | nil => rfl
          | cons c cs =>
              obtain ⟨u, us, hu, -⟩ := charUnits_eq_cons c
              rw [List.flatMap_cons, hu] at hus
              cases hus
      | @plain c body us hc hquote hbackslash hbody =>
          obtain ⟨ds, rfl, rfl⟩ := eq_cons_of_flatMap_charUnits hus.symm
          rw [List.cons_append, readString_plain hc hquote hbackslash,
            ih body.length (by simp at hn; omega) hbody rfl]
          rfl
      | @letter x c body us hx hbody =>
          obtain ⟨ds, rfl, rfl⟩ := eq_cons_of_flatMap_charUnits hus.symm
          obtain ⟨hmeaning, hu, hU⟩ := escapeMeaning?_of_json hx
          have hescape : readEscape ([x] ++ (body ++ '"' :: rest)) = some (c, [x].length) := by
            rw [List.cons_append, readEscape, hmeaning]
            · rfl
            · exact hu
            · exact hU
          exact readString_escape [x] hescape (ih body.length (by simp at hn; omega) hbody rfl)
      | @code a b c d n' body us hcode hbody =>
          cases cs with
          | nil => cases hus
          | cons x cs =>
              rw [List.flatMap_cons] at hus
              by_cases hx : x.toNat < 0x10000
              · rw [Json.charUnits_of_lt hx] at hus
                cases hus
                exact readString_escape ['u', a, b, c, d] (readEscape_code _ hcode)
                  (ih body.length (by simp at hn; omega) hbody rfl)
              · have hx' : charUnits x = [_, _] := if_neg hx
                rw [hx'] at hus
                cases hus
                obtain ⟨-, -, -, hlow⟩ := ofPair_charUnits hx'
                obtain ⟨a', b', c', d', body', rfl, hcode', hbody'⟩ := bodySpells_low hbody hlow
                exact readString_escape ['u', a, b, c, d, '\\', 'u', a', b', c', d']
                  (readEscape_pair _ hcode hcode' hx')
                  (ih body'.length (by simp at hn; omega) hbody' rfl)

/-! ### Characters become tokens -/

/-- The tokens of a text, under any bound on its length. -/
def Lexes (mayEnd : Bool) (cs : List Char) (ts : List Token) : Prop :=
  ∀ rounds, cs.length < rounds → tokens rounds mayEnd cs = some ts

/-- A text that goes on with neither a name nor a number. -/
def Stops (cs : List Char) : Prop :=
  ∀ c rest, cs = c :: rest → c ∈ [' ', '\t', '\n', '\r', ',', ']', closeBrace]

theorem stops_cons {c : Char} {rest : List Char}
    (h : c ∈ [' ', '\t', '\n', '\r', ',', ']', closeBrace]) : Stops (c :: rest) := by
  intro c' rest' heq
  cases heq
  exact h

theorem stops_blank {b : List Char} (hb : BlankText b) {rest : List Char} (hrest : Stops rest) :
    Stops (b ++ rest) := by
  cases b with
  | nil => exact hrest
  | cons c b =>
      refine stops_cons ?_
      have hc := hb c List.mem_cons_self
      simp only [List.mem_cons, List.not_mem_nil, or_false] at hc ⊢
      tauto

theorem isNumberPart_of_stops {c : Char} {rest : List Char} (h : Stops (c :: rest)) :
    isNumberPart c = false := by
  have hc := h c rest rfl
  simp only [List.mem_cons, List.not_mem_nil, or_false] at hc
  rcases hc with rfl | rfl | rfl | rfl | rfl | rfl | rfl <;> rfl

/-- What belongs to a name or a number is taken up to the place where the text stops. -/
theorem Stops.span {p : Char → Bool} (hp : ∀ c, p c = true → isNumberPart c = true)
    {t rest : List Char} (ht : ∀ c ∈ t, p c = true) (h : Stops rest) :
    (t ++ rest).takeWhile p = t ∧ (t ++ rest).dropWhile p = rest := by
  rw [List.takeWhile_append_of_pos ht, List.dropWhile_append_of_pos ht]
  cases rest with
  | nil => simp
  | cons c rest =>
      have hc : p c = false := by
        by_contra hne
        have hpart := hp c (Bool.not_eq_false _ ▸ hne)
        rw [isNumberPart_of_stops h] at hpart
        cases hpart
      simp [hc]

section Lexing

variable {mayEnd : Bool} {cs rest t : List Char} {ts : List Token} {c : Char}

theorem lexes_nil : Lexes mayEnd [] (if mayEnd then [.mark ','] else []) := by
  intro rounds h
  cases rounds with
  | zero => exact absurd h (Nat.lt_irrefl 0)
  | succ rounds => rfl

/-- One character more takes one round more. -/
theorem lexes_cons
    (h : ∀ rounds, cs.length < rounds → tokens (rounds + 1) mayEnd (c :: cs) = some ts) :
    Lexes mayEnd (c :: cs) ts := by
  intro rounds hrounds
  cases rounds with
  | zero => exact absurd hrounds (Nat.not_lt_zero _)
  | succ rounds => exact h rounds (by simp at hrounds; omega)

theorem lexes_line (h : Lexes false cs ts) :
    Lexes mayEnd ('\n' :: cs) (if mayEnd && breaksBefore cs then .mark ',' :: ts else ts) := by
  refine lexes_cons fun rounds hrounds => ?_
  show (tokens rounds false cs).map _ = _
  rw [h rounds hrounds]
  rfl

theorem lexes_space (hc : c ∈ [' ', '\t', '\r']) (h : Lexes mayEnd cs ts) :
    Lexes mayEnd (c :: cs) ts := by
  refine lexes_cons fun rounds hrounds => ?_
  simp only [List.mem_cons, List.not_mem_nil, or_false] at hc
  rcases hc with rfl | rfl | rfl <;> exact h rounds hrounds

theorem lexes_mark (hc : c ∈ [openBrace, '[', ':', ',']) (h : Lexes false cs ts) :
    Lexes mayEnd (c :: cs) (.mark c :: ts) := by
  refine lexes_cons fun rounds hrounds => ?_
  have hread := congrArg (Option.map (Token.mark c :: ·)) (h rounds hrounds)
  simp only [List.mem_cons, List.not_mem_nil, or_false] at hc
  rcases hc with rfl | rfl | rfl | rfl <;> exact hread

theorem lexes_close (hc : c ∈ [']', closeBrace]) (h : Lexes true cs ts) :
    Lexes mayEnd (c :: cs) (.mark c :: ts) := by
  refine lexes_cons fun rounds hrounds => ?_
  have hread := congrArg (Option.map (Token.mark c :: ·)) (h rounds hrounds)
  simp only [List.mem_cons, List.not_mem_nil, or_false] at hc
  rcases hc with rfl | rfl <;> exact hread

theorem lexes_string {s : String} (hs : StringMeans t s) (h : Lexes true rest ts) :
    Lexes mayEnd (t ++ rest) (.string s :: ts) := by
  obtain ⟨body, hbody, rfl⟩ := hs
  have hread := readString_of_bodySpells hbody rest
  rw [List.cons_append, List.append_assoc]
  refine lexes_cons fun rounds hrounds => ?_
  have hts : tokens rounds true rest = some ts := h rounds (by simp at hrounds; omega)
  show (readString 0 (body ++ '"' :: rest)).bind _ = _
  rw [hread]
  simp only [Option.bind_some, Option.bind_eq_bind, hts, String.ofList_toList]
  rfl

theorem lexes_word {word : List Char} (hc : c ∈ ['n', 't', 'f'])
    (hword : word.all Text.isNamePart = true) (hrest : Stops rest) (h : Lexes true rest ts) :
    Lexes mayEnd (c :: (word ++ rest)) (.name (String.ofList (c :: word)) :: ts) := by
  have hpart : ∀ x, Text.isNamePart x = true → isNumberPart x = true := by
    intro x hx
    simp [isNumberPart, hx]
  obtain ⟨htake, hdrop⟩ := hrest.span hpart (List.all_eq_true.1 hword)
  refine lexes_cons fun rounds hrounds => ?_
  have hts : tokens rounds true rest = some ts := h rounds (by simp at hrounds; omega)
  have hname : tokens (rounds + 1) mayEnd (c :: (word ++ rest)) =
      (tokens rounds true ((word ++ rest).dropWhile Text.isNamePart)).bind fun ts =>
        some (.name (String.ofList (c :: (word ++ rest).takeWhile Text.isNamePart)) :: ts) := by
    simp only [List.mem_cons, List.not_mem_nil, or_false] at hc
    rcases hc with rfl | rfl | rfl <;> rfl
  rw [hname, htake, hdrop, hts]
  rfl

theorem isNumberPart_of_isNumberChar (x : Char) (h : Json.isNumberChar x = true) :
    isNumberPart x = true := by
  simp only [Json.isNumberChar, Bool.or_eq_true, beq_iff_eq] at h
  rcases h with ((((h | rfl) | rfl) | rfl) | rfl) | rfl
  · simp [isNumberPart, Text.isNamePart, Char.isAlphanum, h]
  · rfl
  · rfl
  · rfl
  · rfl
  · rfl

theorem tokens_number (hc : c.isDigit = true ∨ c = '-') (rounds : Nat) :
    tokens (rounds + 1) mayEnd (c :: cs) =
      (readNumber (c :: cs)).bind fun (t, rest) =>
        (tokens rounds true rest).bind fun ts => some (t :: ts) := by
  -- each of the eleven characters passes by the other cases
  have hsmall : c.toNat < 58 := by
    rcases hc with hc | rfl
    · simp only [Char.isDigit, Bool.and_eq_true, decide_eq_true_eq] at hc
      exact Nat.lt_of_le_of_lt (UInt32.le_iff_toNat_le.1 hc.2) (by decide)
    · decide
  have hcases : ∀ m < 58, (Char.ofNat m).isDigit = true ∨ Char.ofNat m = '-' →
      Char.ofNat m ∈ ['0', '1', '2', '3', '4', '5', '6', '7', '8', '9', '-'] := by decide
  have hmem := hcases c.toNat hsmall
  rw [Char.ofNat_toNat] at hmem
  have hc' := hmem hc
  simp only [List.mem_cons, List.not_mem_nil, or_false] at hc'
  rcases hc' with rfl | rfl | rfl | rfl | rfl | rfl | rfl | rfl | rfl | rfl | rfl <;> rfl

/-- A number starts with a digit or a minus sign. -/
theorem numberText_head {cs : List Char} (h : NumberText cs) :
    ∃ c more, cs = c :: more ∧ (c.isDigit = true ∨ c = '-') := by
  obtain ⟨sign, whole, fraction, exponent, rfl, hsign, hwhole, -⟩ := h
  rcases hsign with rfl | rfl
  · cases hwhole with
    | zero => exact ⟨_, _, rfl, Or.inl rfl⟩
    | digits hd _ _ => exact ⟨_, _, rfl, Or.inl hd⟩
  · exact ⟨_, _, rfl, Or.inr rfl⟩

theorem lexes_number {text : String} (ht : NumberText text.toList) (hrest : Stops rest)
    (h : Lexes true rest ts) : Lexes mayEnd (text.toList ++ rest) (.number text :: ts) := by
  obtain ⟨htake, hdrop⟩ := hrest.span (p := isNumberPart) (fun _ hx => hx) fun x hx =>
    isNumberPart_of_isNumberChar x (ht.isNumberChar x hx)
  obtain ⟨c, more, hcons, hc⟩ := numberText_head ht
  have hplus : text.startsWith "+" = false := by
    rw [String.startsWith_string_eq_false_iff, hcons]
    rintro ⟨rest, hrest⟩
    cases hrest
    rcases hc with hc | hc <;> cases hc
  have hread : readNumber (text.toList ++ rest) = some (.number text, rest) := by
    rw [readNumber, htake, hdrop, String.ofList_toList]
    simp only [hplus, Bool.false_eq_true, if_false]
    exact if_pos ((Json.isNumberChars_iff _).2 ht)
  rw [hcons, List.cons_append] at hread ⊢
  refine lexes_cons fun rounds hrounds => ?_
  have hts : tokens rounds true rest = some ts := h rounds (by simp at hrounds; omega)
  rw [tokens_number hc, hread]
  simp only [Option.bind_some, hts]

/-! #### White space -/

theorem lexes_blank (hb : BlankText t) (hline : '\n' ∉ t) (h : Lexes mayEnd cs ts) :
    Lexes mayEnd (t ++ cs) ts := by
  induction t with
  | nil => exact h
  | cons c t ih =>
      have hc := hb c List.mem_cons_self
      refine lexes_space ?_ (ih (fun x hx => hb x (List.mem_cons_of_mem _ hx))
        fun hx => hline (List.mem_cons_of_mem _ hx))
      simp only [List.mem_cons, List.not_mem_nil, or_false, not_or] at hc hline ⊢
      tauto

/-- After an opening bracket, a comma or a colon, line ends do not count. -/
theorem lexes_blank_inside (hb : BlankText t) (h : Lexes false cs ts) :
    Lexes false (t ++ cs) ts := by
  induction t with
  | nil => exact h
  | cons c t ih =>
      have htail := ih fun x hx => hb x (List.mem_cons_of_mem _ hx)
      by_cases hc : c = '\n'
      · rw [hc]
        exact lexes_line htail
      · refine lexes_space ?_ htail
        have hmem := hb c List.mem_cons_self
        simp only [List.mem_cons, List.not_mem_nil, or_false] at hmem ⊢
        tauto

theorem breaksBefore_blank (hb : BlankText t) (cs : List Char) :
    breaksBefore (t ++ cs) = breaksBefore cs := by
  have hdrop : (t ++ cs).dropWhile isBlank = cs.dropWhile isBlank := by
    refine List.dropWhile_append_of_pos fun c hc => ?_
    have hmem := hb c hc
    simp only [List.mem_cons, List.not_mem_nil, or_false] at hmem
    rcases hmem with rfl | rfl | rfl | rfl <;> rfl
  rw [breaksBefore, breaksBefore, hdrop]

/-- After a value, the first line end counts as a comma if it may. -/
theorem lexes_blank_line (hb : BlankText t) (hline : '\n' ∈ t) (hcs : breaksBefore cs = true)
    (h : Lexes false cs ts) : Lexes true (t ++ cs) (.mark ',' :: ts) := by
  induction t with
  | nil => cases hline
  | cons c t ih =>
      have htail : BlankText t := fun x hx => hb x (List.mem_cons_of_mem _ hx)
      by_cases hc : c = '\n'
      · have hbreak : breaksBefore (t ++ cs) = true := (breaksBefore_blank htail cs).trans hcs
        have hlexes : Lexes true ('\n' :: (t ++ cs)) _ := lexes_line (lexes_blank_inside htail h)
        rw [hbreak] at hlexes
        rw [hc]
        exact hlexes
      · refine lexes_space ?_ (ih htail ((List.mem_cons.1 hline).resolve_left fun h => hc h.symm))
        have hmem := hb c List.mem_cons_self
        simp only [List.mem_cons, List.not_mem_nil, or_false] at hmem ⊢
        tauto

/-- Before a comma or a colon, no line end counts. -/
theorem lexes_blank_mark (hb : BlankText t) (hc : c = ',' ∨ c = ':') (h : Lexes false cs ts) :
    Lexes mayEnd (t ++ c :: cs) (.mark c :: ts) := by
  induction t generalizing mayEnd with
  | nil => exact lexes_mark (by rcases hc with rfl | rfl <;> simp) h
  | cons x t ih =>
      have htail : BlankText t := fun y hy => hb y (List.mem_cons_of_mem _ hy)
      by_cases hx : x = '\n'
      · have hstays : breaksBefore (t ++ c :: cs) = false := by
          rw [breaksBefore_blank htail]
          rcases hc with rfl | rfl <;> rfl
        have hlexes : Lexes mayEnd ('\n' :: (t ++ c :: cs)) _ := lexes_line (ih htail)
        rw [hstays, Bool.and_false] at hlexes
        rw [hx]
        exact hlexes
      · refine lexes_space ?_ (ih htail)
        have hmem := hb x List.mem_cons_self
        simp only [List.mem_cons, List.not_mem_nil, or_false] at hmem ⊢
        tauto

end Lexing

/-! ### The tokens of JSON texts -/

/-- One or more entries with commas between them, and possibly one behind them. -/
inductive ListTokens {α : Type} (Item : List Token → α → Prop) : List Token → List α → Prop where
  /-- The last entry. -/
  | last {ts : List Token} {x : α} (hx : Item ts x) : ListTokens Item ts [x]
  /-- The last entry, with a comma behind it. -/
  | lastLine {ts : List Token} {x : α} (hx : Item ts x) : ListTokens Item (ts ++ [.mark ',']) [x]
  /-- An entry before others. -/
  | more {ts rest : List Token} {x : α} {xs : List α} (hx : Item ts x)
      (hrest : ListTokens Item rest xs) : ListTokens Item (ts ++ .mark ',' :: rest) (x :: xs)

/-- A label, a colon and a value. -/
inductive FieldTokens (Held : List Token → Value → Prop) : List Token → String × Value → Prop where
  /-- The label is a string. -/
  | mk {ts : List Token} {k : String} {v : Value} (hv : Held ts v) :
      FieldTokens Held (.string k :: .mark ':' :: ts) (k, v)

/-- The tokens of a value. -/
inductive ValueTokens : List Token → Value → Prop where
  /-- The word `null`. -/
  | null : ValueTokens [.name "null"] .null
  /-- The word `true`. -/
  | true : ValueTokens [.name "true"] (.bool .true)
  /-- The word `false`. -/
  | false : ValueTokens [.name "false"] (.bool .false)
  /-- A number. -/
  | number {text : String} : ValueTokens [.number text] (.number text)
  /-- A string. -/
  | string {s : String} : ValueTokens [.string s] (.string s)
  /-- A list without items. -/
  | emptyList : ValueTokens [.mark '[', .mark ']'] (.array [])
  /-- A list. -/
  | list {ts : List Token} {items : List Value} (h : ListTokens ValueTokens ts items) :
      ValueTokens (.mark '[' :: (ts ++ [.mark ']'])) (.array items)
  /-- A struct without fields. -/
  | emptyStruct : ValueTokens [.mark openBrace, .mark closeBrace] (.document [])
  /-- A struct. -/
  | struct {ts : List Token} {d : Document} (h : ListTokens (FieldTokens ValueTokens) ts d) :
      ValueTokens (.mark openBrace :: (ts ++ [.mark closeBrace])) (.document d)

/-- A text that becomes tokens wherever it stands, if it is complete there. -/
def LexesAs (t : List Char) (ts : List Token) : Prop :=
  ∀ mayEnd rest out, Stops rest → Lexes true rest out → Lexes mayEnd (t ++ rest) (ts ++ out)

section Texts

variable {α : Type} {Item : List Char → α → Prop} {Tokens : List Token → α → Prop}

/-- The entries of a list become tokens up to the bracket that closes it. -/
theorem ListMeans.lexes {cs : List Char} {xs : List α} (h : ListMeans Item cs xs)
    (hitem : ∀ t x, t.length ≤ cs.length → Item t x → ∃ ts, Tokens ts x ∧ LexesAs t ts)
    (close : Char) (hclose : close ∈ [']', closeBrace]) :
    ∃ ts, ListTokens Tokens ts xs ∧ ∀ rest out, Lexes true rest out →
      Lexes false (cs ++ close :: rest) (ts ++ .mark close :: out) := by
  have hstop : ∀ rest, Stops (close :: rest) := by
    intro rest
    refine stops_cons ?_
    simp only [List.mem_cons, List.not_mem_nil, or_false] at hclose ⊢
    tauto
  have hbreak : ∀ rest, breaksBefore (close :: rest) = true := by
    intro rest
    simp only [List.mem_cons, List.not_mem_nil, or_false] at hclose
    rcases hclose with rfl | rfl <;> rfl
  induction h with
  | @last a t b x ha hx hb =>
      obtain ⟨ts, hts, hlex⟩ := hitem t x (by simp; omega) hx
      by_cases hline : '\n' ∈ b
      · refine ⟨ts ++ [.mark ','], .lastLine hts, ?_⟩
        intro rest out hout
        rw [List.append_assoc, List.append_assoc, List.append_assoc]
        exact lexes_blank_inside ha (hlex _ _ _ (stops_blank hb (hstop rest))
          (lexes_blank_line hb hline (hbreak rest) (lexes_close hclose hout)))
      · refine ⟨ts, .last hts, ?_⟩
        intro rest out hout
        rw [List.append_assoc, List.append_assoc]
        exact lexes_blank_inside ha (hlex _ _ _ (stops_blank hb (hstop rest))
          (lexes_blank hb hline (lexes_close hclose hout)))
  | @more a t b cs x xs ha hx hb _ ih =>
      obtain ⟨ts, hts, hlex⟩ := hitem t x (by simp; omega) hx
      obtain ⟨tail, htail, hlexes⟩ := ih fun t x ht => hitem t x (by simp; omega)
      refine ⟨ts ++ .mark ',' :: tail, .more hts htail, ?_⟩
      intro rest out hout
      have hcomma : Lexes true (b ++ ',' :: (cs ++ close :: rest)) _ :=
        lexes_blank_mark hb (Or.inl rfl) (hlexes rest out hout)
      have hstops : Stops (b ++ ',' :: (cs ++ close :: rest)) :=
        stops_blank hb (stops_cons (by simp))
      have hall := lexes_blank_inside ha (hlex false _ _ hstops hcomma)
      simpa using hall

end Texts

theorem MemberMeans.lexes {Held : List Char → Value → Prop} {Tokens : List Token → Value → Prop}
    {t : List Char} {e : String × Value} (h : MemberMeans Held t e)
    (hheld : ∀ t' v, t'.length ≤ t.length → Held t' v → ∃ ts, Tokens ts v ∧ LexesAs t' ts) :
    ∃ ts, FieldTokens Tokens ts e ∧ LexesAs t ts := by
  cases h with
  | @mk key b c t' k v hkey hb hc hv =>
      obtain ⟨ts, hts, hlex⟩ := hheld t' v (by simp; omega) hv
      refine ⟨_, .mk hts, ?_⟩
      intro mayEnd rest out hstops hout
      have hcolon : Lexes true (b ++ ':' :: (c ++ (t' ++ rest))) _ :=
        lexes_blank_mark hb (Or.inr rfl) (lexes_blank_inside hc (hlex false rest out hstops hout))
      have hall : Lexes mayEnd (key ++ (b ++ ':' :: (c ++ (t' ++ rest)))) _ :=
        lexes_string hkey hcolon
      simpa using hall

theorem lexesAs_bracketed (opening : Char) {close : Char}
    (hc : opening ∈ [openBrace, '[', ':', ',']) {inner : List Char} {ts : List Token}
    (h : ∀ rest out, Lexes true rest out →
      Lexes false (inner ++ close :: rest) (ts ++ .mark close :: out)) :
    LexesAs (opening :: (inner ++ [close])) (.mark opening :: (ts ++ [.mark close])) := by
  intro mayEnd rest out _ hout
  have hall : Lexes mayEnd (opening :: (inner ++ close :: rest)) _ :=
    lexes_mark hc (h rest out hout)
  simpa using hall

theorem lexesAs_empty (opening close : Char) (hc : opening ∈ [openBrace, '[', ':', ','])
    (hclose : close ∈ [']', closeBrace]) {ws : List Char} (hws : BlankText ws) :
    LexesAs (opening :: (ws ++ [close])) [.mark opening, .mark close] :=
  @lexesAs_bracketed opening close hc ws [] fun _ _ hout =>
    lexes_blank_inside hws (lexes_close hclose hout)

/-- **A JSON value becomes the tokens of that value.** -/
theorem Means.lexes {t : List Char} {v : Value} (h : Means t v) :
    ∃ ts, ValueTokens ts v ∧ LexesAs t ts := by
  -- an entry of an array or a document is shorter than its text
  induction hn : t.length using Nat.strong_induction_on generalizing t v with
  | _ n ih =>
      have hshorter : ∀ cs : List Char, cs.length < n → ∀ t x, t.length ≤ cs.length →
          Means t x → ∃ ts, ValueTokens ts x ∧ LexesAs t ts := by
        intro cs hcs t x ht hx
        exact ih t.length (by omega) hx rfl
      cases h with
      | null => exact ⟨_, .null, fun _ _ _ hs ho => lexes_word (by simp) rfl hs ho⟩
      | true => exact ⟨_, .true, fun _ _ _ hs ho => lexes_word (by simp) rfl hs ho⟩
      | false => exact ⟨_, .false, fun _ _ _ hs ho => lexes_word (by simp) rfl hs ho⟩
      | number h => exact ⟨_, .number, fun _ _ _ hs ho => lexes_number h hs ho⟩
      | string h => exact ⟨_, .string, fun _ _ _ _ ho => lexes_string h ho⟩
      | emptyArray hws =>
          exact ⟨_, .emptyList, lexesAs_empty '[' ']' (by simp) (by simp) hws⟩
      | @array cs items h =>
          have hlt : cs.length < n := by
            simp at hn
            omega
          obtain ⟨ts, hts, hlex⟩ := ListMeans.lexes h (hshorter cs hlt) ']' (by simp)
          exact ⟨_, .list hts, lexesAs_bracketed '[' (by simp) hlex⟩
      | emptyDocument hws =>
          exact ⟨_, .emptyStruct, lexesAs_empty openBrace closeBrace (by simp) (by simp) hws⟩
      | @document cs d h =>
          have hlt : cs.length < n := by
            simp at hn
            omega
          have hmember : ∀ t e, t.length ≤ cs.length → MemberMeans Means t e →
              ∃ ts, FieldTokens ValueTokens ts e ∧ LexesAs t ts := by
            intro t e ht he
            exact MemberMeans.lexes he fun t' v ht' => hshorter cs hlt t' v (by omega)
          obtain ⟨ts, hts, hlex⟩ := ListMeans.lexes h hmember closeBrace (by simp)
          exact ⟨_, .struct hts, lexesAs_bracketed openBrace (by simp) hlex⟩

end DocQuery.Config
