import DocQuery.Json.Writer
import DocQuery.Proofs.JsonGrammar

/-!
# DocQuery.Proofs.TreeStrings

**Strings in tree files.** The writer quotes a string that needs escapes the way diagnostics quote
text, and the reader undoes the escapes of JSON. The two alphabets differ: a character that the
writer escapes as `\a`, `\v`, `\x..` or `\U........` comes back as the characters of its escape, and
its escape is none that JSON has.

What one character is written as is classified once (`QuoteForm`); what the reader makes of it, and
whether the grammar derives it, are read off the four forms. A string is `restorable` when none of
its characters takes the fourth form, and that is exactly when it is read back as it was
(`readBack_eq_self_iff`) and when its text is a JSON string (`bodyText_writtenBody_iff`).
-/

namespace DocQuery.Json

open Text

/-- Whether a character keeps its meaning between quotes: it is printable, JSON has a letter for it,
or it is written by a code of four digits. -/
def survivesQuoting (c : Char) : Bool :=
  isPrintable c || [0x08, 0x09, 0x0a, 0x0c, 0x0d].contains c.toNat ||
    (0x80 ≤ c.toNat && c.toNat < 0x10000)

/-- Whether a string can be read back from a tree file. -/
def restorable (s : String) : Bool := !needsEscapes s.toList || s.toList.all survivesQuoting

/-- The inside of a string as tree files hold it. -/
def writtenBody (cs : List Char) : List Char :=
  if needsEscapes cs then cs.flatMap quoteChar else cs

theorem writeTreeString_eq (cs : List Char) :
    writeTreeString cs = '"' :: (writtenBody cs ++ ['"']) := by
  unfold writeTreeString writtenBody
  split
  · rfl
  · rfl

/-- What is read for a string that was written. -/
def readBack (s : String) : String := String.ofList (unescape (writtenBody s.toList))

/-! ### One character between quotes -/

/-- How a character is written between quotes, and whether it keeps its meaning there. -/
inductive QuoteForm (c : Char) : List Char → Bool → Prop where
  /-- The character itself. -/
  | plain (hc : 0x20 ≤ c.toNat) (hquote : c ≠ '"') (hbackslash : c ≠ '\\') : QuoteForm c [c] true
  /-- An escape by a letter of JSON. -/
  | letter {x : Char} (hx : x ∈ escapeLetters) (hmeaning : escapeMeaning? x = some c) :
      QuoteForm c ['\\', x] true
  /-- An escape by a code of four digits. -/
  | code (hc : c.toNat < 0x10000) : QuoteForm c ('\\' :: 'u' :: hexDigits 4 c.toNat) true
  /-- An escape that JSON does not have. -/
  | foreign {x : Char} {tail : List Char} (hc : c ≠ '\\') (hx : x ≠ 'u')
      (hletter : x ∉ escapeLetters) (htail : ∀ y ∈ tail, y ≠ '"' ∧ y ≠ '\\') :
      QuoteForm c ('\\' :: x :: tail) false

theorem le_toNat_of_isPrintable {c : Char} (h : isPrintable c = true) : 0x20 ≤ c.toNat := by
  unfold isPrintable at h
  split at h
  · exact of_decide_eq_true h
  · omega

theorem le_toNat_of_not_isPrintable {c : Char} (h : ¬isPrintable c = true)
    (hc : 0x20 ≤ c.toNat ∧ c.toNat ≠ 0x7f) : 0x80 ≤ c.toNat := by
  unfold isPrintable at h
  split at h
  · exact absurd (decide_eq_true hc.1) h
  · omega

theorem eq_ofNat_of_toNat {c : Char} {n : Nat} (h : c.toNat = n) : c = Char.ofNat n := by
  rw [← h, Char.ofNat_toNat]

/-- A letter stands for at most one character, and the letters of JSON are those that stand for
one. -/
theorem escapeMeaning?_eq_none_iff (x : Char) : escapeMeaning? x = none ↔ x ∉ escapeLetters := by
  unfold escapeMeaning? escapeLetters
  split <;> simp_all

theorem hexDigit_mem : ∀ n < 16, hexDigit n ∈ hexLetters := by decide

theorem mem_hexLetters_of_mem_hexDigits {width n : Nat} {x : Char} (h : x ∈ hexDigits width n) :
    x ∈ hexLetters := by
  induction width generalizing n with
  | zero => cases h
  | succ width ih =>
      rw [hexDigits, List.mem_append, List.mem_singleton] at h
      rcases h with h | rfl
      · exact ih h
      · exact hexDigit_mem _ (Nat.mod_lt _ (by decide))

theorem ne_of_mem_hexLetters {x : Char} (h : x ∈ hexLetters) : x ≠ '"' ∧ x ≠ '\\' := by
  constructor
  · rintro rfl
    exact absurd h (by decide)
  · rintro rfl
    exact absurd h (by decide)

theorem ne_of_mem_hexDigits {width n : Nat} {x : Char} (h : x ∈ hexDigits width n) :
    x ≠ '"' ∧ x ≠ '\\' :=
  ne_of_mem_hexLetters (mem_hexLetters_of_mem_hexDigits h)

/-- A character with a letter of its own: JSON has five of the seven letters. -/
theorem quoteForm_letter {c x : Char} (h : escapeLetter c = some x) :
    QuoteForm c ['\\', x] ([0x08, 0x09, 0x0a, 0x0c, 0x0d].contains c.toNat) := by
  have hforeign : c.toNat < 0x20 → x ≠ 'u' → x ∉ escapeLetters → QuoteForm c ['\\', x] false := by
    intro hc hu hx
    refine .foreign ?_ hu hx (by simp)
    rintro rfl
    exact absurd hc (by decide)
  have hletter : ∀ n, c.toNat = n → x ∈ escapeLetters → escapeMeaning? x = some (Char.ofNat n) →
      QuoteForm c ['\\', x] true := by
    intro n hn hx hmeaning
    refine .letter hx ?_
    rw [hmeaning, eq_ofNat_of_toNat hn]
  unfold escapeLetter at h
  split at h
  all_goals cases h
  · next hn => rw [hn]; exact hforeign (by omega) (by decide) (by decide)
  · next hn => rw [hn]; exact hletter _ hn (by decide) rfl
  · next hn => rw [hn]; exact hletter _ hn (by decide) rfl
  · next hn => rw [hn]; exact hletter _ hn (by decide) rfl
  · next hn => rw [hn]; exact hletter _ hn (by decide) rfl
  · next hn => rw [hn]; exact hletter _ hn (by decide) rfl
  · next hn => rw [hn]; exact hforeign (by omega) (by decide) (by decide)

theorem toNat_lt_of_escapeLetter {c x : Char} (h : escapeLetter c = some x) : c.toNat < 0x20 := by
  unfold escapeLetter at h
  split at h
  all_goals first
    | omega
    | cases h

theorem contains_eq_false_of_escapeLetter {c : Char} (h : escapeLetter c = none) :
    [0x08, 0x09, 0x0a, 0x0c, 0x0d].contains c.toNat = false := by
  unfold escapeLetter at h
  split at h
  all_goals cases h
  simp only [List.contains_eq_mem, List.mem_cons, List.not_mem_nil, or_false,
    decide_eq_false_iff_not]
  rintro (hn | hn | hn | hn | hn) <;> contradiction

/-- **Every character takes one of the four forms**, and `survivesQuoting` tells which. -/
theorem quoteForm (c : Char) : QuoteForm c (quoteChar c) (survivesQuoting c) := by
  unfold quoteChar
  split
  · next h =>
    have h' : c = '"' ∨ c = '\\' := by simpa using h
    rcases h' with rfl | rfl
    · exact .letter (by decide) rfl
    · exact .letter (by decide) rfl
  · next hne =>
    have hne' : c ≠ '"' ∧ c ≠ '\\' := by simpa using hne
    split
    · next hp =>
      rw [show survivesQuoting c = true by simp [survivesQuoting, hp]]
      exact .plain (le_toNat_of_isPrintable hp) hne'.1 hne'.2
    · next hp =>
      -- an unprintable character: a letter of its own, or a code whose width is the first that fits
      have hsurvives : survivesQuoting c = ([0x08, 0x09, 0x0a, 0x0c, 0x0d].contains c.toNat ||
          (0x80 ≤ c.toNat && c.toNat < 0x10000)) := by
        simp [survivesQuoting, hp]
      rw [hsurvives]
      split
      · next x hx =>
        have hlow : c.toNat < 0x20 := toNat_lt_of_escapeLetter hx
        rw [show decide (0x80 ≤ c.toNat) = false from decide_eq_false (by omega), Bool.false_and,
          Bool.or_false]
        exact quoteForm_letter hx
      · next hx =>
        rw [contains_eq_false_of_escapeLetter hx, Bool.false_or]
        split
        · next hcontrol =>
          have hcontrol' : c.toNat < 0x20 ∨ c.toNat = 0x7f := by simpa using hcontrol
          rw [show decide (0x80 ≤ c.toNat) = false from decide_eq_false (by omega),
            Bool.false_and]
          exact .foreign hne'.2 (by decide) (by decide) fun y hy => ne_of_mem_hexDigits hy
        · next hcontrol =>
          have hhigh : 0x80 ≤ c.toNat := le_toNat_of_not_isPrintable hp (by simpa using hcontrol)
          rw [decide_eq_true hhigh, Bool.true_and]
          split
          · next hc =>
            rw [decide_eq_true hc]
            exact .code hc
          · next hc =>
            rw [decide_eq_false hc]
            exact .foreign hne'.2 (by decide) (by decide) fun y hy => ne_of_mem_hexDigits hy

/-! ### Reading one character -/

theorem hexValue?_hexDigit : ∀ n < 16, hexValue? (hexDigit n) = some n := by decide

theorem hexNumber?_concat (cs : List Char) (c : Char) :
    hexNumber? (cs ++ [c]) = (hexNumber? cs).bind fun n => (hexValue? c).map (16 * n + ·) := by
  unfold hexNumber?
  rw [List.foldl_append]
  cases cs.foldl _ (some 0) with
  | none => rfl
  | some n =>
      rw [List.foldl_cons, List.foldl_nil, Option.bind_some]
      cases hexValue? c with
      | none => rfl
      | some d => rfl

/-- Hexadecimal digits are read back, up to their width. -/
theorem hexNumber?_hexDigits (width n : Nat) :
    hexNumber? (hexDigits width n) = some (n % 16 ^ width) := by
  induction width generalizing n with
  | zero => rw [hexDigits, Nat.pow_zero, Nat.mod_one]; rfl
  | succ width ih =>
      have hdigit : hexValue? (hexDigit (n % 16)) = some (n % 16) :=
        hexValue?_hexDigit _ (Nat.mod_lt _ (by decide))
      rw [hexDigits, hexNumber?_concat, ih, Option.bind_some, hdigit, Option.map_some, Nat.pow_succ',
        Nat.mod_mul]
      congr 1
      omega

theorem hexDigits_four (n : Nat) :
    ∃ a b c d, hexDigits 4 n = [a, b, c, d] ∧ ∀ x ∈ [a, b, c, d], x ∈ hexLetters := by
  refine ⟨_, _, _, _, rfl, ?_⟩
  intro x hx
  have hx' : x ∈ hexDigits 4 n := hx
  exact mem_hexLetters_of_mem_hexDigits hx'

theorem not_isSurrogate (c : Char) : isSurrogate c.toNat = false := by
  have hvalid : c.toNat < 0xd800 ∨ 0xdfff < c.toNat ∧ c.toNat < 0x110000 := c.valid
  unfold isSurrogate
  rw [Bool.and_eq_false_iff, decide_eq_false_iff_not, decide_eq_false_iff_not]
  omega

/-- A code of four digits means its character. -/
theorem unescapeCode_hexDigits {c : Char} (hc : c.toNat < 0x10000) (rest : List Char) :
    unescapeCode (hexDigits 4 c.toNat ++ rest) = ([c], rest) := by
  obtain ⟨a, b, x, d, hdigits, -⟩ := hexDigits_four c.toNat
  have hwidth : c.toNat % 16 ^ 4 = c.toNat := Nat.mod_eq_of_lt hc
  have hnumber : hexNumber? [a, b, x, d] = some c.toNat := by
    rw [← hdigits, hexNumber?_hexDigits, hwidth]
  rw [hdigits]
  simp only [List.cons_append, List.nil_append, unescapeCode, hnumber, not_isSurrogate,
    Bool.not_false, if_true, Char.ofNat_toNat]

theorem splitString_plain {c : Char} (hquote : c ≠ '"') (hbackslash : c ≠ '\\')
    (rest : List Char) :
    splitString (c :: rest) = (splitString rest).map (Prod.map (c :: ·) id) := by
  rw [splitString]
  · rfl
  · exact hquote
  · intro _ _ h
    exact absurd h hbackslash

theorem splitString_plains {cs : List Char} (h : ∀ y ∈ cs, y ≠ '"' ∧ y ≠ '\\')
    (rest : List Char) :
    splitString (cs ++ rest) = (splitString rest).map (Prod.map (cs ++ ·) id) := by
  induction cs with
  | nil => exact Option.map_id'.symm
  | cons c cs ih =>
      have hc := h c List.mem_cons_self
      rw [List.cons_append, splitString_plain hc.1 hc.2,
        ih fun y hy => h y (List.mem_cons_of_mem _ hy), Option.map_map]
      rfl

theorem unescape_plains {cs : List Char} (h : ∀ y ∈ cs, y ≠ '\\') (rest : List Char) :
    unescape (cs ++ rest) = cs ++ unescape rest := by
  induction cs with
  | nil => rfl
  | cons c cs ih =>
      have hc := h c List.mem_cons_self
      rw [List.cons_append, unescape, ih fun y hy => h y (List.mem_cons_of_mem _ hy)]
      · rfl
      · intro x more heq
        exact absurd heq hc

/-- What is written for a character does not end its string. -/
theorem QuoteForm.splitString {c : Char} {w : List Char} {kept : Bool} (h : QuoteForm c w kept)
    (rest : List Char) :
    splitString (w ++ rest) = (Json.splitString rest).map (Prod.map (w ++ ·) id) := by
  cases h with
  | plain _ hquote hbackslash => exact splitString_plain hquote hbackslash rest
  | letter _ _ => rfl
  | code _ =>
      have hdigits : ∀ y ∈ hexDigits 4 c.toNat, y ≠ '"' ∧ y ≠ '\\' :=
        fun y hy => ne_of_mem_hexDigits hy
      rw [List.cons_append, List.cons_append, Json.splitString, splitString_plains hdigits,
        Option.map_map]
      rfl
  | @foreign x tail _ _ _ htail =>
      rw [List.cons_append, List.cons_append, Json.splitString, splitString_plains htail,
        Option.map_map]
      rfl

/-- What is read for a character: itself, or its escape as written. -/
theorem QuoteForm.unescape {c : Char} {w : List Char} {kept : Bool} (h : QuoteForm c w kept)
    (rest : List Char) :
    unescape (w ++ rest) = (if kept then [c] else w) ++ Json.unescape rest := by
  cases h with
  | plain _ _ hbackslash => exact unescape_plains (by simpa using hbackslash) rest
  | @letter x hx hmeaning =>
      have hu : (x == 'u') = false := by
        rw [beq_eq_false_iff_ne]
        rintro rfl
        exact absurd hx (by decide)
      simp only [List.cons_append, List.nil_append, Json.unescape, hu, hmeaning, if_true,
        Bool.false_eq_true, if_false]
  | code hc =>
      simp only [List.cons_append, List.nil_append, Json.unescape, beq_self_eq_true, if_true,
        unescapeCode_hexDigits hc]
  | @foreign x tail _ hu hx htail =>
      have hu' : (x == 'u') = false := beq_eq_false_iff_ne.2 hu
      have hmeaning : escapeMeaning? x = none := (escapeMeaning?_eq_none_iff x).2 hx
      have htail' : ∀ y ∈ tail, y ≠ '\\' := fun y hy => (htail y hy).2
      simp only [List.cons_append, Json.unescape, hu', hmeaning, Bool.false_eq_true, if_false,
        unescape_plains htail']

/-- The grammar derives what is written for a character exactly when the character keeps its
meaning. -/
theorem QuoteForm.bodyText_iff {c : Char} {w : List Char} {kept : Bool} (h : QuoteForm c w kept)
    (rest : List Char) : BodyText (w ++ rest) ↔ kept = true ∧ BodyText rest := by
  constructor
  · intro hbody
    cases h with
    | plain _ _ hbackslash =>
        cases hbody with
        | plain _ _ _ hrest => exact ⟨rfl, hrest⟩
        | letter _ _ => exact absurd rfl hbackslash
        | code _ _ => exact absurd rfl hbackslash
    | letter hx _ =>
        cases hbody with
        | plain _ _ hne _ => exact absurd rfl hne
        | letter _ hrest => exact ⟨rfl, hrest⟩
        | code _ _ => exact absurd hx (by decide)
    | code _ =>
        obtain ⟨a, b, x, d, hdigits, -⟩ := hexDigits_four c.toNat
        rw [hdigits] at hbody
        cases hbody with
        | plain _ _ hne _ => exact absurd rfl hne
        | letter hu _ => exact absurd hu (by decide)
        | code _ hrest => exact ⟨rfl, hrest⟩
    | @foreign x tail _ hu hx _ =>
        -- `cases` cannot take the tail apart, and only its first character matters
        rw [List.cons_append, List.cons_append] at hbody
        generalize tail ++ rest = more at hbody
        cases hbody with
        | plain _ _ hne _ => exact absurd rfl hne
        | letter hx' _ => exact absurd hx' hx
        | code _ _ => exact absurd rfl hu
  · rintro ⟨hkept, hrest⟩
    cases h with
    | plain hc hquote hbackslash => exact .plain hc hquote hbackslash hrest
    | letter hx _ => exact .letter hx hrest
    | code _ =>
        obtain ⟨a, b, x, d, hdigits, hhex⟩ := hexDigits_four c.toNat
        rw [hdigits]
        exact .code hhex hrest
    | foreign _ _ _ _ => cases hkept

/-! ### Whole strings -/

theorem splitString_quoted (cs rest : List Char) :
    splitString (cs.flatMap quoteChar ++ rest) =
      (splitString rest).map (Prod.map (cs.flatMap quoteChar ++ ·) id) := by
  induction cs with
  | nil => exact Option.map_id'.symm
  | cons c cs ih =>
      rw [List.flatMap_cons, List.append_assoc, (quoteForm c).splitString, ih, Option.map_map]
      congr 1
      funext p
      simp [Prod.map]

theorem bodyText_quoted_iff (cs : List Char) :
    BodyText (cs.flatMap quoteChar) ↔ cs.all survivesQuoting = true := by
  induction cs with
  | nil => exact ⟨fun _ => rfl, fun _ => .nil⟩
  | cons c cs ih => rw [List.flatMap_cons, (quoteForm c).bodyText_iff, ih, List.all_cons,
      Bool.and_eq_true]

/-- A quoted string is read back exactly when all of its characters keep their meaning: the first
one that does not is read as a backslash. -/
theorem unescape_quoted_iff (cs : List Char) :
    unescape (cs.flatMap quoteChar) = cs ↔ cs.all survivesQuoting = true := by
  induction cs with
  | nil => simp [unescape]
  | cons c cs ih =>
      have hform := quoteForm c
      rw [List.flatMap_cons, hform.unescape, List.all_cons, Bool.and_eq_true, ← ih]
      cases hkept : survivesQuoting c with
      | true => simp
      | false =>
          -- a lost character reads as a backslash, which it is not
          rw [hkept] at hform
          generalize quoteChar c = w at hform
          cases hform with
          | foreign hc _ _ _ => simp [hc.symm]

theorem plain_of_not_needsEscapes {cs : List Char} (h : needsEscapes cs = false) :
    ∀ c ∈ cs, 0x20 ≤ c.toNat ∧ c ≠ '"' ∧ c ≠ '\\' := by
  intro c hc
  have hc' := List.any_eq_false.1 h c hc
  simp only [Bool.or_eq_true, beq_iff_eq, decide_eq_true_eq, not_or, not_lt] at hc'
  exact ⟨hc'.2, hc'.1.1, hc'.1.2⟩

theorem splitString_writtenBody (cs rest : List Char) :
    splitString (writtenBody cs ++ '"' :: rest) = some (writtenBody cs, rest) := by
  unfold writtenBody
  split
  · rw [splitString_quoted, splitString]
    simp
  · next h =>
    have hplain := plain_of_not_needsEscapes (eq_false_of_ne_true h)
    rw [splitString_plains fun c hc => (hplain c hc).2, splitString]
    simp

/-- **A string is read back exactly when it is restorable.** -/
theorem readBack_eq_self_iff (s : String) : readBack s = s ↔ restorable s = true := by
  unfold readBack restorable writtenBody
  rw [← String.toList_inj, String.toList_ofList, Bool.or_eq_true, Bool.not_eq_true']
  split
  · next h => rw [unescape_quoted_iff, h]; simp
  · next h =>
    have hplain := plain_of_not_needsEscapes (eq_false_of_ne_true h)
    have hread := unescape_plains (fun c hc => (hplain c hc).2.2) []
    rw [List.append_nil, unescape, List.append_nil] at hread
    exact ⟨fun _ => Or.inl (eq_false_of_ne_true h), fun _ => hread⟩

theorem bodyText_of_plain {cs : List Char} (h : ∀ c ∈ cs, 0x20 ≤ c.toNat ∧ c ≠ '"' ∧ c ≠ '\\') :
    BodyText cs := by
  induction cs with
  | nil => exact .nil
  | cons c cs ih =>
      have hc := h c List.mem_cons_self
      exact .plain hc.1 hc.2.1 hc.2.2 (ih fun y hy => h y (List.mem_cons_of_mem _ hy))

/-- **What is written for a string is a JSON string exactly when the string is restorable.** -/
theorem bodyText_writtenBody_iff (s : String) :
    BodyText (writtenBody s.toList) ↔ restorable s = true := by
  unfold restorable writtenBody
  rw [Bool.or_eq_true, Bool.not_eq_true']
  split
  · next h => rw [bodyText_quoted_iff, h]; simp
  · next h =>
    have hplain := plain_of_not_needsEscapes (eq_false_of_ne_true h)
    exact ⟨fun _ => Or.inl (eq_false_of_ne_true h), fun _ => bodyText_of_plain hplain⟩

/-- A body that the grammar derives ends at its closing quote. -/
theorem BodyText.splitString {body : List Char} (h : BodyText body) (rest : List Char) :
    splitString (body ++ '"' :: rest) = some (body, rest) := by
  induction h with
  | nil => rfl
  | plain _ hquote hbackslash _ ih =>
      rw [List.cons_append, splitString_plain hquote hbackslash, ih]
      rfl
  | letter _ _ ih =>
      rw [List.cons_append, List.cons_append, Json.splitString, ih]
      rfl
  | @code a b c d body hhex _ ih =>
      have hplain : ∀ y ∈ [a, b, c, d], y ≠ '"' ∧ y ≠ '\\' :=
        fun y hy => ne_of_mem_hexLetters (hhex y hy)
      have hcode := splitString_plains hplain (body ++ '"' :: rest)
      rw [ih] at hcode
      show Json.splitString ('\\' :: 'u' :: ([a, b, c, d] ++ (body ++ '"' :: rest))) = _
      rw [Json.splitString, hcode]
      rfl

end DocQuery.Json
