import DocQuery.Proofs.CanonicalText

/-!
# DocQuery.Proofs.SeparatorEscapes

**Canonical strings, character by character.** In a canonical string a quotation mark, a backslash
and the characters below U+0020 are escaped, and every other character of the normal form stands for
itself, the two line separators included (`canonical_string_exact`). What an ordinary JSON string
has beyond that are the escapes of the two separators. These are undone in the written text, by a
scan that consumes escapes in pairs.

What the scan does to *any* text is said by the pieces it consumes (`Pieces`): plain characters,
escapes of a separator, other escapes of two characters, and a backslash at the very end. A run of
backslashes is consumed two by two, so it decides about the letters behind it by its length alone
(`restoreSeparators_run`): the escape is undone when the run is odd, and what looks like one behind
escaped backslashes is left alone when it is even. A text is left alone as a whole exactly when all
the runs in front of such letters are even (`restoreSeparators_eq_self_iff`).
-/

namespace DocQuery.Json

/-! ### The pieces of a text -/

/-- The last digit of the escape of a line separator. -/
inductive SeparatorDigit : (digit separator : Char) → Prop where
  /-- The line separator. -/
  | line : SeparatorDigit '8' (Char.ofNat 0x2028)
  /-- The paragraph separator. -/
  | paragraph : SeparatorDigit '9' (Char.ofNat 0x2029)

/-- What stands behind the backslash in the escape of a line separator. -/
def separatorLetters (digit : Char) : List Char := ['u', '2', '0', '2', digit]

/-- What the scan consumes of a text, piece by piece. -/
inductive Pieces : List Char → Prop where
  /-- Nothing is left. -/
  | nil : Pieces []
  /-- A character that is no backslash. -/
  | plain {c : Char} {rest : List Char} (hc : c ≠ '\\') (h : Pieces rest) : Pieces (c :: rest)
  /-- A backslash with nothing behind it. -/
  | lone : Pieces ['\\']
  /-- The escape of a separator. -/
  | separator {digit sep : Char} {rest : List Char} (hdigit : SeparatorDigit digit sep)
      (h : Pieces rest) : Pieces ('\\' :: (separatorLetters digit ++ rest))
  /-- A backslash and a character, which are no such escape together with what follows. -/
  | pair {x : Char} {rest : List Char}
      (hpair : ∀ digit sep more, SeparatorDigit digit sep →
        x :: rest ≠ separatorLetters digit ++ more)
      (h : Pieces rest) : Pieces ('\\' :: x :: rest)

/-- Every text is consumed piece by piece. -/
theorem pieces (text : List Char) : Pieces text :=
  match text with
  | [] => .nil
  | c :: rest => by
    by_cases hc : c = '\\'
    · subst hc
      cases rest with
      | nil => exact .lone
      | cons x rest =>
          by_cases h : ∃ digit sep more, SeparatorDigit digit sep ∧
              x :: rest = separatorLetters digit ++ more
          · obtain ⟨digit, sep, more, hdigit, heq⟩ := h
            have hshorter : more.length < rest.length := by
              have := congrArg List.length heq
              simp only [separatorLetters, List.length_cons, List.length_append] at this
              omega
            rw [heq]
            exact .separator hdigit (pieces more)
          · exact .pair (fun digit sep more hdigit heq => h ⟨digit, sep, more, hdigit, heq⟩)
              (pieces rest)
    · exact .plain hc (pieces rest)
termination_by text.length

/-! ### The scan on one piece -/

theorem restoreSeparators_separator {digit sep : Char} (hdigit : SeparatorDigit digit sep)
    (rest : List Char) : restoreSeparators ('\\' :: (separatorLetters digit ++ rest)) =
      sep :: restoreSeparators rest := by
  cases hdigit
  · rfl
  · rfl

theorem restoreSeparators_pair {x : Char} {rest : List Char}
    (hpair : ∀ digit sep more, SeparatorDigit digit sep →
      x :: rest ≠ separatorLetters digit ++ more) :
    restoreSeparators ('\\' :: x :: rest) = '\\' :: x :: restoreSeparators rest := by
  by_cases hletters : ∃ digit more, x :: rest = 'u' :: '2' :: '0' :: '2' :: digit :: more
  · obtain ⟨digit, more, heq⟩ := hletters
    have h8 : digit ≠ '8' := by
      rintro rfl
      exact hpair '8' _ more .line heq
    have h9 : digit ≠ '9' := by
      rintro rfl
      exact hpair '9' _ more .paragraph heq
    obtain ⟨rfl, rfl⟩ := List.cons.inj heq
    rw [restoreSeparators, if_neg (by simpa using h8), if_neg (by simpa using h9)]
  · rw [restoreSeparators]
    rintro digit more rfl rfl
    exact hletters ⟨digit, more, rfl⟩

theorem length_restoreSeparators_le (text : List Char) :
    (restoreSeparators text).length ≤ text.length := by
  induction pieces text with
  | nil => exact Nat.le_refl _
  | plain hc _ ih =>
      rw [restoreSeparators_plain hc]
      exact Nat.succ_le_succ ih
  | lone => exact Nat.le_refl _
  | separator hdigit _ ih =>
      rw [restoreSeparators_separator hdigit]
      simp only [List.length_cons, List.length_append]
      omega
  | pair hpair _ ih =>
      rw [restoreSeparators_pair hpair]
      exact Nat.succ_le_succ (Nat.succ_le_succ ih)

/-! ### Runs of backslashes -/

theorem getLast?_ne_of_cons {c d : Char} {rest : List Char} (h : (c :: rest).getLast? ≠ some d) :
    rest.getLast? ≠ some d := by
  intro hrest
  rw [List.getLast?_cons, hrest] at h
  exact h rfl

/-- The scan starts anew behind a text that does not end with a backslash, unless digits behind it
complete an escape. -/
theorem restoreSeparators_append {before tail : List Char} (hbefore : before.getLast? ≠ some '\\')
    (htail : NoDigit tail) : restoreSeparators (before ++ tail) =
      restoreSeparators before ++ restoreSeparators tail := by
  induction pieces before with
  | nil => rfl
  | plain hc _ ih =>
      rw [List.cons_append, restoreSeparators_plain hc, restoreSeparators_plain hc,
        ih (getLast?_ne_of_cons hbefore), List.cons_append]
  | lone => exact absurd rfl hbefore
  | @separator digit sep rest hdigit _ ih =>
      have hrest : rest.getLast? ≠ some '\\' := by
        intro hlast
        apply hbefore
        rw [← List.cons_append, List.getLast?_append, hlast]
        rfl
      rw [List.cons_append, List.append_assoc, restoreSeparators_separator hdigit,
        restoreSeparators_separator hdigit, ih hrest, List.cons_append]
  | @pair x rest hpair _ ih =>
      have hpair' : ∀ digit sep more, SeparatorDigit digit sep →
          x :: (rest ++ tail) ≠ separatorLetters digit ++ more := by
        intro digit sep more hdigit heq
        -- the text before would have to hold the letters up to a digit
        rw [← List.cons_append, List.append_eq_append_iff] at heq
        rcases heq with ⟨cut, hletters, htaileq⟩ | ⟨cut, heq, -⟩
        · cases cut with
          | nil => exact hpair digit sep [] hdigit (by
              rw [hletters, List.append_nil, List.append_nil])
          | cons c cut =>
              have hc : c ∈ ['2', '0', '2', digit] := by
                rw [(List.cons.inj hletters).2]
                simp
              have hdigits : ['2', '0', '2', digit].all Char.isDigit = true := by
                cases hdigit <;> rfl
              exact absurd (List.all_eq_true.1 hdigits c hc) (by rw [htail c _ htaileq]; decide)
        · exact hpair digit sep cut hdigit heq
      rw [List.cons_append, List.cons_append, restoreSeparators_pair hpair',
        restoreSeparators_pair hpair, ih (getLast?_ne_of_cons (getLast?_ne_of_cons hbefore)),
        List.cons_append, List.cons_append]

/-- A run of escaped backslashes is left alone. -/
theorem restoreSeparators_run (n : Nat) (tail : List Char) :
    restoreSeparators (List.replicate (2 * n) '\\' ++ tail) =
      List.replicate (2 * n) '\\' ++ restoreSeparators tail := by
  induction n with
  | zero => rfl
  | succ n ih =>
      have hpair : ∀ digit sep more, SeparatorDigit digit sep →
          '\\' :: (List.replicate (2 * n) '\\' ++ tail) ≠ separatorLetters digit ++ more := by
        intro digit sep more _ heq
        exact absurd (List.cons.inj heq).1 (by decide)
      rw [Nat.mul_succ, List.replicate_succ, List.replicate_succ, List.cons_append,
        List.cons_append, restoreSeparators_pair hpair, ih, List.cons_append, List.cons_append]

theorem restoreSeparators_letters {digit sep : Char} (hdigit : SeparatorDigit digit sep)
    (rest : List Char) : restoreSeparators (separatorLetters digit ++ rest) =
      separatorLetters digit ++ restoreSeparators rest := by
  have hplain : (separatorLetters digit).all (· != '\\') = true := by cases hdigit <;> rfl
  exact restoreSeparators_plains (by simpa using hplain) rest

/-- In a text stand the letters of the escape of a separator, behind a run of exactly `k`
backslashes. -/
def LettersBehind (k : Nat) (text : List Char) : Prop :=
  ∃ before digit sep rest, SeparatorDigit digit sep ∧ before.getLast? ≠ some '\\' ∧
    text = before ++ (List.replicate k '\\' ++ (separatorLetters digit ++ rest))

theorem noDigit_run {k : Nat} {digit : Char} {rest : List Char} :
    NoDigit (List.replicate k '\\' ++ (separatorLetters digit ++ rest)) := by
  cases k with
  | zero => exact noDigit_cons (by decide)
  | succ k => exact noDigit_cons (by decide)

section Runs

variable {before rest : List Char} {digit sep : Char}

/-- Behind an even run of backslashes the letters are left alone. -/
theorem restoreSeparators_even_run (hdigit : SeparatorDigit digit sep)
    (hbefore : before.getLast? ≠ some '\\') {k : Nat} (hk : Even k) :
    restoreSeparators (before ++ (List.replicate k '\\' ++ (separatorLetters digit ++ rest))) =
      restoreSeparators before ++
        (List.replicate k '\\' ++ (separatorLetters digit ++ restoreSeparators rest)) := by
  obtain ⟨n, rfl⟩ := hk.exists_two_nsmul
  rw [restoreSeparators_append hbefore noDigit_run, smul_eq_mul, restoreSeparators_run,
    restoreSeparators_letters hdigit]

/-- Behind an odd run of backslashes the last of them and the letters are the separator. -/
theorem restoreSeparators_odd_run (hdigit : SeparatorDigit digit sep)
    (hbefore : before.getLast? ≠ some '\\') {k : Nat} (hk : Odd k) :
    restoreSeparators (before ++ (List.replicate k '\\' ++ (separatorLetters digit ++ rest))) =
      restoreSeparators before ++
        (List.replicate (k - 1) '\\' ++ sep :: restoreSeparators rest) := by
  obtain ⟨n, rfl⟩ := hk
  rw [restoreSeparators_append hbefore noDigit_run, List.replicate_succ', List.append_assoc,
    List.singleton_append, restoreSeparators_run, restoreSeparators_separator hdigit,
    Nat.add_sub_cancel]

end Runs

/-- **A text is left alone exactly when all such runs in it are even.** -/
theorem restoreSeparators_eq_self_iff (text : List Char) :
    restoreSeparators text = text ↔ ∀ k, LettersBehind k text → Even k := by
  constructor
  · rintro hself k ⟨before, digit, sep, rest, hdigit, hbefore, heq⟩
    by_contra hk
    rw [Nat.not_even_iff_odd] at hk
    -- an escape that is undone leaves a shorter text
    have hlength := congrArg List.length hself
    have hle := length_restoreSeparators_le before
    have hle' := length_restoreSeparators_le rest
    rw [heq, restoreSeparators_odd_run hdigit hbefore hk] at hlength
    simp only [separatorLetters, List.length_append, List.length_cons, List.length_nil,
      List.length_replicate] at hlength
    omega
  · intro heven
    induction pieces text with
    | nil => rfl
    | @plain c rest hc _ ih =>
        rw [restoreSeparators_plain hc, ih]
        rintro k ⟨before, digit, sep, more, hdigit, hbefore, rfl⟩
        refine heven k ⟨c :: before, digit, sep, more, hdigit, ?_, rfl⟩
        cases before with
        | nil => simpa using hc
        | cons d before => rwa [List.getLast?_cons_cons]
    | lone => rfl
    | @separator digit sep rest hdigit _ _ =>
        exact absurd (heven 1 ⟨[], digit, sep, rest, hdigit, by simp, rfl⟩) (by decide)
    | @pair x rest hpair _ ih =>
        rw [restoreSeparators_pair hpair, ih]
        rintro k ⟨before, digit, sep, more, hdigit, hbefore, rfl⟩
        cases before with
        | cons c before =>
            refine heven k ⟨'\\' :: x :: c :: before, digit, sep, more, hdigit, ?_, rfl⟩
            rwa [List.getLast?_cons_cons, List.getLast?_cons_cons]
        | nil =>
            by_cases hx : x = '\\'
            · -- the escaped backslash belongs to the run
              subst hx
              have h := heven (k + 2) ⟨[], digit, sep, more, hdigit, by simp, rfl⟩
              exact (Nat.even_add.1 h).2 (by decide)
            · exact heven k ⟨['\\', x], digit, sep, more, hdigit, by simpa using hx, rfl⟩

/-! ### What stands in a string for a character -/

/-- The characters that no JSON string holds as they are. -/
def MustEscape (c : Char) : Prop := c = '"' ∨ c = '\\' ∨ c.toNat < 0x20

instance (c : Char) : Decidable (MustEscape c) := inferInstanceAs (Decidable (_ ∨ _ ∨ _))

/-- The letters of the short escapes. -/
def shortEscapes : List (Char × Char) :=
  [('"', '"'), ('\\', '\\'), ('\x08', 'b'), ('\t', 't'), ('\n', 'n'), ('\x0c', 'f'), ('\r', 'r')]

/-- The escape of a character: by a letter if it has one, otherwise by its code. -/
def jsonEscape (c : Char) : List Char :=
  match shortEscapes.lookup c with
  | some letter => ['\\', letter]
  | none => '\\' :: 'u' :: Text.hexDigits 4 c.toNat

/-- A character where only what must be escaped is. -/
def escapeNeeded (c : Char) : List Char := if MustEscape c then jsonEscape c else [c]

theorem escapeChar_low : ∀ n < 0x20, escapeChar (Char.ofNat n) = jsonEscape (Char.ofNat n) := by
  decide

theorem escapeChar_of_mustEscape {c : Char} (h : MustEscape c) : escapeChar c = jsonEscape c := by
  rcases h with rfl | rfl | h
  · rfl
  · rfl
  · rw [← Char.ofNat_toNat c]
    exact escapeChar_low c.toNat h

/-- A character that need not be escaped is not, unless it is a line separator. -/
theorem escapeChar_of_not_mustEscape {c : Char} (h : ¬ MustEscape c) (hline : c.toNat ≠ 0x2028)
    (hparagraph : c.toNat ≠ 0x2029) : escapeChar c = [c] := by
  have hne {d : Char} (hd : MustEscape d) : (c == d) = false := by
    rw [beq_eq_false_iff_ne]
    rintro rfl
    exact h hd
  have hlow : ¬ c.toNat < 0x20 := fun hc => h (.inr (.inr hc))
  have h8 : c.toNat ≠ 0x08 := by omega
  have hc : c.toNat ≠ 0x0c := by omega
  simp only [escapeChar, hne (d := '"') (by decide), hne (d := '\\') (by decide),
    hne (d := '\n') (by decide), hne (d := '\r') (by decide), hne (d := '\t') (by decide),
    beq_eq_false_iff_ne.2 h8, beq_eq_false_iff_ne.2 hc, decide_eq_false hlow,
    beq_eq_false_iff_ne.2 hline, beq_eq_false_iff_ne.2 hparagraph, Bool.or_self,
    Bool.false_eq_true, if_false]

/-- A character where the line separators are escaped besides. -/
def escapeWithSeparators (c : Char) : List Char :=
  if c.toNat = 0x2028 then '\\' :: separatorLetters '8'
  else if c.toNat = 0x2029 then '\\' :: separatorLetters '9'
  else escapeNeeded c

theorem escapeChar_eq (c : Char) : escapeChar c = escapeWithSeparators c := by
  unfold escapeWithSeparators
  split
  · next hline =>
    rw [eq_ofNat_of_toNat hline]
    rfl
  split
  · next hparagraph =>
    rw [eq_ofNat_of_toNat hparagraph]
    rfl
  · next hline hparagraph =>
    rw [escapeNeeded]
    split
    · next h => exact escapeChar_of_mustEscape h
    · next h => exact escapeChar_of_not_mustEscape h hline hparagraph

theorem canonicalChar_eq (c : Char) : canonicalChar c = escapeNeeded c := by
  by_cases hsep : c.toNat = 0x2028 ∨ c.toNat = 0x2029
  · have hneeded : ¬ MustEscape c := by
      rcases hsep with h | h
      · rw [eq_ofNat_of_toNat h]
        decide
      · rw [eq_ofNat_of_toNat h]
        decide
    rw [canonicalChar, if_pos (by simpa using hsep), escapeNeeded, if_neg hneeded]
  · rw [not_or] at hsep
    rw [canonicalChar, if_neg (by simpa using hsep), escapeChar_eq, escapeWithSeparators,
      if_neg hsep.1, if_neg hsep.2]

theorem writeString_eq (cs : List Char) :
    writeString cs = '"' :: cs.flatMap escapeWithSeparators ++ ['"'] := by
  rw [writeString, funext escapeChar_eq]

theorem writeNormalString_eq (cs : List Char) :
    writeNormalString cs = '"' :: cs.flatMap escapeNeeded ++ ['"'] := by
  rw [writeNormalString, funext canonicalChar_eq]

/-! ### Canonical strings -/

/-- The search for the beginning of an escape finds it wherever it stands. -/
theorem mayHoldSeparator_iff (text : List Char) :
    mayHoldSeparator text = true ↔ separatorStart <:+: text := by
  induction text with
  | nil => simp [mayHoldSeparator, separatorStart]
  | cons c rest ih =>
      rw [mayHoldSeparator, Bool.or_eq_true, List.isPrefixOf_iff_prefix, ih, List.infix_cons_iff]

/-- The bytes of a character where only what must be escaped is. -/
def canonicalBytes (c : Char) : List UInt8 :=
  if MustEscape c then (jsonEscape c).flatMap Text.charBytes else Text.charBytes c

theorem flatMap_escapeNeeded (c : Char) :
    (escapeNeeded c).flatMap Text.charBytes = canonicalBytes c := by
  rw [escapeNeeded, canonicalBytes]
  split
  · rfl
  · exact List.flatMap_singleton _ c

/-- **A canonical string is the normal form of the text in quotes, with the escapes that JSON asks
for and no other.** What is undone of an ordinary JSON string are the escapes of the two separators,
whether the text is searched for one or not; and in any text, the letters of such an escape are left
alone behind an even run of backslashes, however long, and are an escape behind an odd one.

`nfc` is whatever gives the text the normal form that the library gives it. -/
theorem canonical_string_exact :
    (∀ (s : String) (nfc : List Char → List Char), nfc s.toList = Text.Normal.normalForm s.toList →
      Text.bytes (String.ofList (writeCanonicalString s.toList)) =
        0x22 :: (nfc s.toList).flatMap canonicalBytes ++ [0x22]) ∧
    (∀ cs, writeString cs = '"' :: cs.flatMap escapeWithSeparators ++ ['"'] ∧
      unescapeSeparators (writeString cs) = '"' :: cs.flatMap escapeNeeded ++ ['"']) ∧
    (∀ text, unescapeSeparators text = restoreSeparators text ∧
      (¬ separatorStart <:+: text → unescapeSeparators text = text) ∧
      (unescapeSeparators text = text ↔ ∀ k, LettersBehind k text → Even k)) ∧
    (∀ before digit sep rest, before.getLast? ≠ some '\\' → SeparatorDigit digit sep → ∀ k,
      unescapeSeparators
          (before ++ (List.replicate k '\\' ++ (separatorLetters digit ++ rest))) =
        unescapeSeparators before ++
          if Even k then
            List.replicate k '\\' ++ (separatorLetters digit ++ unescapeSeparators rest)
          else List.replicate (k - 1) '\\' ++ sep :: unescapeSeparators rest) := by
  refine ⟨?_, ?_, ?_, ?_⟩
  · intro s nfc hnfc
    have hquote : Text.charBytes '"' = [0x22] := rfl
    rw [Text.bytes_eq_flatMap, String.toList_ofList, writeCanonicalString_eq, writeNormalString_eq,
      hnfc, List.flatMap_append, List.flatMap_cons, List.flatMap_singleton, List.flatMap_assoc,
      funext flatMap_escapeNeeded, hquote, List.singleton_append]
  · intro cs
    exact ⟨writeString_eq cs, by rw [unescapeSeparators_writeString, writeNormalString_eq]⟩
  · intro text
    refine ⟨unescapeSeparators_eq text, ?_, ?_⟩
    · intro h
      rw [← mayHoldSeparator_iff] at h
      rw [unescapeSeparators, if_neg h]
    · rw [unescapeSeparators_eq, restoreSeparators_eq_self_iff]
  · intro before digit sep rest hbefore hdigit k
    simp only [unescapeSeparators_eq]
    split
    · next hk => exact restoreSeparators_even_run hdigit hbefore hk
    · next hk =>
      exact restoreSeparators_odd_run hdigit hbefore (Nat.not_even_iff_odd.1 hk)

/-- An accented letter in its decomposed spelling; a text without a backslash; and one in which four
backslashes stand before the letters of one escape and three before those of the other. -/
theorem separators_behind_backslashes :
    let s : String := "e\u0301"
    let before : List Char := ['"', 'a']
    let rest : List Char := ['b'] ++ (List.replicate 3 '\\' ++ (separatorLetters '9' ++ ['"']))
    Text.bytes (String.ofList (writeCanonicalString s.toList)) = [0x22, 0xc3, 0xa9, 0x22] ∧
      unescapeSeparators before = before ∧
      unescapeSeparators (before ++ (List.replicate 4 '\\' ++ (separatorLetters '8' ++ rest))) =
        before ++ (List.replicate 4 '\\' ++ (separatorLetters '8' ++
          ['b', '\\', '\\', Char.ofNat 0x2029, '"'])) := by
  intro s before rest
  have hform : ['\u00e9'] = Text.Normal.normalForm s.toList :=
    (String.ofList_inj.1 normalText_acute.1).symm
  have hbytes := canonical_string_exact.1 s (fun _ => ['\u00e9']) hform
  have hplain := (canonical_string_exact.2.2.1 before).2.1 (by decide)
  have hrest := canonical_string_exact.2.2.2 ['b'] '9' _ ['"'] (by decide) .paragraph 3
  have htext := canonical_string_exact.2.2.2 before '8' _ rest (by decide) .line 4
  refine ⟨hbytes.trans (by decide), hplain, ?_⟩
  rw [htext, if_pos (by decide), hrest, if_neg (by decide)]
  rfl

end DocQuery.Json
