import DocQuery.Json.Basic
import DocQuery.Json.Reader
import DocQuery.Value.Json
import Mathlib

/-!
# DocQuery.Proofs.JsonGrammar

**The grammar of JSON texts** (RFC 8259), one production each for white space, numbers, strings and
values, over lists of characters. It is written without a reader or a writer in mind: a text is a
JSON text when the productions derive it, whatever any function of this library says about it.

The library's own test for number literals is tied to the grammar here (`isNumberChars_iff`): it
skips the four parts of a number one after another, so each part gets two lemmas, one that what was
skipped is a part, and one that a part is skipped as a whole when the text behind it cannot extend
it.
-/

namespace DocQuery.Json

open Decimal

/-! ### Numbers -/

/-- One or more decimal digits. -/
def DigitsText (cs : List Char) : Prop := cs ≠ [] ∧ ∀ c ∈ cs, c.isDigit = true

/-- The whole part of a number: a zero, or digits that do not start with one. -/
inductive WholeText : List Char → Prop where
  /-- A lone zero. -/
  | zero : WholeText ['0']
  /-- Digits without a leading zero. -/
  | digits {d : Char} {ds : List Char} (hd : d.isDigit = true) (hne : d ≠ '0')
      (hds : ∀ c ∈ ds, c.isDigit = true) : WholeText (d :: ds)

/-- The fraction of a number, if it has one. -/
inductive FractionText : List Char → Prop where
  /-- No fraction. -/
  | absent : FractionText []
  /-- A point and digits. -/
  | present {ds : List Char} (hds : DigitsText ds) : FractionText ('.' :: ds)

/-- The exponent of a number, if it has one. -/
inductive ExponentText : List Char → Prop where
  /-- No exponent. -/
  | absent : ExponentText []
  /-- A mark and digits. -/
  | unsigned {e : Char} {ds : List Char} (he : e = 'e' ∨ e = 'E') (hds : DigitsText ds) :
      ExponentText (e :: ds)
  /-- A mark, a sign and digits. -/
  | signed {e s : Char} {ds : List Char} (he : e = 'e' ∨ e = 'E') (hs : s = '+' ∨ s = '-')
      (hds : DigitsText ds) : ExponentText (e :: s :: ds)

/-- A number: an optional minus sign, a whole part, and an optional fraction and exponent. -/
def NumberText (cs : List Char) : Prop :=
  ∃ sign whole fraction exponent, cs = sign ++ (whole ++ (fraction ++ exponent)) ∧
    (sign = [] ∨ sign = ['-']) ∧ WholeText whole ∧ FractionText fraction ∧ ExponentText exponent

/-- A text that no digit starts. -/
def NoDigit (cs : List Char) : Prop := ∀ c rest, cs = c :: rest → c.isDigit = false

theorem noDigit_nil : NoDigit [] := fun _ _ h => by cases h

theorem noDigit_cons {c : Char} {rest : List Char} (h : c.isDigit = false) :
    NoDigit (c :: rest) := by
  intro c' rest' heq
  cases heq
  exact h

/-- A run of digits is skipped to its end. -/
theorem dropWhile_digits {ds rest : List Char} (hds : ∀ c ∈ ds, c.isDigit = true)
    (hrest : NoDigit rest) : (ds ++ rest).dropWhile Char.isDigit = rest := by
  rw [List.dropWhile_append_of_pos hds]
  cases rest with
  | nil => rfl
  | cons c rest => rw [List.dropWhile_cons, hrest c rest rfl]; rfl

/-- What is skipped of a run of digits are digits. -/
theorem exists_digits_of_dropWhile (cs : List Char) :
    ∃ ds, cs = ds ++ cs.dropWhile Char.isDigit ∧ ∀ c ∈ ds, c.isDigit = true :=
  ⟨cs.takeWhile Char.isDigit, List.takeWhile_append_dropWhile.symm,
    fun _ hc => List.mem_takeWhile_imp hc⟩

/-! #### The parts of a number that are skipped -/

theorem skipWhole_sound {cs rest : List Char} (h : skipWhole cs = some rest) :
    ∃ whole, cs = whole ++ rest ∧ WholeText whole := by
  unfold skipWhole at h
  split at h
  · cases h
    exact ⟨['0'], rfl, .zero⟩
  · next d ds hd =>
    split at h
    · next hdigit =>
      cases h
      obtain ⟨run, hrun, hdigits⟩ := exists_digits_of_dropWhile ds
      exact ⟨d :: run, congrArg _ hrun, .digits hdigit hd hdigits⟩
    · cases h
  · cases h

theorem skipWhole_complete {whole rest : List Char} (h : WholeText whole) (hrest : NoDigit rest) :
    skipWhole (whole ++ rest) = some rest := by
  cases h with
  | zero => rfl
  | @digits d ds hd hne hds =>
      unfold skipWhole
      split
      · next heq => cases heq; exact absurd rfl hne
      · next d' ds' hd' heq =>
        cases heq
        rw [if_pos hd]
        exact congrArg some (dropWhile_digits hds hrest)
      · next heq => cases heq

theorem skipFraction_sound {cs rest : List Char} (h : skipFraction cs = some rest) :
    ∃ fraction, cs = fraction ++ rest ∧ FractionText fraction := by
  unfold skipFraction at h
  split at h
  · next d ds =>
    split at h
    · next hd =>
      cases h
      obtain ⟨run, hrun, hdigits⟩ := exists_digits_of_dropWhile ds
      have hds : DigitsText (d :: run) := ⟨by simp, List.forall_mem_cons.2 ⟨hd, hdigits⟩⟩
      exact ⟨'.' :: d :: run, congrArg (fun x => '.' :: d :: x) hrun, .present hds⟩
    · cases h
  · cases h
  · cases h
    exact ⟨[], rfl, .absent⟩

theorem skipFraction_complete {fraction rest : List Char} (h : FractionText fraction)
    (hrest : NoDigit rest) (hpoint : ∀ more, rest ≠ '.' :: more) :
    skipFraction (fraction ++ rest) = some rest := by
  cases h with
  | absent =>
      rw [List.nil_append]
      unfold skipFraction
      split
      · next d ds => exact absurd rfl (hpoint (d :: ds))
      · exact absurd rfl (hpoint [])
      · rfl
  | @present ds hds =>
      cases ds with
      | nil => exact absurd rfl hds.1
      | cons d ds =>
          have hall := List.forall_mem_cons.1 hds.2
          rw [List.cons_append, List.cons_append, skipFraction, if_pos hall.1,
            dropWhile_digits hall.2 hrest]

theorem skipExponent_sound {cs : List Char} (h : skipExponent cs = some []) :
    ExponentText cs := by
  unfold skipExponent at h
  split at h
  · next e cs =>
    split at h
    · next he =>
      have he' : e = 'e' ∨ e = 'E' := by simpa using he
      -- the digits after the mark, and after the sign if there is one, reach to the end
      have hdigits : ∀ {d : Char} {ds : List Char}, d.isDigit = true →
          ds.dropWhile Char.isDigit = [] → DigitsText (d :: ds) := by
        intro d ds hd hnil
        refine ⟨by simp, ?_⟩
        rw [List.forall_mem_cons]
        exact ⟨hd, fun c hc => List.dropWhile_eq_nil_iff.1 hnil c hc⟩
      cases cs with
      | nil => simp at h
      | cons s ds =>
          simp only at h
          by_cases hs : (s == '+' || s == '-') = true
          · rw [if_pos hs] at h
            cases ds with
            | nil => cases h
            | cons d ds =>
                simp only at h
                split at h
                · next hd =>
                  exact .signed he' (by simpa using hs) (hdigits hd (Option.some.inj h))
                · cases h
          · rw [if_neg hs] at h
            simp only at h
            split at h
            · next hd => exact .unsigned he' (hdigits hd (Option.some.inj h))
            · cases h
    · cases h
  · exact .absent

theorem skipExponent_complete {cs : List Char} (h : ExponentText cs) :
    skipExponent cs = some [] := by
  have hend : ∀ {ds : List Char}, (∀ c ∈ ds, c.isDigit = true) →
      ds.dropWhile Char.isDigit = [] :=
    fun hds => List.dropWhile_eq_nil_iff.2 hds
  cases h with
  | absent => rfl
  | @unsigned e ds he hds =>
      cases ds with
      | nil => exact absurd rfl hds.1
      | cons d ds =>
          have hall := List.forall_mem_cons.1 hds.2
          have hsign : (d == '+' || d == '-') = false := by
            cases hs : d == '+' || d == '-' with
            | false => rfl
            | true =>
                have hd : d = '+' ∨ d = '-' := by simpa using hs
                rcases hd with rfl | rfl <;> exact absurd hall.1 (by decide)
          have he' : (e == 'e' || e == 'E') = true := by simpa using he
          simp only [skipExponent, he', if_true, hsign, Bool.false_eq_true, if_false, hall.1,
            hend hall.2]
  | @signed e s ds he hs hds =>
      cases ds with
      | nil => exact absurd rfl hds.1
      | cons d ds =>
          have hall := List.forall_mem_cons.1 hds.2
          have he' : (e == 'e' || e == 'E') = true := by simpa using he
          have hs' : (s == '+' || s == '-') = true := by simpa using hs
          simp only [skipExponent, he', hs', if_true, hall.1, hend hall.2]

theorem ExponentText.noDigit {cs : List Char} (h : ExponentText cs) : NoDigit cs := by
  cases h with
  | absent => exact noDigit_nil
  | unsigned he _ => rcases he with rfl | rfl <;> exact noDigit_cons rfl
  | signed he _ _ => rcases he with rfl | rfl <;> exact noDigit_cons rfl

theorem ExponentText.ne_point {cs : List Char} (h : ExponentText cs) (more : List Char) :
    cs ≠ '.' :: more := by
  cases h with
  | absent => simp
  | unsigned he _ => rcases he with rfl | rfl <;> simp
  | signed he _ _ => rcases he with rfl | rfl <;> simp

/-- **The test for number literals decides the grammar.** -/
theorem isNumberChars_iff (cs : List Char) : isNumberChars cs = true ↔ NumberText cs := by
  simp only [isNumberChars, beq_iff_eq, Option.bind_eq_some_iff]
  constructor
  · rintro ⟨afterFraction, ⟨afterWhole, hwhole, hfraction⟩, hexponent⟩
    obtain ⟨whole, hw, hwt⟩ := skipWhole_sound hwhole
    obtain ⟨fraction, hf, hft⟩ := skipFraction_sound hfraction
    have hrest : skipMinus cs = whole ++ (fraction ++ afterFraction) := by rw [hw, hf]
    unfold skipMinus at hrest
    split at hrest
    · exact ⟨['-'], whole, fraction, afterFraction, by rw [hrest]; rfl, Or.inr rfl, hwt, hft,
        skipExponent_sound hexponent⟩
    · exact ⟨[], whole, fraction, afterFraction, hrest, Or.inl rfl, hwt, hft,
        skipExponent_sound hexponent⟩
  · rintro ⟨sign, whole, fraction, exponent, rfl, hsign, hw, hf, he⟩
    have hminus : skipMinus (sign ++ (whole ++ (fraction ++ exponent))) =
        whole ++ (fraction ++ exponent) := by
      rcases hsign with rfl | rfl
      · cases hw with
        | zero => rfl
        | @digits d ds hd hne hds =>
            rw [List.nil_append]
            unfold skipMinus
            split
            · next heq => cases heq; exact absurd hd (by decide)
            · rfl
      · rfl
    have hnodigit : NoDigit (fraction ++ exponent) := by
      cases hf with
      | absent => exact he.noDigit
      | present _ => exact noDigit_cons rfl
    rw [hminus]
    exact ⟨exponent, ⟨fraction ++ exponent, skipWhole_complete hw hnodigit,
      skipFraction_complete hf he.noDigit he.ne_point⟩, skipExponent_complete he⟩

/-! ### Strings -/

/-- The characters that may follow a backslash in a string, codes apart. -/
def escapeLetters : List Char := ['"', '\\', '/', 'b', 'f', 'n', 'r', 't']

/-- The digits of a code in a string. -/
def hexLetters : List Char := "0123456789abcdefABCDEF".toList

/-- The inside of a string: characters other than controls, quotes and backslashes stand for
themselves, and a backslash starts an escape by a letter or by four hexadecimal digits. -/
inductive BodyText : List Char → Prop where
  /-- The end of the string. -/
  | nil : BodyText []
  /-- A character that stands for itself. -/
  | plain {c : Char} {rest : List Char} (hc : 0x20 ≤ c.toNat) (hquote : c ≠ '"')
      (hbackslash : c ≠ '\\') (hrest : BodyText rest) : BodyText (c :: rest)
  /-- An escape by a letter. -/
  | letter {c : Char} {rest : List Char} (hc : c ∈ escapeLetters) (hrest : BodyText rest) :
      BodyText ('\\' :: c :: rest)
  /-- An escape by a code. -/
  | code {a b c d : Char} {rest : List Char} (hhex : ∀ x ∈ [a, b, c, d], x ∈ hexLetters)
      (hrest : BodyText rest) : BodyText ('\\' :: 'u' :: a :: b :: c :: d :: rest)

/-- A string in its quotes. -/
def StringText (cs : List Char) : Prop := ∃ body, BodyText body ∧ cs = '"' :: (body ++ ['"'])

/-! ### Values -/

/-- White space. -/
def BlankText (cs : List Char) : Prop := ∀ c ∈ cs, c ∈ [' ', '\t', '\n', '\r']

mutual

/-- A value. -/
inductive ValueText : List Char → Prop where
  /-- The word `null`. -/
  | null : ValueText ['n', 'u', 'l', 'l']
  /-- The word `true`. -/
  | true : ValueText ['t', 'r', 'u', 'e']
  /-- The word `false`. -/
  | false : ValueText ['f', 'a', 'l', 's', 'e']
  /-- A number. -/
  | number {cs : List Char} (h : NumberText cs) : ValueText cs
  /-- A string. -/
  | string {cs : List Char} (h : StringText cs) : ValueText cs
  /-- An array without items. -/
  | emptyArray {ws : List Char} (hws : BlankText ws) : ValueText ('[' :: (ws ++ [']']))
  /-- An array. -/
  | array {cs : List Char} (h : ItemsText cs) : ValueText ('[' :: (cs ++ [']']))
  /-- An object without members. -/
  | emptyObject {ws : List Char} (hws : BlankText ws) :
      ValueText (Char.ofNat 0x7b :: (ws ++ [Char.ofNat 0x7d]))
  /-- An object. -/
  | object {cs : List Char} (h : MembersText cs) :
      ValueText (Char.ofNat 0x7b :: (cs ++ [Char.ofNat 0x7d]))

/-- The items of an array, with commas between them. -/
inductive ItemsText : List Char → Prop where
  /-- The last item. -/
  | last {a v b : List Char} (ha : BlankText a) (hv : ValueText v) (hb : BlankText b) :
      ItemsText (a ++ (v ++ b))
  /-- An item before others. -/
  | more {a v b rest : List Char} (ha : BlankText a) (hv : ValueText v) (hb : BlankText b)
      (hrest : ItemsText rest) : ItemsText (a ++ (v ++ (b ++ ',' :: rest)))

/-- The members of an object, with commas between them. -/
inductive MembersText : List Char → Prop where
  /-- The last member. -/
  | last {a key b c v d : List Char} (ha : BlankText a) (hkey : StringText key) (hb : BlankText b)
      (hc : BlankText c) (hv : ValueText v) (hd : BlankText d) :
      MembersText (a ++ (key ++ (b ++ ':' :: (c ++ (v ++ d)))))
  /-- A member before others. -/
  | more {a key b c v d rest : List Char} (ha : BlankText a) (hkey : StringText key)
      (hb : BlankText b) (hc : BlankText c) (hv : ValueText v) (hd : BlankText d)
      (hrest : MembersText rest) :
      MembersText (a ++ (key ++ (b ++ ':' :: (c ++ (v ++ (d ++ ',' :: rest))))))

end

/-- **A JSON text**: a value between white space. -/
def JsonText (cs : List Char) : Prop :=
  ∃ a v b, BlankText a ∧ ValueText v ∧ BlankText b ∧ cs = a ++ (v ++ b)

end DocQuery.Json
