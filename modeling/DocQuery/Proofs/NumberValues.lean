import DocQuery.Proofs.Compiler
import DocQuery.Proofs.NumberTexts

/-!
# DocQuery.Proofs.NumberValues

**What number literals are worth.** `literalValue` is the rational number that a literal stands for:
its digits without the point, as a whole number, times a power of ten that the exponent and the
length of the fraction make up. Nothing is rounded and no exponent is too large.

The library never computes with this value. It negates a number by putting a minus sign in front or
taking it away, and a literal that stands under several minus signs in a tree is negated once for
each (`compile_negations`). Both come down to one fact about the text (`numberText_iff`): a literal
is one without a sign, or a minus sign and one without.
-/

namespace DocQuery

namespace Decimal

open Json (WholeText FractionText ExponentText)

/-! ### The value of a literal -/

/-- The exponent of a literal: an integer behind a mark, and zero without one. -/
def exponentValue : List Char → Int
  | [] => 0
  | _ :: cs =>
    let (negative, digits) := splitSign cs
    if negative then -(natOfDigits digits : Int) else natOfDigits digits

/-- The digits of a fraction, and what stands behind it. -/
def splitFraction : List Char → List Char × List Char
  | '.' :: cs => (cs.takeWhile Char.isDigit, cs.dropWhile Char.isDigit)
  | cs => ([], cs)

/-- The value of a number with the digits `whole` before its point and `fraction` behind it. -/
def placeValue (whole fraction : List Char) (exponent : Int) : ℚ :=
  natOfDigits (whole ++ fraction) * 10 ^ (exponent - fraction.length)

/-- The value of a number without a sign. -/
def unsignedValue (cs : List Char) : ℚ :=
  let rest := splitFraction (cs.dropWhile Char.isDigit)
  placeValue (cs.takeWhile Char.isDigit) rest.1 (exponentValue rest.2)

/-- **The value of a number literal.** -/
def literalValue : List Char → ℚ
  | '-' :: cs => -unsignedValue cs
  | cs => unsignedValue cs

theorem literalValue_minus (cs : List Char) : literalValue ('-' :: cs) = -unsignedValue cs := rfl

theorem literalValue_unsigned {cs : List Char} (h : UnsignedText cs) :
    literalValue cs = unsignedValue cs := by
  rw [literalValue]
  exact h.ne_minus

theorem takeWhile_digits {ds rest : List Char} (hds : ∀ c ∈ ds, c.isDigit = true)
    (hrest : Json.NoDigit rest) : (ds ++ rest).takeWhile Char.isDigit = ds := by
  rw [List.takeWhile_append_of_pos hds]
  cases rest with
  | nil => simp
  | cons c rest => rw [List.takeWhile_cons, hrest c rest rfl]; simp

theorem isDigit_of_wholeText {whole : List Char} (h : WholeText whole) :
    ∀ c ∈ whole, c.isDigit = true := by
  cases h with
  | zero => simp
  | digits hd _ hds =>
      rw [List.forall_mem_cons]
      exact ⟨hd, hds⟩

theorem splitFraction_parts {fraction exponent : List Char} (hf : FractionText fraction)
    (he : ExponentText exponent) :
    splitFraction (fraction ++ exponent) = (fraction.tail, exponent) := by
  cases hf with
  | absent =>
      rw [List.nil_append, splitFraction]
      · rfl
      · exact he.ne_point
  | present hds =>
      rw [List.cons_append, splitFraction, takeWhile_digits hds.2 he.noDigit,
        Json.dropWhile_digits hds.2 he.noDigit]
      rfl

/-- **The value by the parts of a literal**: the digits before and behind the point, and the
exponent. -/
theorem unsignedValue_parts {whole fraction exponent : List Char} (hw : WholeText whole)
    (hf : FractionText fraction) (he : ExponentText exponent) :
    unsignedValue (whole ++ (fraction ++ exponent)) =
      placeValue whole fraction.tail (exponentValue exponent) := by
  have hdigits := isDigit_of_wholeText hw
  have hrest : Json.NoDigit (fraction ++ exponent) := by
    cases hf with
    | absent => exact he.noDigit
    | present _ => exact Json.noDigit_cons rfl
  rw [unsignedValue, takeWhile_digits hdigits hrest, Json.dropWhile_digits hdigits hrest,
    splitFraction_parts hf he]

/-! ### Negation -/

/-- A number without a sign is negated by a minus sign, and one with a minus sign by taking it
away. -/
theorem negate_cases {n : String} (h : isNumber n = true) :
    ∃ u, UnsignedText u ∧
      (n.toList = u ∧ (negate n).toList = '-' :: u ∨
        n.toList = '-' :: u ∧ (negate n).toList = u) := by
  rw [isNumber, Json.isNumberChars_iff, numberText_iff] at h
  obtain ⟨u, hu, htext | htext⟩ := h
  · refine ⟨u, hu, Or.inl ⟨htext, ?_⟩⟩
    rw [negate, String.toList_ofList, htext, hu.negateChars]
  · refine ⟨u, hu, Or.inr ⟨htext, ?_⟩⟩
    rw [negate, String.toList_ofList, htext]
    rfl

theorem literalValue_negate {n : String} (h : isNumber n = true) :
    literalValue (negate n).toList = -literalValue n.toList := by
  obtain ⟨u, hu, ⟨htext, hnegated⟩ | ⟨htext, hnegated⟩⟩ := negate_cases h
  · rw [htext, hnegated, literalValue_unsigned hu, literalValue_minus]
  · rw [htext, hnegated, literalValue_unsigned hu, literalValue_minus, neg_neg]

theorem negate_negate {n : String} (h : isNumber n = true) : negate (negate n) = n := by
  rw [← String.toList_inj]
  obtain ⟨u, hu, ⟨htext, hnegated⟩ | ⟨htext, hnegated⟩⟩ := negate_cases h
  · rw [htext, negate, String.toList_ofList, hnegated]
    rfl
  · rw [htext, negate, String.toList_ofList, hnegated, hu.negateChars]

theorem isInteger_negate {n : String} (h : isNumber n = true) :
    isInteger (negate n) = isInteger n := by
  obtain ⟨u, -, ⟨htext, hnegated⟩ | ⟨htext, hnegated⟩⟩ := negate_cases h
  · rw [isInteger, isInteger, htext, hnegated]
    rfl
  · rw [isInteger, isInteger, htext, hnegated]
    rfl

/-- Of many negations only their parity is left. -/
theorem iterate_negate {n : String} (h : isNumber n = true) (k : Nat) :
    negate^[k] n = if Even k then n else negate n := by
  induction k with
  | zero => simp
  | succ k ih =>
      rw [Function.iterate_succ_apply', ih]
      by_cases hk : Even k
      · rw [if_pos hk, if_neg (by simpa [Nat.even_add_one] using hk)]
      · rw [if_neg hk, if_pos (by simpa [Nat.even_add_one] using hk), negate_negate h]

end Decimal

/-! ### Negations in a tree -/

/-- A number under minus signs is checked before it is negated, and negated once for each sign. -/
theorem compile_negations (t : Tables) (n : String) (k : Nat) :
    ((Expr.unary .negate)^[k] (.number n)).compile t =
      if Decimal.isNumber n then .ok (.literal (.number (Decimal.negate^[k] n)))
      else .error (.invalidNumber n) := by
  induction k with
  | zero => rw [Function.iterate_zero_apply, Expr.compile, Function.iterate_zero_apply]
  | succ k ih =>
      rw [Function.iterate_succ_apply', Expr.compile, ih, Function.iterate_succ_apply']
      by_cases h : Decimal.isNumber n = true
      · rw [if_pos h, if_pos h]
        rfl
      · rw [if_neg h, if_neg h]
        rfl

/-- **Negation of text is negation of values.** The negation of a number literal is a number literal
with the opposite value; negating it again gives the text back, and it has a fraction or an exponent
when the literal has. So a literal under minus signs compiles to itself when their number is even,
and to its negation when it is odd, for all tables. -/
theorem negation_exact {n : String} (h : Decimal.isNumber n = true) :
    Decimal.isNumber (Decimal.negate n) = true ∧
      Decimal.literalValue (Decimal.negate n).toList = -Decimal.literalValue n.toList ∧
      Decimal.negate (Decimal.negate n) = n ∧
      Decimal.isInteger (Decimal.negate n) = Decimal.isInteger n ∧
      ∀ (t : Tables) (k : Nat), ((Expr.unary .negate)^[k] (.number n)).compile t =
        .ok (.literal (.number (if Even k then n else Decimal.negate n))) := by
  refine ⟨Decimal.isNumber_negate h, Decimal.literalValue_negate h, Decimal.negate_negate h,
    Decimal.isInteger_negate h, ?_⟩
  intro t k
  rw [compile_negations, if_pos h, Decimal.iterate_negate h]

theorem signs_before_a_negative_fraction :
    let n : String := "-1.50e-3"
    let opposite : String := "1.50e-3"
    Decimal.isNumber n = true ∧ Decimal.negate n = opposite ∧ Decimal.isNumber opposite = true ∧
      Decimal.literalValue n.toList = -3 / 2000 ∧ Decimal.literalValue opposite.toList = 3 / 2000 ∧
      Decimal.negate opposite = n ∧ Decimal.isInteger opposite = Decimal.isInteger n ∧
      (Expr.unary .negate (.unary .negate (.unary .negate (.number n)))).compile .standard =
        .ok (.literal (.number opposite)) := by
  intro n opposite
  have hn : Decimal.isNumber n = true := by decide
  have hnegate : Decimal.negate n = opposite := by decide
  have hvalue : Decimal.literalValue n.toList = -3 / 2000 := by
    have htext : n.toList = ['-', '1', '.', '5', '0', 'e', '-', '3'] := by decide
    have hexponent : Decimal.exponentValue ['e', '-', '3'] = -3 := rfl
    have hdigits : Decimal.natOfDigits ['1', '5', '0'] = 150 := rfl
    have hplaces : Decimal.unsignedValue ['1', '.', '5', '0', 'e', '-', '3'] =
        Decimal.placeValue ['1'] ['5', '0'] (Decimal.exponentValue ['e', '-', '3']) := rfl
    rw [htext, Decimal.literalValue_minus, hplaces, hexponent, Decimal.placeValue,
      List.singleton_append, hdigits]
    norm_num
  obtain ⟨hnumber, hopposite, htwice, hinteger, hcompile⟩ := negation_exact hn
  rw [hnegate] at hnumber hopposite htwice hinteger hcompile
  refine ⟨hn, hnegate, hnumber, hvalue, ?_, htwice, hinteger, hcompile .standard 3⟩
  rw [hopposite, hvalue]
  norm_num

end DocQuery
