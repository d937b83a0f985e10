import DocQuery.Proofs.KeyOrder
import DocQuery.Proofs.Spelling

/-!
# DocQuery.Proofs.ScriptLiterals

How the lexer reads the literals of a spelling. A number literal of documents without a sign is a
number literal of scripts: it is scanned to its end (`read_number`) and has a value
(`number_value_isSome`). A quoted text is scanned to its closing quote (`spanString_quoted`) and
means the text that was quoted (`stringMeaning?_quoted`), whatever characters it has.
-/

namespace DocQuery.Script

open Decimal Json

/-- What follows a lexeme: nothing, or a blank. -/
inductive Gapped : List Char → Prop where
  /-- The end of the source. -/
  | nothing : Gapped []
  /-- A blank. -/
  | blank (cs : List Char) : Gapped (' ' :: cs)

/-! ## Numbers -/

theorem isDigitOf_ten {c : Char} (h : c.isDigit = true) : isDigitOf 10 c = true := by
  have hrange : 48 ≤ c.toNat ∧ c.toNat ≤ 57 := by
    simpa [Char.isDigit, UInt32.le_iff_toNat_le] using h
  simp only [isDigitOf, anyDigit?, h, if_true, decide_eq_true_eq]
  omega

theorem ne_underscore_of_isDigit {c : Char} (h : c.isDigit = true) : c ≠ '_' := by
  rintro rfl
  exact absurd h (by decide)

/-- A text that ends a run of decimal digits. -/
def EndsDigits (cs : List Char) : Prop := ∀ c ∈ cs.head?, c ∈ ['.', 'e', 'E', ' ']

theorem digitsFrom_ten {ds rest : List Char} (hds : ∀ c ∈ ds, c.isDigit = true)
    (hrest : EndsDigits rest) (done : Nat) :
    NumberReach.digitsFrom 10 true none done (ds ++ rest) = ⟨done + ds.length, rest, none⟩ := by
  induction ds generalizing done with
  | nil =>
      cases rest with
      | nil => rfl
      | cons c cs =>
          have hc : c ∈ ['.', 'e', 'E', ' '] := hrest c rfl
          simp only [List.mem_cons, List.not_mem_nil, or_false] at hc
          rcases hc with rfl | rfl | rfl | rfl <;> rfl
  | cons d ds ih =>
      have hd := hds d List.mem_cons_self
      rw [List.cons_append, NumberReach.digitsFrom,
        if_neg (by simp [ne_underscore_of_isDigit hd]), if_pos (isDigitOf_ten hd),
        ih (fun c hc => hds c (List.mem_cons_of_mem _ hc)), List.length_cons]
      congr 1
      omega

theorem Gapped.endsDigits {tail : List Char} (h : Gapped tail) : EndsDigits tail := by
  cases h with
  | nothing => simp [EndsDigits]
  | blank cs => simp [EndsDigits]

theorem finish_gapped {tail : List Char} (h : Gapped tail) (done : Nat) :
    NumberReach.finish ⟨done, tail, none⟩ = ⟨done, true, none⟩ := by
  cases h with
  | nothing => rfl
  | blank cs => rfl

theorem digits_finish {ds tail : List Char} (hds : ∀ c ∈ ds, c.isDigit = true)
    (htail : Gapped tail) (done : Nat) :
    (NumberReach.digits ⟨done, ds ++ tail, none⟩ 10 true).finish =
      ⟨done + ds.length, true, none⟩ := by
  rw [NumberReach.digits, digitsFrom_ten hds htail.endsDigits, finish_gapped htail]

theorem exponent_reach {cs tail : List Char} (h : ExponentText cs) (htail : Gapped tail)
    (done : Nat) :
    NumberReach.exponent ⟨done, cs ++ tail, none⟩ = ⟨done + cs.length, true, none⟩ := by
  cases h with
  | absent =>
      cases htail with
      | nothing => rfl
      | blank cs => rfl
  | @unsigned e ds he hds =>
      obtain ⟨hne, hall⟩ := hds
      obtain ⟨d, ds, rfl⟩ := List.exists_cons_of_ne_nil hne
      have hd : d.isDigit = true := hall d List.mem_cons_self
      have hsign : ¬ (d = '-' ∨ d = '+') := by
        rintro (rfl | rfl) <;> exact absurd hd (by decide)
      have hstep : NumberReach.exponent ⟨done, e :: d :: ds ++ tail, none⟩ =
          (NumberReach.digits ⟨done + 1, d :: ds ++ tail, none⟩ 10 true).finish := by
        rcases he with rfl | rfl <;>
          simp [NumberReach.exponent, NumberReach.nextIs, NumberReach.skip, hsign, hd]
      rw [hstep, digits_finish hall htail]
      simp only [List.length_cons]
      congr 1
      omega
  | @signed e s ds he hs hds =>
      obtain ⟨hne, hall⟩ := hds
      obtain ⟨d, ds, rfl⟩ := List.exists_cons_of_ne_nil hne
      have hd : d.isDigit = true := hall d List.mem_cons_self
      have hstep : NumberReach.exponent ⟨done, e :: s :: d :: ds ++ tail, none⟩ =
          (NumberReach.digits ⟨done + 2, d :: ds ++ tail, none⟩ 10 true).finish := by
        rcases he with rfl | rfl <;> rcases hs with rfl | rfl <;>
          simp [NumberReach.exponent, NumberReach.nextIs, NumberReach.skip, hd]
      rw [hstep, digits_finish hall htail]
      simp only [List.length_cons]
      congr 1
      omega

theorem endsDigits_exponent {cs tail : List Char} (h : ExponentText cs) (htail : Gapped tail) :
    EndsDigits (cs ++ tail) := by
  cases h with
  | absent => exact htail.endsDigits
  | unsigned he _ => rcases he with rfl | rfl <;> simp [EndsDigits]
  | signed he _ _ => rcases he with rfl | rfl <;> simp [EndsDigits]

theorem fraction_reach {fraction exponent tail : List Char} (hf : FractionText fraction)
    (he : ExponentText exponent) (htail : Gapped tail) (done : Nat) :
    NumberReach.fraction ⟨done, fraction ++ (exponent ++ tail), none⟩ =
      ⟨done + (fraction ++ exponent).length, true, none⟩ := by
  cases hf with
  | absent =>
      have hpoint : (NumberReach.nextIs ⟨done, exponent ++ tail, none⟩ (· == '.')) = false := by
        cases he with
        | absent => cases htail <;> rfl
        | unsigned he _ => rcases he with rfl | rfl <;> rfl
        | signed he _ _ => rcases he with rfl | rfl <;> rfl
      rw [List.nil_append, List.nil_append, NumberReach.fraction, hpoint]
      exact exponent_reach he htail done
  | @present ds hds =>
      have hstep : NumberReach.fraction ⟨done, '.' :: ds ++ (exponent ++ tail), none⟩ =
          NumberReach.exponent (NumberReach.digitsFrom 10 true none (done + 1)
            (ds ++ (exponent ++ tail))) := rfl
      rw [hstep, digitsFrom_ten hds.2 (endsDigits_exponent he htail), exponent_reach he htail]
      simp only [List.cons_append, List.length_cons, List.length_append]
      congr 1
      omega

/-- **A number without a sign is scanned whole.** -/
theorem read_number {whole fraction exponent tail : List Char} (hw : WholeText whole)
    (hf : FractionText fraction) (he : ExponentText exponent) (htail : Gapped tail) :
    NumberSpan.read (whole ++ (fraction ++ (exponent ++ tail))) =
      ⟨(whole ++ (fraction ++ exponent)).length, true, none⟩ := by
  cases hw with
  | zero =>
      -- After a zero only a point or an exponent mark leads on to the rest of a decimal number.
      have hstep : fraction ++ exponent ≠ [] →
          NumberSpan.read ('0' :: (fraction ++ (exponent ++ tail))) =
            NumberReach.fraction ⟨1, fraction ++ (exponent ++ tail), none⟩ := by
        intro hne
        cases hf with
        | present _ => rfl
        | absent =>
            cases he with
            | absent => exact absurd rfl hne
            | unsigned he _ => rcases he with rfl | rfl <;> rfl
            | signed he _ _ => rcases he with rfl | rfl <;> rfl
      by_cases hempty : fraction ++ exponent = []
      · obtain ⟨rfl, rfl⟩ := List.append_eq_nil_iff.1 hempty
        cases htail <;> rfl
      · rw [List.singleton_append, hstep hempty, fraction_reach hf he htail, List.singleton_append,
          List.length_cons, Nat.add_comm]
  | @digits d ds hd hne hds =>
      have hall : ∀ c ∈ d :: ds, c.isDigit = true := List.forall_mem_cons.2 ⟨hd, hds⟩
      have hends : EndsDigits (fraction ++ (exponent ++ tail)) := by
        cases hf with
        | absent => rw [List.nil_append]; exact endsDigits_exponent he htail
        | present _ => simp [EndsDigits]
      have hpoint : d ≠ '.' := by
        rintro rfl
        exact absurd hd (by decide)
      have hstep : NumberSpan.read (d :: ds ++ (fraction ++ (exponent ++ tail))) =
          (NumberReach.digitsFrom 10 true none 0
            (d :: ds ++ (fraction ++ (exponent ++ tail)))).fraction := by
        unfold NumberSpan.read
        split
        · next heq => exact absurd (List.cons.inj heq).1 hne
        · next heq => exact absurd (List.cons.inj heq).1 hpoint
        · rfl
      rw [hstep, digitsFrom_ten hall hends, fraction_reach hf he htail]
      simp only [List.length_append, Nat.zero_add]

/-! A number that is scanned has a value. -/

theorem underscoresSeparate_of_not_mem {cs : List Char} (h : '_' ∉ cs) (afterDigit : Bool) :
    underscoresSeparate afterDigit cs = true := by
  induction cs generalizing afterDigit with
  | nil => rfl
  | cons c cs ih =>
      obtain ⟨hc, hcs⟩ := not_or.1 (List.mem_cons.not.1 h)
      unfold underscoresSeparate
      split
      · rfl
      · next heq => exact absurd (List.cons.inj heq).1.symm hc
      · next heq => exact absurd (List.cons.inj heq).1.symm hc
      · next heq =>
          obtain ⟨rfl, rfl⟩ := List.cons.inj heq
          exact ih hcs _

theorem splitSign_digit {d : Char} (hd : d.isDigit = true) (cs : List Char) :
    splitSign (d :: cs) = (false, d :: cs) := by
  unfold splitSign
  split
  · next heq => exact absurd ((List.cons.inj heq).1 ▸ hd) (by decide)
  · next heq => exact absurd ((List.cons.inj heq).1 ▸ hd) (by decide)
  · rfl

theorem readExponent?_isSome {cs : List Char} (h : ExponentText cs) :
    (readExponent? cs).isSome = true := by
  cases h with
  | absent => rfl
  | @unsigned e ds he hds =>
      obtain ⟨hne, hall⟩ := hds
      obtain ⟨d, ds, rfl⟩ := List.exists_cons_of_ne_nil hne
      have hsplit := splitSign_digit (hall d List.mem_cons_self) ds
      have hdigits : (d :: ds).all Char.isDigit = true := List.all_eq_true.2 hall
      rcases he with rfl | rfl <;> simp [readExponent?, hsplit, hdigits] 
  | @signed e s ds he hs hds =>
      obtain ⟨hne, hall⟩ := hds
      have hempty : ds.isEmpty = false := by simpa using hne
      have hdigits : ds.all Char.isDigit = true := List.all_eq_true.2 hall
      rcases he with rfl | rfl <;> rcases hs with rfl | rfl <;>
        simp [readExponent?, splitSign, hempty, hdigits]

theorem underscore_not_mem {whole fraction exponent : List Char} (hw : WholeText whole)
    (hf : FractionText fraction) (he : ExponentText exponent) :
    '_' ∉ whole ++ (fraction ++ exponent) := by
  have hdigits : ∀ ds : List Char, (∀ c ∈ ds, c.isDigit = true) → '_' ∉ ds :=
    fun ds hds hmem => ne_underscore_of_isDigit (hds _ hmem) rfl
  have hwhole : '_' ∉ whole := by
    cases hw with
    | zero => decide
    | digits hd _ hds => exact hdigits _ (List.forall_mem_cons.2 ⟨hd, hds⟩)
  have hfraction : '_' ∉ fraction := by
    cases hf with
    | absent => simp
    | present hds => simp [hdigits _ hds.2]
  have hexponent : '_' ∉ exponent := by
    cases he with
    | absent => simp
    | unsigned he hds => rcases he with rfl | rfl <;> simp [hdigits _ hds.2]
    | signed he hs hds =>
        rcases he with rfl | rfl <;> rcases hs with rfl | rfl <;> simp [hdigits _ hds.2]
  simp [hwhole, hfraction, hexponent]

theorem exact_read?_isSome {whole fraction exponent : List Char} (hw : WholeText whole)
    (hf : FractionText fraction) (he : ExponentText exponent) :
    (Exact.read? (whole ++ (fraction ++ exponent))).isSome = true := by
  have hunderscore := underscore_not_mem hw hf he
  have hall : ∀ c ∈ whole, c.isDigit = true := by
    cases hw with
    | zero => simp
    | digits hd _ hds => exact List.forall_mem_cons.2 ⟨hd, hds⟩
  obtain ⟨d, ds, rfl⟩ : ∃ d ds, whole = d :: ds := by
    cases hw with
    | zero => exact ⟨_, _, rfl⟩
    | digits _ _ _ => exact ⟨_, _, rfl⟩
  have hfilter : (d :: ds ++ (fraction ++ exponent)).filter (· != '_') =
      d :: ds ++ (fraction ++ exponent) :=
    List.filter_eq_self.2 fun c hc => by
      rw [bne_iff_ne]
      rintro rfl
      exact hunderscore hc
  have hnodigit : NoDigit (fraction ++ exponent) := by
    cases hf with
    | absent => exact he.noDigit
    | present _ => exact noDigit_cons rfl
  have hdrop := dropWhile_digits hall hnodigit
  have htake : (d :: ds ++ (fraction ++ exponent)).takeWhile Char.isDigit = d :: ds := by
    have hsplit := List.takeWhile_append_dropWhile (p := Char.isDigit)
      (l := d :: ds ++ (fraction ++ exponent))
    rw [hdrop] at hsplit
    exact List.append_cancel_right hsplit
  unfold Exact.read?
  rw [underscoresSeparate_of_not_mem hunderscore, hfilter, List.cons_append,
    splitSign_digit (hall d List.mem_cons_self)]
  simp only [List.cons_append] at hdrop htake
  simp only [hdrop, htake, Bool.not_true, List.isEmpty_cons, Bool.false_and, Bool.false_eq_true,
    if_false, Option.isSome_map]
  cases hf with
  | absent =>
      rw [List.nil_append]
      split
      · next _ more => exact absurd rfl (he.ne_point more)
      · exact readExponent?_isSome he
  | present hds =>
      simp only [List.cons_append, dropWhile_digits hds.2 he.noDigit]
      exact readExponent?_isSome he

theorem number_value_isSome {whole fraction exponent : List Char} (hw : WholeText whole)
    (hf : FractionText fraction) (he : ExponentText exponent) :
    (NumberValue.read? (whole ++ (fraction ++ exponent))).isSome = true := by
  obtain ⟨x, hx⟩ := Option.isSome_iff_exists.1 (exact_read?_isSome hw hf he)
  unfold NumberValue.read?
  split
  · rfl
  · rw [hx]
    rfl

/-! ## Strings -/

/-- A character that stands for itself between quotes. -/
def IsVerbatim (c : Char) : Prop := c ≠ '"' ∧ c ≠ '\\' ∧ c ≠ '\n' ∧ c ≠ '\r'

theorem isVerbatim_of_mem_hexDigits {width n : Nat} {x : Char} (h : x ∈ Text.hexDigits width n) :
    IsVerbatim x := by
  have hx := mem_hexLetters_of_mem_hexDigits h
  refine ⟨?_, ?_, ?_, ?_⟩ <;> rintro rfl <;> exact absurd hx (by decide)

theorem spanString_verbatim {c : Char} (h : IsVerbatim c) (cs : List Char) :
    spanString '"' (c :: cs) = (spanString '"' cs).after [c] := by
  obtain ⟨hquote, hbackslash, hnewline, hreturn⟩ := h
  rw [spanString]
  · simp [hquote, hnewline, hreturn]
  · exact fun _ h => absurd h hbackslash
  · exact fun _ _ h => absurd h hbackslash
  · exact fun _ h => absurd h hreturn

theorem spanString_verbatims {cs : List Char} (h : ∀ c ∈ cs, IsVerbatim c) (rest : List Char) :
    spanString '"' (cs ++ rest) = (spanString '"' rest).after cs := by
  induction cs with
  | nil => rfl
  | cons c cs ih =>
      rw [List.cons_append, spanString_verbatim (h c List.mem_cons_self),
        ih fun d hd => h d (List.mem_cons_of_mem _ hd)]
      rfl

theorem spanString_escape {c : Char} (h : c ≠ '\r') (cs : List Char) :
    spanString '"' ('\\' :: c :: cs) = (spanString '"' cs).after ['\\', c] := by
  rw [spanString]
  exact fun _ hreturn => absurd hreturn h

theorem spanString_quoteChar (c : Char) (cs : List Char) :
    spanString '"' (quoteChar c ++ cs) = (spanString '"' cs).after (quoteChar c) := by
  unfold quoteChar
  split
  · next hquoted =>
      refine spanString_escape ?_ cs
      rintro rfl
      exact absurd hquoted (by decide)
  · next hquoted =>
      split
      · have hcode : ∀ x ∈ Text.hexDigits 4 c.toNat, IsVerbatim x :=
          fun x hx => isVerbatim_of_mem_hexDigits hx
        rw [List.cons_append, List.cons_append, spanString_escape (by decide),
          spanString_verbatims hcode]
        rfl
      · next hcode =>
          have hline : c ≠ '\n' ∧ c ≠ '\r' := by
            constructor <;> rintro rfl <;> exact hcode (by decide)
          simp only [Bool.or_eq_true, beq_iff_eq, not_or] at hquoted
          exact spanString_verbatim ⟨hquoted.1, hquoted.2, hline⟩ cs

/-- The closing quote of a string is found. -/
theorem spanString_quoted (cs rest : List Char) :
    spanString '"' (cs.flatMap quoteChar ++ '"' :: rest) = ⟨cs.flatMap quoteChar, true⟩ := by
  induction cs with
  | nil =>
      rw [List.flatMap_nil, List.nil_append, spanString]
      · rfl
      · intro _ h; cases h
      · intro _ _ h; cases h
      · intro _ h; cases h
  | cons c cs ih =>
      rw [List.flatMap_cons, List.append_assoc, spanString_quoteChar, ih]
      rfl

theorem hexDigit?_hexDigit : ∀ n < 16, hexDigit? (Text.hexDigit n) = some n := by decide

theorem hexValue?_hexDigits {n : Nat} (h : n < 0x10000) :
    hexValue? (Text.hexDigits 4 n) = some n := by
  have hdigit : ∀ m, hexDigit? (Text.hexDigit (m % 16)) = some (m % 16) :=
    fun m => hexDigit?_hexDigit _ (Nat.mod_lt _ (by decide))
  simp only [Text.hexDigits, hexValue?, List.nil_append, List.cons_append, List.foldl_cons,
    List.foldl_nil, hdigit, Option.bind_some, Option.map_some, Option.some.injEq]
  omega

theorem readEscape_code {n : Nat} (h : n < 0x10000) (cs : List Char) :
    readEscape false ('u' :: (Text.hexDigits 4 n ++ cs)) = .ok ([n], 5) := by
  obtain ⟨a, b, x, d, hdigits, hmem⟩ := hexDigits_four n
  have hvalue : hexValue? [a, b, x, d] = some n := hdigits ▸ hexValue?_hexDigits h
  have hbrace : a ≠ '\x7b' := by
    rintro rfl
    exact absurd (hmem _ List.mem_cons_self) (by decide)
  have hlong : ¬ Text.byteLength (a :: b :: x :: d :: cs) < 4 := by
    have := Char.utf8Size_pos a
    have := Char.utf8Size_pos b
    have := Char.utf8Size_pos x
    have := Char.utf8Size_pos d
    simp only [Text.byteLength_cons]
    omega
  rw [hdigits]
  simp only [List.cons_append, List.nil_append]
  rw [readEscape]
  · simp only [readFixed, if_neg hlong, List.take_succ_cons, List.take_zero, hvalue]
    rfl
  · intro cs' hcs
    exact hbrace (List.cons.inj hcs).1

theorem unescapeFrom_escape {cs : List Char} {units us : List Nat} {used : Nat}
    (hescape : readEscape false cs = .ok (units, used))
    (hrest : unescapeFrom false used cs = .ok us) :
    unescapeFrom false 0 ('\\' :: cs) = .ok (units ++ us) := by
  rw [unescapeFrom, if_pos (beq_self_eq_true _), hescape]
  simp only [bind, Except.bind, hrest, pure, Except.pure]

theorem unescapeFrom_append (skipped cs : List Char) :
    unescapeFrom false skipped.length (skipped ++ cs) = unescapeFrom false 0 cs := by
  induction skipped with
  | nil => rfl
  | cons c skipped ih =>
      rw [List.length_cons, List.cons_append, unescapeFrom]
      exact ih

theorem toNat_lt_of_needsCode {c : Char} (h : needsCode c = true) : c.toNat < 0x10000 := by
  simp only [needsCode, Text.isLineEnd, Bool.or_eq_true, Bool.and_eq_true, decide_eq_true_eq,
    beq_iff_eq] at h
  rcases h with (h | h) | ((rfl | rfl) | h) | h
  · omega
  · omega
  · decide
  · decide
  · omega
  · omega

theorem unescapeFrom_quoteChar {cs : List Char} {us : List Nat} (c : Char)
    (h : unescapeFrom false 0 cs = .ok us) :
    unescapeFrom false 0 (quoteChar c ++ cs) = .ok (Text.charUnits c ++ us) := by
  unfold quoteChar
  split
  · next hquoted =>
      simp only [Bool.or_eq_true, beq_iff_eq] at hquoted
      rcases hquoted with rfl | rfl <;> exact unescapeFrom_escape rfl h
  · next hquoted =>
      simp only [Bool.or_eq_true, beq_iff_eq, not_or] at hquoted
      split
      · next hcode =>
          have hlow := toNat_lt_of_needsCode hcode
          have hunits : Text.charUnits c = [c.toNat] := if_pos hlow
          have hskip := unescapeFrom_append ('u' :: Text.hexDigits 4 c.toNat) cs
          rw [List.length_cons, Text.length_hexDigits, h] at hskip
          rw [hunits]
          exact unescapeFrom_escape (readEscape_code hlow cs) hskip
      · rw [List.singleton_append, unescapeFrom, if_neg (by simpa using hquoted.2), h]
        rfl

/-- **A quoted string means its value.** -/
theorem stringMeaning?_quoted (value : String) :
    stringMeaning? (value.toList.flatMap quoteChar) = some value := by
  have hunits : ∀ cs : List Char,
      unescapeFrom false 0 (cs.flatMap quoteChar) = .ok (cs.flatMap Text.charUnits) := by
    intro cs
    induction cs with
    | nil => rfl
    | cons c cs ih => exact unescapeFrom_quoteChar c ih
  rw [stringMeaning?, unescape, hunits]
  simp only [Text.ofUnits_flatMap_charUnits, String.ofList_toList]

end DocQuery.Script
