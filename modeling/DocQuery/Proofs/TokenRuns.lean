import DocQuery.Script.Grammar
import DocQuery.Text.Utf8

/-!
# DocQuery.Proofs.TokenRuns

**The tokens of a source**, one after another up to its end (`TokensFrom`), and the number literals
among them.

A rule of the grammar scans with the names that its scope allows, and after a token that may or may
not end a statement. Neither matters for where a token ends, nor for whether it is a number and how
that is written (`alike_scan`). So a source has one run of tokens (`TokensFrom.unique`), and it
gives the numbers that rules come across (`TokensFrom.of_scan`) whatever they make of the words
between them. A slash always counts as a mark in it, since only the grammar knows where a regular
expression may begin.
-/

namespace DocQuery.Script

/-- Scan one token without contextual keywords as names. -/
abbrev scanNext (c : Cursor) : Placed := scan (fun _ => false) c

/-- The tokens from a cursor on. -/
inductive TokensFrom : Cursor → List Token → Prop where
  /-- The source ends here. -/
  | done {c : Cursor} (h : (scanNext c).token.kind = .endOfInput) : TokensFrom c []
  /-- A token and those after it. -/
  | next {c : Cursor} {ts : List Token} (h : (scanNext c).token.kind ≠ .endOfInput)
      (hts : TokensFrom (scanNext c).cursor ts) : TokensFrom c ((scanNext c).token :: ts)

/-- **A source has one run of tokens.** -/
theorem TokensFrom.unique {c : Cursor} {ts ts' : List Token} (h : TokensFrom c ts)
    (h' : TokensFrom c ts') : ts = ts' := by
  induction h generalizing ts' with
  | done h =>
      cases h' with
      | done _ => rfl
      | next hne _ => exact absurd h hne
  | next hne _ ih =>
      cases h' with
      | done h => exact absurd h hne
      | next _ hts => rw [ih hts]

/-- The number literal that a token is, if it is one. -/
def Token.literal? (t : Token) : Option String :=
  if t.kind = .number then some t.written else none

/-- The number literals among tokens, in order. -/
def numberLiterals (ts : List Token) : List String := ts.filterMap Token.literal?

theorem numberLiterals_cons (t : Token) (ts : List Token) :
    numberLiterals (t :: ts) = t.literal?.toList ++ numberLiterals ts := by
  unfold numberLiterals
  rw [List.filterMap_cons]
  cases t.literal? <;> rfl

/-! ### What names and line ends do not change -/

/-- Whether a token is neither a number nor the end of the source. -/
def TokenKind.IsPlain (kind : TokenKind) : Prop := kind ≠ .number ∧ kind ≠ .endOfInput

instance (kind : TokenKind) : Decidable kind.IsPlain := inferInstanceAs (Decidable (_ ∧ _))

/-- The scanner comes to the same place behind both tokens, both are the same number literal or
none, and both are the end of the source or neither is. -/
structure Alike (x y : Scanned) : Prop where
  /-- The rest of the source. -/
  rest : x.cursor.rest = y.cursor.rest
  /-- The byte offset. -/
  offset : x.cursor.offset = y.cursor.offset
  /-- The number literal, if it is one. -/
  literal : x.token.literal? = y.token.literal?
  /-- The end of the source. -/
  final : x.token.kind = .endOfInput ↔ y.token.kind = .endOfInput

/-- A plain token, with `n` characters passed over. -/
structure Passes (cs : List Char) (offset n : Nat) (x : Scanned) : Prop where
  /-- The other characters are left. -/
  rest : x.cursor.rest = cs.drop n
  /-- The offset has moved by the bytes of the characters. -/
  offset : x.cursor.offset = offset + Text.byteLength (cs.take n)
  /-- The token is plain. -/
  plain : x.token.kind.IsPlain

section Passing

variable {cs : List Char} {offset n : Nat}

theorem Passes.alike {x y : Scanned} (hx : Passes cs offset n x) (hy : Passes cs offset n y) :
    Alike x y where
  rest := hx.rest.trans hy.rest.symm
  offset := hx.offset.trans hy.offset.symm
  literal := by rw [Token.literal?, Token.literal?, if_neg hx.plain.1, if_neg hy.plain.1]
  final := iff_of_false hx.plain.2 hy.plain.2

theorem passes_takeToken (cs : List Char) (offset n : Nat) (mayEnd : Bool) {kind : TokenKind}
    (hkind : kind.IsPlain) (meaning : String) (ends : Bool) :
    Passes cs offset n (takeToken ⟨cs, offset, mayEnd⟩ n kind meaning ends) :=
  ⟨rfl, rfl, hkind⟩

/-- Further characters may be passed over behind a token. -/
theorem Passes.skip {x : Scanned} (h : Passes cs offset n x) (m : Nat) :
    Passes cs offset (n + m) { x with cursor := x.cursor.skip m } where
  rest := by rw [Cursor.skip, h.rest, List.drop_drop]
  offset := by
    rw [Cursor.skip, h.rest, h.offset, List.take_add, Text.byteLength_append, Nat.add_assoc]
  plain := h.plain

theorem passes_scanAsync (cs : List Char) (offset used : Nat) (meaning : String) (mayEnd : Bool) :
    Passes cs offset (used + blanksAhead (cs.drop used))
      (scanAsync ⟨cs, offset, mayEnd⟩ used meaning) := by
  unfold scanAsync
  refine Passes.skip (n := used) ?_ _
  split
  · exact passes_takeToken cs offset used mayEnd (by decide) _ _
  · exact passes_takeToken cs offset used mayEnd ⟨by simp, by simp⟩ _ _

theorem wordKind?_isPlain {text : String} {kind : TokenKind} (h : wordKind? text = some kind) :
    kind.IsPlain := by
  unfold wordKind? at h
  split at h
  · cases h
    decide
  · split at h
    · cases h
      decide
    · split at h
      · cases h
        exact ⟨by simp, by simp⟩
      · split at h
        · cases h
          decide
        · cases h

/-- How far a word reaches depends on its characters only. -/
theorem exists_passes_scanWord (cs : List Char) (offset : Nat) :
    ∃ n, ∀ isName mayEnd, Passes cs offset n (scanWord isName ⟨cs, offset, mayEnd⟩) := by
  have htake {kind : TokenKind} (hkind : kind.IsPlain) (mayEnd : Bool) (meaning : String)
      (ends : Bool) :=
    passes_takeToken cs offset (readName 0 true cs).used mayEnd hkind meaning ends
  have hname : TokenKind.identifier.IsPlain := (by decide)
  by_cases hasync : (readName 0 true cs).legal = true ∧ (readName 0 true cs).escaped = false ∧
      String.ofList (readName 0 true cs).meaning = "async"
  · obtain ⟨hlegal, hescaped, hmeaning⟩ := hasync
    refine ⟨(readName 0 true cs).used + blanksAhead (cs.drop (readName 0 true cs).used),
      fun isName mayEnd => ?_⟩
    have hword : scanWord isName ⟨cs, offset, mayEnd⟩ =
        scanAsync ⟨cs, offset, mayEnd⟩ (readName 0 true cs).used "async" := by
      have hlong : ¬ (readName 0 true cs).meaning.length ≤ 1 := by
        rw [← String.toList_ofList (l := (readName 0 true cs).meaning), hmeaning]
        decide
      have hkind : wordKind? "async" = some (.word "async") := by decide
      have hends : endsStatement "async" = false := by decide
      simp [scanWord, hlegal, hescaped, hmeaning, hlong, hkind, hends]
    rw [hword]
    exact passes_scanAsync cs offset _ _ mayEnd
  · refine ⟨(readName 0 true cs).used, fun isName mayEnd => ?_⟩
    unfold scanWord
    simp only
    split
    · exact htake (by decide) mayEnd _ _
    · next hlegal =>
      split
      · exact htake hname mayEnd _ _
      · next kind hkind =>
        have hplain : kind.IsPlain := by
          split at hkind
          · cases hkind
          · exact wordKind?_isPlain hkind
        split
        · split
          · exact htake hname mayEnd _ _
          · exact htake (by decide) mayEnd _ _
        · next hescaped =>
          split
          · exact htake hplain mayEnd _ _
          · rw [if_neg]
            · exact htake hplain mayEnd _ _
            · intro heq
              exact hasync ⟨by simpa using hlegal, by simpa using hescaped, eq_of_beq heq⟩

/-- How far a mark reaches depends on its characters only. -/
theorem exists_passes_scanMark (cs : List Char) (offset : Nat) :
    ∃ n, ∀ afterLine mayEnd, Passes cs offset n (scanMark ⟨cs, offset, mayEnd⟩ afterLine) := by
  have hillegal : TokenKind.illegal.IsPlain := (by decide)
  have hmark : ∀ m, (TokenKind.mark m).IsPlain := fun m => ⟨by simp, by simp⟩
  cases hfound : mark? cs with
  | none =>
      refine ⟨1, fun afterLine mayEnd => ?_⟩
      simp only [scanMark, hfound]
      exact ⟨rfl, rfl, hillegal⟩
  | some m =>
      by_cases hpoints : (m == "." && (cs.drop 1).head? == some '.') = true
      · refine ⟨2, fun afterLine mayEnd => ?_⟩
        simp only [scanMark, hfound, hpoints, if_true]
        exact passes_takeToken cs offset 2 mayEnd hillegal _ _
      · refine ⟨m.length, fun afterLine mayEnd => ?_⟩
        simp only [scanMark, hfound]
        rw [if_neg hpoints]
        split
        · next harrow =>
          -- an arrow on a new line is passed over like any other
          obtain rfl : m = "=>" := eq_of_beq (Bool.and_eq_true_iff.1 harrow).1
          exact passes_takeToken cs offset 2 mayEnd hillegal _ _
        · exact passes_takeToken cs offset m.length mayEnd (hmark m) _ _

end Passing

theorem skipGap_alike (mode : GapMode) (offset : Nat) (mayEnd afterLine mayEnd' afterLine' : Bool)
    (cs : List Char) :
    (skipGap mode offset mayEnd afterLine cs).cursor.rest =
        (skipGap mode offset mayEnd' afterLine' cs).cursor.rest ∧
      (skipGap mode offset mayEnd afterLine cs).cursor.offset =
        (skipGap mode offset mayEnd' afterLine' cs).cursor.offset := by
  fun_induction skipGap mode offset mayEnd afterLine cs generalizing mayEnd' afterLine' <;>
    grind [skipGap]

/-- **Names and line ends do not change where a token ends**, nor whether it is a number. -/
theorem alike_scan (isName isName' : String → Bool) {c c' : Cursor} (hrest : c.rest = c'.rest)
    (hoffset : c.offset = c'.offset) :
    Alike (scan isName c).toScanned (scan isName' c').toScanned := by
  obtain ⟨hrest', hoffset'⟩ :=
    skipGap_alike .plain c.offset c.mayEnd false c'.mayEnd false c.rest
  unfold scan
  rw [← hrest, ← hoffset]
  generalize skipGap .plain c.offset c.mayEnd false c.rest = gap at hrest' hoffset' ⊢
  generalize skipGap .plain c.offset c'.mayEnd false c.rest = gap' at hrest' hoffset' ⊢
  obtain ⟨⟨cs, offset, mayEnd⟩, afterLine, unclosed⟩ := gap
  obtain ⟨⟨cs', offset', mayEnd'⟩, afterLine', unclosed'⟩ := gap'
  obtain rfl : cs = cs' := hrest'
  obtain rfl : offset = offset' := hoffset'
  cases cs with
  | nil => exact ⟨rfl, rfl, rfl, Iff.rfl⟩
  | cons d ds =>
      simp only
      split
      · obtain ⟨n, hpasses⟩ := exists_passes_scanWord (d :: ds) offset
        exact (hpasses isName mayEnd).alike (hpasses isName' mayEnd')
      · split
        · exact ⟨rfl, rfl, rfl, Iff.rfl⟩
        · split
          · exact ⟨rfl, rfl, rfl, Iff.rfl⟩
          · split
            · exact ⟨rfl, rfl, rfl, Iff.rfl⟩
            · obtain ⟨n, hpasses⟩ := exists_passes_scanMark (d :: ds) offset
              exact (hpasses afterLine mayEnd).alike (hpasses afterLine' mayEnd')

theorem TokensFrom.of_place {c c' : Cursor} {ts : List Token} (h : TokensFrom c ts)
    (hrest : c.rest = c'.rest) (hoffset : c.offset = c'.offset) :
    ∃ ts', TokensFrom c' ts' ∧ numberLiterals ts' = numberLiterals ts := by
  induction h generalizing c' with
  | @done c h =>
      have halike := alike_scan (fun _ => false) (fun _ => false) hrest hoffset
      exact ⟨[], .done (halike.final.1 h), rfl⟩
  | @next c ts h _ ih =>
      have halike := alike_scan (fun _ => false) (fun _ => false) hrest hoffset
      obtain ⟨ts', hts', heq⟩ := ih halike.rest halike.offset
      exact ⟨_, .next (mt halike.final.2 h) hts', by
        rw [numberLiterals_cons, numberLiterals_cons, heq, halike.literal]⟩

/-- **A scanned token comes first in the run of tokens**, as far as numbers go. -/
theorem TokensFrom.of_scan {isName : String → Bool} {c : Cursor} {ts : List Token}
    (hkind : (scan isName c).token.kind ≠ .endOfInput)
    (h : TokensFrom (scan isName c).cursor ts) :
    ∃ ts', TokensFrom c ts' ∧
      numberLiterals ts' = numberLiterals ((scan isName c).token :: ts) := by
  have hrest : c.rest = c.rest := rfl
  have halike := alike_scan isName (fun _ => false) hrest rfl
  obtain ⟨ts', hts', heq⟩ := h.of_place halike.rest halike.offset
  exact ⟨_, .next (mt halike.final.2 hkind) hts', by
    rw [numberLiterals_cons, numberLiterals_cons, heq, halike.literal]⟩

/-- At the end of the source there are no tokens left, whatever counts as a name. -/
theorem TokensFrom.of_scan_end {isName : String → Bool} {c : Cursor}
    (hkind : (scan isName c).token.kind = .endOfInput) : TokensFrom c [] :=
  .done ((alike_scan isName (fun _ => false) rfl rfl).final.1 hkind)

end DocQuery.Script
