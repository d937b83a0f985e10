import DocQuery.Proofs.ReadingOperators

/-!
# DocQuery.Proofs.ReadingOperands

The rules for operands read what is spelled: literals, names and brackets (`readsUpTo_primary`), and
what is taken from them by properties and calls (`readsUpTo_chain`).

Everything in brackets is read by a loop over items with commas between them. What the three loops
have in common is `Itemizes`, and `loop_items` is the run of such a loop. A comma chain in
parentheses is read in this way too: its members (`Members`) are the items.
-/

namespace DocQuery.Script

open Rule

/-! ## Lists of expressions -/

/-- Lexemes that start with an expression. -/
def Opens : List Lexeme → Prop
  | [] => False
  | l :: _ => l.kind ∈ expressionOpeners

theorem Spellable.opens {e : Expr} (he : Spellable e) (p : Nat) (ls : List Lexeme) :
    Opens (e.lexemesAt p ++ ls) := by
  obtain ⟨l, ls', hl, hopens, -⟩ := he.opened.lexemesAt p
  rw [hl]
  exact hopens

theorem At.kind_mem {s : State} {ls : List Lexeme} (h : At s ls) (hopens : Opens ls) :
    s.token.kind ∈ expressionOpeners := by
  cases ls with
  | nil => exact hopens.elim
  | cons l ls => exact h.kind ▸ hopens

theorem expression_opener : ∀ kind ∈ expressionOpeners, kind ≠ .mark ")" ∧ kind ≠ .mark "]" ∧
    kind ≠ .mark "," ∧ kind ≠ .mark "..." ∧ kind ≠ .endOfInput := by decide

theorem listLexemes_opens {es : List Expr} (hne : es ≠ []) (hes : ∀ e ∈ es, Spellable e)
    (ls : List Lexeme) : Opens (Expr.listLexemes es ++ ls) := by
  obtain ⟨e, rest, rfl⟩ := List.exists_cons_of_ne_nil hne
  have he := hes e List.mem_cons_self
  by_cases hrest : rest = []
  · rw [hrest, Expr.listLexemes_singleton]
    exact he.opens 2 ls
  · rw [Expr.listLexemes_cons e hrest, List.append_assoc]
    exact he.opens 2 _

/-- A step that reads one of several expressions with commas between them, up to a closing
bracket. -/
structure Itemizes (step : List Tree → Rule (List Tree ⊕ List Tree)) (close : String) (n : Nat) :
    Prop where
  /-- An expression before a comma is read with the comma. -/
  more (items : List Tree) {e : Expr} {s : State} {ls : List Lexeme} (he : Spellable e)
    (hlength : (e.lexemesAt 2).length ≤ n) (hat : At s (e.lexemesAt 2 ++ .mark "," :: ls))
    (hopens : Opens ls) :
    ∃ tree s', step items s = (.inl (tree :: items), s') ∧ At s' ls ∧ Means tree e
  /-- After the last expression there is at most one more round. -/
  last (items : List Tree) {e : Expr} {s : State} {ls : List Lexeme} (he : Spellable e)
    (hlength : (e.lexemesAt 2).length ≤ n) (hat : At s (e.lexemesAt 2 ++ .mark close :: ls)) :
    ∃ tree s', (∀ m, loop step (m + 2) items s = (tree :: items, s')) ∧ At s' (.mark close :: ls) ∧
      Means tree e

theorem loop_items {step : List Tree → Rule (List Tree ⊕ List Tree)} {close : String} {n : Nat}
    (hstep : Itemizes step close n) {es : List Expr} (hne : es ≠ []) (hes : ∀ e ∈ es, Spellable e)
    (hlength : (Expr.listLexemes es).length ≤ n) {s : State} {rest : List Lexeme}
    (hat : At s (Expr.listLexemes es ++ .mark close :: rest)) (items : List Tree) :
    ∃ trees s', (∀ m, loop step (m + es.length + 1) items s = (trees.reverse ++ items, s')) ∧
      At s' (.mark close :: rest) ∧ List.Forall₂ Means trees es := by
  induction es generalizing s items with
  | nil => exact absurd rfl hne
  | cons e es ih =>
      obtain ⟨he, hes⟩ := List.forall_mem_cons.1 hes
      by_cases hempty : es = []
      · subst hempty
        rw [Expr.listLexemes_singleton] at hat hlength
        obtain ⟨tree, s', hloop, hat', hmeans⟩ := hstep.last items he hlength hat
        exact ⟨[tree], s', hloop, hat', .cons hmeans .nil⟩
      · rw [Expr.listLexemes_cons e hempty] at hat hlength
        simp only [List.append_assoc, List.cons_append, List.length_append, List.length_cons]
          at hat hlength
        obtain ⟨tree, s₁, hstep₁, hat₁, hmeans⟩ :=
          hstep.more items he (by omega) hat (listLexemes_opens hempty hes _)
        obtain ⟨trees, s', hloop, hat', hall⟩ := ih hempty hes (by omega) hat₁ (tree :: items)
        refine ⟨tree :: trees, s', fun m => ?_, hat', .cons hmeans hall⟩
        rw [List.length_cons, ← Nat.add_assoc, loop_inl hstep₁, hloop]
        simp

section Steps

variable {g : Grammar} {n : Nat}

theorem itemizes_parenthesizedStep (hassignment : ReadsUpTo n g.assignment 2) :
    Itemizes (parenthesizedStep g) ")" n where
  more items e s ls he hlength hat hopens := by
    obtain ⟨-, -, -, hspread, -⟩ := expression_opener _ (hat.kind_mem (he.opens 2 _))
    obtain ⟨tree, s₁, hreads, hat₁, hmeans⟩ := hassignment he hlength hat (.mark (by decide))
    obtain ⟨s₂, hadvance, hat₂⟩ := hat₁.advance
    obtain ⟨hclose, -⟩ := expression_opener _ (hat₂.kind_mem hopens)
    refine ⟨tree, s₂, ?_, hat₂, hmeans⟩
    simp [parenthesizedStep, hspread, hreads, hat₁.kind, Lexeme.kind, hadvance, hclose]
  last items e s ls he hlength hat := by
    obtain ⟨-, -, -, hspread, -⟩ := expression_opener _ (hat.kind_mem (he.opens 2 _))
    obtain ⟨tree, s', hreads, hat', hmeans⟩ := hassignment he hlength hat (.mark (by decide))
    have hstep : parenthesizedStep g items s = (.inr (tree :: items), s') := by
      simp [parenthesizedStep, hspread, hreads, hat'.kind, Lexeme.kind]
    exact ⟨tree, s', fun m => loop_inr hstep (m + 1), hat', hmeans⟩

theorem itemizes_argumentStep (hassignment : ReadsUpTo n g.assignment 2) :
    Itemizes (argumentStep g) ")" n where
  more items e s ls he hlength hat hopens := by
    obtain ⟨hclose, -, -, hspread, -⟩ := expression_opener _ (hat.kind_mem (he.opens 2 _))
    obtain ⟨tree, s₁, hreads, hat₁, hmeans⟩ := hassignment he hlength hat (.mark (by decide))
    obtain ⟨s₂, hadvance, hat₂⟩ := hat₁.advance
    refine ⟨tree, s₂, ?_, hat₂, hmeans⟩
    simp [argumentStep, hclose, hspread, hreads, hat₁.kind, Lexeme.kind, hadvance]
  last items e s ls he hlength hat := by
    obtain ⟨hclose, -, -, hspread, -⟩ := expression_opener _ (hat.kind_mem (he.opens 2 _))
    obtain ⟨tree, s', hreads, hat', hmeans⟩ := hassignment he hlength hat (.mark (by decide))
    have hstep : argumentStep g items s = (.inr (tree :: items), s') := by
      simp [argumentStep, hclose, hspread, hreads, hat'.kind, Lexeme.kind]
    exact ⟨tree, s', fun m => loop_inr hstep (m + 1), hat', hmeans⟩

theorem arrayStep_close {s : State} {ls : List Lexeme} (hat : At s (.mark "]" :: ls))
    (items : List Tree) : arrayStep g items s = (.inr items, s) := by
  simp [arrayStep, hat.kind, Lexeme.kind]

theorem itemizes_arrayStep (hassignment : ReadsUpTo n g.assignment 2) :
    Itemizes (arrayStep g) "]" n where
  more items e s ls he hlength hat hopens := by
    obtain ⟨-, hclose, hcomma, hspread, hend⟩ := expression_opener _ (hat.kind_mem (he.opens 2 _))
    obtain ⟨tree, s₁, hreads, hat₁, hmeans⟩ := hassignment he hlength hat (.mark (by decide))
    obtain ⟨s₂, hexpect, hat₂⟩ := hat₁.expectMark
    refine ⟨tree, s₂, ?_, hat₂, hmeans⟩
    simp [arrayStep, hclose, hcomma, hspread, hend, hreads, hat₁.kind, Lexeme.kind, hexpect]
  last items e s ls he hlength hat := by
    obtain ⟨-, hclose, hcomma, hspread, hend⟩ := expression_opener _ (hat.kind_mem (he.opens 2 _))
    obtain ⟨tree, s', hreads, hat', hmeans⟩ := hassignment he hlength hat (.mark (by decide))
    have hstep : arrayStep g items s = (.inl (tree :: items), s') := by
      simp [arrayStep, hclose, hcomma, hspread, hend, hreads, hat'.kind, Lexeme.kind]
    refine ⟨tree, s', fun m => ?_, hat', hmeans⟩
    rw [loop_inl hstep, loop_inr (arrayStep_close hat' _)]

end Steps

/-! ## Brackets -/

section Brackets

variable {g : Grammar} {n : Nat}

theorem length_le_listLexemes {es : List Expr} (hes : ∀ e ∈ es, Spellable e) :
    es.length ≤ (Expr.listLexemes es).length := by
  induction es with
  | nil => exact Nat.zero_le _
  | cons e es ih =>
      obtain ⟨he, hes⟩ := List.forall_mem_cons.1 hes
      obtain ⟨l, ls, hl, -⟩ := he.opened.lexemesAt 2
      by_cases hempty : es = []
      · rw [hempty, Expr.listLexemes_singleton, hl]
        simp
      · rw [Expr.listLexemes_cons e hempty, hl]
        have := ih hes
        simp only [List.length_cons, List.length_append]
        omega

theorem loop_items_reads {step : List Tree → Rule (List Tree ⊕ List Tree)} {close : String}
    (hstep : Itemizes step close n) (hrounds : n + 1 ≤ g.rounds) {es : List Expr} (hne : es ≠ [])
    (hes : ∀ e ∈ es, Spellable e) (hlength : (Expr.listLexemes es).length ≤ n) {s : State}
    {rest : List Lexeme} (hat : At s (Expr.listLexemes es ++ .mark close :: rest)) :
    ∃ trees s', loop step g.rounds [] s = (trees.reverse, s') ∧ At s' (.mark close :: rest) ∧
      List.Forall₂ Means trees es := by
  obtain ⟨trees, s', hloop, hat', hall⟩ := loop_items hstep hne hes hlength hat []
  have hcount := length_le_listLexemes hes
  obtain ⟨m, hm⟩ : ∃ m, g.rounds = m + es.length + 1 := ⟨g.rounds - es.length - 1, by omega⟩
  refine ⟨trees, s', ?_, hat', hall⟩
  rw [hm, hloop, List.append_nil]

/-- Lists in brackets may be empty. -/
theorem loop_list_reads {step : List Tree → Rule (List Tree ⊕ List Tree)} {close : String}
    (hstep : Itemizes step close n) (hrounds : n + 1 ≤ g.rounds)
    (hclose : ∀ {s ls}, At s (.mark close :: ls) → step [] s = (.inr [], s)) {es : List Expr}
    (hes : ∀ e ∈ es, Spellable e) (hlength : (Expr.listLexemes es).length ≤ n) {s : State}
    {rest : List Lexeme} (hat : At s (Expr.listLexemes es ++ .mark close :: rest)) :
    ∃ trees s', loop step g.rounds [] s = (trees.reverse, s') ∧ At s' (.mark close :: rest) ∧
      List.Forall₂ Means trees es := by
  by_cases hempty : es = []
  · subst hempty
    obtain ⟨m, hm⟩ : ∃ m, g.rounds = m + 1 := ⟨g.rounds - 1, by omega⟩
    exact ⟨[], s, by rw [hm, loop_inr (hclose hat)]; rfl, hat, .nil⟩
  · exact loop_items_reads hstep hrounds hempty hes hlength hat

theorem arguments_reads (hassignment : ReadsUpTo n g.assignment 2) (hrounds : n + 1 ≤ g.rounds)
    {es : List Expr} (hes : ∀ e ∈ es, Spellable e) (hlength : (Expr.listLexemes es).length ≤ n)
    {s : State} {rest : List Lexeme}
    (hat : At s (.mark "(" :: (Expr.listLexemes es ++ .mark ")" :: rest))) :
    ∃ trees stop s', arguments g s = ((trees, stop), s') ∧ At s' rest ∧
      List.Forall₂ Means trees es := by
  obtain ⟨s₁, hopen, hat₁⟩ := hat.expectMark
  obtain ⟨trees, s₂, hloop, hat₂, hall⟩ := loop_list_reads (itemizes_argumentStep hassignment)
    hrounds (fun hat => by simp [argumentStep, hat.kind, Lexeme.kind]) hes hlength hat₁
  obtain ⟨s₃, hclose, hat₃⟩ := hat₂.expectMark
  refine ⟨trees, s₂.token.start + 1, s₃, ?_, hat₃, hall⟩
  simp [arguments, hopen, hloop, hclose]

theorem arrayLiteral_reads (hassignment : ReadsUpTo n g.assignment 2) (hrounds : n + 1 ≤ g.rounds)
    {es : List Expr} (hes : ∀ e ∈ es, Spellable e) (hlength : (Expr.listLexemes es).length ≤ n)
    {s : State} {rest : List Lexeme}
    (hat : At s (.mark "[" :: (Expr.listLexemes es ++ .mark "]" :: rest))) :
    ∃ tree s', arrayLiteral g s = (tree, s') ∧ At s' rest ∧ Means tree (.array es) := by
  obtain ⟨s₁, hopen, hat₁⟩ := hat.expectMark
  obtain ⟨trees, s₂, hloop, hat₂, hall⟩ := loop_list_reads (itemizes_arrayStep hassignment)
    hrounds (fun hat => arrayStep_close hat []) hes hlength hat₁
  obtain ⟨s₃, hclose, hat₃⟩ := hat₂.expectMark
  refine ⟨.array s.token.start (s₂.token.start + 1) trees, s₃, ?_, hat₃, .array hall _ _⟩
  simp [arrayLiteral, hopen, hloop, hclose]

/-! ## Parentheses -/

theorem Spellable.two_le_level {e : Expr} (he : Spellable e) (hne : e.level ≠ 1) :
    2 ≤ e.level := by
  have hbinary : ∀ op ∈ binaryOperators, 2 ≤ markLevel op := by decide
  cases he with
  | binary hop _ _ => exact hbinary _ hop
  | sequence _ _ => exact absurd rfl hne
  | _ => simp [Expr.level]

/-- Expressions that make up a comma chain, or the one expression that is none. -/
structure Members (es : List Expr) (e : Expr) : Prop where
  /-- There are some. -/
  ne_nil : es ≠ []
  /-- Each of them can be spelled. -/
  spellable : ∀ m ∈ es, Spellable m
  /-- The chain of them is the expression. -/
  chain : Expr.chain es = e
  /-- They are spelled as the items of a list. -/
  lexemes : Expr.listLexemes es = e.lexemes

theorem Members.single {e : Expr} (he : Spellable e) (hlevel : e.level ≠ 1) : Members [e] e where
  ne_nil := by simp
  spellable := by simpa using he
  chain := rfl
  lexemes := by rw [Expr.listLexemes_singleton, Expr.lexemesAt_of_le (he.two_le_level hlevel)]

theorem Members.cons {es : List Expr} {left right : Expr} (hleft : Spellable left)
    (h : Members es right) (hright : Spellable right) :
    Members (left :: es) (.sequence left right) where
  ne_nil := by simp
  spellable := List.forall_mem_cons.2 ⟨hleft, h.spellable⟩
  chain := by
    obtain ⟨e, es, rfl⟩ := List.exists_cons_of_ne_nil h.ne_nil
    rw [Expr.chain, h.chain]
    simp
  lexemes := by
    have hlevel : 1 ≤ right.level := by
      by_cases hone : right.level = 1
      · exact hone.ge
      · exact (hright.two_le_level hone).trans' (by decide)
    rw [Expr.listLexemes_cons left h.ne_nil, h.lexemes, Expr.lexemes_sequence,
      Expr.lexemesAt_of_le hlevel]

theorem Spellable.exists_members {e : Expr} (he : Spellable e) : ∃ es, Members es e := by
  induction he with
  | sequence hleft hright _ ih =>
      obtain ⟨es, hes⟩ := ih
      exact ⟨_, hes.cons hleft hright⟩
  | binary hop hleft hright =>
      have hne : ∀ op ∈ binaryOperators, markLevel op ≠ 1 := by decide
      exact ⟨_, .single (.binary hop hleft hright) (hne _ hop)⟩
  | increment hoperand hpath =>
      exact ⟨_, .single (.increment hoperand hpath) (by simp [Expr.level])⟩
  | _ => exact ⟨_, .single (by constructor <;> assumption) (by simp [Expr.level])⟩

theorem parenthesized_reads (hassignment : ReadsUpTo n g.assignment 2) (hrounds : n + 1 ≤ g.rounds)
    {e : Expr} (he : Spellable e) (hlength : e.lexemes.length ≤ n) {s : State} {rest : List Lexeme}
    (hat : At s (.mark "(" :: (e.lexemes ++ .mark ")" :: rest))) :
    ∃ tree s', parenthesized g s = (tree, s') ∧ At s' rest ∧ Means tree e := by
  obtain ⟨es, hes⟩ := he.exists_members
  rw [← hes.lexemes] at hat hlength
  obtain ⟨s₁, hopen, hat₁⟩ := hat.expectMark
  have hopens := listLexemes_opens hes.ne_nil hes.spellable (.mark ")" :: rest)
  obtain ⟨hempty, -⟩ := expression_opener _ (hat₁.kind_mem hopens)
  obtain ⟨trees, s₂, hloop, hat₂, hall⟩ := loop_items_reads
    (itemizes_parenthesizedStep hassignment) hrounds hes.ne_nil hes.spellable hlength hat₁
  obtain ⟨s₃, hclose, hat₃⟩ := hat₂.expectMark
  cases hall with
  | nil => exact absurd rfl hes.ne_nil
  | @cons tree m trees ms hmeans hall =>
    cases hall with
    | nil =>
      obtain rfl : m = e := hes.chain
      refine ⟨tree, s₃, ?_, hat₃, hmeans⟩
      simp [parenthesized, hopen, hempty, hloop, hclose, hat₃.noted]
    | @cons tree' m' trees ms hmeans' hall =>
      refine ⟨.sequence (tree :: tree' :: trees), s₃, ?_, hat₃,
        hes.chain ▸ .sequence (.cons hmeans (.cons hmeans' hall))⟩
      -- The loop gives the items backwards, and only two of them make a comma chain.
      rcases hreverse : (tree :: tree' :: trees).reverse with _ | ⟨a, _ | ⟨b, c⟩⟩
      · simp at hreverse
      · have hlength := congrArg List.length hreverse
        simp at hlength
      · rw [hreverse] at hloop
        rw [← List.reverse_reverse (tree :: tree' :: trees), hreverse]
        simp [parenthesized, hopen, hempty, hloop, hclose]

end Brackets

/-! ## Primary expressions -/

section Primary

variable {g : Grammar} {n : Nat} {s : State} {rest : List Lexeme}

theorem primary_string {value : String} (hat : At s (.string value :: rest)) :
    ∃ tree s', primary g s = (tree, s') ∧ At s' rest ∧ Means tree (.string value) := by
  obtain ⟨s', hadvance, hat'⟩ := hat.advance
  have hkind : s.token.kind = .string := hat.kind
  have hmeaning : s.token.meaning = value := hat.meaning
  refine ⟨.string s.token.start (s.token.start + Text.byteLength s.token.written.toList) value, s',
    ?_, hat', ⟨?_, False.elim⟩⟩
  · simp [primary, hkind, hmeaning, hadvance]
  · rw [Tree.toExpr]

theorem primary_number {literal : String} (hnumber : Decimal.isNumber literal = true)
    (hsign : literal.toList.head? ≠ some '-') (hat : At s (.number literal :: rest)) :
    ∃ tree s', primary g s = (tree, s') ∧ At s' rest ∧ Means tree (.number literal) := by
  obtain ⟨s', hadvance, hat'⟩ := hat.advance
  have hkind : s.token.kind = .number := hat.kind
  have hwritten : s.token.written = literal := hat.token.2.1.trans String.ofList_toList
  obtain ⟨whole, fraction, exponent, htext, hw, hf, he⟩ := exists_number_parts hnumber hsign
  obtain ⟨value, hvalue⟩ := Option.isSome_iff_exists.1 (number_value_isSome hw hf he)
  rw [← htext] at hvalue
  refine ⟨.number s.token.start literal value, s', ?_, hat', ⟨?_, False.elim⟩⟩
  · simp [primary, hkind, hwritten, hvalue, hadvance]
  · have hkept : numberText? literal value = some literal := if_pos hnumber
    rw [Tree.toExpr, hkept]

theorem primary_bool (value : Bool)
    (hat : At s (.word (if value then "true" else "false") :: rest)) :
    ∃ tree s', primary g s = (tree, s') ∧ At s' rest ∧ Means tree (.bool value) := by
  obtain ⟨s', hadvance, hat'⟩ := hat.advance
  have hkind : s.token.kind = .boolean := hat.kind.trans (by cases value <;> decide)
  have hmeaning : (s.token.meaning == "true") = value := by
    rw [hat.meaning]
    cases value <;> decide
  refine ⟨.bool s.token.start value, s', ?_, hat', ⟨?_, False.elim⟩⟩
  · simp only [primary, bind_apply, get_apply, hkind, hadvance, hmeaning, pure_apply]
  · rw [Tree.toExpr]

theorem primary_null (hat : At s (.word "null" :: rest)) :
    ∃ tree s', primary g s = (tree, s') ∧ At s' rest ∧ Means tree .null := by
  obtain ⟨s', hadvance, hat'⟩ := hat.advance
  have hkind : s.token.kind = .null := hat.kind
  refine ⟨.null s.token.start, s', ?_, hat', ⟨?_, False.elim⟩⟩
  · simp [primary, hkind, hadvance]
  · rw [Tree.toExpr]

theorem primary_identifier {name : String} (hplain : wordKind? name = none)
    (hat : At s (.word name :: rest)) :
    ∃ tree s', primary g s = (tree, s') ∧ At s' rest ∧ Means tree (.identifier name) := by
  obtain ⟨s', hadvance, hat'⟩ := hat.advance
  have hkind : s.token.kind = .identifier := hat.kind.trans (by rw [Lexeme.kind, hplain]; rfl)
  have hmeaning : s.token.meaning = name := hat.meaning
  refine ⟨.identifier s.token.start name, s', ?_, hat', ⟨?_, fun _ => rfl⟩⟩
  · simp [primary, hkind, Scope.bindsName, hadvance, hmeaning]
  · rw [Tree.toExpr]

/-- **Literals, names and brackets are read.** -/
theorem readsUpTo_primary (hassignment : ReadsUpTo n g.assignment 2) (hrounds : n + 1 ≤ g.rounds) :
    ReadsUpTo (n + 1) (primary g) 15 := by
  intro e he hlength s rest hat hstops
  by_cases hlevel : e.level < 15
  · rw [Expr.lexemesAt_of_lt hlevel, parenthesize] at hat hlength
    simp only [List.cons_append, List.append_assoc, List.nil_append, List.length_cons,
      List.length_append, List.length_nil] at hat hlength
    obtain ⟨tree, s', hreads, hat', hmeans⟩ :=
      parenthesized_reads hassignment hrounds he (by omega) hat
    refine ⟨tree, s', ?_, hat', hmeans⟩
    have hkind : s.token.kind = .mark "(" := hat.kind
    simp [primary, hkind, hreads]
  · rw [Expr.lexemesAt_of_le (Nat.not_lt.1 hlevel)] at hat hlength
    cases he with
    | string value => exact primary_string (by simpa [Expr.lexemes] using hat)
    | number hnumber hsign => exact primary_number hnumber hsign (by simpa [Expr.lexemes] using hat)
    | bool value =>
      rw [Expr.lexemes] at hat
      exact primary_bool value hat
    | null => exact primary_null (by simpa [Expr.lexemes] using hat)
    | identifier _ hplain => exact primary_identifier hplain (by simpa [Expr.lexemes] using hat)
    | array hes =>
      rw [Expr.lexemes_array] at hat hlength
      simp only [List.cons_append, List.append_assoc, List.nil_append, List.length_cons,
        List.length_append, List.length_nil] at hat hlength
      obtain ⟨tree, s', hreads, hat', hmeans⟩ :=
        arrayLiteral_reads hassignment hrounds hes (by omega) hat
      refine ⟨tree, s', ?_, hat', hmeans⟩
      have hkind : s.token.kind = .mark "[" := hat.kind
      simp [primary, hkind, hreads]
    | binary hop _ _ => exact absurd (Nat.lt_succ_of_lt (level_binary_lt _ hop)) hlevel
    | _ => exact absurd (by simp [Expr.level]) hlevel

end Primary

/-! ## Properties and calls -/

section Chain

variable {g : Grammar} {n : Nat} {s : State} {rest : List Lexeme}

theorem dotMember_reads {property : String} (hat : At s (.mark "." :: .word property :: rest))
    (base : Tree) :
    ∃ stop s', dotMember base s = (.dot base property stop, s') ∧ At s' rest := by
  obtain ⟨s₁, hadvance₁, hat₁⟩ := hat.advance
  obtain ⟨s₂, hadvance₂, hat₂⟩ := hat₁.advance
  have hname : s₁.token.kind.isPropertyName = true := hat₁.kind ▸ isPropertyName_word property
  have hmeaning : s₁.token.meaning = property := hat₁.meaning
  refine ⟨s₁.token.start + nameLength property, s₂, ?_, hat₂⟩
  simp only [dotMember, namedMember, bind_apply, get_apply, hadvance₁, hat₁.kind_ne_privateName,
    Bool.false_eq_true, if_false, hname, if_true, hadvance₂, hmeaning, pure_apply]

theorem chainStep_dot {property : String} (hat : At s (.mark "." :: .word property :: rest))
    (left : Tree) :
    ∃ stop s', chainStep g (.plain left) s = (.inl (.plain (.dot left property stop)), s') ∧
      At s' rest := by
  obtain ⟨stop, s', hdot, hat'⟩ := dotMember_reads hat left
  have hkind : s.token.kind = .mark "." := hat.kind
  refine ⟨stop, s', ?_, hat'⟩
  simp [chainStep, chainPart, hkind, Chain.left, Chain.to, hdot]

theorem chainStep_call (hassignment : ReadsUpTo n g.assignment 2) (hrounds : n + 1 ≤ g.rounds)
    {es : List Expr} (hes : ∀ e ∈ es, Spellable e) (hlength : (Expr.listLexemes es).length ≤ n)
    (hat : At s (.mark "(" :: (Expr.listLexemes es ++ .mark ")" :: rest))) (left : Tree) :
    ∃ trees stop s', chainStep g (.plain left) s = (.inl (.plain (.call left trees stop)), s') ∧
      At s' rest ∧ List.Forall₂ Means trees es := by
  obtain ⟨trees, stop, s', hargs, hat', hall⟩ :=
    arguments_reads hassignment hrounds hes hlength hat
  have hkind : s.token.kind = .mark "(" := hat.kind
  refine ⟨trees, stop, s', ?_, hat', hall⟩
  simp [chainStep, chainPart, hkind, callOf, Chain.left, Chain.to, hargs]

theorem chainStep_stop (hends : Ends 14 s.token.kind) (left : Tree) :
    chainStep g (.plain left) s = (.inr left, s) := by
  simp [chainStep, chainPart, Chain.toTree, hends.ne_mark "." (by decide),
    hends.ne_mark "[" (by decide), hends.ne_mark "(" (by decide),
    hends.ne_mark (String.singleton templateMark) (by decide), hends.ne_mark "?." (by decide)]

theorem Spellable.exists_chain {e : Expr} (he : Spellable e) (hlevel : e.level = 14) :
    (∃ base property, e = .member base property ∧ Spellable base) ∨
    ∃ field method args, e = .call field method args ∧ Spellable field ∧
      ∀ a ∈ args, Spellable a := by
  cases he with
  | member hbase _ => exact .inl ⟨_, _, rfl, hbase⟩
  | call hfield _ hargs => exact .inr ⟨_, _, _, rfl, hfield, hargs⟩
  | binary hop _ _ => exact absurd hlevel (Nat.ne_of_lt (level_binary_lt _ hop))
  | _ => simp [Expr.level] at hlevel

/-- The spine of a chain of properties and calls: reading the primary expression it starts with
leads to a place from which the loop comes to the whole chain. -/
theorem exists_chain_spine (hprimary : ReadsUpTo (n + 1) (primary g) 15)
    (hassignment : ReadsUpTo n g.assignment 2) (hrounds : n + 1 ≤ g.rounds) {e : Expr}
    (he : Spellable e) (hlength : (e.lexemesAt 14).length ≤ n + 1)
    (hat : At s (e.lexemesAt 14 ++ rest)) (hstops : Stops 15 rest) :
    ∃ first s₁ k tree s', primary g s = (first, s₁) ∧ At s' rest ∧ Means tree e ∧
      k < (e.lexemesAt 14).length ∧ LoopsTo (chainStep g) k (.plain first) s₁ (.plain tree) s' := by
  induction hlexemes : (e.lexemesAt 14).length using Nat.strong_induction_on
    generalizing e rest with
  | _ N ih =>
    by_cases hlevel : e.level = 14
    · rcases he.exists_chain hlevel with
        ⟨base, property, rfl, hbase⟩ | ⟨field, method, args, rfl, hfield, hargs⟩
      · rw [Expr.lexemesAt_of_le hlevel.ge, Expr.lexemes_member] at hat hlength hlexemes
        simp only [List.append_assoc, List.cons_append, List.nil_append, List.length_append,
          List.length_cons, List.length_nil] at hat hlength hlexemes
        obtain ⟨first, s₁, k, tree, s₂, hfirst, hat₂, hmeans, hk, hloop⟩ :=
          ih _ (by omega) hbase (by omega) hat (.mark (by decide)) rfl
        obtain ⟨stop, s₃, hstep, hat₃⟩ := chainStep_dot (g := g) hat₂ tree
        exact ⟨first, s₁, k + 1, _, s₃, hfirst, hat₃, hmeans.dot property stop, by omega,
          hloop.next hstep⟩
      · rw [Expr.lexemesAt_of_le hlevel.ge, Expr.lexemes_call] at hat hlength hlexemes
        simp only [List.append_assoc, List.cons_append, List.nil_append, List.length_append,
          List.length_cons, List.length_nil] at hat hlength hlexemes
        obtain ⟨first, s₁, k, tree, s₂, hfirst, hat₂, hmeans, hk, hloop⟩ :=
          ih _ (by omega) hfield (by omega) hat (.mark (by decide)) rfl
        obtain ⟨stop, s₃, hdot, hat₃⟩ := chainStep_dot (g := g) hat₂ tree
        obtain ⟨trees, stop', s₄, hcall, hat₄, hall⟩ :=
          chainStep_call hassignment hrounds hargs (by omega) hat₃ (.dot tree method stop)
        exact ⟨first, s₁, k + 2, _, s₄, hfirst, hat₄, hmeans.call hall method stop stop',
          by omega, (hloop.next hdot).next hcall⟩
    · rw [← Expr.lexemesAt_succ hlevel] at hat hlength hlexemes
      obtain ⟨tree, s', hreads, hat', hmeans⟩ := hprimary he hlength hat hstops
      refine ⟨tree, s', 0, tree, s', hreads, hat', hmeans, ?_, .refl _ _ _⟩
      obtain ⟨l, ls, hl, -⟩ := he.opened.lexemesAt 15
      rw [← hlexemes, hl]
      exact Nat.succ_pos _

/-- **Properties and calls are read from the left.** -/
theorem readsUpTo_chain (hassignment : ReadsUpTo n g.assignment 2) (hrounds : n + 2 ≤ g.rounds) :
    ReadsUpTo (n + 1) (chain g) 14 := by
  intro e he hlength
  refine Reads.withIn (r := do
    let first ← newOrPrimary g
    loop (chainStep g) g.rounds (.plain first)) ?_ true
  intro s rest hat hstops
  have hprimary := readsUpTo_primary hassignment (by omega : n + 1 ≤ g.rounds)
  obtain ⟨first, s₁, k, tree, s', hfirst, hat', hmeans, hk, hloop⟩ :=
    exists_chain_spine hprimary hassignment (by omega) he hlength hat (hstops.mono (by decide))
  refine ⟨tree, s', ?_, hat', hmeans⟩
  obtain ⟨l, ls, hl, -, hopens⟩ := he.opened.lexemesAt 14
  rw [hl] at hat
  obtain ⟨-, -, -, -, hnew⟩ := primary_opener _ (hopens (Nat.le_refl _))
  have hnewOrPrimary : newOrPrimary g s = (first, s₁) := by
    simp [newOrPrimary, hat.kind, hnew, hfirst]
  rw [bind_apply, hnewOrPrimary]
  exact hloop.stop (chainStep_stop (hat'.ends hstops) tree) (by omega)

end Chain

end DocQuery.Script
