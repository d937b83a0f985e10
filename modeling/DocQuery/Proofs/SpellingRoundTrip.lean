import DocQuery.Proofs.ReadingOperands

/-!
# DocQuery.Proofs.SpellingRoundTrip

**Parsing undoes spelling** (`parse_spelling`): the source text of an expression tree parses to the
program of that one expression.

The rules for assignments and for prefix operators are called from further down the grammar, where
brackets and further operators are read. One more call reads one more lexeme (`readsUpTo_succ`), so
that by induction on the depth of calls the grammar reads any expression that has no more lexemes
than calls may be nested (`readsUpTo_grammar`). A source has at least one character for each of its
lexemes, and the depth that is allowed grows with its length.
-/

namespace DocQuery.Script

open Rule

/-! ## Assignments -/

/-- The words that stand for names in some places open no expression that is spelled. -/
theorem wordToName_of_opener {s : State} (h : s.token.kind ∈ expressionOpeners) :
    wordToName s = ((), s) := by
  have hname : ∀ kind ∈ expressionOpeners,
      kind = .identifier ∨ ∀ scope : Scope, scope.bindsName kind = false := by
    intro kind hkind
    fin_cases hkind <;> simp [Scope.bindsName, Scope.isName, contextualKeywords]
  rcases hname _ h with hkind | hnot
  · have htoken : { s.token with kind := .identifier } = s.token := by rw [← hkind]
    simp [wordToName, hkind, Scope.bindsName, htoken]
  · simp [wordToName, hnot]

/-- Neither `yield` nor `async` opens an expression that is spelled. -/
theorem assignment_of_opener (g : Grammar) {s : State} (h : s.token.kind ∈ expressionOpeners) :
    ∃ opening, assignment g s = assignmentFrom g s opening s := by
  have hname := wordToName_of_opener h
  by_cases hparenthesis : s.token.kind = .mark "("
  · exact ⟨.parenthesis, by simp [assignment, hparenthesis]⟩
  · refine ⟨.plain, ?_⟩
    generalize hkind : s.token.kind = kind at h hparenthesis
    fin_cases h <;> first | exact absurd rfl hparenthesis | simp [assignment, hkind, hname]

theorem mem_of_markLevel_lt {text : String} (h : markLevel text < 2) :
    text ∈ [")", "]", ","] := by
  unfold markLevel at h
  split at h <;> first | decide | exact absurd h (by decide)

section Assignment

variable {g : Grammar} {earlier s s' : State} {opening : Opening} {left : Tree}

theorem assignmentFrom_stop (hleft : conditional g s = (left, s')) (hends : Ends 2 s'.token.kind) :
    assignmentFrom g earlier opening s = (left, s') := by
  generalize hkind : s'.token.kind = kind at hends
  cases hends with
  | source => simp [assignmentFrom, hleft, hkind]
  | @mark text h =>
      have hmem := mem_of_markLevel_lt h
      fin_cases hmem <;> simp [assignmentFrom, hleft, hkind, assignmentOperator]

theorem assignmentFrom_operator {op : String} {ls : List Lexeme} (hop : op ∈ assignOperators)
    (hleft : conditional g s = (left, s')) (hat : At s' (.mark op :: ls)) :
    assignmentFrom g earlier opening s = assignTo g opening op left s' := by
  have hkind : s'.token.kind = .mark op := hat.kind
  fin_cases hop <;> simp [assignmentFrom, hleft, hkind, assignmentOperator]

end Assignment

theorem Spellable.exists_assign {e : Expr} (he : Spellable e) (hlevel : e.level = 2) :
    ∃ op target value, e = .assign op target value ∧ op ∈ assignOperators ∧ Spellable target ∧
      target.IsFieldPath ∧ Spellable value := by
  cases he with
  | assign hop htarget hpath hvalue => exact ⟨_, _, _, rfl, hop, htarget, hpath, hvalue⟩
  | binary hop _ _ =>
      have hne : ∀ op ∈ binaryOperators, markLevel op ≠ 2 := by decide
      exact absurd hlevel (hne _ hop)
  | _ => simp [Expr.level] at hlevel

theorem lexemesAt_of_isFieldPath {e : Expr} (h : e.IsFieldPath) {p : Nat} (hp : p ≤ 14) :
    e.lexemesAt p = e.lexemes := by
  refine Expr.lexemesAt_of_le (hp.trans ?_)
  cases e with
  | identifier name => exact Nat.le_succ 14
  | member base property => exact Nat.le_refl 14
  | _ => exact h.elim

/-- **Assignments are read with their value.** -/
theorem readsUpTo_assignment {g : Grammar} {n : Nat} (hassignment : ReadsUpTo n g.assignment 2)
    (hconditional : ReadsUpTo (n + 1) (conditional g) 3) : ReadsUpTo (n + 1) (assignment g) 2 := by
  intro e he hlength s rest hat hstops
  obtain ⟨opening, hopening⟩ := assignment_of_opener g (hat.kind_mem (he.opens 2 rest))
  rw [hopening]
  by_cases hlevel : e.level = 2
  · obtain ⟨op, target, value, rfl, hop, htarget, hpath, hvalue⟩ := he.exists_assign hlevel
    have hlow : markLevel op = 2 := (by decide : ∀ op ∈ assignOperators, markLevel op = 2) op hop
    have hplace : target.lexemesAt 14 = target.lexemesAt 3 := by
      rw [lexemesAt_of_isFieldPath hpath (Nat.le_refl _),
        lexemesAt_of_isFieldPath hpath (by decide)]
    rw [Expr.lexemesAt_of_le hlevel.ge, Expr.lexemes_assign, hplace] at hat hlength
    simp only [List.append_assoc, List.cons_append, List.length_append, List.length_cons]
      at hat hlength
    obtain ⟨left, s₁, hleft, hat₁, hmeans⟩ :=
      hconditional htarget (by omega) hat (.mark (by omega))
    obtain ⟨s₂, hadvance, hat₂⟩ := hat₁.advance
    obtain ⟨right, s₃, hright, hat₃, hmeans'⟩ := hassignment hvalue (by omega) hat₂ hstops
    refine ⟨.assign op left right, s₃, ?_, hat₃, hmeans.assign hmeans'⟩
    rw [assignmentFrom_operator hop hleft hat₁]
    simp [assignTo, hadvance, hmeans.assignable hpath, hright]
  · rw [← Expr.lexemesAt_succ hlevel] at hat hlength
    obtain ⟨tree, s', hreads, hat', hmeans⟩ :=
      hconditional he hlength hat (hstops.mono (by decide))
    exact ⟨tree, s', assignmentFrom_stop hreads (hat'.ends hstops), hat', hmeans⟩

/-! ## The circle of rules -/

/-- **One more call reads one more lexeme.** -/
theorem readsUpTo_succ {g : Grammar} {n : Nat} (hrounds : n + 2 ≤ g.rounds)
    (hassignment : ReadsUpTo n g.assignment 2) (hunary : ReadsUpTo n g.unary 13) :
    ReadsUpTo (n + 1) (assignment g) 2 ∧ ReadsUpTo (n + 1) (unary g) 13 := by
  have hprefix : ReadsUpTo (n + 1) (unary g) 13 :=
    readsUpTo_unary hunary (readsUpTo_chain hassignment hrounds)
  have hshift := readsUpTo_shift hrounds hprefix
  have hrelational := readsUpTo_relational (by omega) hshift
  have hdisjunction := readsUpTo_disjunction hrounds (readsUpTo_conjunction hrounds hrelational)
  exact ⟨readsUpTo_assignment hassignment (readsUpTo_conditional hdisjunction), hprefix⟩

theorem rounds_grammar (rounds depth : Nat) : (grammar rounds depth).rounds = rounds := by
  cases depth <;> rfl

theorem readsUpTo_zero (r : Rule Tree) (p : Nat) : ReadsUpTo 0 r p := by
  intro e he hlength
  obtain ⟨l, ls, hl, -⟩ := he.opened.lexemesAt p
  rw [hl, List.length_cons] at hlength
  omega

/-- **Calls to the depth `n` read expressions of `n` lexemes.** -/
theorem readsUpTo_grammar {rounds depth n : Nat} (hdepth : n ≤ depth) (hrounds : n < rounds) :
    ReadsUpTo n (grammar rounds depth).assignment 2 ∧
      ReadsUpTo n (grammar rounds depth).unary 13 := by
  induction n generalizing depth with
  | zero => exact ⟨readsUpTo_zero _ _, readsUpTo_zero _ _⟩
  | succ n ih =>
      obtain ⟨depth, rfl⟩ : ∃ d, depth = d + 1 := ⟨depth - 1, by omega⟩
      obtain ⟨hassignment, hunary⟩ := ih (Nat.le_of_succ_le_succ hdepth) (by omega)
      exact readsUpTo_succ (by rw [rounds_grammar]; omega) hassignment hunary

/-! ## Whole sources -/

section Source

variable {g : Grammar} {n : Nat}

/-- The members of a comma chain after the first one, with the commas before them. -/
def commaLexemes : List Expr → List Lexeme
  | [] => []
  | es => .mark "," :: Expr.listLexemes es

theorem listLexemes_eq (e : Expr) (es : List Expr) :
    Expr.listLexemes (e :: es) = e.lexemesAt 2 ++ commaLexemes es := by
  cases es with
  | nil => rw [Expr.listLexemes_singleton, commaLexemes, List.append_nil]
  | cons e' es => rw [Expr.listLexemes_cons e (by simp), commaLexemes]; simp

theorem stops_commaLexemes (es : List Expr) : Stops 2 (commaLexemes es) := by
  cases es with
  | nil => trivial
  | cons e es => exact .mark (by decide)

/-- The run of the loop over the members of a comma chain that is a whole source. -/
theorem loop_expression (hassignment : ReadsUpTo n g.assignment 2) {es : List Expr}
    (hes : ∀ e ∈ es, Spellable e) (hlength : (commaLexemes es).length ≤ n) {s : State}
    (hat : At s (commaLexemes es)) (items : List Tree) :
    ∃ trees s', (∀ m, loop (expressionStep g) (m + es.length + 1) items s =
      (trees.reverse ++ items, s')) ∧ At s' [] ∧ List.Forall₂ Means trees es := by
  induction es generalizing s items with
  | nil =>
      have hkind : s.token.kind = .endOfInput := hat.token
      have hstep : expressionStep g items s = (.inr items, s) := by simp [expressionStep, hkind]
      exact ⟨[], s, fun m => loop_inr hstep m, hat, .nil⟩
  | cons e es ih =>
      obtain ⟨he, hes⟩ := List.forall_mem_cons.1 hes
      rw [commaLexemes, listLexemes_eq] at hat hlength
      · simp only [List.length_cons, List.length_append] at hlength
        obtain ⟨s₁, hadvance, hat₁⟩ := hat.advance
        obtain ⟨tree, s₂, hreads, hat₂, hmeans⟩ :=
          hassignment he (by omega) hat₁ (stops_commaLexemes es)
        have hkind : s.token.kind = .mark "," := hat.kind
        have hstep : expressionStep g items s = (.inl (tree :: items), s₂) := by
          simp [expressionStep, hkind, hadvance, hreads]
        obtain ⟨trees, s', hloop, hat', hall⟩ := ih hes (by omega) hat₂ (tree :: items)
        refine ⟨tree :: trees, s', fun m => ?_, hat', .cons hmeans hall⟩
        rw [List.length_cons, ← Nat.add_assoc, loop_inl hstep, hloop]
        simp
      · simp
      · simp

theorem expression_reads (hassignment : ReadsUpTo n g.assignment 2) (hrounds : n < g.rounds)
    {e : Expr} (he : Spellable e) (hlength : e.lexemes.length ≤ n) {s : State}
    (hat : At s e.lexemes) :
    ∃ tree s', expression g s = (tree, s') ∧ At s' [] ∧ Means tree e := by
  obtain ⟨es, hes⟩ := he.exists_members
  obtain ⟨m, ms, rfl⟩ := List.exists_cons_of_ne_nil hes.ne_nil
  obtain ⟨hm, hms⟩ := List.forall_mem_cons.1 hes.spellable
  have hcount := length_le_listLexemes hes.spellable
  rw [← hes.lexemes] at hat hlength
  rw [listLexemes_eq] at hat hlength hcount
  simp only [List.length_append, List.length_cons] at hlength hcount
  obtain ⟨first, s₁, hfirst, hat₁, hmeans⟩ :=
    hassignment hm (by omega) hat (stops_commaLexemes ms)
  obtain ⟨trees, s', hloop, hat', hall⟩ :=
    loop_expression hassignment hms (by omega) hat₁ [first]
  obtain ⟨k, hk⟩ : ∃ k, g.rounds = k + ms.length + 1 := ⟨g.rounds - ms.length - 1, by omega⟩
  have hitems : loop (expressionStep g) g.rounds [first] s₁ = ((first :: trees).reverse, s') := by
    rw [hk, hloop, List.reverse_cons]
  cases hall with
  | nil =>
      obtain rfl : m = e := hes.chain
      refine ⟨first, s', ?_, hat', hmeans⟩
      simp [expression, hfirst, hitems]
  | @cons tree m' trees ms' hmeans' hall =>
      refine ⟨.sequence (first :: tree :: trees), s', ?_, hat',
        hes.chain ▸ .sequence (.cons hmeans (.cons hmeans' hall))⟩
      simp [expression, hfirst, hitems]

theorem endOfExpression_reads {s : State} (hat : At s []) :
    ∃ s', endOfExpression s = ((), s') ∧ At s' [] := by
  have hkind : s.token.kind = .endOfInput := hat.token
  by_cases hline : s.afterLine = true
  · refine ⟨{ s with afterLine := false }, by simp [endOfExpression, hkind, hline], ?_⟩
    exact ⟨hat.noted, hat.known, hat.token, hat.rest⟩
  · exact ⟨s, by simp [endOfExpression, hkind, hline], hat⟩

theorem statement_of_opener {s : State} (h : s.token.kind ∈ expressionOpeners) :
    statement g s = expressionStatement g s := by
  simp only [statement, bind_apply, get_apply]
  generalize s.token.kind = kind at h
  fin_cases h <;> rfl

theorem Spellable.kind_mem {e : Expr} (he : Spellable e) {s : State} (hat : At s e.lexemes) :
    s.token.kind ∈ expressionOpeners := by
  obtain ⟨l, ls, hl, hopens, -⟩ := he.opened
  rw [hl] at hat
  exact hat.kind ▸ hopens

/-- A label needs a colon. -/
theorem expressionStatement_eq {s s' : State} {tree : Tree} (h : expression g s = (tree, s'))
    (hmark : s'.token.kind ≠ .mark ":") :
    expressionStatement g s = (.expression tree, (endOfExpression s').2) := by
  have hcolon : (s'.token.kind == .mark ":") = false := beq_eq_false_iff_ne.2 hmark
  simp only [expressionStatement, bind_apply, h, isMark_apply, hcolon, pure_apply]

/-- An expression with nothing after it is a statement of its own. -/
theorem statement_reads (hassignment : ReadsUpTo n g.assignment 2) (hrounds : n < g.rounds)
    {e : Expr} (he : Spellable e) (hlength : e.lexemes.length ≤ n) {s : State}
    (hat : At s e.lexemes) :
    ∃ tree s', statement g s = (.expression tree, s') ∧ At s' [] ∧ Means tree e := by
  obtain ⟨tree, s₁, hreads, hat₁, hmeans⟩ := expression_reads hassignment hrounds he hlength hat
  obtain ⟨s', hend, hat'⟩ := endOfExpression_reads hat₁
  have hmark : s₁.token.kind ≠ .mark ":" := by
    rw [show s₁.token.kind = .endOfInput from hat₁.token]
    decide
  refine ⟨tree, s', ?_, hat', hmeans⟩
  rw [statement_of_opener (he.kind_mem hat), expressionStatement_eq hreads hmark, hend]

/-- A script of one expression. -/
theorem script_reads {rounds depth : Nat} (hdepth : n ≤ depth) (hrounds : n + 1 < rounds)
    {e : Expr} (he : Spellable e) (hlength : e.lexemes.length ≤ n) {s : State}
    (hnoted : s.noted = none) (hrest : Precedes s.cursor.rest e.lexemes) :
    ∃ tree s', script (grammar rounds (depth + 1)) s = ([.expression tree], s') ∧
      s'.noted = none ∧ Means tree e := by
  obtain ⟨hassignment, -⟩ := readsUpTo_grammar hdepth (Nat.lt_of_succ_lt hrounds)
  obtain ⟨s₁, hadvance, hat₁⟩ := advance_of_precedes hnoted he.known hrest
  obtain ⟨-, -, -, -, hstart⟩ := expression_opener _ (he.kind_mem hat₁)
  obtain ⟨tree, s₂, hreads, hat₂, hmeans⟩ :=
    statement_reads hassignment (by rw [rounds_grammar]; omega) he hlength
      (hat₁.withScope { s₁.scope with allowLet := true })
  have hstatement : (grammar rounds (depth + 1)).statement
      { s₁ with scope := { s₁.scope with allowLet := true } } = (.expression tree, s₂) := hreads
  have hend : s₂.token.kind = .endOfInput := hat₂.token
  have hfirst : scriptStep (grammar rounds (depth + 1)) [] s₁ = (.inl [.expression tree], s₂) := by
    simp [scriptStep, allowLet, hstart, hstatement]
  have hsecond : scriptStep (grammar rounds (depth + 1)) [.expression tree] s₂ =
      (.inr [.expression tree], s₂) := by
    simp [scriptStep, hend]
  obtain ⟨m, rfl⟩ : ∃ m, rounds = m + 1 + 1 := ⟨rounds - 2, by omega⟩
  refine ⟨tree, s₂, ?_, hat₂.noted, hmeans⟩
  simp [script, hadvance, rounds_grammar, loop_inl hfirst, loop_inr hsecond]

end Source

theorem length_le_spaced (ls : List Lexeme) : ls.length ≤ (Lexeme.spaced ls).length := by
  induction ls with
  | nil => exact Nat.le_refl _
  | cons l ls ih =>
      simp only [Lexeme.spaced, List.length_cons, List.length_append]
      omega

theorem blank_spelling {e : Expr} (he : Spellable e) :
    ' ' :: e.spelling.toList = Lexeme.spaced e.lexemes := by
  obtain ⟨l, ls, hl, -⟩ := he.opened
  rw [Expr.spelling, String.toList_ofList, hl]
  rfl

/-- The source text of an expression is read as one statement, a tree that stands for it. -/
theorem read_spelling {e : Expr} (he : Spellable e) :
    ∃ tree, read e.spelling = .ok [.expression tree] ∧ Means tree e := by
  have hspelling := blank_spelling he
  have hlength : e.lexemes.length ≤ e.spelling.length + 1 := by
    have hspaced := length_le_spaced e.lexemes
    rwa [← hspelling, List.length_cons, String.length_toList] at hspaced
  obtain ⟨tree, s', hscript, hnoted, hmeans⟩ :=
    @script_reads _ (2 * e.spelling.length + 16) (2 * e.spelling.length + 15) (by omega) (by omega)
      e he hlength (.start e.spelling) rfl (.inr hspelling)
  refine ⟨tree, ?_, hmeans⟩
  simp only [read, StateT.run, hscript, hnoted]

/-- **Parsing undoes spelling.** The source text of an expression is accepted, and is parsed to the
program of that expression: the parentheses that operators and their grouping ask for are enough,
and names, numbers and strings come back as they were. -/
theorem parse_spelling {e : Expr} (he : Spellable e) :
    parse e.spelling = .ok (.ofExpression e) := by
  obtain ⟨tree, hread, hmeans⟩ := read_spelling he
  have hprogram : toProgram [.expression tree] = .ok [.statement e] := by
    rw [toProgram, hmeans.expr]
    rfl
  rw [parse, hread]
  simp only [hprogram]
  rfl

theorem nested_chain_reparsed :
    let difference : Expr := .binary "-" (.unary .negate (.sequence (.identifier "b") (.bool true)))
      (.binary "-" (.identifier "d") (.number "1.5e3"))
    let comparison : Expr := .binary "<" (.binary "<" (.identifier "x") .null)
      (.unary .delete (.member (.identifier "y") "if"))
    let e : Expr := .sequence (.assign "+=" (.member (.identifier "a") "async") difference)
      (.call (.string "q\"\n") "in" [.array [], comparison])
    e.spelling = "a . async += - ( b , true ) - ( d - 1.5e3 ) , " ++
        "\"q\\\"\\u000a\" . in ( [ ] , ( x < null ) < delete y . if )" ∧
      Spellable e ∧ parse e.spelling = .ok (.ofExpression e) := by
  intro difference comparison e
  have hdifference : Spellable difference :=
    .binary (by decide)
      (.unary (by decide) (.sequence (.identifier rfl rfl) (.bool true)))
      (.binary (by decide) (.identifier rfl rfl) (.number rfl (by decide)))
  have hcomparison : Spellable comparison :=
    .binary (by decide) (.binary (by decide) (.identifier rfl rfl) .null)
      (.unary (by decide) (.member (.identifier rfl rfl) rfl))
  have harray : Spellable (.array []) := .array (by simp)
  have hspellable : Spellable e :=
    .sequence (.assign (by decide) (.member (.identifier rfl rfl) rfl) trivial hdifference)
      (.call (.string _) rfl (by simp [harray, hcomparison]))
  exact ⟨rfl, hspellable, parse_spelling hspellable⟩

end DocQuery.Script
