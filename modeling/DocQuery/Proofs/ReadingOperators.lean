import DocQuery.Proofs.Reading

/-!
# DocQuery.Proofs.ReadingOperators

The rules for operators read what is spelled, each on the ground that the rule of the next level
does. From the loosest to the tightest: `readsUpTo_disjunction` and `readsUpTo_conditional` (3),
`readsUpTo_conjunction` (4 to 8), `readsUpTo_relational` (9), `readsUpTo_shift` (10 to 12),
`readsUpTo_power` and `readsUpTo_unary` (13).

All but comparisons and prefix operators are chains that group to the left (`exists_spine`). A
comparison groups to the right, and is read with its two operands alone: neither of them is spelled
as a comparison.
-/

namespace DocQuery.Script

open Rule

/-! ## Chains -/

theorem leftChain_apply (g : Grammar) (operators : List String) (operand : Rule Tree) (s : State) :
    leftChain g operators operand s =
      loop (leftStep operators operand) g.rounds (operand s).1 (operand s).2 := rfl

theorem extends_leftStep {operators : List String} {p : Nat}
    (hlevel : ∀ op ∈ operators, markLevel op = p) (operand : Rule Tree) :
    Extends (leftStep operators operand) operators operand p where
  operator hop hat hadvance hoperand := by
    simp [leftStep, hat.kind, Lexeme.kind, hop, hadvance, hoperand]
  stop {left s} hends := by
    generalize hkind : s.token.kind = kind at hends
    cases hends with
    | source => simp [leftStep, hkind]
    | @mark text h =>
        have hnot : text ∉ operators := fun hmem => absurd (hlevel text hmem) (Nat.ne_of_lt h)
        simp [leftStep, hkind, hnot]

/-- **Operators that group to the left are read by their level.** -/
theorem readsUpTo_leftChain {g : Grammar} {operators : List String} {operand : Rule Tree}
    {p n : Nat} (hlevel : IsLeftLevel operators p) (hlow : 2 < p) (hhigh : p < 13)
    (hrounds : n < g.rounds) (hoperand : ReadsUpTo n operand (p + 1)) :
    ReadsUpTo n (leftChain g operators operand) p := by
  intro e he hlength s rest hat hstops
  have hstep := extends_leftStep hlevel.1 operand
  obtain ⟨first, s₁, k, tree, s', hfirst, hat', hmeans, hk, hloop, -⟩ :=
    exists_spine hstep hlevel hlow hhigh hoperand he hlength hat (hstops.mono (Nat.le_succ p))
  refine ⟨tree, s', ?_, hat', hmeans⟩
  rw [leftChain_apply, hfirst]
  exact hloop.stop (hstep.stop (hat'.ends hstops)) (by omega)

/-! ## Disjunctions -/

theorem extends_orStep (g : Grammar) : Extends (orStep g) ["||"] (conjunction g) 3 where
  operator {op left right s s' s'' ls} hop hat hadvance hoperand := by
    obtain rfl := List.mem_singleton.1 hop
    simp [orStep, hat.kind, Lexeme.kind, hadvance, hoperand]
  stop hends := by
    simp [orStep, hends.ne_mark "||" (by decide), hends.ne_mark "??" (by decide)]

theorem coalesceStep_stop (g : Grammar) {left : Tree} {s : State} (hends : Ends 3 s.token.kind) :
    coalesceStep g left s = (.inr left, s) := by
  simp [coalesceStep, hends.ne_mark "||" (by decide), hends.ne_mark "??" (by decide)]

theorem disjunction_apply (g : Grammar) {s s' : State} {first : Tree}
    (h : conjunction g s = (first, s')) :
    disjunction g s =
      if s'.token.kind == .mark "||" || (!(s.token.kind == .mark "(") && first.isConjunction) then
        loop (orStep g) g.rounds first s'
      else loop (coalesceStep g) g.rounds first s' := by
  unfold disjunction
  simp only [bind_apply, isMark_apply, h]
  exact Rule.ite_apply _ _ _ _

theorem readsUpTo_disjunction {g : Grammar} {n : Nat} (hrounds : n < g.rounds)
    (hoperand : ReadsUpTo n (conjunction g) 4) : ReadsUpTo n (disjunction g) 3 := by
  intro e he hlength s rest hat hstops
  have hstep := extends_orStep g
  obtain ⟨first, s₁, k, tree, s', hfirst, hat', hmeans, hk, hloop, hhead⟩ :=
    exists_spine hstep (by decide) (by decide) (by decide) hoperand he hlength hat
      (hstops.mono (by decide))
  refine ⟨tree, s', ?_, hat', hmeans⟩
  have hends := hat'.ends hstops
  rw [disjunction_apply g hfirst]
  split
  · exact hloop.stop (hstep.stop hends) (by omega)
  · next hbranch =>
      -- Without a further operand the first one is all there is.
      rcases hhead with ⟨rfl, rfl⟩ | ⟨op, hop, hkind⟩
      · exact (LoopsTo.refl _ _ _).stop (coalesceStep_stop g hends) (by omega)
      · obtain rfl := List.mem_singleton.1 hop
        simp [hkind] at hbranch

/-- A choice needs a question mark. -/
theorem readsUpTo_conditional {g : Grammar} {n : Nat} (h : ReadsUpTo n (disjunction g) 3) :
    ReadsUpTo n (conditional g) 3 := by
  intro e he hlength s rest hat hstops
  obtain ⟨tree, s', hreads, hat', hmeans⟩ := h he hlength hat hstops
  refine ⟨tree, s', ?_, hat', hmeans⟩
  have hmark := (hat'.ends hstops).ne_mark "?" (by decide)
  simp [conditional, hreads, hmark]

/-! ## Comparisons -/

theorem relationalOperator_mark {op : String} (hop : op ∈ binaryOperators)
    (hlevel : markLevel op = 9) (allowIn : Bool) :
    relationalOperator allowIn (.mark op) = some op := by
  have hmem : ∀ op ∈ binaryOperators, markLevel op = 9 → op ∈ ["<", "<=", ">", ">="] := by decide
  rw [relationalOperator, if_pos (List.contains_iff_mem.2 (hmem op hop hlevel))]

theorem relationalOperator_of_ends {kind : TokenKind} (h : Ends 9 kind) (allowIn : Bool) :
    relationalOperator allowIn kind = none := by
  have hlevel : ∀ op ∈ ["<", "<=", ">", ">="], markLevel op = 9 := by decide
  cases h with
  | source => rfl
  | @mark text h =>
      have hnot : text ∉ ["<", "<=", ">", ">="] :=
        fun hmem => absurd (hlevel text hmem) (Nat.ne_of_lt h)
      rw [relationalOperator, if_neg (by rwa [List.contains_iff_mem])]

section Relational

variable {g : Grammar} {n : Nat} {e : Expr} {s : State} {rest : List Lexeme}

/-- A step of a comparison reads an operand, and the token after it says how to go on. -/
theorem relationalStep_apply (hoperand : ReadsUpTo n (shift g) 10) (outer : Bool)
    (pending : List (Tree × String)) (he : Spellable e) (hlength : (e.lexemesAt 10).length ≤ n)
    (hat : At s (e.lexemesAt 10 ++ rest)) (hstops : Stops 10 rest) :
    ∃ tree s', At s' rest ∧ Means tree e ∧ relationalStep g outer pending s =
      match relationalOperator (outer || !pending.isEmpty) s'.token.kind with
      | some op => (.inl ((tree, op) :: pending), (advance s').2)
      | none => (.inr (foldRight pending tree), s') := by
  have hshift : Reads (shift g) 10 e := hoperand he hlength
  cases pending with
  | nil =>
      obtain ⟨tree, s', hreads, hat', hmeans⟩ := hshift hat hstops
      refine ⟨tree, s', hat', hmeans, ?_⟩
      simp only [relationalStep, bind_apply, get_apply, hat.kind_ne_privateName, Bool.and_false,
        Bool.false_eq_true, if_false, List.isEmpty_nil, if_true, hreads, kind_apply]
      cases relationalOperator (outer || !true) s'.token.kind <;> rfl
  | cons p ps =>
      obtain ⟨tree, s', hreads, hat', hmeans⟩ := hshift.withIn true hat hstops
      refine ⟨tree, s', hat', hmeans, ?_⟩
      simp only [relationalStep, bind_apply, get_apply, hat.kind_ne_privateName, Bool.and_false,
        Bool.false_eq_true, if_false, List.isEmpty_cons, hreads, kind_apply]
      cases relationalOperator (outer || !false) s'.token.kind <;> rfl

theorem relationalStep_operator (hoperand : ReadsUpTo n (shift g) 10) (outer : Bool)
    (pending : List (Tree × String)) (he : Spellable e) (hlength : (e.lexemesAt 10).length ≤ n)
    {op : String} (hop : op ∈ binaryOperators) (hlevel : markLevel op = 9)
    (hat : At s (e.lexemesAt 10 ++ .mark op :: rest)) :
    ∃ tree s', relationalStep g outer pending s = (.inl ((tree, op) :: pending), s') ∧
      At s' rest ∧ Means tree e := by
  obtain ⟨tree, s', hat', hmeans, hstep⟩ :=
    relationalStep_apply hoperand outer pending he hlength hat (.mark (by omega))
  obtain ⟨s'', hadvance, hat''⟩ := hat'.advance
  refine ⟨tree, s'', ?_, hat'', hmeans⟩
  rw [hstep, hat'.kind, Lexeme.kind, relationalOperator_mark hop hlevel, hadvance]

theorem relationalStep_stop (hoperand : ReadsUpTo n (shift g) 10) (outer : Bool)
    (pending : List (Tree × String)) (he : Spellable e) (hlength : (e.lexemesAt 10).length ≤ n)
    (hat : At s (e.lexemesAt 10 ++ rest)) (hstops : Stops 9 rest) :
    ∃ tree s', relationalStep g outer pending s = (.inr (foldRight pending tree), s') ∧
      At s' rest ∧ Means tree e := by
  obtain ⟨tree, s', hat', hmeans, hstep⟩ :=
    relationalStep_apply hoperand outer pending he hlength hat (hstops.mono (by decide))
  refine ⟨tree, s', ?_, hat', hmeans⟩
  rw [hstep, relationalOperator_of_ends (hat'.ends hstops)]

end Relational

/-- **Comparisons are read with their two operands.** -/
theorem readsUpTo_relational {g : Grammar} {n : Nat} (hrounds : 1 < g.rounds)
    (hoperand : ReadsUpTo n (shift g) 10) : ReadsUpTo n (relational g) 9 := by
  intro e he hlength s rest hat hstops
  obtain ⟨m, hm⟩ : ∃ m, g.rounds = m + 1 + 1 := ⟨g.rounds - 2, by omega⟩
  have hloop : relational g s = loop (relationalStep g s.scope.allowIn) (m + 1 + 1) [] s := hm ▸ rfl
  by_cases hlevel : e.level = 9
  · obtain ⟨op, left, right, rfl, hop, hleft, hright⟩ := he.exists_binary (by omega) (by omega)
    have hmark : markLevel op = 9 := hlevel
    have hspelled : (Expr.binary op left right).lexemesAt 9 =
        left.lexemesAt 10 ++ .mark op :: right.lexemesAt 10 := by
      rw [Expr.lexemesAt_of_le hlevel.ge, Expr.lexemes_binary, leftLevel, hmark]
      rfl
    rw [hspelled] at hat hlength
    simp only [List.append_assoc, List.cons_append, List.length_append, List.length_cons]
      at hat hlength
    obtain ⟨leftTree, s₁, hstep₁, hat₁, hmeans₁⟩ :=
      relationalStep_operator hoperand s.scope.allowIn [] hleft (by omega) hop hmark hat
    obtain ⟨rightTree, s₂, hstep₂, hat₂, hmeans₂⟩ :=
      relationalStep_stop hoperand s.scope.allowIn [(leftTree, op)] hright (by omega) hat₁ hstops
    refine ⟨_, s₂, ?_, hat₂, hmeans₁.binary hmeans₂⟩
    rw [hloop, loop_inl hstep₁, loop_inr hstep₂]
    rfl
  · rw [← Expr.lexemesAt_succ hlevel] at hat hlength
    obtain ⟨tree, s', hstep, hat', hmeans⟩ :=
      relationalStep_stop hoperand s.scope.allowIn [] he hlength hat hstops
    refine ⟨tree, s', ?_, hat', hmeans⟩
    rw [hloop, loop_inr hstep]
    rfl

/-! ## Powers -/

/-- There are no powers in a spelling. -/
theorem readsUpTo_power {g : Grammar} {n : Nat} (hrounds : 0 < g.rounds)
    (h : ReadsUpTo n (unary g) 13) : ReadsUpTo n (power g) 13 := by
  intro e he hlength s rest hat hstops
  obtain ⟨tree, s', hreads, hat', hmeans⟩ := h he hlength hat hstops
  refine ⟨tree, s', ?_, hat', hmeans⟩
  obtain ⟨m, hm⟩ : ∃ m, g.rounds = m + 1 := ⟨g.rounds - 1, by omega⟩
  have hmark := (hat'.ends hstops).ne_mark "**" (by decide)
  have hstep : powerStep g [] s = (.inr tree, s') := by
    simp [powerStep, hreads, hmark, foldRight]
  rw [power, hm, loop_inr hstep]

theorem readsUpTo_shift {g : Grammar} {n : Nat} (hrounds : n < g.rounds)
    (h : ReadsUpTo n (unary g) 13) : ReadsUpTo n (shift g) 10 := by
  have hpower := readsUpTo_power (Nat.zero_lt_of_lt hrounds) h
  have hproduct : ReadsUpTo n (leftChain g ["*", "/", "%"] (power g)) 12 :=
    readsUpTo_leftChain (by decide) (by decide) (by decide) hrounds hpower
  have hsum : ReadsUpTo n (leftChain g ["+", "-"] _) 11 :=
    readsUpTo_leftChain (by decide) (by decide) (by decide) hrounds hproduct
  show ReadsUpTo n (leftChain g ["<<", ">>", ">>>"] _) 10
  exact readsUpTo_leftChain (by decide) (by decide) (by decide) hrounds hsum

theorem readsUpTo_conjunction {g : Grammar} {n : Nat} (hrounds : n < g.rounds)
    (h : ReadsUpTo n (relational g) 9) : ReadsUpTo n (conjunction g) 4 := by
  have hequality : ReadsUpTo n (leftChain g ["==", "!=", "===", "!=="] (relational g)) 8 :=
    readsUpTo_leftChain (by decide) (by decide) (by decide) hrounds h
  have hand : ReadsUpTo n (leftChain g ["&"] _) 7 :=
    readsUpTo_leftChain (by decide) (by decide) (by decide) hrounds hequality
  have hxor : ReadsUpTo n (leftChain g ["^"] _) 6 :=
    readsUpTo_leftChain (by decide) (by decide) (by decide) hrounds hand
  have hor : ReadsUpTo n (leftChain g ["|"] _) 5 :=
    readsUpTo_leftChain (by decide) (by decide) (by decide) hrounds hxor
  show ReadsUpTo n (leftChain g ["&&"] _) 4
  exact readsUpTo_leftChain (by decide) (by decide) (by decide) hrounds hor

/-! ## Prefix operators -/

theorem Spellable.exists_unary {e : Expr} (he : Spellable e) (hlevel : e.level = 13) :
    ∃ op operand, e = .unary op operand ∧ Spellable operand ∧
      (op ∈ [UnaryOp.negate, .not, .delete] ∨ op = .increment ∧ operand.IsFieldPath) := by
  cases he with
  | unary hop hoperand => exact ⟨_, _, rfl, hoperand, .inl hop⟩
  | increment hoperand hpath => exact ⟨_, _, rfl, hoperand, .inr ⟨rfl, hpath⟩⟩
  | binary hop _ _ =>
      have hne : ∀ op ∈ binaryOperators, markLevel op ≠ 13 := by decide
      exact absurd hlevel (hne _ hop)
  | _ => simp [Expr.level] at hlevel

theorem unaryOperator_spelled : ∀ op ∈ [UnaryOp.negate, .not, .delete],
    (operatorLexeme op).kind ∈ unaryOperators ∧ (operatorLexeme op).kind.text = op.token ∧
      UnaryOp.ofToken? op.token = some op := by decide

theorem primary_opener : ∀ kind ∈ primaryOpeners, kind ∉ unaryOperators ∧ kind ≠ .word "await" ∧
    kind ≠ .mark "++" ∧ kind ≠ .mark "--" ∧ kind ≠ .word "new" := by decide

section Unary

variable {g : Grammar} {n : Nat} {e : Expr} {s : State} {rest : List Lexeme}

theorem unary_operator (hunary : ReadsUpTo n g.unary 13) {op : UnaryOp}
    (hop : op ∈ [UnaryOp.negate, .not, .delete]) (he : Spellable e)
    (hlength : (e.lexemesAt 13).length ≤ n)
    (hat : At s (operatorLexeme op :: (e.lexemesAt 13 ++ rest))) (hstops : Stops 13 rest) :
    ∃ tree s', unary g s = (tree, s') ∧ At s' rest ∧ Means tree (.unary op e) := by
  obtain ⟨hmem, htext, htoken⟩ := unaryOperator_spelled op hop
  obtain ⟨s₁, hadvance, hat₁⟩ := hat.advance
  obtain ⟨tree, s₂, hreads, hat₂, hmeans⟩ := hunary he hlength hat₁ hstops
  refine ⟨.unary s.token.start op.token tree, s₂, ?_, hat₂, hmeans.unary htoken _⟩
  simp [unary, hat.kind, hmem, htext, hadvance, hreads]

theorem unary_increment (hunary : ReadsUpTo n g.unary 13) (he : Spellable e)
    (hpath : e.IsFieldPath) (hlength : (e.lexemesAt 13).length ≤ n)
    (hat : At s (.mark "++" :: (e.lexemesAt 13 ++ rest))) (hstops : Stops 13 rest) :
    ∃ tree s', unary g s = (tree, s') ∧ At s' rest ∧ Means tree (.unary .increment e) := by
  obtain ⟨s₁, hadvance, hat₁⟩ := hat.advance
  obtain ⟨tree, s₂, hreads, hat₂, hmeans⟩ := hunary he hlength hat₁ hstops
  refine ⟨.unary s.token.start UnaryOp.increment.token tree, s₂, ?_, hat₂, hmeans.unary rfl _⟩
  simp [unary, UnaryOp.token, update, hat.kind, Lexeme.kind, unaryOperators, TokenKind.text,
    hadvance, hreads, hmeans.assignable hpath]

/-- Where no prefix operator stands, a chain of properties and calls is read. -/
theorem unary_chain (hchain : Reads (chain g) 14 e) (he : Spellable e)
    (hat : At s (e.lexemesAt 14 ++ rest)) (hstops : Stops 13 rest) :
    ∃ tree s', unary g s = (tree, s') ∧ At s' rest ∧ Means tree e := by
  obtain ⟨tree, s', hreads, hat', hmeans⟩ := hchain hat (hstops.mono (by decide))
  refine ⟨tree, s', ?_, hat', hmeans⟩
  obtain ⟨l, ls, hl, -, hprimary⟩ := he.opened.lexemesAt 14
  rw [hl] at hat
  obtain ⟨hmem, hawait, hincrement, hdecrement, -⟩ := primary_opener _ (hprimary (Nat.le_refl _))
  have hends := hat'.ends hstops
  simp [unary, update, hat.kind, hmem, hawait, hincrement, hdecrement, hreads,
    hends.ne_mark "++" (by decide), hends.ne_mark "--" (by decide)]

end Unary

/-- **Prefix operators are read with their operands.** -/
theorem readsUpTo_unary {g : Grammar} {n : Nat} (hunary : ReadsUpTo n g.unary 13)
    (hchain : ReadsUpTo (n + 1) (chain g) 14) : ReadsUpTo (n + 1) (unary g) 13 := by
  intro e he hlength s rest hat hstops
  by_cases hlevel : e.level = 13
  · obtain ⟨op, operand, rfl, hoperand, hop⟩ := he.exists_unary hlevel
    rw [Expr.lexemesAt_of_le hlevel.ge, Expr.lexemes_unary] at hat hlength
    simp only [List.length_cons, Nat.add_le_add_iff_right] at hlength
    rcases hop with hop | ⟨rfl, hpath⟩
    · exact unary_operator hunary hop hoperand hlength hat hstops
    · exact unary_increment hunary hoperand hpath hlength hat hstops
  · rw [← Expr.lexemesAt_succ hlevel] at hat hlength
    exact unary_chain (hchain he hlength) he hat hstops

end DocQuery.Script
