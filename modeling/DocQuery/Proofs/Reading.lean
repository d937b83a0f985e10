import DocQuery.Proofs.Scanning

/-!
# DocQuery.Proofs.Reading

What it is for a rule of the grammar to read a spelled expression, and the argument by which the
rules for operators do.

Main statements:

* `advance_of_precedes`: advancing in front of lexemes that are spelled out leads to the first one;
* `exists_spine`: a loop whose step takes one operator and one operand builds a chain of operators
  from its first operand up.

Design points:

* `At s ls` says all that a rule is told of a source: which lexemes are left to read, and that
  nothing has been complained of;
* a rule that reads an expression of level `p` has to know that the expression is over: what follows
  binds looser (`Stops`). Lexemes of a lower level can then follow a rule of a higher one, never the
  other way round;
* rules call each other in circles and loops are cut off after a number of rounds, so that what a
  rule reads is bounded by the number of lexemes (`ReadsUpTo`).
-/

namespace DocQuery.Script

open Rule

/-! ## Running rules -/

namespace Rule

variable {α β σ : Type}

@[simp] theorem bind_apply (r : Rule α) (f : α → Rule β) (s : State) :
    (r >>= f) s = f (r s).1 (r s).2 := (rfl)

@[simp] theorem map_apply (f : α → β) (r : Rule α) (s : State) :
    (f <$> r) s = (f (r s).1, (r s).2) := (rfl)

@[simp] theorem pure_apply (a : α) (s : State) : (pure a : Rule α) s = (a, s) := (rfl)

@[simp] theorem get_apply (s : State) : (get : Rule State) s = (s, s) := (rfl)

@[simp] theorem modify_apply (f : State → State) (s : State) :
    (modify f : Rule PUnit) s = (⟨⟩, f s) := (rfl)

@[simp] theorem kind_apply (s : State) : kind s = (s.token.kind, s) := (rfl)

@[simp] theorem here_apply (s : State) : here s = (s.token.start, s) := (rfl)

@[simp] theorem isMark_apply (text : String) (s : State) :
    isMark text s = (s.token.kind == .mark text, s) := (rfl)

@[simp] theorem isWord_apply (text : String) (s : State) :
    isWord text s = (s.token.kind == .word text, s) := (rfl)

@[simp] theorem atEnd_apply (s : State) : atEnd s = (s.token.kind == .endOfInput, s) := (rfl)

theorem ite_apply (c : Prop) [Decidable c] (r r' : Rule α) (s : State) :
    (if c then r else r') s = if c then r s else r' s := by
  split <;> rfl

theorem loop_inl [Inhabited β] {step : σ → Rule (σ ⊕ β)} {x y : σ} {s s' : State}
    (h : step x s = (.inl y, s')) (n : Nat) : loop step (n + 1) x s = loop step n y s' := by
  rw [loop, bind_apply, h]

theorem loop_inr [Inhabited β] {step : σ → Rule (σ ⊕ β)} {x : σ} {b : β} {s s' : State}
    (h : step x s = (.inr b, s')) (n : Nat) : loop step (n + 1) x s = (b, s') := by
  rw [loop, bind_apply, h]
  rfl

/-- A loop comes from one round to another one in `k` steps. -/
def LoopsTo [Inhabited β] (step : σ → Rule (σ ⊕ β)) (k : Nat) (x : σ) (s : State) (y : σ)
    (s' : State) : Prop :=
  ∀ n, loop step (n + k) x s = loop step n y s'

section LoopsTo

variable [Inhabited β] {step : σ → Rule (σ ⊕ β)} {k : Nat} {x y : σ} {s s' s'' : State}

theorem LoopsTo.refl (step : σ → Rule (σ ⊕ β)) (x : σ) (s : State) : LoopsTo step 0 x s x s :=
  fun _ => rfl

theorem LoopsTo.next {z : σ} (h : LoopsTo step k x s y s') (hstep : step y s' = (.inl z, s'')) :
    LoopsTo step (k + 1) x s z s'' := by
  intro n
  rw [Nat.add_comm k 1, ← Nat.add_assoc, h, loop_inl hstep]

theorem LoopsTo.stop {b : β} (h : LoopsTo step k x s y s') (hstep : step y s' = (.inr b, s''))
    {n : Nat} (hk : k < n) : loop step n x s = (b, s'') := by
  obtain ⟨m, rfl⟩ : ∃ m, n = m + 1 + k := ⟨n - 1 - k, by omega⟩
  rw [h, loop_inr hstep]

end LoopsTo

end Rule

/-! ## Places in a source -/

/-- A token that is the first of the given lexemes. -/
def Token.IsFirst (t : Token) : List Lexeme → Prop
  | [] => t.kind = .endOfInput
  | l :: _ => t.kind = l.kind ∧ t.written = String.ofList l.text ∧ t.meaning = l.meaning

/-- The given lexemes are still to be read, and there is no complaint so far. -/
structure At (s : State) (ls : List Lexeme) : Prop where
  /-- There is no complaint. -/
  noted : s.noted = none
  /-- The lexer knows the lexemes. -/
  known : ∀ l ∈ ls, l.Known
  /-- The current token is the first one. -/
  token : s.token.IsFirst ls
  /-- The others follow. -/
  rest : Precedes s.cursor.rest ls.tail

theorem advance_of_precedes {s : State} {ls : List Lexeme} (hnoted : s.noted = none)
    (hknown : ∀ l ∈ ls, l.Known) (hrest : Precedes s.cursor.rest ls) :
    ∃ s', advance s = ((), s') ∧ At s' ls := by
  refine ⟨_, rfl, ?_⟩
  cases ls with
  | nil =>
      obtain ⟨hkind, hcursor, hfault⟩ := scan_end s.scope.isName hrest
      exact ⟨by simp [hnoted, hfault], hknown, hkind, .inl hcursor⟩
  | cons l ls =>
      obtain ⟨hl, hls⟩ := List.forall_mem_cons.1 hknown
      have hscans := scan_scans s.scope.isName hl hls hrest
      exact ⟨by simp [hnoted, hscans.fault], hknown, ⟨hscans.kind, hscans.written, hscans.meaning⟩,
        hscans.rest⟩

namespace At

variable {s : State} {l : Lexeme} {ls : List Lexeme}

theorem advance (h : At s (l :: ls)) : ∃ s', Rule.advance s = ((), s') ∧ At s' ls :=
  advance_of_precedes h.noted (fun m hm => h.known m (List.mem_cons_of_mem _ hm)) h.rest

theorem kind (h : At s (l :: ls)) : s.token.kind = l.kind := h.token.1

theorem meaning (h : At s (l :: ls)) : s.token.meaning = l.meaning := h.token.2.2

/-- The scope does not matter. -/
theorem withScope (h : At s ls) (scope : Scope) : At { s with scope } ls :=
  ⟨h.noted, h.known, h.token, h.rest⟩

theorem expectMark {text : String} (h : At s (.mark text :: ls)) :
    ∃ s', Rule.expectMark text s = (s.token.start, s') ∧ At s' ls := by
  obtain ⟨s', hadvance, hat⟩ := h.advance
  have hkind : s.token.kind = .mark text := h.kind
  exact ⟨s', by simp [Rule.expectMark, expect, hkind, hadvance], hat⟩

end At

theorem isPropertyName_word (text : String) : (Lexeme.word text).kind.isPropertyName = true := by
  show ((wordKind? text).getD .identifier).isPropertyName = true
  unfold wordKind?
  split_ifs <;> rfl

theorem At.kind_ne_privateName {s : State} {ls : List Lexeme} (h : At s ls) :
    (s.token.kind == .privateName) = false := by
  rw [beq_eq_false_iff_ne]
  intro hkind
  cases ls with
  | nil => cases hkind.symm.trans h.token
  | cons l ls =>
      have hl : l.kind = .privateName := h.kind.symm.trans hkind
      cases l with
      | word text => exact absurd (isPropertyName_word text) (by rw [hl]; decide)
      | _ => cases hl

/-! ## Where an expression ends -/

/-- A token that ends an expression of level `p`: the end of the source, or a mark that binds
looser. -/
inductive Ends (p : Nat) : TokenKind → Prop where
  /-- The end of the source. -/
  | source : Ends p .endOfInput
  /-- A mark. -/
  | mark {text : String} (h : markLevel text < p) : Ends p (.mark text)

/-- Lexemes that do not go on with an expression of level `p`. -/
def Stops (p : Nat) : List Lexeme → Prop
  | [] => True
  | l :: _ => Ends p l.kind

theorem Ends.mono {p q : Nat} {kind : TokenKind} (h : Ends p kind) (hpq : p ≤ q) : Ends q kind := by
  cases h with
  | source => exact .source
  | mark h => exact .mark (h.trans_le hpq)

theorem Ends.ne_mark {p : Nat} {kind : TokenKind} (h : Ends p kind) (text : String)
    (htext : p ≤ markLevel text) : kind ≠ .mark text := by
  cases h with
  | source => exact fun heq => by cases heq
  | mark h =>
      intro heq
      obtain rfl := TokenKind.mark.inj heq
      exact absurd htext (Nat.not_le.2 h)

theorem Stops.mono {p q : Nat} {ls : List Lexeme} (h : Stops p ls) (hpq : p ≤ q) : Stops q ls := by
  cases ls with
  | nil => trivial
  | cons l ls => exact Ends.mono h hpq

theorem At.ends {s : State} {ls : List Lexeme} (h : At s ls) {p : Nat} (hstops : Stops p ls) :
    Ends p s.token.kind := by
  cases ls with
  | nil => exact h.token ▸ .source
  | cons l ls => exact h.kind ▸ hstops

/-! ## Reading expressions -/

/-- A tree that stands for an expression, and can be assigned to when the expression is a field. -/
structure Means (tree : Tree) (e : Expr) : Prop where
  /-- It is converted to the expression. -/
  expr : tree.toExpr = .ok e
  /-- A field can be assigned to. -/
  assignable : e.IsFieldPath → tree.isAssignable = true

namespace Means

attribute [local simp] Tree.toExpr Script.argsToExprs Script.itemsToExprs

theorem binary {op : String} {left right : Tree} {l r : Expr} (hleft : Means left l)
    (hright : Means right r) : Means (.binary op left right) (.binary op l r) where
  expr := by rw [Tree.toExpr, hleft.expr, hright.expr]; rfl
  assignable := False.elim

theorem unary {op : UnaryOp} {operand : Tree} {e : Expr} (hop : UnaryOp.ofToken? op.token = some op)
    (h : Means operand e) (start : Nat) : Means (.unary start op.token operand) (.unary op e) where
  expr := by rw [Tree.toExpr, hop, h.expr]; rfl
  assignable := False.elim

theorem dot {base : Tree} {e : Expr} (h : Means base e) (property : String) (stop : Nat) :
    Means (.dot base property stop) (.member e property) where
  expr := by rw [Tree.toExpr, h.expr]; rfl
  assignable _ := rfl

theorem assign {op : String} {target value : Tree} {t v : Expr} (htarget : Means target t)
    (hvalue : Means value v) : Means (.assign op target value) (.assign op t v) where
  expr := by rw [Tree.toExpr, htarget.expr, hvalue.expr]; rfl
  assignable := False.elim

theorem argsToExprs {trees : List Tree} {es : List Expr} (h : List.Forall₂ Means trees es) :
    argsToExprs trees = .ok es := by
  induction h with
  | nil => simp
  | cons h _ ih => rw [Script.argsToExprs, h.expr, ih]; rfl

theorem itemsToExprs {trees : List Tree} {es : List Expr} (h : List.Forall₂ Means trees es)
    (start : Nat) : itemsToExprs start trees = .ok es := by
  induction h with
  | nil => simp
  | @cons tree e _ _ h _ ih =>
      rw [Script.itemsToExprs, h.expr, ih]
      · rfl
      · rintro rfl
        have := h.expr
        simp at this

theorem array {items : List Tree} {es : List Expr} (h : List.Forall₂ Means items es)
    (start stop : Nat) : Means (.array start stop items) (.array es) where
  expr := by rw [Tree.toExpr, itemsToExprs h]; rfl
  assignable := False.elim

theorem call {field : Tree} {e : Expr} {args : List Tree} {es : List Expr} (hfield : Means field e)
    (hargs : List.Forall₂ Means args es) (method : String) (stop stop' : Nat) :
    Means (.call (.dot field method stop) args stop') (.call e method es) where
  expr := by rw [Tree.toExpr, hfield.expr, argsToExprs hargs]; rfl
  assignable := False.elim

theorem sequence {items : List Tree} {e e' : Expr} {es : List Expr}
    (h : List.Forall₂ Means items (e :: e' :: es)) :
    Means (.sequence items) (Expr.chain (e :: e' :: es)) where
  expr := by
    have hargs := argsToExprs h
    cases h with
    | cons _ _ =>
        rw [Tree.toExpr, hargs]
        · rfl
        · simp
  assignable := False.elim

end Means

/-- A rule reads an expression where level `p` is asked for. -/
def Reads (r : Rule Tree) (p : Nat) (e : Expr) : Prop :=
  ∀ ⦃s : State⦄ ⦃rest : List Lexeme⦄, At s (e.lexemesAt p ++ rest) → Stops p rest →
    ∃ tree s', r s = (tree, s') ∧ At s' rest ∧ Means tree e

/-- A rule reads every expression of at most `n` lexemes where level `p` is asked for. -/
def ReadsUpTo (n : Nat) (r : Rule Tree) (p : Nat) : Prop :=
  ∀ ⦃e : Expr⦄, Spellable e → (e.lexemesAt p).length ≤ n → Reads r p e

theorem withIn_eq {α : Type} {allowed : Bool} {r : Rule α} {s s' : State} {a : α}
    (h : r { s with scope := { s.scope with allowIn := allowed } } = (a, s')) :
    withIn allowed r s =
      (a, { s' with scope := { s'.scope with allowIn := s.scope.allowIn } }) := by
  simp only [withIn, within, bind_apply, get_apply, modify_apply, pure_apply, h]

theorem Reads.withIn {r : Rule Tree} {p : Nat} {e : Expr} (h : Reads r p e) (allowed : Bool) :
    Reads (withIn allowed r) p e := by
  intro s rest hat hstops
  obtain ⟨tree, s', hreads, hat', hmeans⟩ :=
    h (hat.withScope { s.scope with allowIn := allowed }) hstops
  exact ⟨tree, _, withIn_eq hreads, hat'.withScope _, hmeans⟩

/-! ## Operators that group to the left -/

/-- A step that extends a chain of operators by one operand, or stops at a token that ends it. -/
structure Extends (step : Tree → Rule (Tree ⊕ Tree)) (operators : List String)
    (operand : Rule Tree) (p : Nat) : Prop where
  /-- An operator and its operand extend the chain. -/
  operator {op : String} {left right : Tree} {s s' s'' : State} {ls : List Lexeme}
    (hop : op ∈ operators) (hat : At s (.mark op :: ls)) (hadvance : Rule.advance s = ((), s'))
    (hoperand : operand s' = (right, s'')) : step left s = (.inl (.binary op left right), s'')
  /-- Other tokens end it. -/
  stop {left : Tree} {s : State} (hends : Ends p s.token.kind) : step left s = (.inr left, s)

/-- The operators of a level, all of them left-associative. -/
def IsLeftLevel (operators : List String) (p : Nat) : Prop :=
  (∀ op ∈ operators, markLevel op = p) ∧
    ∀ op ∈ binaryOperators, markLevel op = p → op ∈ operators ∧ leftLevel op = p

instance (operators : List String) (p : Nat) : Decidable (IsLeftLevel operators p) :=
  inferInstanceAs (Decidable (_ ∧ _))

/-- Between assignments and prefix operators there are binary operators only. -/
theorem Spellable.exists_binary {e : Expr} (he : Spellable e) (hlow : 2 < e.level)
    (hhigh : e.level < 13) :
    ∃ op left right, e = .binary op left right ∧ op ∈ binaryOperators ∧ Spellable left ∧
      Spellable right := by
  cases he with
  | binary hop hleft hright => exact ⟨_, _, _, rfl, hop, hleft, hright⟩
  | _ => simp [Expr.level] at hlow hhigh

/-- **The spine of a chain of operators.** Reading the first operand of an expression leads to a
place from which the loop comes to the whole expression, in fewer rounds than it has lexemes. -/
theorem exists_spine {step : Tree → Rule (Tree ⊕ Tree)} {operators : List String}
    {operand : Rule Tree} {p n : Nat} (hstep : Extends step operators operand p)
    (hlevel : IsLeftLevel operators p) (hlow : 2 < p) (hhigh : p < 13)
    (hoperand : ReadsUpTo n operand (p + 1)) {e : Expr} (he : Spellable e)
    (hlength : (e.lexemesAt p).length ≤ n) {s : State} {rest : List Lexeme}
    (hat : At s (e.lexemesAt p ++ rest)) (hstops : Stops (p + 1) rest) :
    ∃ first s₁ k tree s', operand s = (first, s₁) ∧ At s' rest ∧ Means tree e ∧
      k < (e.lexemesAt p).length ∧ LoopsTo step k first s₁ tree s' ∧
      (first = tree ∧ s₁ = s' ∨ ∃ op ∈ operators, s₁.token.kind = .mark op) := by
  -- The left operand starts at the same token and has fewer lexemes. An operator of its own level
  -- follows it, which is why `rest` only has to stop level `p + 1`.
  induction hlexemes : (e.lexemesAt p).length using Nat.strong_induction_on
    generalizing e s rest with
  | _ N ih =>
    by_cases hp : e.level = p
    · obtain ⟨op, left, right, rfl, hop, hleft, hright⟩ :=
        he.exists_binary (hp ▸ hlow) (hp ▸ hhigh)
      have hmark : markLevel op = p := hp
      obtain ⟨hmem, hleftLevel⟩ := hlevel.2 op hop hmark
      have hspelled : (Expr.binary op left right).lexemesAt p =
          left.lexemesAt p ++ .mark op :: right.lexemesAt (p + 1) := by
        rw [Expr.lexemesAt_of_le hp.ge, Expr.lexemes_binary, hleftLevel, hmark]
      rw [hspelled] at hat hlexemes hlength
      simp only [List.append_assoc, List.cons_append, List.length_append, List.length_cons]
        at hat hlexemes hlength
      obtain ⟨first, s₁, k, leftTree, s₂, hfirst, hat₂, hmeans, hk, hloop, hhead⟩ :=
        ih _ (by omega) hleft (by omega) hat (.mark (by omega)) rfl
      obtain ⟨s₃, hadvance, hat₃⟩ := hat₂.advance
      obtain ⟨rightTree, s₄, hreads, hat₄, hmeans'⟩ := hoperand hright (by omega) hat₃ hstops
      refine ⟨first, s₁, k + 1, .binary op leftTree rightTree, s₄, hfirst, hat₄,
        hmeans.binary hmeans', by omega, hloop.next (hstep.operator hmem hat₂ hadvance hreads), ?_⟩
      rcases hhead with ⟨rfl, rfl⟩ | hhead
      · exact .inr ⟨op, hmem, hat₂.kind⟩
      · exact .inr hhead
    · rw [← Expr.lexemesAt_succ hp] at hat hlength hlexemes
      obtain ⟨tree, s', hreads, hat', hmeans⟩ := hoperand he hlength hat hstops
      refine ⟨tree, s', 0, tree, s', hreads, hat', hmeans, ?_, .refl _ _ _, .inl ⟨rfl, rfl⟩⟩
      obtain ⟨l, ls, hl, -⟩ := he.opened.lexemesAt (p + 1)
      rw [← hlexemes, hl]
      exact Nat.succ_pos _

end DocQuery.Script
