import DocQuery.Proofs.Reading
import DocQuery.Proofs.TokenRuns

/-!
# DocQuery.Proofs.LiteralOrder

**The number literals of a script that is read without complaint are the number tokens of its
source**, one for one and in their order (`literals_of_read`).

The grammar is a state machine of some ninety rules, which go on after complaints, look ahead and go
back. What has been read and what is still ahead together are always the literals of the source
(`Accounted`). Forwards this would be asked of every rule, also of those whose answers are dropped
and whose readings may be taken back. It is shown backwards instead (`Leads`): where all literals
are accounted for after a rule, they were so before it. Then a rule that has complained, or that
answers a construct without an expression tree, has nothing to show, since nothing is accounted for
after it (`leads_of_drops`). That leaves the rules of expressions, one lemma for each.
-/

namespace DocQuery.Script

/-! ### The literals of a tree -/

/-- What a number literal is worth; zero where it is worth nothing, which is complained about. -/
def literalValue (literal : String) : NumberValue :=
  (NumberValue.read? literal.toList).getD (.int 0)

/-- Number literals in order, each with its value. -/
abbrev Literals := List (String × NumberValue)

/-- The literals of two constructs, one after the other. -/
def joined (first second : Option Literals) : Option Literals := do return (← first) ++ (← second)

section Joined

variable (a b c : Option Literals)

@[simp] theorem joined_none : joined a none = none := by cases a <;> rfl

@[simp] theorem none_joined : joined none a = none := rfl

@[simp] theorem joined_nil : joined a (some []) = a := by
  cases a with
  | none => rfl
  | some ls => exact congrArg some (List.append_nil ls)

@[simp] theorem nil_joined : joined (some []) a = a := by cases a <;> rfl

theorem joined_assoc : joined (joined a b) c = joined a (joined b c) := by
  cases a with
  | none => rfl
  | some ls =>
      cases b with
      | none => rfl
      | some ms =>
          cases c with
          | none => rfl
          | some ns => exact congrArg some (List.append_assoc ls ms ns)

end Joined

mutual

/-- The number literals of an expression from left to right. A construct that has no expression tree
has none to speak of. -/
def Tree.literals : Tree → Option Literals
  | .string _ _ _ | .bool _ _ | .null _ | .identifier _ _ => some []
  | .number _ literal value => some [(literal, value)]
  | .dot base _ _ => base.literals
  | .binary _ left right => joined left.literals right.literals
  | .unary _ _ operand => operand.literals
  | .array _ _ items => allLiterals items
  | .call callee args _ => joined callee.literals (allLiterals args)
  | .assign _ target value => joined target.literals value.literals
  | .sequence items => allLiterals items
  | .suffixed _ _ | .elision | .spread _ | .object _ _ _ | .arrayPattern _ _ _
  | .objectPattern _ _ _ | .other _ _ _ _ | .bad => none

/-- The number literals of several expressions. -/
def allLiterals : List Tree → Option Literals
  | [] => some []
  | t :: ts => joined t.literals (allLiterals ts)

end

/-- The number literals of a statement. -/
def Statement.literals : Statement → Option Literals
  | .empty => some []
  | .expression tree => tree.literals
  | .other _ _ | .bad => none

/-- The number literals of several statements. -/
def bodyLiterals : List Statement → Option Literals
  | [] => some []
  | st :: body => joined st.literals (bodyLiterals body)

attribute [simp] Tree.literals allLiterals Statement.literals bodyLiterals

@[simp] theorem allLiterals_append (ts us : List Tree) :
    allLiterals (ts ++ us) = joined (allLiterals ts) (allLiterals us) := by
  induction ts with
  | nil => simp
  | cons t ts ih => simp [ih, joined_assoc]

@[simp] theorem bodyLiterals_append (ts us : List Statement) :
    bodyLiterals (ts ++ us) = joined (bodyLiterals ts) (bodyLiterals us) := by
  induction ts with
  | nil => simp
  | cons t ts ih => simp [ih, joined_assoc]

/-! ### What rules answer -/

namespace Rule

variable {α β : Type}

/-- What a rule answers, wherever it starts. -/
def Answers (P : α → Prop) (rule : Rule α) : Prop := ∀ s, P (rule s).1

section Answers

variable {P : β → Prop}

theorem answers_pure {b : β} (h : P b) : Answers P (pure b) := fun _ => h

theorem answers_bind {rule : Rule α} {f : α → Rule β} (h : ∀ a, Answers P (f a)) :
    Answers P (rule >>= f) := fun _ => h _ _

theorem answers_within {rule : Rule β} (h : Answers P rule) (change : Scope → Scope)
    (undo : Scope → Scope → Scope) : Answers P (within change undo rule) := fun _ => h _

end Answers

end Rule

/-! ### What rules account for -/

/-- The number literals that are still to be read, that of the current token included. -/
inductive Ahead (s : State) : Literals → Prop where
  /-- The source ends here. -/
  | done (h : s.token.kind = .endOfInput) : Ahead s []
  /-- The current token and those after it. -/
  | next {ts : List Token} (h : s.token.kind ≠ .endOfInput) (hts : TokensFrom s.cursor ts) :
      Ahead s ((numberLiterals (s.token :: ts)).map fun literal => (literal, literalValue literal))

/-- Nothing has been complained about, and what has been read and what is still to be read are
together the literals `all`. -/
def Accounted (read : Option Literals) (all : Literals) (s : State) : Prop :=
  s.noted = none ∧ ∃ ls rest, read = some ls ∧ Ahead s rest ∧ ls ++ rest = all

theorem not_accounted_none {all : Literals} {s : State} : ¬ Accounted none all s := by
  rintro ⟨-, ls, rest, h, -⟩
  cases h

/-- Only the number that the current token is and the place behind it matter. -/
theorem Ahead.of_same {s s' : State} {ls : Literals} (h : Ahead s' ls)
    (hliteral : s'.token.literal? = s.token.literal?)
    (hend : s'.token.kind = .endOfInput ↔ s.token.kind = .endOfInput)
    (hrest : s'.cursor.rest = s.cursor.rest) (hoffset : s'.cursor.offset = s.cursor.offset) :
    Ahead s ls := by
  cases h with
  | done h => exact .done (hend.1 h)
  | @next ts h hts =>
      obtain ⟨ts', hts', heq⟩ := hts.of_place hrest hoffset
      rw [numberLiterals_cons, hliteral, ← heq, ← numberLiterals_cons]
      exact .next (mt hend.2 h) hts'

/-- What is ahead behind a token is what comes after it. -/
theorem Ahead.of_advance {s : State} {ls : Literals} (h : Ahead (Rule.advance s).2 ls) :
    ∃ ts, TokensFrom s.cursor ts ∧
      (numberLiterals ts).map (fun literal => (literal, literalValue literal)) = ls := by
  cases h with
  | done h => exact ⟨[], .of_scan_end h, rfl⟩
  | next h hts =>
      obtain ⟨ts', hts', heq⟩ := hts.of_scan h
      exact ⟨ts', hts', congrArg _ heq⟩

namespace Rule

variable {α β σ : Type}

/-- **What a rule accounts for.** Where all literals are accounted for after the rule, they were so
before it. In this direction nothing is asked of a rule that complains, nor of one whose answer has
no expression tree: after it, nothing is accounted for. -/
def Leads (rule : Rule α) (s : State) (before : Option Literals) (after : α → Option Literals) :
    Prop :=
  ∀ all, Accounted (after (rule s).1) all (rule s).2 → Accounted before all s

section Leads

variable {s : State} {before : Option Literals} {mid : α → Option Literals}
  {after : β → Option Literals}

theorem leads_of_none {rule : Rule β} (h : after (rule s).1 = none) :
    Leads rule s before after := by
  intro all hall
  rw [h] at hall
  exact absurd hall not_accounted_none

theorem leads_of_before {rule : Rule β} (h : Leads rule s none after) :
    Leads rule s before after :=
  fun all hall => absurd (h all hall) not_accounted_none

theorem leads_pure {b : β} (h : after b = before) : Leads (pure b) s before after := by
  intro all hall
  exact h ▸ hall

theorem leads_bind {rule : Rule α} {f : α → Rule β} (h : Leads rule s before mid)
    (hf : Leads (f (rule s).1) (rule s).2 (mid (rule s).1) after) :
    Leads (rule >>= f) s before after :=
  fun all hall => h all (hf all hall)

theorem leads_pure_bind {a : α} {f : α → Rule β} (h : Leads (f a) s before after) :
    Leads (pure a >>= f) s before after := h

theorem leads_map {rule : Rule α} {f : α → β} (h : Leads rule s before mid)
    (hf : ∀ a, after (f a) = mid a) : Leads (f <$> rule) s before after := by
  intro all hall
  refine h all ?_
  rw [← hf]
  exact hall

theorem leads_ite {c : Prop} [Decidable c] {r r' : Rule β} (h : c → Leads r s before after)
    (h' : ¬c → Leads r' s before after) : Leads (if c then r else r') s before after := by
  split
  · exact h ‹_›
  · exact h' ‹_›

/-! #### Looking at the state -/

variable {f : Bool → Rule β}

@[simp] theorem leads_get {f : State → Rule β} :
    Leads (get >>= f) s before after ↔ Leads (f s) s before after := Iff.rfl

@[simp] theorem leads_kind {f : TokenKind → Rule β} :
    Leads (kind >>= f) s before after ↔ Leads (f s.token.kind) s before after := Iff.rfl

@[simp] theorem leads_here {f : Nat → Rule β} :
    Leads (here >>= f) s before after ↔ Leads (f s.token.start) s before after := Iff.rfl

@[simp] theorem leads_isMark {text : String} :
    Leads (isMark text >>= f) s before after ↔
      Leads (f (s.token.kind == .mark text)) s before after := Iff.rfl

@[simp] theorem leads_isWord {text : String} :
    Leads (isWord text >>= f) s before after ↔
      Leads (f (s.token.kind == .word text)) s before after := Iff.rfl

@[simp] theorem leads_atEnd :
    Leads (atEnd >>= f) s before after ↔
      Leads (f (s.token.kind == .endOfInput)) s before after := Iff.rfl

/-! #### Changing the state -/

/-- A rule that changes neither the token nor the place behind it. -/
theorem leads_of_same {rule : Rule α} (hnoted : (rule s).2.noted = none → s.noted = none)
    (htoken : (rule s).2.token = s.token) (hcursor : (rule s).2.cursor = s.cursor) :
    Leads rule s before fun _ => before := by
  rintro all ⟨hnone, ls, rest, hread, hahead, hall⟩
  refine ⟨hnoted hnone, ls, rest, hread, hahead.of_same ?_ ?_ ?_ ?_, hall⟩
  · rw [htoken]
  · rw [htoken]
  · rw [hcursor]
  · rw [hcursor]

theorem eq_none_of_or {α : Type} {a b : Option α} (h : a.or b = none) : a = none := by
  cases a with
  | none => rfl
  | some _ => cases h

theorem or_some_ne_none {α : Type} (a : Option α) (b : α) : a.or (some b) ≠ none := by
  cases a <;> exact fun h => by cases h

theorem leads_complain (complaint : Complaint) (start : Nat) :
    Leads (complain complaint start) s before fun _ => before :=
  leads_of_same eq_none_of_or rfl rfl

/-- An answer with a complaint need not account for anything. -/
theorem leads_complained (complaint : Complaint) (start : Nat) (b : β) :
    Leads (do complain complaint start; return b) s before after := by
  rintro all ⟨hnone, -⟩
  exact absurd hnone (or_some_ne_none _ _)

theorem leads_complainAbout (kind : TokenKind) :
    Leads (complainAbout kind) s before fun _ => before :=
  leads_of_same eq_none_of_or rfl rfl

theorem leads_peek : Leads peek s before fun _ => before := leads_of_same eq_none_of_or rfl rfl

theorem leads_allowLet (allowed : Bool) : Leads (allowLet allowed) s before fun _ => before :=
  leads_of_same id rfl rfl

/-- A line end before the current token may be forgotten. -/
theorem leads_forgetLine :
    Leads (modify fun s => { s with afterLine := false }) s before fun _ => before :=
  leads_of_same id rfl rfl

/-- The current token may be allowed to end a statement. -/
theorem leads_mayEnd :
    Leads (modify fun s => { s with cursor := { s.cursor with mayEnd := true } }) s before
      fun _ => before := by
  rintro all ⟨hnone, ls, rest, hread, hahead, hall⟩
  exact ⟨hnone, ls, rest, hread, hahead.of_same rfl Iff.rfl rfl rfl, hall⟩

theorem leads_wordToName : Leads wordToName s before fun _ => before := by
  rintro all ⟨hnone, ls, rest, hread, hahead, hall⟩
  simp only [wordToName, modify_apply] at hnone hahead
  split at hahead
  · next hbinds =>
    have hkind : s.token.kind ≠ .number ∧ s.token.kind ≠ .endOfInput := by
      constructor
      · intro heq
        rw [heq] at hbinds
        cases hbinds
      · intro heq
        rw [heq] at hbinds
        cases hbinds
    rw [if_pos hbinds] at hnone
    refine ⟨hnone, ls, rest, hread, hahead.of_same ?_ ?_ rfl rfl, hall⟩
    · rw [Token.literal?, Token.literal?, if_neg hkind.1]
      rfl
    · exact iff_of_false (by simp) hkind.2
  · next hbinds =>
    rw [if_neg hbinds] at hnone
    exact ⟨hnone, ls, rest, hread, hahead, hall⟩

/-- A token is passed over, with the number that it may be. -/
theorem leads_advance (hkind : s.token.kind ≠ .endOfInput) :
    Leads advance s before fun _ =>
      joined before (some (s.token.literal?.toList.map fun literal =>
        (literal, literalValue literal))) := by
  rintro all ⟨hnone, ls, rest, hread, hahead, hall⟩
  obtain ⟨ts, hts, rfl⟩ := hahead.of_advance
  cases before with
  | none => cases hread
  | some read =>
      cases hread
      refine ⟨eq_none_of_or hnone, read, _, rfl, .next hkind hts, ?_⟩
      rw [numberLiterals_cons, List.map_append, ← hall, List.append_assoc]

theorem leads_advance_plain (hkind : s.token.kind.IsPlain) :
    Leads advance s before fun _ => before := by
  have h : Leads advance s before _ := leads_advance hkind.2
  rw [Token.literal?, if_neg hkind.1] at h
  simpa using h

theorem leads_expect {kind : TokenKind} (hkind : kind.IsPlain) :
    Leads (expect kind) s before fun _ => before := by
  intro all hall
  by_cases heq : s.token.kind = kind
  · have hadvance : (expect kind s).2 = (advance s).2 := by
      simp [expect, heq]
    rw [hadvance] at hall
    exact leads_advance_plain (heq ▸ hkind) all hall
  · -- another token is complained about
    obtain ⟨hnone, -⟩ := hall
    have hne : (s.token.kind != kind) = true := bne_iff_ne.2 heq
    simp only [expect, bind_apply, get_apply, ite_apply, hne, if_true] at hnone
    exact absurd (eq_none_of_or hnone) (or_some_ne_none _ _)

theorem leads_within {rule : Rule β} {change : Scope → Scope} {undo : Scope → Scope → Scope}
    (h : ∀ s, Leads rule s before after) : Leads (within change undo rule) s before after := by
  rintro all ⟨hnone, ls, rest, hread, hahead, hall⟩
  obtain ⟨hnone', ls', rest', hread', hahead', hall'⟩ :=
    h { s with scope := change s.scope } all
      ⟨hnone, ls, rest, hread, hahead.of_same rfl Iff.rfl rfl rfl, hall⟩
  exact ⟨hnone', ls', rest', hread', hahead'.of_same rfl Iff.rfl rfl rfl, hall'⟩

theorem leads_withIn (allowed : Bool) {rule : Rule β} (h : ∀ s, Leads rule s before after) :
    Leads (withIn allowed rule) s before after := leads_within h

theorem leads_exhausted [Inhabited β] : Leads exhausted s before after := by
  rintro all ⟨hnone, -⟩
  exact absurd hnone (or_some_ne_none _ _)

/-- **A repetition accounts for what its steps account for.** -/
theorem leads_loop [Inhabited β] {step : σ → Rule (σ ⊕ β)} (acc : σ → Option Literals)
    {I : σ → Prop} (hstep : ∀ x s, I x → Leads (step x) s (acc x) (Sum.elim acc after))
    (hnext : ∀ x s y, I x → (step x s).1 = .inl y → I y) (rounds : Nat) {x : σ} (hx : I x) :
    Leads (loop step rounds x) s (acc x) after := by
  induction rounds generalizing x s with
  | zero => exact leads_exhausted
  | succ rounds ih =>
      refine leads_bind (hstep x s hx) ?_
      cases hresult : (step x s).1 with
      | inl y => exact ih (hnext x s y hx hresult)
      | inr b => exact leads_pure rfl

end Leads

/-- A rule whose answer accounts for what the rule passes over. -/
def Accounts (literals : α → Option Literals) (rule : Rule α) : Prop :=
  ∀ s before, Leads rule s before fun a => joined before (literals a)

/-- A rule whose answer has no expression tree. -/
abbrev Drops (literals : α → Option Literals) : Rule α → Prop := Answers fun a => literals a = none

theorem leads_of_drops {literals : α → Option Literals} {rule : Rule α} (h : Drops literals rule)
    {s : State} {before after : Option Literals} :
    Leads rule s before fun a => joined after (literals a) :=
  leads_of_none (by rw [h, joined_none])

theorem drops_fail {literals : α → Option Literals} [Inhabited α] (h : literals default = none)
    (complaint : Complaint) (start : Nat) : Drops literals (fail complaint start) := fun _ => h

end Rule

open Rule

/-- The rules through which the circles of the grammar run account for what they pass over, as far
as their answers are kept. -/
structure Grammar.Accounts (g : Grammar) : Prop where
  /-- An expression without commas. -/
  assignment : Rule.Accounts Tree.literals g.assignment
  /-- A prefix operator and its operand. -/
  unary : Rule.Accounts Tree.literals g.unary
  /-- A statement. -/
  statement : Rule.Accounts Statement.literals g.statement

theorem isPlain_of_mark {kind : TokenKind} {text : String} (h : (kind == .mark text) = true) :
    kind.IsPlain := by
  rw [eq_of_beq h]
  exact ⟨by simp, by simp⟩

theorem isPlain_of_word {kind : TokenKind} {text : String} (h : (kind == .word text) = true) :
    kind.IsPlain := by
  rw [eq_of_beq h]
  exact ⟨by simp, by simp⟩

theorem isPlain_of_bindsName {scope : Scope} {kind : TokenKind}
    (h : scope.bindsName kind = true) : kind.IsPlain := by
  cases kind with
  | identifier => exact ⟨by simp, by simp⟩
  | word text => exact ⟨by simp, by simp⟩
  | _ => cases h

theorem isPlain_of_isPropertyName {kind : TokenKind} (h : kind.isPropertyName = true) :
    kind.IsPlain := by
  constructor
  · rintro rfl
    cases h
  · rintro rfl
    cases h

/-! ### Answers without an expression tree -/

section Dropped

variable (g : Grammar)

theorem drops_patternLiteral : Drops Tree.literals patternLiteral := by
  unfold patternLiteral
  repeat' first | exact answers_pure rfl | refine answers_bind fun _ => ?_ | split

theorem drops_function (declaration async : Bool) (start : Nat) :
    Drops Tree.literals (function g declaration async start) := by
  unfold function
  repeat' first | exact answers_pure rfl | refine answers_bind fun _ => ?_ | split

theorem drops_arrowFunction (async : Bool) (start : Nat) :
    Drops Tree.literals (arrowFunction g async start) := by
  unfold arrowFunction
  repeat' first | exact answers_pure rfl | refine answers_bind fun _ => ?_ | split

theorem drops_classLiteral (declaration : Bool) :
    Drops Tree.literals (classLiteral g declaration) := by
  unfold classLiteral
  repeat' first | exact answers_pure rfl | refine answers_bind fun _ => ?_ | split

theorem drops_objectLiteral : Drops Tree.literals (objectLiteral g) := fun _ => rfl

theorem drops_template (tagged : Bool) : Drops Tree.literals (template g tagged) := fun _ => rfl

theorem drops_bracketMember (base : Tree) : Drops Tree.literals (bracketMember g base) :=
  fun _ => rfl

theorem drops_callOf {callee : Tree} (h : callee.literals = none) :
    Drops Tree.literals (callOf g callee) := by
  intro s
  show joined callee.literals _ = none
  rw [h, none_joined]

theorem drops_namedMember {base : Tree} (h : base.literals = none) :
    Drops Tree.literals (namedMember base) := by
  unfold namedMember
  refine answers_bind fun s => ?_
  dsimp only
  split
  · exact answers_bind fun _ => answers_pure h
  · exact fun _ => rfl

theorem drops_superUse : Drops Tree.literals (superUse g) := by
  unfold superUse
  refine answers_bind fun start => answers_bind fun _ => answers_bind fun _ => ?_
  split
  · exact answers_bind fun _ => drops_namedMember rfl
  · refine answers_bind fun _ => ?_
    split
    · exact drops_bracketMember g _
    · refine answers_bind fun _ => ?_
      split
      · exact drops_callOf g rfl
      · exact drops_fail rfl _ _

theorem drops_newExpression : Drops Tree.literals (newExpression g) := by
  unfold newExpression
  dsimp only
  repeat' first | exact answers_pure rfl | refine answers_bind fun _ => ?_ | split

end Dropped

section Rules

variable {g : Grammar} {s : State} {before : Option Literals}

theorem leads_expectMark (text : String) : Leads (expectMark text) s before fun _ => before :=
  leads_expect ⟨by simp, by simp⟩

/-- What a list that is kept from the last item on accounts for. -/
def kept (before : Option Literals) (items : List Tree) : Option Literals :=
  joined before (allLiterals items.reverse)

theorem kept_nil (before : Option Literals) : kept before [] = before := joined_nil before

theorem kept_cons (before : Option Literals) (t : Tree) (items : List Tree) :
    kept before (t :: items) = joined (kept before items) t.literals := by
  simp [kept, joined_assoc]

/-- A step of a repetition that keeps a list. -/
abbrev LeadsKept (step : List Tree → Rule (List Tree ⊕ List Tree)) : Prop :=
  ∀ items s before, Leads (step items) s (kept before items) (Sum.elim (kept before) (kept before))

theorem leads_kept_loop {step : List Tree → Rule (List Tree ⊕ List Tree)} (hstep : LeadsKept step)
    (rounds : Nat) : Leads (loop step rounds []) s before (kept before) := by
  have h : Leads (loop step rounds []) s (kept before []) (kept before) :=
    leads_loop (I := fun _ => True) (kept before) (fun items s _ => hstep items s before)
      (fun _ _ _ _ _ => trivial) rounds trivial
  rwa [kept_nil] at h

/-- An item is kept, or a spread one, of which nothing can be told. -/
theorem leads_kept_item {β : Type} {after : β → Option Literals} {f : List Tree → β}
    (hf : ∀ items, after (f items) = kept before items) (spread : Prop) [Decidable spread]
    (item : Tree) (items : List Tree) :
    Leads (pure (f ((if spread then item.spread else item) :: items))) s
      (joined (kept before items) item.literals) after := by
  split
  · refine leads_of_none ?_
    show after (f _) = none
    rw [hf, kept_cons, Tree.literals, joined_none]
  · exact leads_pure (by rw [hf, kept_cons])

/-! ### Comma expressions and arrays -/

/-- The literals up to the end of the expressions `items`, last first, between commas. -/
def commaLiterals (before : Option Literals) (first : Tree) (items : List Tree) : Option Literals :=
  joined before (if items.length ≤ 1 then first else .sequence items.reverse).literals

/-- The first expression is still there after the others. -/
theorem commaLiterals_append (before : Option Literals) (first : Tree) (more : List Tree) :
    commaLiterals before first (more ++ [first]) = kept before (more ++ [first]) := by
  unfold commaLiterals
  cases more with
  | nil => simp [kept]
  | cons t more => simp [kept]

theorem accounts_expression (hg : g.Accounts) : Accounts Tree.literals (expression g) := by
  intro s before
  refine leads_bind (hg.assignment _ _) ?_
  generalize (g.assignment s).1 = first
  generalize (g.assignment s).2 = s
  have hstep : ∀ items s, (∃ more, items = more ++ [first]) → Leads (expressionStep g items) s
      (commaLiterals before first items)
      (Sum.elim (commaLiterals before first) (commaLiterals before first)) := by
    rintro _ s ⟨more, rfl⟩
    unfold expressionStep
    rw [leads_isMark]
    refine leads_ite (fun hmark => ?_) fun _ => leads_pure rfl
    refine leads_bind (leads_advance_plain (isPlain_of_mark hmark)) ?_
    refine leads_bind (hg.assignment _ _) (leads_pure ?_)
    rw [Sum.elim_inl, ← List.cons_append, commaLiterals_append, commaLiterals_append,
      List.cons_append, kept_cons]
  refine leads_bind (leads_loop _ hstep ?_ g.rounds ⟨[], rfl⟩) (leads_pure rfl)
  rintro _ s y ⟨more, rfl⟩ h
  rw [expressionStep, bind_apply, isMark_apply, Rule.ite_apply] at h
  split at h
  · cases h
    exact ⟨_ :: more, rfl⟩
  · cases h

theorem leads_arrayStep (hg : g.Accounts) : LeadsKept (arrayStep g) := by
  intro items s before
  unfold arrayStep
  simp only [leads_isMark, leads_atEnd]
  refine leads_ite (fun _ => leads_pure rfl) fun _ => ?_
  rw [leads_isMark]
  refine leads_ite (fun hmark => ?_) fun _ => ?_
  · refine leads_bind (leads_advance_plain (isPlain_of_mark hmark)) (leads_of_none ?_)
    exact (kept_cons ..).trans (joined_none _)
  rw [leads_isMark]
  refine leads_ite (fun hmark => leads_bind (leads_advance_plain (isPlain_of_mark hmark)) ?_)
    fun _ => ?_
  all_goals
    refine leads_bind (hg.assignment _ _) ?_
    rw [leads_isMark]
    refine leads_ite (fun _ => leads_bind (leads_expectMark ",") ?_) fun _ => ?_
  all_goals exact leads_kept_item (fun _ => rfl) _ _ _

theorem accounts_arrayLiteral (hg : g.Accounts) : Accounts Tree.literals (arrayLiteral g) := by
  intro s before
  refine leads_bind (leads_expectMark "[") ?_
  refine leads_bind (leads_kept_loop (leads_arrayStep hg) g.rounds) ?_
  exact leads_bind (leads_expectMark "]") (leads_pure rfl)

/-! ### Parentheses and arguments -/

theorem leads_parenthesizedStep (hg : g.Accounts) : LeadsKept (parenthesizedStep g) := by
  intro items s before
  unfold parenthesizedStep
  have hitem (item : Tree) (s : State) : Leads (do
      if ← isMark "," then
        advance
        if ← isMark ")" then
          complainAbout (.mark ")")
          return .inr (item :: items)
        else return .inl (item :: items)
      else return .inr (item :: items)) s (joined (kept before items) item.literals)
        (Sum.elim (kept before) (kept before)) := by
    rw [leads_isMark]
    refine leads_ite (fun hmark => ?_) fun _ => leads_pure (kept_cons ..)
    refine leads_bind (leads_advance_plain (isPlain_of_mark hmark)) ?_
    rw [leads_isMark]
    refine leads_ite (fun _ => ?_) fun _ => leads_pure (kept_cons ..)
    exact leads_bind (leads_complainAbout _) (leads_pure (kept_cons ..))
  rw [leads_isMark]
  refine leads_ite (fun hmark => ?_) fun _ => leads_bind (hg.assignment _ _) (hitem _ _)
  -- nothing is kept of a spread expression
  have hbad (s : State) := hitem .bad s
  rw [Tree.literals, joined_none] at hbad
  exact leads_bind (leads_complainAbout _) <| leads_bind
    (leads_advance_plain (isPlain_of_mark hmark)) <| leads_bind (hg.assignment _ _) <|
      leads_of_before (hbad _)

theorem accounts_parenthesized (hg : g.Accounts) : Accounts Tree.literals (parenthesized g) := by
  intro s before
  unfold parenthesized
  refine leads_bind (leads_expectMark "(") ?_
  rw [leads_isMark]
  refine leads_ite (fun _ => ?_) fun _ =>
    leads_bind (leads_kept_loop (leads_parenthesizedStep hg) g.rounds)
      (leads_bind (leads_expectMark ")") ?_)
  · exact leads_pure_bind
      (leads_bind (leads_expectMark ")") (leads_of_none (joined_none _)))
  · split
    · exact leads_of_none (joined_none _)
    · next item heq =>
      rw [heq, leads_get]
      refine leads_pure ?_
      split <;> simp [kept]
    · exact leads_pure rfl

theorem leads_argumentStep (hg : g.Accounts) : LeadsKept (argumentStep g) := by
  intro items s before
  unfold argumentStep
  rw [leads_isMark]
  refine leads_ite (fun _ => leads_pure rfl) fun _ => ?_
  rw [leads_isMark]
  refine leads_ite (fun hmark => leads_bind (leads_advance_plain (isPlain_of_mark hmark)) ?_)
    fun _ => ?_
  all_goals
    refine leads_bind (hg.assignment _ _) ?_
    rw [leads_isMark]
    refine leads_ite (fun hmark =>
      leads_bind (leads_advance_plain (isPlain_of_mark hmark)) ?_) fun _ => ?_
  all_goals exact leads_kept_item (fun _ => rfl) _ _ _

theorem leads_arguments (hg : g.Accounts) :
    Leads (arguments g) s before fun r => joined before (allLiterals r.1) := by
  refine leads_bind (leads_expectMark "(") ?_
  refine leads_bind (leads_kept_loop (leads_argumentStep hg) g.rounds) ?_
  exact leads_bind (leads_expectMark ")") (leads_pure rfl)

theorem leads_callOf (hg : g.Accounts) (callee : Tree) :
    Leads (callOf g callee) s (joined before callee.literals) fun t => joined before t.literals :=
  leads_bind (leads_arguments hg) (leads_pure (joined_assoc ..).symm)

theorem leads_name {kind : TokenKind} (hkind : s.token.kind = kind) (start : Nat)
    (meaning : String) : Leads (do
      if (← get).scope.bindsName kind then
        advance
        return Tree.identifier start meaning
      else
        complainAbout kind
        recover
        return .bad) s before fun t => joined before t.literals := by
  rw [leads_get]
  refine leads_ite (fun hbinds => ?_) fun _ => leads_of_none (joined_none _)
  refine leads_bind (leads_advance_plain ?_) (leads_pure (joined_nil _))
  exact hkind ▸ isPlain_of_bindsName hbinds

theorem accounts_primary (hg : g.Accounts) : Accounts Tree.literals (primary g) := by
  intro s before
  -- a literal or a name that is no number has nothing to account for
  have hplain {t : Tree} (ht : t.literals = some []) (hkind : s.token.kind.IsPlain) :
      Leads (do advance; return t) s before fun t => joined before t.literals :=
    leads_bind (leads_advance_plain hkind) (leads_pure (by rw [ht, joined_nil]))
  unfold primary
  rw [leads_get]
  dsimp only
  split
  · next hkind => exact hplain rfl (hkind ▸ ⟨by decide, by decide⟩)
  · next hkind => exact hplain rfl (hkind ▸ ⟨by decide, by decide⟩)
  · next hkind => exact hplain rfl (hkind ▸ ⟨by decide, by decide⟩)
  · next hkind =>
    refine leads_bind (leads_advance (by rw [hkind]; decide)) ?_
    rw [show s.token.literal? = some s.token.written from if_pos hkind]
    split
    · next value hvalue =>
      refine leads_pure ?_
      rw [Tree.literals, Option.toList_some, List.map_singleton, literalValue, hvalue,
        Option.getD_some]
    · next hvalue =>
      refine leads_bind (leads_complain _ _) (leads_pure ?_)
      rw [Tree.literals, Option.toList_some, List.map_singleton, literalValue, hvalue,
        Option.getD_none]
  · exact leads_of_drops drops_patternLiteral
  · exact leads_of_drops drops_patternLiteral
  · exact leads_of_drops (drops_objectLiteral g)
  · exact accounts_arrayLiteral hg s before
  · exact accounts_parenthesized hg s before
  · exact leads_of_none (joined_none _)
  · exact leads_of_drops (drops_superUse g)
  · next hkind =>
    refine leads_bind leads_peek (leads_ite (fun _ => ?_) fun _ => ?_)
    · exact leads_of_drops (answers_bind fun _ => drops_function g _ _ _)
    · exact leads_name rfl _ _
  · exact leads_of_drops (drops_function g _ _ _)
  · exact leads_of_drops (drops_classLiteral g _)
  · refine leads_ite (fun _ => ?_) fun _ => leads_name rfl _ _
    exact leads_of_drops (drops_template g _)

/-! ### Properties and calls -/

theorem accounts_newOrPrimary (hg : g.Accounts) : Accounts Tree.literals (newOrPrimary g) := by
  intro s before
  unfold newOrPrimary
  rw [leads_isWord]
  refine leads_ite (fun _ => ?_) fun _ => accounts_primary hg s before
  exact leads_of_drops (drops_newExpression g)

theorem leads_namedMember (base : Tree) :
    Leads (namedMember base) s (joined before base.literals) fun t => joined before t.literals := by
  unfold namedMember
  rw [leads_get]
  dsimp only
  refine leads_ite (fun hname => ?_) fun _ => leads_of_none (joined_none _)
  exact leads_bind (leads_advance_plain (isPlain_of_isPropertyName hname)) (leads_pure rfl)

theorem leads_dotMember {base : Tree} (hkind : s.token.kind.IsPlain) :
    Leads (dotMember base) s (joined before base.literals) fun t => joined before t.literals := by
  refine leads_bind (leads_advance_plain hkind) ?_
  rw [leads_get]
  dsimp only
  refine leads_ite (fun _ => ?_) fun _ => leads_namedMember base
  exact leads_of_none (joined_none _)

/-- The literals of a chain. One with an optional part has no expression tree. -/
def Chain.literals : Chain → Option Literals
  | .plain left => left.literals
  | .optional _ | .broken => none

theorem Chain.literals_toTree (c : Chain) : c.toTree.literals = c.literals := by
  cases c <;> rfl

theorem leads_chainPart (hg : g.Accounts) (c : Chain) :
    Leads (chainPart g c) s (joined before c.literals) fun next =>
      joined before ((next.getD c).literals) := by
  -- a part that is added to the chain
  have hpart {part : Rule Tree} (h : Leads part s (joined before c.left.literals)
      fun t => joined before t.literals) : Leads (do return some (c.to (← part))) s
        (joined before c.literals) fun next => joined before ((next.getD c).literals) := by
    cases c with
    | plain left => exact leads_map h fun _ => rfl
    | _ => exact leads_of_none (joined_none _)
  unfold chainPart
  simp only [leads_isMark]
  refine leads_ite (fun hmark => hpart (leads_dotMember (isPlain_of_mark hmark))) fun _ => ?_
  rw [leads_isMark]
  refine leads_ite (fun _ => ?_) fun _ => ?_
  · exact hpart (leads_of_none (by rw [drops_bracketMember, joined_none]))
  rw [leads_isMark]
  refine leads_ite (fun _ => hpart (leads_callOf hg _)) fun _ => ?_
  rw [leads_isMark]
  refine leads_ite (fun _ => ?_) fun _ => ?_
  · split
    · refine leads_of_none ?_
      show joined before (template g true s).1.literals = none
      rw [drops_template, joined_none]
    · exact leads_of_none (joined_none _)
  rw [leads_isMark]
  refine leads_ite (fun _ => ?_) fun _ => leads_pure rfl
  refine leads_bind leads_peek (leads_ite (fun _ => ?_) fun _ => ?_)
  · exact leads_of_none (joined_none _)
  · exact leads_of_none (joined_none _)

theorem leads_chainStep (hg : g.Accounts) (c : Chain) :
    Leads (chainStep g c) s (joined before c.literals)
      (Sum.elim (fun c => joined before c.literals) fun t => joined before t.literals) := by
  unfold chainStep
  refine leads_bind (leads_chainPart hg c) ?_
  cases (chainPart g c s).1 with
  | none => exact leads_pure (by rw [Sum.elim_inr, Chain.literals_toTree]; rfl)
  | some next =>
      cases next with
      | broken => exact leads_of_none (joined_none _)
      | _ => exact leads_pure rfl

theorem accounts_chain (hg : g.Accounts) : Accounts Tree.literals (chain g) := by
  intro s before
  refine leads_withIn true fun s => leads_bind (accounts_newOrPrimary hg s before) ?_
  exact leads_loop (I := fun _ => True) (fun c : Chain => joined before c.literals)
    (fun c s _ => leads_chainStep hg c) (fun _ _ _ _ _ => trivial) g.rounds trivial

/-! ### Operators -/

theorem accounts_update (hg : g.Accounts) : Accounts Tree.literals (update g) := by
  intro s before
  unfold update
  rw [leads_get]
  dsimp only
  refine leads_ite (fun hmark => ?_) fun _ => leads_bind (accounts_chain hg s before) ?_
  · have hkind : s.token.kind.IsPlain :=
      (Bool.or_eq_true_iff.1 hmark).elim isPlain_of_mark isPlain_of_mark
    refine leads_bind (leads_advance_plain hkind) (leads_bind (hg.unary _ _) ?_)
    refine leads_ite (fun _ => leads_pure rfl) fun _ => ?_
    exact leads_of_drops (drops_fail rfl _ _)
  · rw [leads_get]
    refine leads_ite (fun _ => leads_of_drops ?_) fun _ => leads_pure rfl
    refine answers_bind fun _ => ?_
    split
    · exact answers_pure rfl
    · exact drops_fail rfl _ _

theorem accounts_unary (hg : g.Accounts) : Accounts Tree.literals (unary g) := by
  intro s before
  unfold unary
  rw [leads_get]
  dsimp only
  refine leads_ite (fun hoperator => ?_) fun _ => leads_ite (fun _ => ?_) fun _ => ?_
  · have hplain : ∀ kind ∈ unaryOperators, kind.IsPlain := by decide
    have hkind := hplain _ (List.contains_iff_mem.1 hoperator)
    exact leads_bind (leads_advance_plain hkind) (leads_bind (hg.unary _ _) (leads_pure rfl))
  · refine leads_of_drops ?_
    repeat' first | exact answers_pure rfl | refine answers_bind fun _ => ?_ | split
  · exact accounts_update hg s before

theorem accounts_leftChain {operand : Rule Tree} (hoperand : Accounts Tree.literals operand)
    (operators : List String) : Accounts Tree.literals (leftChain g operators operand) := by
  intro s before
  refine leads_bind (hoperand s before) ?_
  refine leads_loop (I := fun _ => True) (fun t : Tree => joined before t.literals)
    (fun left s _ => ?_) (fun _ _ _ _ _ => trivial) g.rounds trivial
  unfold leftStep
  rw [leads_kind]
  split
  · next op hmark =>
    refine leads_ite (fun _ => ?_) fun _ => leads_pure rfl
    refine leads_bind (leads_advance_plain (isPlain_of_mark (beq_iff_eq.2 hmark))) ?_
    exact leads_bind (hoperand _ _) (leads_pure (joined_assoc ..).symm)
  · exact leads_pure rfl

/-- The literals of operands that wait for the one on their right. -/
def pendingLiterals : List (Tree × String) → Option Literals
  | [] => some []
  | (t, _) :: pending => joined (pendingLiterals pending) t.literals

theorem literals_foldRight (pending : List (Tree × String)) (last : Tree) :
    (foldRight pending last).literals = joined (pendingLiterals pending) last.literals := by
  induction pending generalizing last with
  | nil => exact (nil_joined _).symm
  | cons p pending ih =>
      show (foldRight pending (.binary p.2 p.1 last)).literals = _
      rw [ih, Tree.literals, pendingLiterals, joined_assoc]

/-- A step of a repetition that keeps operands which wait for the one on their right. -/
abbrev LeadsPending (step : List (Tree × String) → Rule (List (Tree × String) ⊕ Tree)) : Prop :=
  ∀ pending s before, Leads (step pending) s (joined before (pendingLiterals pending))
    (Sum.elim (fun pending => joined before (pendingLiterals pending)) fun t =>
      joined before t.literals)

theorem leads_pending_loop {step : List (Tree × String) → Rule (List (Tree × String) ⊕ Tree)}
    (hstep : LeadsPending step) (rounds : Nat) :
    Leads (loop step rounds []) s before fun t => joined before t.literals := by
  have h : Leads (loop step rounds []) s (joined before (pendingLiterals []))
      fun t => joined before t.literals :=
    leads_loop (I := fun _ => True) (fun pending => joined before (pendingLiterals pending))
      (fun pending s _ => hstep pending s before) (fun _ _ _ _ _ => trivial) rounds trivial
  rwa [pendingLiterals, joined_nil] at h

/-- The operand that waits for none is the last one. -/
theorem leads_foldRight (pending : List (Tree × String)) (last : Tree)
    {after : List (Tree × String) → Option Literals} :
    Leads (pure (.inr (foldRight pending last))) s
      (joined (joined before (pendingLiterals pending)) last.literals)
      (Sum.elim after fun t => joined before t.literals) :=
  leads_pure (by rw [Sum.elim_inr, literals_foldRight, joined_assoc])

theorem leads_powerStep (hg : g.Accounts) : LeadsPending (powerStep g) := by
  intro pending s before
  unfold powerStep
  rw [leads_isMark]
  refine leads_bind (accounts_unary hg _ _) ?_
  rw [leads_isMark]
  refine leads_ite (fun hmark => ?_) fun _ => leads_foldRight pending _
  have hnext {operand : Tree} {s : State} (hmark : (s.token.kind == .mark "**") = true) :
      Leads (do advance; return .inl ((operand, "**") :: pending)) s
        (joined (joined before (pendingLiterals pending)) operand.literals)
        (Sum.elim (fun pending => joined before (pendingLiterals pending)) fun t : Tree =>
          joined before t.literals) :=
    leads_bind (leads_advance_plain (isPlain_of_mark hmark)) (leads_pure (joined_assoc ..).symm)
  dsimp only
  refine leads_ite (fun _ => ?_) fun _ => hnext hmark
  rw [leads_here]
  exact leads_bind (leads_complain _ _) (hnext hmark)

theorem accounts_power (hg : g.Accounts) : Accounts Tree.literals (power g) :=
  fun _ _ => leads_pending_loop (leads_powerStep hg) g.rounds

theorem accounts_shift (hg : g.Accounts) : Accounts Tree.literals (shift g) :=
  accounts_leftChain (accounts_leftChain (accounts_leftChain (accounts_power hg) _) _) _

theorem isPlain_of_relationalOperator {allowIn : Bool} {kind : TokenKind} {op : String}
    (h : relationalOperator allowIn kind = some op) : kind.IsPlain := by
  cases kind with
  | mark text => exact ⟨by simp, by simp⟩
  | word text => exact ⟨by simp, by simp⟩
  | _ => cases h

theorem leads_relationalStep (hg : g.Accounts) (outer : Bool) :
    LeadsPending (relationalStep g outer) := by
  intro pending s before
  -- a private name has no expression tree
  have hprivate {last : Tree} (h : last.literals = none) (s : State) {before' : Option Literals} :
      Leads (pure (.inr (foldRight pending last))) s before'
        (Sum.elim (fun pending => joined before (pendingLiterals pending)) fun t =>
          joined before t.literals) :=
    leads_of_none (by rw [pure_apply, Sum.elim_inr, literals_foldRight, h, joined_none, joined_none])
  unfold relationalStep
  rw [leads_get]
  dsimp only
  refine leads_ite (fun hname => ?_) fun _ =>
    leads_ite (fun _ => leads_bind (accounts_shift hg _ _) ?_) fun _ =>
      leads_bind (leads_withIn true fun s => accounts_shift hg s _) ?_
  · have hkind : s.token.kind.IsPlain := by
      rw [eq_of_beq (Bool.and_eq_true_iff.1 hname).2]
      decide
    refine leads_bind (leads_advance_plain hkind) ?_
    rw [leads_isWord]
    refine leads_ite (fun hword => ?_) fun _ => hprivate rfl _
    exact leads_bind (leads_advance_plain (isPlain_of_word hword))
      (leads_bind (accounts_shift hg _ _) (hprivate rfl _))
  all_goals
    rw [leads_kind]
    split
    · next op hop =>
      exact leads_bind (leads_advance_plain (isPlain_of_relationalOperator hop))
        (leads_pure (joined_assoc ..).symm)
    · exact leads_foldRight pending _

theorem accounts_relational (hg : g.Accounts) : Accounts Tree.literals (relational g) :=
  fun _ _ => leads_pending_loop (leads_relationalStep hg _) g.rounds

theorem accounts_conjunction (hg : g.Accounts) : Accounts Tree.literals (conjunction g) :=
  accounts_leftChain (accounts_leftChain (accounts_leftChain (accounts_leftChain
    (accounts_leftChain (accounts_relational hg) _) _) _) _) _

/-- A step of a repetition that goes from expression to expression. -/
abbrev LeadsTree (step : Tree → Rule (Tree ⊕ Tree)) : Prop :=
  ∀ left s before, Leads (step left) s (joined before left.literals)
    (Sum.elim (fun t => joined before t.literals) fun t => joined before t.literals)

theorem leads_tree_loop {step : Tree → Rule (Tree ⊕ Tree)} (hstep : LeadsTree step) (rounds : Nat)
    (first : Tree) : Leads (loop step rounds first) s (joined before first.literals)
      fun t => joined before t.literals :=
  leads_loop (I := fun _ => True) (fun t : Tree => joined before t.literals)
    (fun t s _ => hstep t s before) (fun _ _ _ _ _ => trivial) rounds trivial

theorem leads_orStep (hg : g.Accounts) : LeadsTree (orStep g) := by
  intro left s before
  unfold orStep
  rw [leads_isMark]
  refine leads_ite (fun hmark => ?_) fun _ => ?_
  · exact leads_bind (leads_advance_plain (isPlain_of_mark hmark))
      (leads_bind (accounts_conjunction hg _ _) (leads_pure (joined_assoc ..).symm))
  · rw [leads_isMark]
    refine leads_ite (fun _ => ?_) fun _ => leads_pure rfl
    rw [leads_here]
    exact leads_bind (leads_complain _ _) (leads_pure rfl)

theorem leads_coalesceStep (hg : g.Accounts) : LeadsTree (coalesceStep g) := by
  intro left s before
  unfold coalesceStep
  rw [leads_isMark]
  refine leads_ite (fun hmark => ?_) fun _ => ?_
  · rw [leads_here]
    refine leads_bind (leads_advance_plain (isPlain_of_mark hmark)) ?_
    rw [leads_isMark]
    refine leads_bind (accounts_conjunction hg _ _) ?_
    exact leads_ite (fun _ => leads_complained _ _ _) fun _ => leads_pure (joined_assoc ..).symm
  · rw [leads_isMark]
    refine leads_ite (fun _ => ?_) fun _ => leads_pure rfl
    rw [leads_here]
    exact leads_bind (leads_complain _ _) (leads_pure rfl)

theorem accounts_disjunction (hg : g.Accounts) : Accounts Tree.literals (disjunction g) := by
  intro s before
  unfold disjunction
  rw [leads_isMark]
  refine leads_bind (accounts_conjunction hg _ _) ?_
  rw [leads_isMark]
  refine leads_ite (fun _ => ?_) fun _ => ?_
  · exact leads_tree_loop (leads_orStep hg) g.rounds _
  · exact leads_tree_loop (leads_coalesceStep hg) g.rounds _

theorem accounts_conditional (hg : g.Accounts) : Accounts Tree.literals (conditional g) := by
  intro s before
  unfold conditional
  refine leads_bind (accounts_disjunction hg _ _) ?_
  rw [leads_isMark]
  exact leads_ite (fun _ => leads_of_drops fun _ => rfl) fun _ => leads_pure rfl

/-! ### Assignments -/

theorem drops_arrow (g : Grammar) (opening : Opening) (earlier : State) (left : Tree) :
    Drops Tree.literals (arrow g opening earlier left) := by
  unfold arrow
  dsimp only
  split
  · exact drops_arrowFunction g _ _
  · refine answers_bind fun s => ?_
    split
    · exact answers_bind fun _ => drops_arrowFunction g _ _
    · exact answers_bind fun _ => answers_bind fun _ => drops_arrowFunction g _ _
  · exact answers_within (answers_bind fun _ => answers_bind fun _ => answers_bind fun _ =>
      drops_arrowFunction g _ _) _ _
  · exact fun _ => rfl

theorem leads_assignTo (hg : g.Accounts) (opening : Opening) (op : String) (left : Tree)
    (hkind : s.token.kind.IsPlain) :
    Leads (assignTo g opening op left) s (joined before left.literals) fun t =>
      joined before t.literals := by
  unfold assignTo
  refine leads_bind (leads_advance_plain hkind) ?_
  dsimp only
  refine leads_ite (fun _ => ?_) fun _ => leads_ite (fun hpattern => ?_) fun _ => ?_
  · exact leads_bind (hg.assignment _ _) (leads_pure (joined_assoc ..).symm)
  · -- what is assigned to in brackets becomes a pattern, which no expression tree holds
    have hdrops : Drops Tree.literals (asAssigned false left) := by
      cases left with
      | array start stop items => exact fun _ => rfl
      | object start stop members => exact fun _ => rfl
      | _ => cases hpattern
    refine leads_of_drops fun s => ?_
    show joined (asAssigned false left s).1.literals _ = none
    rw [hdrops, none_joined]
  · exact leads_of_drops (answers_bind fun _ => drops_fail rfl _ _)

theorem drops_yieldExpression (g : Grammar) : Drops Tree.literals (yieldExpression g) := by
  unfold yieldExpression
  dsimp only
  repeat' first | exact answers_pure rfl | refine answers_bind fun _ => ?_ | split

theorem drops_asyncArrow (g : Grammar) (start : Nat) :
    Drops Tree.literals (asyncArrow g start) := by
  unfold asyncArrow
  refine answers_bind fun _ => answers_bind fun s => answers_within ?_ _ _
  refine answers_bind fun _ => answers_bind fun kind => ?_
  split
  · exact fun _ => rfl
  · exact answers_bind fun _ => drops_arrowFunction g _ _

theorem accounts_assignmentFrom (hg : g.Accounts) (earlier : State) (opening : Opening) :
    Accounts Tree.literals (assignmentFrom g earlier opening) := by
  intro s before
  unfold assignmentFrom
  refine leads_bind (accounts_conditional hg _ _) ?_
  rw [leads_kind]
  split
  · exact leads_of_drops (drops_arrow g _ _ _)
  · next text hkind =>
    split
    · exact leads_assignTo hg _ _ _ (isPlain_of_mark (beq_iff_eq.2 hkind))
    · exact leads_pure rfl
  · exact leads_pure rfl

theorem accounts_assignment (hg : g.Accounts) : Accounts Tree.literals (assignment g) := by
  intro s before
  unfold assignment
  rw [leads_get]
  split
  · exact accounts_assignmentFrom hg _ _ s before
  · refine leads_bind leads_peek (leads_ite (fun _ => ?_) fun _ => ?_)
    · exact leads_of_drops (drops_asyncArrow g _)
    · exact accounts_assignmentFrom hg _ _ _ _
  · refine leads_ite (fun _ => leads_of_drops (drops_yieldExpression g)) fun _ => ?_
    exact leads_bind leads_wordToName (accounts_assignmentFrom hg _ _ _ _)

/-! ### Statements -/

theorem leads_endOfExpression : Leads endOfExpression s before fun _ => before := by
  unfold endOfExpression
  rw [leads_isMark]
  refine leads_ite (fun hmark => leads_advance_plain (isPlain_of_mark hmark)) fun _ => ?_
  rw [leads_get]
  refine leads_ite (fun _ => leads_forgetLine) fun _ => ?_
  rw [leads_atEnd, leads_isMark]
  refine leads_ite (fun _ => ?_) fun _ => leads_pure rfl
  exact leads_bind (leads_expectMark ";") (leads_pure rfl)

section DroppedStatements

variable (g : Grammar) (start : Nat)

theorem drops_lexicalDeclaration (word : String) :
    Drops Statement.literals (lexicalDeclaration g word) := by
  unfold lexicalDeclaration
  dsimp only
  repeat' first | exact answers_pure rfl | refine answers_bind fun _ => ?_ | split

theorem drops_ifStatement : Drops Statement.literals (ifStatement g) := by
  unfold ifStatement
  dsimp only
  repeat' first | exact answers_pure rfl | refine answers_bind fun _ => ?_ | split

theorem drops_doStatement : Drops Statement.literals (doStatement g) := by
  unfold doStatement
  dsimp only
  repeat' first | exact answers_pure rfl | refine answers_bind fun _ => ?_ | split

theorem drops_loopRest (form : LoopForm) : Drops Statement.literals (loopRest g start form) := by
  unfold loopRest
  dsimp only
  repeat' first | exact answers_pure rfl | refine answers_bind fun _ => ?_ | split

theorem drops_forStatement : Drops Statement.literals (forStatement g) := by
  unfold forStatement
  dsimp only
  repeat' first
    | exact answers_pure rfl
    | exact drops_loopRest g _ _
    | refine answers_bind fun _ => ?_
    | split

theorem drops_labelledJump (word : String) (illegal : Complaint) :
    Drops Statement.literals (labelledJump word illegal start) := by
  unfold labelledJump
  dsimp only
  repeat' first
    | exact answers_pure rfl
    | exact drops_fail rfl _ _
    | refine answers_bind fun _ => ?_
    | split

theorem drops_jumpStatement (word : String) (illegal : Complaint)
    (allowed : Scope → Bool) : Drops Statement.literals (jumpStatement word illegal allowed) := by
  unfold jumpStatement
  dsimp only
  repeat' first
    | exact answers_pure rfl
    | exact drops_fail rfl _ _
    | exact drops_labelledJump _ _ _
    | refine answers_bind fun _ => ?_
    | split

theorem drops_returnStatement : Drops Statement.literals (returnStatement g) := by
  unfold returnStatement
  dsimp only
  repeat' first
    | exact answers_pure rfl
    | exact drops_fail rfl _ _
    | refine answers_bind fun _ => ?_
    | split

theorem drops_throwStatement : Drops Statement.literals (throwStatement g) := by
  unfold throwStatement
  repeat' first
    | exact answers_pure rfl
    | exact drops_fail rfl _ _
    | refine answers_bind fun _ => ?_
    | split

theorem drops_tryStatement : Drops Statement.literals (tryStatement g) := by
  unfold tryStatement
  dsimp only
  repeat' first | exact answers_pure rfl | refine answers_bind fun _ => ?_ | split

theorem drops_labelledStatement (label : String) :
    Drops Statement.literals (labelledStatement g start label) := by
  unfold labelledStatement
  repeat' first | exact answers_pure rfl | refine answers_bind fun _ => ?_ | split

end DroppedStatements

theorem accounts_expressionStatement (hg : g.Accounts) :
    Accounts Statement.literals (expressionStatement g) := by
  intro s before
  unfold expressionStatement
  refine leads_bind (accounts_expression hg _ _) ?_
  rw [leads_isMark]
  split
  · exact leads_of_drops (drops_labelledStatement g _ _)
  · exact leads_bind leads_endOfExpression (leads_pure rfl)

theorem accounts_statement (hg : g.Accounts) : Accounts Statement.literals (statement g) := by
  intro s before
  have hexpression (s : State) := accounts_expressionStatement hg s before
  unfold statement
  rw [leads_get]
  dsimp only
  split
  · exact leads_of_drops fun _ => rfl
  · next hkind =>
    have hplain := isPlain_of_mark (beq_iff_eq.2 hkind)
    exact leads_bind (leads_advance_plain hplain) (leads_pure (joined_nil _))
  · exact leads_of_drops fun _ => rfl
  · exact leads_of_drops (drops_ifStatement g)
  · exact leads_of_drops (drops_doStatement g)
  · exact leads_of_drops fun _ => rfl
  · exact leads_of_drops (drops_forStatement g)
  · exact leads_of_drops (drops_jumpStatement _ _ _)
  · exact leads_of_drops (drops_jumpStatement _ _ _)
  · exact leads_of_drops fun _ => rfl
  · exact leads_of_drops fun _ => rfl
  · exact leads_of_drops fun _ => rfl
  · exact leads_of_drops (drops_lexicalDeclaration g _)
  · refine leads_bind leads_peek (leads_ite (fun _ => ?_) fun _ => ?_)
    · exact leads_of_drops (drops_lexicalDeclaration g _)
    · exact leads_bind leads_mayEnd (hexpression _)
  · refine leads_bind leads_peek (leads_ite (fun _ => ?_) fun _ => hexpression _)
    exact leads_of_drops fun _ => rfl
  · exact leads_of_drops fun _ => rfl
  · exact leads_of_drops fun _ => rfl
  · exact leads_of_drops fun _ => rfl
  · exact leads_of_drops (drops_returnStatement g)
  · exact leads_of_drops (drops_throwStatement g)
  · exact leads_of_drops (drops_tryStatement g)
  · exact hexpression s

end Rules

/-! ### Whole scripts -/

/-- **Every rule of the grammar accounts for what it passes over**, whatever the depth of calls. -/
theorem grammar_accounts (rounds depth : Nat) : (grammar rounds depth).Accounts := by
  induction depth with
  | zero =>
      exact ⟨fun _ _ => leads_exhausted, fun _ _ => leads_exhausted, fun _ _ => leads_exhausted⟩
  | succ depth ih => exact ⟨accounts_assignment ih, accounts_unary ih, accounts_statement ih⟩

theorem leads_scriptStep {g : Grammar} (hg : g.Accounts) (body : List Statement) (s : State) :
    Leads (scriptStep g body) s (bodyLiterals body.reverse)
      (Sum.elim (fun body => bodyLiterals body.reverse) fun body => bodyLiterals body.reverse) := by
  unfold scriptStep
  rw [leads_atEnd]
  refine leads_ite (fun _ => leads_pure rfl) fun _ => leads_bind (leads_allowLet true) ?_
  exact leads_bind (hg.statement _ _) (leads_pure (by simp))

/-- A repetition that is not exhausted ends as its last step does. -/
theorem loop_ends {σ β : Type} [Inhabited β] {step : σ → Rule (σ ⊕ β)} {P : State → Prop}
    (hstep : ∀ x s b, (step x s).1 = .inr b → P (step x s).2) (rounds : Nat) {x : σ} {s : State}
    (hnone : (loop step rounds x s).2.noted = none) : P (loop step rounds x s).2 := by
  induction rounds generalizing x s with
  | zero => exact absurd hnone (or_some_ne_none _ _)
  | succ rounds ih =>
      cases hresult : (step x s).1 with
      | inl y =>
          rw [loop_inl (Prod.ext hresult rfl)] at hnone ⊢
          exact ih hnone
      | inr b =>
          rw [loop_inr (Prod.ext hresult rfl)]
          exact hstep x s b hresult

theorem scriptStep_ends {g : Grammar} {body body' : List Statement} {s : State}
    (h : (scriptStep g body s).1 = .inr body') :
    (scriptStep g body s).2.token.kind = .endOfInput := by
  rw [scriptStep, bind_apply, atEnd_apply, Rule.ite_apply] at h ⊢
  split at h
  · next hend =>
    rw [if_pos hend]
    exact eq_of_beq hend
  · cases h

/-- **The literals of what is read are the number literals of the source**, in order, where all of
it has an expression tree. -/
theorem literals_of_read {src : String} {body : List Statement} {ls : Literals}
    (hread : read src = .ok body) (hliterals : bodyLiterals body = some ls) :
    ∃ ts, TokensFrom (.start src) ts ∧
      (numberLiterals ts).map (fun literal => (literal, literalValue literal)) = ls := by
  unfold read at hread
  dsimp only at hread
  generalize 2 * src.length + 16 = limit at hread
  have hg : (grammar limit limit).Accounts := grammar_accounts limit limit
  generalize grammar limit limit = g at hread hg
  let first := (advance (State.start src)).2
  let last := loop (scriptStep g) g.rounds [] first
  have hrun : (script g).run (State.start src) = (last.1.reverse, last.2) := rfl
  rw [hrun] at hread
  dsimp only at hread
  cases hnoted : last.2.noted with
  | some fault =>
      rw [hnoted] at hread
      cases hread
  | none =>
      rw [hnoted] at hread
      cases hread
      have hloop : Leads (loop (scriptStep g) g.rounds []) first (some []) fun body =>
          bodyLiterals body.reverse :=
        leads_loop (I := fun _ => True) _ (fun body s _ => leads_scriptStep hg body s)
          (fun _ _ _ _ _ => trivial) g.rounds trivial
      have hend : last.2.token.kind = .endOfInput :=
        loop_ends (P := fun s => s.token.kind = .endOfInput) (fun _ _ _ => scriptStep_ends)
          g.rounds hnoted
      obtain ⟨-, _, rest, hnil, hahead, rfl⟩ :=
        hloop ls ⟨hnoted, ls, [], hliterals, .done hend, List.append_nil ls⟩
      cases hnil
      exact hahead.of_advance

end DocQuery.Script
