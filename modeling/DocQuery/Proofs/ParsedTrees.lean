import DocQuery.Proofs.LiteralOrder
import DocQuery.Proofs.RadixLiterals
import DocQuery.Proofs.TreeCodec
import DocQuery.Proofs.TreeRoundTrip
import DocQuery.Proofs.Walking

/-!
# DocQuery.Proofs.ParsedTrees

**A tree that a source is parsed to is well formed** (`parsed_tree_wellFormed`): it is a program of
statements, none of its nodes is missing, no call lacks its callee, every prefix operator is one of
the four and every number is a number of JSON. Where such a tree cannot be compiled, the reason is
never that it is built wrongly (`spares_toDocument`).

Its numbers are the number literals of the source, one for one and in their order
(`becomes_of_parse`). Each is its literal where that is a number of JSON, and the value in decimal
where it is an integer in another base.
-/

namespace DocQuery

open Compile

/-! ### Failures that are about how a tree is built -/

/-- Whether a failure is about how a tree is built and not about what it says: a missing node, a
call without a callee, a prefix operator that is none of the four, or a number literal that is no
number. -/
def Cause.isStructural : Cause → Bool
  | .unsupportedNode _ => true
  | .emptyTree => true
  | .invalidNumber _ => true
  | .emptySequenceMember => true
  | .badUnaryOperand op _ _ => !op.isKnown
  | .sequenceUnary op => !op.isKnown
  | _ => false

/-- A computation that fails, if it does, for what a tree says. -/
def Spares {α : Type} (x : Except Cause α) : Prop := ∀ c, x = .error c → c.isStructural = false

namespace Spares

variable {α β : Type} {c : Cause}

theorem ok (a : α) : Spares (.ok a : Except Cause α) := fun _ h => by cases h

theorem error (h : c.isStructural = false) : Spares (.error c : Except Cause α) := by
  intro c' hc
  cases hc
  exact h

theorem bind {x : Except Cause α} {f : α → Except Cause β} (hx : Spares x)
    (hf : ∀ a, Spares (f a)) : Spares (x >>= f) := by
  intro c hc
  rcases bind_eq_error_iff.1 hc with h | ⟨a, -, h⟩
  · exact hx c h
  · exact hf a c h

theorem mapM {f : α → Except Cause β} {as : List α} (hf : ∀ a ∈ as, Spares (f a)) :
    Spares (as.mapM f) := by
  intro c hc
  obtain ⟨a, ha, h⟩ := exists_error_of_mapM hc
  exact hf a ha c h

theorem foldlM {f : β → α → Except Cause β} {as : List α} (hf : ∀ a ∈ as, ∀ b, Spares (f b a))
    (b : β) : Spares (as.foldlM f b) := by
  induction as generalizing b with
  | nil => exact ok b
  | cons a as ih =>
      rw [List.forall_mem_cons] at hf
      rw [List.foldlM_cons]
      exact bind (hf.1 b) (ih hf.2)

end Spares

/-! ### The rules of the compiler -/

variable {t : Tables}

theorem spares_program (fs : List Fragment) : Spares (program fs) := by
  unfold program
  split
  · exact .error rfl
  · exact .ok _
  · exact .error rfl

theorem spares_member (property : String) (f : Fragment) : Spares (Compile.member property f) := by
  unfold Compile.member
  split
  · exact .ok _
  · exact .error rfl

theorem spares_lookupOperator (token : String) : Spares (lookupOperator t token) := by
  unfold lookupOperator
  split
  · exact .error rfl
  · split
    · exact .ok _
    · exact .error rfl

theorem spares_asCondition (token : String) (f : Fragment) : Spares (asCondition token f) := by
  unfold asCondition
  split
  · exact .ok _
  · exact .error rfl

theorem spares_asValue (subject : String) (i : Nat) (f : Fragment) :
    Spares (asValue subject i f) := by
  unfold asValue
  split
  · exact .ok _
  · exact .error rfl

theorem spares_asValues (subject : String) (i : Nat) (fs : List Fragment) :
    Spares (asValues subject i fs) := by
  induction fs generalizing i with
  | nil => exact .ok _
  | cons f fs ih => exact .bind (spares_asValue subject i f) fun _ => .bind (ih _) fun _ => .ok _

theorem spares_comparison (token target : String) (l r : Fragment) :
    Spares (comparison token target l r) := by
  unfold comparison
  split
  · exact .ok _
  · exact .error rfl
  · exact .ok _
  · exact .error rfl
  · exact .error rfl

theorem spares_binary (token : String) (l r : Fragment) : Spares (Compile.binary t token l r) := by
  refine .bind (spares_lookupOperator token) fun op => ?_
  split
  · exact .bind (spares_asCondition token l) fun _ => .bind (spares_asCondition token r) fun _ =>
      .ok _
  · exact spares_comparison token op.target l r

theorem spares_unary {op : UnaryOp} (hop : op.isKnown = true) (f : Fragment) :
    Spares (Compile.unary op f) := by
  have hbad (wanted : String) : (Cause.badUnaryOperand op f wanted).isStructural = false := by
    rw [Cause.isStructural, hop]
    rfl
  unfold Compile.unary
  split
  · exact .ok _
  · exact .error (hbad _)
  · exact .ok _
  · exact .ok _
  · exact .ok _
  · cases hop
  · exact .error (hbad _)

theorem spares_methodOperand (m : Method) (fs : List Fragment) : Spares (methodOperand m fs) := by
  unfold methodOperand
  split
  · exact .bind (spares_asValues _ _ _) fun _ => .ok _
  · split
    · exact .ok _
    · exact .bind (spares_asValue _ _ _) fun _ => .ok _
  · split
    · exact .error rfl
    · exact .bind (spares_asValue _ _ _) fun _ => .ok _
    · exact .bind (spares_asValue _ _ _) fun _ => .bind (spares_asValue _ _ _) fun _ => .ok _
  · split
    · exact .ok _
    · exact .error rfl
    · exact .error rfl
  · exact .error rfl

theorem spares_call (name : String) (f : Fragment) (fs : List Fragment) :
    Spares (Compile.call t name f fs) := by
  unfold Compile.call
  split
  · exact .error rfl
  · split
    · exact .bind (spares_methodOperand _ _) fun _ => .ok _
    · exact .error rfl

theorem spares_assign (op : String) (target value : Fragment) :
    Spares (Compile.assign op target value) := by
  have hgroup : Spares (assignGroup op) := by
    unfold assignGroup
    split
    · exact .ok _
    · split
      · exact .ok _
      · exact .error rfl
  refine .bind hgroup fun group => ?_
  split
  · split
    · split
      · exact .error rfl
      · exact .ok _
    · exact .error rfl
  · exact .error rfl

theorem spares_merge (b : UpdateBuilder) (u : Update) : Spares (b.merge u) := by
  have hwrite (b : UpdateBuilder) (group field : String) (value : Value) :
      Spares (b.write group field value) := by
    unfold UpdateBuilder.write
    split
    · exact .error rfl
    · exact .ok _
  have hall (b : UpdateBuilder) (group : String) (fields : Document) :
      Spares (b.writeAll group fields) := by
    induction fields generalizing b with
    | nil => exact .ok _
    | cons pair fields ih => exact .bind (hwrite b group pair.1 pair.2) ih
  induction u generalizing b with
  | nil => exact .ok _
  | cons pair u ih => exact .bind (hall b pair.1 pair.2) ih

theorem spares_addMember (b : UpdateBuilder) (member : Expr) (f : Fragment) :
    Spares (addMember b member f) := by
  unfold addMember
  split
  · exact spares_merge b _
  · exact .error rfl

/-! ### Well-formed nodes -/

namespace Expr

/-- **A well-formed node**: it is there, it has a callee if it is a call, its prefix operator is one
of the four, and its number is a number of JSON. -/
structure WellFormed (x : Expr) : Prop where
  /-- The node is not missing. -/
  present : x ≠ .hole
  /-- A call has a callee. -/
  callee : ∀ args, x ≠ .detachedCall args
  /-- A prefix operator is one of the four. -/
  operator : ∀ op operand, x = .unary op operand → op ∈ UnaryOp.all
  /-- A number literal is a number of JSON. -/
  number : ∀ text, x = .number text → Json.NumberText text.toList

theorem WellFormed.isKnown {op : UnaryOp} {operand : Expr} (h : (unary op operand).WellFormed) :
    op.isKnown = true := by
  have hknown : ∀ op ∈ UnaryOp.all, op.isKnown = true := by decide
  exact hknown op (h.operator op operand rfl)

theorem spares_checkSequenceMember {e : Expr} (h : e.WellFormed) :
    Spares (checkSequenceMember e) := by
  cases e with
  | hole => exact absurd rfl h.present
  | unary op operand =>
      cases op with
      | other code => cases h.isKnown
      | delete => exact .ok _
      | increment => exact .ok _
      | _ => exact .error rfl
  | assign op target value => exact .ok _
  | _ => exact .error rfl

/-- **A well-formed tree fails, if it does, for what it says.** -/
theorem spares_compile {e : Expr} (h : ∀ x, e.Contains x → x.WellFormed) :
    Spares (e.compile t) := by
  -- parts are children and leaves of chains
  have smaller {p : Expr} (hp : e.Contains p) (hlt : sizeOf p < sizeOf e) :
      Spares (p.compile t) :=
    spares_compile fun x hx => h x (hp.trans hx)
  have child {p : Expr} (hp : p ∈ e.children) : Spares (p.compile t) :=
    smaller (.of_child hp) (sizeOf_lt_of_mem_children hp)
  have all {ps : List Expr} (hps : ∀ p ∈ ps, p ∈ e.children) : Spares (compileAll t ps) := by
    rw [compileAll_eq_mapM]
    exact .mapM fun p hp => child (hps p hp)
  have hroot := h e .root
  cases e with
  | hole => exact absurd rfl hroot.present
  | program body =>
      rw [Expr.compile]
      exact .bind (all fun _ hp => hp) spares_program
  | statement inner =>
      rw [Expr.compile]
      exact child (List.mem_singleton_self inner)
  | string value =>
      rw [Expr.compile]
      exact .ok _
  | number literal =>
      have hnumber : Decimal.isNumber literal = true :=
        (Json.isNumberChars_iff _).2 (hroot.number literal rfl)
      rw [Expr.compile, if_pos hnumber]
      exact .ok _
  | bool value =>
      rw [Expr.compile]
      exact .ok _
  | null =>
      rw [Expr.compile]
      exact .ok _
  | identifier name =>
      rw [Expr.compile]
      exact .ok _
  | member base property =>
      rw [Expr.compile]
      exact .bind (child (List.mem_singleton_self base)) (spares_member property)
  | binary token l r =>
      by_cases htoken : token = Expr.andToken
      · rw [htoken] at h child smaller ⊢
        rw [compile_and]
        refine .bind (spares_lookupOperator _) fun _ => .bind (.mapM fun leaf hleaf => ?_) fun _ =>
          .ok _
        rw [← andLeaves_binary] at hleaf
        exact .bind (smaller (contains_of_mem_andLeaves hleaf)
          (sizeOf_lt_of_mem_andLeaves rfl hleaf)) (spares_asCondition _)
      · rw [compile_binary htoken]
        exact .bind (child (List.mem_cons_self ..)) fun _ => .bind (child (by simp [children]))
          (spares_binary token _)
  | unary op operand =>
      rw [Expr.compile]
      exact .bind (child (List.mem_singleton_self operand)) (spares_unary hroot.isKnown)
  | array elements =>
      rw [Expr.compile]
      exact .bind (all fun _ hp => hp) fun _ => .bind (spares_asValues _ _ _) fun _ => .ok _
  | call field name args =>
      rw [Expr.compile]
      exact .bind (child (List.mem_cons_self ..)) fun _ =>
        .bind (all fun _ hp => List.mem_cons_of_mem _ hp) (spares_call name _)
  | detachedCall args => exact absurd rfl (hroot.callee args)
  | assign op target value =>
      rw [Expr.compile]
      exact .bind (child (List.mem_cons_self ..)) fun _ => .bind (child (by simp [children]))
        (spares_assign op _)
  | sequence l r =>
      rw [compile_sequence]
      refine .bind (.foldlM (fun leaf hleaf b => ?_) _) fun _ => .ok _
      have hcontains := contains_of_mem_sequenceLeaves hleaf
      exact .bind (spares_checkSequenceMember (h leaf hcontains)) fun _ =>
        .bind (smaller hcontains (sizeOf_lt_of_mem_sequenceLeaves hleaf))
          (spares_addMember b leaf)
termination_by sizeOf e

theorem spares_toDocument {e : Expr} (h : ∀ x, e.Contains x → x.WellFormed) :
    Spares (e.toDocument t) := by
  have hpresent := (h e .root).present
  unfold toDocument
  split
  · exact absurd rfl hpresent
  · refine .bind (spares_compile h) fun f => ?_
    split
    · exact .ok _
    · exact .ok _
    · exact .error rfl

end Expr

/-! ### Numbers of converted expressions -/

namespace Expr

/-- The number literal that a node is, if it is one. -/
def number? : Expr → Option String
  | .number literal => some literal
  | _ => none

/-- The number literals of a tree from left to right. -/
def numbers (e : Expr) : List String := e.postorder.filterMap number?

theorem numbers_eq (e : Expr) : e.numbers = e.children.flatMap numbers ++ e.number?.toList := by
  rw [numbers, postorder_eq, List.filterMap_append, List.filterMap_flatMap]
  rfl

theorem mem_numbers_iff {e : Expr} {text : String} :
    text ∈ e.numbers ↔ e.Contains (.number text) := by
  constructor
  · intro h
    obtain ⟨n, hn, htext⟩ := List.mem_filterMap.1 h
    cases n with
    | number literal =>
        cases htext
        exact contains_of_mem_postorder hn
    | _ => cases htext
  · exact fun h => List.mem_filterMap.2 ⟨_, mem_postorder_of_contains h, rfl⟩

theorem numbers_chain {es : List Expr} (hne : es ≠ []) :
    (chain es).numbers = es.flatMap numbers := by
  induction es with
  | nil => exact absurd rfl hne
  | cons e rest ih =>
      cases rest with
      | nil => rw [chain, List.flatMap_singleton]
      | cons next rest =>
          rw [chain, numbers_eq]
          · simp [children, number?, ih (List.cons_ne_nil next rest)]
          · exact List.cons_ne_nil next rest

end Expr

namespace Script

/-- The literals of a construct become these texts, one for one. -/
def Becomes (literals : Option Literals) (texts : List String) : Prop :=
  ∃ ls, literals = some ls ∧
    List.Forall₂ (fun literal text => numberText? literal.1 literal.2 = some text) ls texts

theorem becomes_nil : Becomes (some []) [] := ⟨[], rfl, .nil⟩

theorem Becomes.append {a b : Option Literals} {as bs : List String} (ha : Becomes a as)
    (hb : Becomes b bs) : Becomes (joined a b) (as ++ bs) := by
  obtain ⟨ls, rfl, hls⟩ := ha
  obtain ⟨ms, rfl, hms⟩ := hb
  exact ⟨ls ++ ms, rfl, List.rel_append hls hms⟩

mutual

/-- **The number literals of an expression become the numbers of its tree.** -/
theorem becomes_toExpr : (t : Tree) → {e : Expr} → t.toExpr = .ok e → Becomes t.literals e.numbers
  | .string _ _ _, _, h => by
      cases h
      rw [Expr.numbers_eq]
      exact becomes_nil
  | .number _ literal value, _, h => by
      rw [Tree.toExpr] at h
      split at h
      · next text htext =>
        cases h
        rw [Expr.numbers_eq]
        exact ⟨_, rfl, .cons htext .nil⟩
      · cases h
  | .bool _ _, _, h => by
      cases h
      rw [Expr.numbers_eq]
      exact becomes_nil
  | .null _, _, h => by
      cases h
      rw [Expr.numbers_eq]
      exact becomes_nil
  | .identifier _ _, _, h => by
      cases h
      rw [Expr.numbers_eq]
      exact becomes_nil
  | .dot base _ _, _, h => by
      rw [Tree.toExpr] at h
      obtain ⟨b, hb, h⟩ := bind_eq_ok_iff.1 h
      cases h
      rw [Expr.numbers_eq]
      simpa [Expr.children, Expr.number?] using becomes_toExpr base hb
  | .binary _ left right, _, h => by
      rw [Tree.toExpr] at h
      obtain ⟨l, hl, h⟩ := bind_eq_ok_iff.1 h
      obtain ⟨r, hr, h⟩ := bind_eq_ok_iff.1 h
      cases h
      rw [Expr.numbers_eq]
      simpa [Expr.children, Expr.number?] using
        (becomes_toExpr left hl).append (becomes_toExpr right hr)
  | .unary _ op operand, _, h => by
      rw [Tree.toExpr] at h
      split at h
      · obtain ⟨x, hx, h⟩ := bind_eq_ok_iff.1 h
        cases h
        rw [Expr.numbers_eq]
        simpa [Expr.children, Expr.number?] using becomes_toExpr operand hx
      · cases h
  | .suffixed _ _, _, h => by rw [Tree.toExpr] at h; cases h
  | .array start _ items, _, h => by
      rw [Tree.toExpr] at h
      obtain ⟨es, hes, h⟩ := bind_eq_ok_iff.1 h
      cases h
      rw [Expr.numbers_eq]
      simpa [Expr.children, Expr.number?] using becomes_itemsToExprs start items hes
  | .elision, _, h => by cases h
  | .call callee args _, _, h => by
      cases callee with
      | dot base method stop =>
          rw [Tree.toExpr] at h
          obtain ⟨f, hf, h⟩ := bind_eq_ok_iff.1 h
          obtain ⟨es, hes, h⟩ := bind_eq_ok_iff.1 h
          cases h
          rw [Expr.numbers_eq]
          simpa [Expr.children, Expr.number?] using
            (becomes_toExpr base hf).append (becomes_argsToExprs args hes)
      | _ => cases h
  | .assign _ target value, _, h => by
      rw [Tree.toExpr] at h
      obtain ⟨l, hl, h⟩ := bind_eq_ok_iff.1 h
      obtain ⟨r, hr, h⟩ := bind_eq_ok_iff.1 h
      cases h
      rw [Expr.numbers_eq]
      simpa [Expr.children, Expr.number?] using
        (becomes_toExpr target hl).append (becomes_toExpr value hr)
  | .sequence [], _, h => by rw [Tree.toExpr] at h; cases h
  | .sequence (first :: rest), _, h => by
      rw [Tree.toExpr] at h
      · obtain ⟨es, hes, h⟩ := bind_eq_ok_iff.1 h
        cases h
        have hne : es ≠ [] := by
          rintro rfl
          rw [argsToExprs] at hes
          obtain ⟨e, -, hes⟩ := bind_eq_ok_iff.1 hes
          obtain ⟨tail, -, hes⟩ := bind_eq_ok_iff.1 hes
          cases hes
        rw [Expr.numbers_chain hne]
        exact becomes_argsToExprs (first :: rest) hes
      · simp
  | .spread _, _, h => by cases h
  | .object _ _ _, _, h => by cases h
  | .arrayPattern _ _ _, _, h => by cases h
  | .objectPattern _ _ _, _, h => by cases h
  | .other _ _ _ _, _, h => by cases h
  | .bad, _, h => by cases h

theorem becomes_itemsToExprs (start : Nat) : (items : List Tree) → {es : List Expr} →
    itemsToExprs start items = .ok es → Becomes (allLiterals items) (es.flatMap Expr.numbers)
  | [], _, h => by
      cases h
      exact becomes_nil
  | t :: rest, _, h => by
      by_cases hgap : t = .elision
      · rw [hgap, itemsToExprs] at h
        cases h
      · rw [itemsToExprs] at h
        · obtain ⟨e, he, h⟩ := bind_eq_ok_iff.1 h
          obtain ⟨tail, htail, h⟩ := bind_eq_ok_iff.1 h
          cases h
          exact (becomes_toExpr t he).append (becomes_itemsToExprs start rest htail)
        · exact hgap

theorem becomes_argsToExprs : (args : List Tree) → {es : List Expr} →
    argsToExprs args = .ok es → Becomes (allLiterals args) (es.flatMap Expr.numbers)
  | [], _, h => by
      cases h
      exact becomes_nil
  | t :: rest, _, h => by
      rw [argsToExprs] at h
      obtain ⟨e, he, h⟩ := bind_eq_ok_iff.1 h
      obtain ⟨tail, htail, h⟩ := bind_eq_ok_iff.1 h
      cases h
      exact (becomes_toExpr t he).append (becomes_argsToExprs rest htail)

end

theorem becomes_toProgram : (body : List Statement) → {es : List Expr} →
    toProgram body = .ok es → (∀ e ∈ es, ∃ inner, e = .statement inner) ∧
      Becomes (bodyLiterals body) (es.flatMap Expr.numbers)
  | [], _, h => by
      cases h
      exact ⟨List.forall_mem_nil _, becomes_nil⟩
  | .empty :: rest, _, h => by
      rw [bodyLiterals, Statement.literals, nil_joined]
      exact becomes_toProgram rest h
  | .expression tree :: rest, _, h => by
      rw [toProgram] at h
      obtain ⟨e, he, h⟩ := bind_eq_ok_iff.1 h
      obtain ⟨tail, htail, h⟩ := bind_eq_ok_iff.1 h
      cases h
      obtain ⟨hall, hrest⟩ := becomes_toProgram rest htail
      have hstatement : (Expr.statement e).numbers = e.numbers := by
        rw [Expr.numbers_eq]
        simp [Expr.children, Expr.number?]
      refine ⟨List.forall_mem_cons.2 ⟨⟨e, rfl⟩, hall⟩, ?_⟩
      rw [List.flatMap_cons, hstatement]
      exact (becomes_toExpr tree he).append hrest
  | .other _ _ :: _, _, h => by cases h
  | .bad :: _, _, h => by cases h

/-- **The number literals of a source become the numbers of what it is parsed to**, which is a
program of statements. -/
theorem becomes_of_parse {src : String} {e : Expr} (h : parse src = .ok e) :
    (∃ statements, e = .program statements ∧ ∀ st ∈ statements, ∃ inner, st = .statement inner) ∧
      ∃ ts, TokensFrom (.start src) ts ∧ List.Forall₂
        (fun literal text => numberText? literal (literalValue literal) = some text)
        (numberLiterals ts) e.numbers := by
  unfold parse at h
  split at h
  · cases h
  · next body hread =>
    split at h
    · cases h
    · next statements hstatements =>
      cases h
      obtain ⟨hall, ls, hls, hforall⟩ := becomes_toProgram body hstatements
      obtain ⟨ts, hts, rfl⟩ := literals_of_read hread hls
      refine ⟨⟨statements, rfl, hall⟩, ts, hts, ?_⟩
      have hnumbers : (Expr.program statements).numbers = statements.flatMap Expr.numbers := by
        rw [Expr.numbers_eq]
        simp [Expr.children, Expr.number?]
      rw [hnumbers]
      exact List.forall₂_map_left_iff.1 hforall

theorem wellFormed_of_parse {src : String} {e : Expr} (h : parse src = .ok e) :
    ∀ x, e.Contains x → x.WellFormed := by
  intro x hx
  obtain ⟨hpresent, hregular⟩ := (Expr.isComplete_iff e).1 (isComplete_of_parse h) x hx
  obtain ⟨-, ts, -, hnumbers⟩ := becomes_of_parse h
  refine ⟨?_, ?_, ?_, ?_⟩
  · intro heq
    rw [heq] at hpresent
    cases hpresent
  · intro args heq
    rw [heq] at hpresent
    cases hpresent
  · intro op operand heq
    rw [heq] at hregular
    exact Expr.isKnown_iff.1 hregular
  · intro text heq
    rw [heq] at hx
    have hall := (List.forall₂_and_left _ _).1 <|
      hnumbers.flip.imp fun _ _ htext => ⟨isNumber_of_numberText? htext, htext⟩
    exact (Json.isNumberChars_iff _).1 (hall.1 text (Expr.mem_numbers_iff.2 hx))

end Script

/-! ### Parsed trees -/

/-- **A parsed tree is well formed.** It is a program of statements, and each of its nodes is well
formed, so that it never fails to compile for how it is built. Its numbers from left to right are
what the number literals of the source, in their order, are worth: the literal itself where it is a
number of JSON already, and the value in decimal where the literal is hexadecimal, octal or binary
and fits into 64 signed bits. -/
theorem parsed_tree_wellFormed {src : String} {e : Expr} (h : Script.parse src = .ok e) :
    (∃ statements, e = .program statements ∧ ∀ st ∈ statements, ∃ inner, st = .statement inner) ∧
      (∀ x, e.Contains x → x.WellFormed) ∧
      (∀ t failure, Query.compileTree t e = .error failure →
        ∃ c, failure = .rejected c.diagnostic ∧ e.toDocument t = .error c ∧
          c.isStructural = false) ∧
      ∃ tokens, Script.TokensFrom (.start src) tokens ∧ List.Forall₂
        (fun literal text =>
          Script.numberText? literal (Script.literalValue literal) = some text ∧
          (Json.NumberText literal.toList → text = literal) ∧
          ∀ n < 2 ^ 63, Script.Spells literal.toList n → text = toString n)
        (Script.numberLiterals tokens) e.numbers := by
  obtain ⟨hprogram, tokens, htokens, hnumbers⟩ := Script.becomes_of_parse h
  have hwellFormed := Script.wellFormed_of_parse h
  refine ⟨hprogram, hwellFormed, ?_, tokens, htokens, hnumbers.imp ?_⟩
  · intro t failure hfailure
    unfold Query.compileTree at hfailure
    cases hdocument : e.toDocument t with
    | ok d =>
        rw [hdocument] at hfailure
        cases hfailure
    | error c =>
        rw [hdocument] at hfailure
        cases hfailure
        exact ⟨c, rfl, rfl, Expr.spares_toDocument hwellFormed c hdocument⟩
  · intro literal text htext
    refine ⟨htext, ?_, ?_⟩
    · intro hnumber
      have hnumber : Decimal.isNumber literal = true := (Json.isNumberChars_iff _).2 hnumber
      unfold Script.numberText? at htext
      rw [if_pos hnumber] at htext
      exact (Option.some.inj htext).symm
    · intro n hfits hspells
      rw [Script.literalValue, Script.numberText?_of_spells hspells hfits] at htext
      exact (Option.some.inj htext).symm

/-- A comparison with a hexadecimal number, which has an underscore among its digits. -/
theorem hexadecimal_comparison_wellFormed :
    ∃ e, Script.parse "a == 0x1_F" = .ok e ∧ (∀ x, e.Contains x → x.WellFormed) ∧
      e.Contains (.number "31") := by
  have hleaf : ((Script.parse "a == 0x1_F").toOption.any fun e =>
      ((e.children.flatMap Expr.children).flatMap Expr.children).any fun x =>
        x.kind = .number ∧ x.texts = ["31"]) = true := by
    decide +kernel
  cases hparse : Script.parse "a == 0x1_F" with
  | error fault =>
      rw [hparse] at hleaf
      cases hleaf
  | ok e =>
      rw [hparse] at hleaf
      obtain ⟨x, hx, hnumber⟩ := List.any_eq_true.1 hleaf
      obtain ⟨hkind, htexts⟩ := of_decide_eq_true hnumber
      obtain ⟨comparison, hcomparison, hx⟩ := List.mem_flatMap.1 hx
      obtain ⟨statement, hstatement, hcomparison⟩ := List.mem_flatMap.1 hcomparison
      have hcontains : e.Contains x :=
        .child hstatement (.child hcomparison (.of_child hx))
      cases x with
      | number text =>
          obtain rfl : text = "31" := List.head_eq_of_cons_eq htexts
          exact ⟨e, rfl, (parsed_tree_wellFormed hparse).2.1, hcontains⟩
      | _ => cases hkind

end DocQuery
