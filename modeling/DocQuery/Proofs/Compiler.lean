import DocQuery.Query
import Mathlib

/-!
# DocQuery.Proofs.Compiler

What the compiler does on each kind of tree, without its recursion scheme. The compiler calls itself
on the *leaves* of conjunctions and comma chains, not on their sides, so the two interesting facts
are those that lead back from leaves to trees:

* `compile_and_eq_ok_iff` — a conjunction compiles exactly when its operator is allowed and both of
  its sides compile to filters;
* `compile_sequence` — a comma chain is a run of `addLeaf` over its leaves.

Everything that is proved about compiled documents starts from the equations of this module.
-/

namespace DocQuery

open Compile

variable {ε α β : Type} {t : Tables}

/-! ### Computations that succeed -/

@[simp] theorem ok_bind (a : α) (f : α → Except ε β) : ((.ok a : Except ε α) >>= f) = f a := rfl

@[simp] theorem error_bind (e : ε) (f : α → Except ε β) :
    ((.error e : Except ε α) >>= f) = .error e := rfl

/-- A computation of two steps succeeds exactly when both steps do. -/
theorem bind_eq_ok_iff {x : Except ε α} {f : α → Except ε β} {b : β} :
    (x >>= f) = .ok b ↔ ∃ a, x = .ok a ∧ f a = .ok b := by
  cases x with
  | ok a =>
      constructor
      · intro h
        exact ⟨a, rfl, h⟩
      · rintro ⟨a', ha, h⟩
        cases ha
        exact h
  | error e =>
      constructor
      · intro h
        cases h
      · rintro ⟨_, h, _⟩
        cases h

/-- A list is mapped exactly when each of its members is. -/
theorem mapM_eq_ok_iff {f : α → Except ε β} {as : List α} {bs : List β} :
    as.mapM f = .ok bs ↔ List.Forall₂ (fun a b => f a = .ok b) as bs := by
  induction as generalizing bs with
  | nil =>
      rw [List.mapM_nil, List.forall₂_nil_left_iff]
      exact ⟨fun h => (Except.ok.inj h).symm, fun h => by rw [h]; rfl⟩
  | cons a rest ih =>
      simp only [List.mapM_cons, bind_eq_ok_iff, ih]
      constructor
      · rintro ⟨b, hb, cs, hcs, h⟩
        cases h
        exact .cons hb hcs
      · intro h
        cases h with
        | cons hb hcs => exact ⟨_, hb, _, hcs, rfl⟩

/-- What is known of the members of one list passes to those of a list that corresponds to it. -/
theorem forall_mem_of_forall₂ {R : α → β → Prop} {Q : β → Prop} {as : List α} {bs : List β}
    (h : List.Forall₂ R as bs) (himp : ∀ a ∈ as, ∀ b, R a b → Q b) : ∀ b ∈ bs, Q b := by
  induction h with
  | nil => simp
  | @cons a b as bs hab _ ih =>
      rw [List.forall_mem_cons] at himp ⊢
      exact ⟨himp.1 b hab, ih himp.2⟩

theorem exists_mem_of_forall₂ {R : α → β → Prop} {as : List α} {bs : List β} {b : β}
    (h : List.Forall₂ R as bs) (hb : b ∈ bs) : ∃ a ∈ as, R a b := by
  have hall : ∀ b ∈ bs, ∃ a ∈ as, R a b :=
    forall_mem_of_forall₂ h fun a ha b hab => ⟨a, ha, hab⟩
  exact hall b hb

/-! ### Computations that fail -/

/-- A computation of two steps fails exactly when one of the steps does. -/
theorem bind_eq_error_iff {x : Except ε α} {f : α → Except ε β} {c : ε} :
    (x >>= f) = .error c ↔ x = .error c ∨ ∃ a, x = .ok a ∧ f a = .error c := by
  cases x with
  | ok a => simp
  | error e => simp

/-- Mapping a list fails with the failure of its first member that cannot be mapped. -/
theorem mapM_eq_error_iff {f : α → Except ε β} {as : List α} {c : ε} :
    as.mapM f = .error c ↔ ∃ before a after, as = before ++ a :: after ∧
      (∀ x ∈ before, ∃ b, f x = .ok b) ∧ f a = .error c := by
  induction as with
  | nil =>
      constructor
      · intro h
        cases h
      · rintro ⟨before, a, after, h, -⟩
        cases before <;> cases h
  | cons a rest ih =>
      rw [List.mapM_cons, bind_eq_error_iff]
      constructor
      · rintro (ha | ⟨b, hb, h⟩)
        · exact ⟨[], a, rest, rfl, by simp, ha⟩
        · rw [bind_eq_error_iff, ih] at h
          rcases h with ⟨before, x, after, rfl, hbefore, hx⟩ | ⟨_, -, h⟩
          · exact ⟨a :: before, x, after, rfl, List.forall_mem_cons.2 ⟨⟨b, hb⟩, hbefore⟩, hx⟩
          · cases h
      · rintro ⟨before, x, after, heq, hbefore, hx⟩
        cases before with
        | nil =>
            cases heq
            exact Or.inl hx
        | cons y before =>
            cases heq
            obtain ⟨⟨b, hb⟩, hbefore⟩ := List.forall_mem_cons.1 hbefore
            refine Or.inr ⟨b, hb, ?_⟩
            rw [bind_eq_error_iff]
            exact Or.inl (ih.2 ⟨before, x, after, rfl, hbefore, hx⟩)

/-- A list that cannot be mapped has a member that cannot. -/
theorem exists_error_of_mapM {f : α → Except ε β} {as : List α} {c : ε}
    (h : as.mapM f = .error c) : ∃ a ∈ as, f a = .error c := by
  obtain ⟨before, a, after, rfl, -, ha⟩ := mapM_eq_error_iff.1 h
  exact ⟨a, List.mem_append_right _ (List.mem_cons_self ..), ha⟩

/-! ### Operators and operands -/

/-- The tables offer a token, with this entry, and expressions may use it. -/
def Tables.Allows (t : Tables) (token : String) (op : Operator) : Prop :=
  t.operator? token = some op ∧ op.allowed = true

instance (t : Tables) (token : String) (op : Operator) : Decidable (t.Allows token op) :=
  inferInstanceAs (Decidable (_ ∧ _))

theorem lookupOperator_eq_ok_iff {token : String} {op : Operator} :
    lookupOperator t token = .ok op ↔ t.Allows token op := by
  unfold lookupOperator Tables.Allows
  cases t.operator? token with
  | none => simp
  | some found =>
      cases ha : found.allowed with
      | false =>
          simp only [ha, Bool.false_eq_true, if_false, reduceCtorEq, Option.some.injEq, false_iff,
            not_and]
          rintro rfl
          simp [ha]
      | true =>
          simp only [ha, if_true, Except.ok.injEq, Option.some.injEq]
          exact ⟨fun h => ⟨h, h ▸ ha⟩, fun h => h.1⟩

theorem asCondition_eq_ok_iff {token : String} {f : Fragment} {d : Document} :
    asCondition token f = .ok d ↔ f = .condition d := by
  cases f <;> simp [asCondition]

theorem asValue_eq_ok_iff {subject : String} {i : Nat} {f : Fragment} {v : Value} :
    asValue subject i f = .ok v ↔ f = .literal v := by
  cases f <;> simp [asValue]

/-- Fragments are values exactly when every one of them is. -/
theorem asValues_eq_ok_iff {subject : String} {fs : List Fragment} {vs : List Value} (i : Nat) :
    asValues subject i fs = .ok vs ↔ fs = vs.map .literal := by
  induction fs generalizing i vs with
  | nil => cases vs <;> simp [asValues]
  | cons f rest ih =>
      simp only [asValues, bind_eq_ok_iff, asValue_eq_ok_iff, ih]
      constructor
      · rintro ⟨v, rfl, ws, rfl, h⟩
        cases h
        rfl
      · intro h
        cases vs with
        | nil => simp at h
        | cons v ws =>
            simp only [List.map_cons, List.cons.injEq] at h
            exact ⟨v, h.1, ws, h.2, rfl⟩

/-! ### Lists of trees -/

theorem compileAll_eq_mapM (es : List Expr) : compileAll t es = es.mapM (·.compile t) := by
  induction es with
  | nil => rw [compileAll]; rfl
  | cons e rest ih => rw [compileAll, List.mapM_cons, ih]; rfl

/-- Trees compile one after another exactly when each of them does. -/
theorem compileAll_eq_ok_iff {es : List Expr} {fs : List Fragment} :
    compileAll t es = .ok fs ↔ List.Forall₂ (fun e f => e.compile t = .ok f) es fs := by
  rw [compileAll_eq_mapM, mapM_eq_ok_iff]

/-! ### Conjunctions -/

namespace Compile.SeenKeys

theorem collision_foldl_see (keys : List String) (s : SeenKeys) :
    (keys.foldl see s).collision = false ↔
      s.collision = false ∧ keys.Nodup ∧ ∀ key ∈ keys, key ∉ s.keys := by
  induction keys generalizing s with
  | nil => simp
  | cons key keys ih =>
      rw [List.foldl_cons, ih, see, List.nodup_cons, List.forall_mem_cons]
      simp only [Bool.or_eq_false_iff, List.contains_eq_mem, decide_eq_false_iff_not,
        List.mem_cons, not_or]
      constructor
      · rintro ⟨⟨hs, hkey⟩, hnodup, hkeys⟩
        exact ⟨hs, ⟨fun hmem => (hkeys key hmem).1 rfl, hnodup⟩, hkey, fun k hk => (hkeys k hk).2⟩
      · rintro ⟨hs, ⟨hkey, hnodup⟩, hnew, hkeys⟩
        refine ⟨⟨hs, hnew⟩, hnodup, fun k hk => ⟨?_, hkeys k hk⟩⟩
        rintro rfl
        exact hkey hk

/-- No key comes that has come before exactly when no key occurs twice. -/
theorem collision_eq_false_iff (filters : List Document) :
    (filters.foldl seeFilter start).collision = false ↔
      (filters.flatMap Document.keys).Nodup := by
  have hfold : filters.foldl seeFilter start = (filters.flatMap Document.keys).foldl see start :=
    (List.foldl_flatMap ..).symm
  rw [hfold, collision_foldl_see]
  simp [start]

end Compile.SeenKeys

/-- Filters without a key that occurs twice, set element by element into one document, end up one
behind the other: nothing is overwritten. -/
theorem foldl_setAll_eq_flatten {ds : List Document} (hnodup : (ds.flatMap Document.keys).Nodup) :
    ds.foldl Document.setAll [] = ds.flatten := by
  have hkeys : (Document.keys ([] ++ ds.flatten)).Nodup := by
    rw [List.nil_append, Document.keys, List.map_flatten]
    exact hnodup
  have hfold : ∀ d : Document, ds.foldl Document.setAll d = d.setAll ds.flatten := by
    intro d
    rw [Document.setAll, List.foldl_flatten]
    rfl
  rw [hfold, Document.setAll_of_nodup hkeys, List.nil_append]

/-- **A conjunction without its loops**: the filters one behind the other when no key occurs twice
among theirs, else all of them under `$and`. -/
theorem conjunction_eq (filters : List Document) :
    conjunction filters =
      if (filters.flatMap Document.keys).Nodup then filters.flatten
      else [("$and", .array (filters.map .document))] := by
  unfold conjunction
  by_cases hnodup : (filters.flatMap Document.keys).Nodup
  · rw [if_pos hnodup, (SeenKeys.collision_eq_false_iff filters).2 hnodup, if_neg Bool.false_ne_true,
      foldl_setAll_eq_flatten hnodup]
  · rw [if_neg hnodup, if_pos]
    rw [← SeenKeys.collision_eq_false_iff, Bool.not_eq_false] at hnodup
    exact hnodup

/-- The filter that an operand of a conjunction compiles to. -/
def compileFilter (t : Tables) (e : Expr) : Except Cause Document :=
  e.compile t >>= asCondition Expr.andToken

theorem compileFilter_eq_ok_iff {e : Expr} {d : Document} :
    compileFilter t e = .ok d ↔ e.compile t = .ok (.condition d) := by
  simp only [compileFilter, bind_eq_ok_iff, asCondition_eq_ok_iff]
  constructor
  · rintro ⟨_, h, rfl⟩
    exact h
  · intro h
    exact ⟨_, h, rfl⟩

/-- A conjunction is compiled through its leaves. -/
theorem compile_and (l r : Expr) :
    (Expr.binary Expr.andToken l r).compile t = (do
      let _ ← lookupOperator t Expr.andToken
      let filters ← (Expr.andLeaves l ++ Expr.andLeaves r).mapM (compileFilter t)
      .ok (.condition (conjunction filters))) := by
  have hleaves : (Expr.andLeaves (.binary Expr.andToken l r)).attach.mapM
      (fun leaf => leaf.1.compile t >>= asCondition Expr.andToken) =
      (Expr.andLeaves l ++ Expr.andLeaves r).mapM (compileFilter t) := by
    -- the compiler carries a proof of membership with each leaf, and no result depends on it
    rw [List.mapM_subtype (g := compileFilter t) (fun _ _ => rfl), List.unattach_attach,
      Expr.andLeaves_binary]
  rw [Expr.compile, dif_pos rfl, ← hleaves]

/-- `e` compiles to the filter `d`, which is the conjunction of the filters `ds` of its leaves, or
the filter of its only leaf. -/
structure Leafwise (t : Tables) (e : Expr) (d : Document) (ds : List Document) : Prop where
  /-- The tree compiles. -/
  compile_eq : e.compile t = .ok (.condition d)
  /-- Its leaves compile. -/
  leaves_eq : (Expr.andLeaves e).mapM (compileFilter t) = .ok ds
  /-- The filter of the tree from those of its leaves. -/
  filter_eq : d = conjunction ds ∨ ds = [d]

/-- A tree that compiles to a filter has leaves that do. -/
theorem exists_leafwise_of_compile {e : Expr} {d : Document}
    (h : e.compile t = .ok (.condition d)) : ∃ ds, Leafwise t e d ds := by
  cases hs : Expr.andSides? e with
  | none =>
      -- no conjunction: the tree is its own only leaf
      refine ⟨[d], h, ?_, Or.inr rfl⟩
      rw [Expr.andLeaves_of_no_sides hs, mapM_eq_ok_iff]
      exact .cons (compileFilter_eq_ok_iff.2 h) .nil
  | some sides =>
      obtain ⟨l, r, rfl⟩ := Expr.eq_binary_of_andSides hs
      have h' := h
      rw [compile_and, bind_eq_ok_iff] at h'
      obtain ⟨op, -, h'⟩ := h'
      rw [bind_eq_ok_iff] at h'
      obtain ⟨ds, hds, hd⟩ := h'
      cases hd
      exact ⟨ds, h, by rw [Expr.andLeaves_binary]; exact hds, Or.inl rfl⟩

/-- A tree whose leaves compile to filters compiles to one, where `&&` is allowed. -/
theorem exists_leafwise_of_leaves {op : Operator} (hop : t.Allows Expr.andToken op) {e : Expr}
    {ds : List Document} (h : (Expr.andLeaves e).mapM (compileFilter t) = .ok ds) :
    ∃ d, Leafwise t e d ds := by
  cases hs : Expr.andSides? e with
  | none =>
      have h' := h
      rw [Expr.andLeaves_of_no_sides hs, mapM_eq_ok_iff] at h'
      cases h' with
      | cons hd hnil =>
          cases hnil
          exact ⟨_, compileFilter_eq_ok_iff.1 hd, h, Or.inr rfl⟩
  | some sides =>
      obtain ⟨l, r, rfl⟩ := Expr.eq_binary_of_andSides hs
      refine ⟨conjunction ds, ?_, h, Or.inl rfl⟩
      rw [Expr.andLeaves_binary] at h
      rw [compile_and, lookupOperator_eq_ok_iff.2 hop, ok_bind, h, ok_bind]

/-- A conjunction compiles exactly when its operator is allowed and both sides compile to filters;
its filter is the conjunction of the filters of all leaves. -/
theorem compile_and_eq_ok_iff {l r : Expr} {f : Fragment} :
    (Expr.binary Expr.andToken l r).compile t = .ok f ↔
      (∃ op, t.Allows Expr.andToken op) ∧ ∃ dl dr dsl dsr, Leafwise t l dl dsl ∧
        Leafwise t r dr dsr ∧ f = .condition (conjunction (dsl ++ dsr)) := by
  rw [compile_and]
  simp only [bind_eq_ok_iff, lookupOperator_eq_ok_iff]
  constructor
  · rintro ⟨op, hop, ds, hds, hf⟩
    rw [List.mapM_append, bind_eq_ok_iff] at hds
    obtain ⟨dsl, hl, hds⟩ := hds
    rw [bind_eq_ok_iff] at hds
    obtain ⟨dsr, hr, hds⟩ := hds
    cases hds
    obtain ⟨dl, hl⟩ := exists_leafwise_of_leaves hop hl
    obtain ⟨dr, hr⟩ := exists_leafwise_of_leaves hop hr
    exact ⟨⟨op, hop⟩, dl, dr, dsl, dsr, hl, hr, (Except.ok.inj hf).symm⟩
  · rintro ⟨⟨op, hop⟩, dl, dr, dsl, dsr, hl, hr, rfl⟩
    refine ⟨op, hop, dsl ++ dsr, ?_, rfl⟩
    rw [List.mapM_append, hl.leaves_eq, ok_bind, hr.leaves_eq, ok_bind]
    rfl

/-- Any other binary operator is compiled after its operands. -/
theorem compile_binary {token : String} (h : token ≠ Expr.andToken) (l r : Expr) :
    (Expr.binary token l r).compile t = (do
      let f ← l.compile t
      let g ← r.compile t
      Compile.binary t token f g) := by
  rw [Expr.compile, dif_neg h]

/-! ### Comma chains -/

/-- One round of compiling a comma chain: check a member, compile it, and add its writes. -/
def addLeaf (t : Tables) (b : UpdateBuilder) (leaf : Expr) : Except Cause UpdateBuilder := do
  checkSequenceMember leaf
  let f ← leaf.compile t
  addMember b leaf f

/-- A comma chain is a run over its leaves. -/
theorem compile_sequence (l r : Expr) :
    (Expr.sequence l r).compile t = (do
      let b ← (Expr.sequenceLeaves (.sequence l r)).foldlM (addLeaf t) UpdateBuilder.empty
      .ok (.update b.update)) := by
  have hleaves : (Expr.sequenceLeaves (.sequence l r)).attach.foldlM
      (fun b leaf => do
        checkSequenceMember leaf.1
        let f ← leaf.1.compile t
        addMember b leaf.1 f) UpdateBuilder.empty =
      (Expr.sequenceLeaves (.sequence l r)).foldlM (addLeaf t) UpdateBuilder.empty := by
    rw [List.foldlM_subtype (g := addLeaf t) (fun _ _ _ => rfl), List.unattach_attach]
  rw [Expr.compile, ← hleaves]

/-! ### Whole trees -/

/-- A tree has a document exactly when it compiles to a filter or to an update. -/
theorem compileTree_eq_ok_iff {e : Expr} {d : Document} :
    Query.compileTree t e = .ok d ↔ e.compile t = .ok (.condition d) ∨
      ∃ u, e.compile t = .ok (.update u) ∧ d = u.toDocument := by
  have hmap : Query.compileTree t e = .ok d ↔ e.toDocument t = .ok d := by
    unfold Query.compileTree
    cases e.toDocument t <;> simp [Except.mapError]
  have hdoc : e.toDocument t = .ok d ↔ ∃ f, e.compile t = .ok f ∧
      (f = .condition d ∨ ∃ u, f = .update u ∧ d = u.toDocument) := by
    by_cases hole : e = .hole
    · subst hole
      rw [Expr.toDocument, Expr.compile]
      simp
    · rw [Expr.toDocument.eq_2 _ _ hole, bind_eq_ok_iff]
      refine exists_congr fun f => and_congr_right fun _ => ?_
      cases f <;> simp [eq_comm]
  rw [hmap, hdoc]
  constructor
  · rintro ⟨f, hf, rfl | ⟨u, rfl, hd⟩⟩
    · exact Or.inl hf
    · exact Or.inr ⟨u, hf, hd⟩
  · rintro (h | ⟨u, h, hd⟩)
    · exact ⟨_, h, Or.inl rfl⟩
    · exact ⟨_, h, Or.inr ⟨u, rfl, hd⟩⟩

end DocQuery
