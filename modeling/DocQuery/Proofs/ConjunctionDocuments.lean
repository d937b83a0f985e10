import DocQuery.Proofs.ChainOrder
import DocQuery.Proofs.IndexedDocuments

/-!
# DocQuery.Proofs.ConjunctionDocuments

**What a conjunction compiles to**, in terms of its leaves and whatever their grouping. A leaf that
does not compile, or that is no filter, stops the compiler, and the first one in source order is the
one that is reported (`FirstFault`). Otherwise the filters of the leaves are written one behind the
other when no two of them share a key, and side by side under `$and` when two of them do.

The compiler looks for *any* repeated key among all leaves, while the rule speaks of keys of two
leaves. The two agree because no filter repeats a key by itself, which is a fact about everything
that the compiler hands out (`proper_of_compile`).
-/

namespace DocQuery

open Compile

variable {t : Tables}

/-! ### Leaves that are at fault -/

/-- A tree that compiles to a filter. -/
def Expr.IsFilter (t : Tables) (e : Expr) : Prop := ∃ d, e.compile t = .ok (.condition d)

/-- What is reported for a leaf of a conjunction that cannot be one. -/
inductive LeafFault (t : Tables) (leaf : Expr) : Cause → Prop where
  /-- The leaf does not compile: its own failure. -/
  | fails {c : Cause} (h : leaf.compile t = .error c) : LeafFault t leaf c
  /-- The leaf compiles to something that is no filter. -/
  | noFilter {f : Fragment} (h : leaf.compile t = .ok f) (hf : ∀ d, f ≠ .condition d) :
      LeafFault t leaf (.notACondition "&&" f)

/-- What is reported for the first of some leaves that cannot be leaves of a conjunction: those
before it are filters. -/
def FirstFault (t : Tables) (leaves : List Expr) (c : Cause) : Prop :=
  ∃ before leaf after, leaves = before ++ leaf :: after ∧ (∀ e ∈ before, e.IsFilter t) ∧
    LeafFault t leaf c

theorem asCondition_eq_error_iff {token : String} {f : Fragment} {c : Cause} :
    asCondition token f = .error c ↔ (∀ d, f ≠ .condition d) ∧ c = .notACondition token f := by
  cases f <;> simp [asCondition, eq_comm]

theorem compileFilter_eq_error_iff {leaf : Expr} {c : Cause} :
    compileFilter t leaf = .error c ↔ LeafFault t leaf c := by
  rw [compileFilter, bind_eq_error_iff]
  constructor
  · rintro (h | ⟨f, hf, h⟩)
    · exact .fails h
    · obtain ⟨hnone, rfl⟩ := asCondition_eq_error_iff.1 h
      exact .noFilter hf hnone
  · intro h
    cases h with
    | fails h => exact Or.inl h
    | noFilter h hf => exact Or.inr ⟨_, h, asCondition_eq_error_iff.2 ⟨hf, rfl⟩⟩

/-- The leaves of a conjunction are compiled up to the first one at fault. -/
theorem mapM_compileFilter_eq_error_iff {leaves : List Expr} {c : Cause} :
    leaves.mapM (compileFilter t) = .error c ↔ FirstFault t leaves c := by
  simp only [mapM_eq_error_iff, compileFilter_eq_ok_iff, compileFilter_eq_error_iff]
  exact Iff.rfl

/-- A leaf that is no filter makes for a first one. -/
theorem exists_firstFault {leaves : List Expr} {leaf : Expr} (hmem : leaf ∈ leaves)
    (hleaf : ¬ leaf.IsFilter t) : ∃ c, FirstFault t leaves c := by
  cases hrun : leaves.mapM (compileFilter t) with
  | error c => exact ⟨c, mapM_compileFilter_eq_error_iff.1 hrun⟩
  | ok ds =>
      have hall := (mapM_eq_ok_iff.1 hrun).imp fun _ _ h => compileFilter_eq_ok_iff.1 h
      obtain ⟨d, -, hd⟩ := exists_mem_of_forall₂ hall.flip hmem
      exact absurd ⟨d, hd⟩ hleaf

/-- A conjunction is refused for the first of its leaves that is at fault. -/
theorem compile_and_of_firstFault {op : Operator} (hop : t.Allows Expr.andToken op) {l r : Expr}
    {c : Cause} (h : FirstFault t (Expr.andLeaves (.binary Expr.andToken l r)) c) :
    (Expr.binary Expr.andToken l r).compile t = .error c := by
  rw [Expr.andLeaves_binary] at h
  rw [compile_and, lookupOperator_eq_ok_iff.2 hop, ok_bind, mapM_compileFilter_eq_error_iff.2 h]
  rfl

/-! ### Filters that share keys -/

/-- No two of the filters share a key. -/
def NoSharedKey (ds : List Document) : Prop :=
  ds.Pairwise fun d e => ∀ key ∈ d.keys, key ∉ e.keys

instance (ds : List Document) : Decidable (NoSharedKey ds) :=
  inferInstanceAs (Decidable (List.Pairwise _ _))

/-- Among filters that each repeat no key, a key that occurs twice is shared by two of them. -/
theorem nodup_keys_iff {ds : List Document} (h : ∀ d ∈ ds, d.keys.Nodup) :
    (ds.flatMap Document.keys).Nodup ↔ NoSharedKey ds := by
  rw [List.nodup_flatMap]
  exact and_iff_right h

/-- The filters of leaves repeat no key. -/
theorem nodup_keys_of_leaves {leaves : List Expr} {ds : List Document}
    (hds : List.Forall₂ (fun leaf d => leaf.compile t = .ok (.condition d)) leaves ds) :
    ∀ d ∈ ds, d.keys.Nodup := by
  refine forall_mem_of_forall₂ hds ?_
  intro leaf _ d hd
  exact (Value.proper_document_iff.1 (proper_of_compile (f := .condition d) hd)).1

/-! ### The document of a conjunction -/

/-- **Conjunctions by their leaves.** Where `&&` is allowed, a conjunction of any grouping is refused
for the first of its leaves that does not compile or is no filter. When all leaves are filters, its
document has the elements of all of them in source order if no two filters share a key: setting them
one after another overwrites none, and each is found under its key. If two filters do share a key, all
of them stand whole and in source order under `$and`. -/
theorem conjunction_of_leaves {op : Operator} (hop : t.Allows "&&" op) (l r : Expr) :
    (∀ leaf ∈ Expr.andLeaves (.binary "&&" l r), ¬ leaf.IsFilter t →
      ∃ c, FirstFault t (Expr.andLeaves (.binary "&&" l r)) c) ∧
    (∀ c, FirstFault t (Expr.andLeaves (.binary "&&" l r)) c →
      Query.compileTree t (.binary "&&" l r) = .error (.rejected c.diagnostic)) ∧
    ∀ ds, List.Forall₂ (fun leaf d => leaf.compile t = .ok (.condition d))
        (Expr.andLeaves (.binary "&&" l r)) ds →
      (NoSharedKey ds → Query.compileTree t (.binary "&&" l r) = .ok ds.flatten ∧
        ds.foldl Document.setAll [] = ds.flatten ∧
        ∀ d ∈ ds, ∀ e ∈ d, Document.get? e.1 ds.flatten = some e.2) ∧
      (¬ NoSharedKey ds →
        Query.compileTree t (.binary "&&" l r) = .ok [("$and", .array (ds.map .document))]) := by
  refine ⟨fun leaf hmem hleaf => exists_firstFault hmem hleaf, ?_, ?_⟩
  · intro c hc
    have herror := compile_and_of_firstFault hop hc
    rw [Query.compileTree, Expr.toDocument.eq_2 _ _ Expr.noConfusion]
    rw [show (Expr.binary "&&" l r).compile t = .error c from herror]
    rfl
  · intro ds hds
    have hkeys := nodup_keys_iff (nodup_keys_of_leaves hds)
    have hdoc : Query.compileTree t (.binary "&&" l r) = .ok (conjunction ds) :=
      compileTree_eq_ok_iff.2 (Or.inl (compile_and_of_filters hop hds))
    rw [hdoc, conjunction_eq]
    constructor
    · intro hfree
      have hnodup := hkeys.2 hfree
      have hflat : (Document.keys ds.flatten).Nodup := by
        rw [Document.keys, List.map_flatten]
        exact hnodup
      refine ⟨by rw [if_pos hnodup], foldl_setAll_eq_flatten hnodup, ?_⟩
      intro d hd e he
      exact Document.get?_of_mem hflat (List.mem_flatten.2 ⟨d, hd, he⟩)
    · intro hshared
      rw [if_neg fun hnodup => hshared (hkeys.1 hnodup)]

/-- Three chains: two alternatives around a comparison share the key `$or` and stay side by side,
comparisons of different fields are merged, and a lone field is reported although an operator further
to the right is not allowed either. -/
theorem alternatives_merges_and_faults :
    let compare (op name value : String) : Expr := .binary op (.identifier name) (.number value)
    let p : Expr := .binary "||" (compare "==" "a" "1") (compare "==" "b" "2")
    let q : Expr := compare ">" "c" "3"
    let s : Expr := .binary "||" (compare "==" "a" "4") (compare "==" "c" "5")
    Query.compileTree .standard (.binary "&&" p (.binary "&&" q s)) =
      .ok [("$and", .array [
        .document [("$or", .array [.document [("a", .number "1")], .document [("b", .number "2")]])],
        .document [("c", .document [("$gt", .number "3")])],
        .document [("$or", .array [.document [("a", .number "4")],
          .document [("c", .number "5")]])]])] ∧
    Query.compileTree .standard (.binary "&&" p q) =
      .ok [("$or", .array [.document [("a", .number "1")], .document [("b", .number "2")]]),
        ("c", .document [("$gt", .number "3")])] ∧
    Query.compileTree .standard (.binary "&&" (.binary "&&" q (.identifier "a")) (compare "*" "b" "1"))
      = .error (.rejected (Cause.notACondition "&&" (.field "a")).diagnostic) := by
  intro compare p q s
  have hop : Tables.standard.Allows "&&" ⟨"&&", "$and", true⟩ := by decide
  have hleaves (x y : Expr) : Expr.andLeaves (.binary "&&" x y) =
      Expr.andLeaves x ++ Expr.andLeaves y := Expr.andLeaves_binary x y
  have hleaf {x : Expr} (h : x.andSides? = none) : Expr.andLeaves x = [x] :=
    Expr.andLeaves_of_no_sides h
  refine ⟨?_, ?_, ?_⟩
  · refine ((conjunction_of_leaves hop p (.binary "&&" q s)).2.2 [_, _, _] ?_).2 ?_
    · rw [hleaves, hleaves, hleaf (x := p) rfl, hleaf (x := q) rfl, hleaf (x := s) rfl]
      exact .cons (by cbv) (.cons (by cbv) (.cons (by cbv) .nil))
    · decide
  · refine (((conjunction_of_leaves hop p q).2.2 [[_], [_]] ?_).1 ?_).1
    · rw [hleaves, hleaf (x := p) rfl, hleaf (x := q) rfl]
      exact .cons (by cbv) (.cons (by cbv) .nil)
    · decide
  · refine (conjunction_of_leaves hop _ _).2.1 _
      ⟨[q], .identifier "a", [compare "*" "b" "1"], ?_, ?_, ?_⟩
    · rw [hleaves, hleaves, hleaf (x := q) rfl, hleaf (x := .identifier "a") rfl,
        hleaf (x := compare "*" "b" "1") rfl]
      rfl
    · intro e he
      rw [List.mem_singleton.1 he]
      exact ⟨_, by cbv⟩
    · exact .noFilter (by cbv) fun d => Fragment.noConfusion

end DocQuery
