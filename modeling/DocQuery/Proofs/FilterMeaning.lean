import DocQuery.Proofs.Compiler

/-!
# DocQuery.Proofs.FilterMeaning

**What a filter means.** A filter matches when every one of its elements is satisfied. An element
`$and` over a list of documents asks that all of them match, an element `$or` that one of them does,
and any other element is a condition on a field, which a parameter `sat` interprets.

The compiler rebuilds conjunctions: it collects the leaves of a whole `&&` chain, merges their
filters into one document when no key occurs twice, and puts them under `$and` otherwise. So the
filter of `l && r` is not made from the filters of `l` and `r`, which may have been merged while
their leaves collide, or the other way round. `matches_conjunction` says that both shapes mean "all
of the leaves", and `Leafwise.matches_iff` that the filter of each side means the same about its own
leaves; the meaning of every logical operator follows (`compile_logical_meaning`).
-/

namespace DocQuery

open Compile

/-- Whether a value is a document. -/
def Value.isDocument : Value → Bool
  | .document _ => true
  | _ => false

section

variable (sat : String → Value → Prop)

mutual

/-- A filter matches: every element of it is satisfied. -/
def Document.Matches : Document → Prop
  | [] => True
  | (key, v) :: rest => v.Satisfies key ∧ Document.Matches rest

/-- The element of a filter with this key and value is satisfied. -/
def Value.Satisfies (key : String) : Value → Prop
  | .array items =>
    if key = "$and" ∧ items.all Value.isDocument then Value.AllMatch items
    else if key = "$or" ∧ items.all Value.isDocument then Value.AnyMatches items
    else sat key (.array items)
  | v => sat key v

/-- A value is a filter that matches. -/
def Value.Matches : Value → Prop
  | .document d => Document.Matches d
  | _ => False

/-- Every value of a list is a filter that matches. -/
def Value.AllMatch : List Value → Prop
  | [] => True
  | v :: rest => v.Matches ∧ Value.AllMatch rest

/-- Some value of a list is a filter that matches. -/
def Value.AnyMatches : List Value → Prop
  | [] => False
  | v :: rest => v.Matches ∨ Value.AnyMatches rest

end

end

variable {sat : String → Value → Prop} {t : Tables}

/-! ### Lists of filters -/

/-- Putting filters one after another means all of them. -/
theorem Document.matches_append (d e : Document) :
    (d ++ e).Matches sat ↔ d.Matches sat ∧ e.Matches sat := by
  induction d with
  | nil => simp [Document.Matches]
  | cons element rest ih =>
      obtain ⟨key, v⟩ := element
      simp only [List.cons_append, Document.Matches, ih, and_assoc]

theorem Document.matches_flatten (ds : List Document) :
    Document.Matches sat ds.flatten ↔ ∀ d ∈ ds, d.Matches sat := by
  induction ds with
  | nil => simp [Document.Matches]
  | cons d rest ih =>
      rw [List.flatten_cons, Document.matches_append, ih, List.forall_mem_cons]

theorem Value.allMatch_documents (ds : List Document) :
    Value.AllMatch sat (ds.map .document) ↔ ∀ d ∈ ds, d.Matches sat := by
  induction ds with
  | nil => simp [Value.AllMatch]
  | cons d rest ih =>
      rw [List.map_cons, Value.AllMatch, Value.Matches, ih, List.forall_mem_cons]

theorem Value.anyMatches_documents (ds : List Document) :
    Value.AnyMatches sat (ds.map .document) ↔ ∃ d ∈ ds, d.Matches sat := by
  induction ds with
  | nil => simp [Value.AnyMatches]
  | cons d rest ih =>
      rw [List.map_cons, Value.AnyMatches, Value.Matches, ih, List.exists_mem_cons_iff]

theorem Value.all_isDocument_documents (ds : List Document) :
    (ds.map Value.document).all Value.isDocument = true := by
  simp [Value.isDocument]

/-- A filter with the single element `$and` over documents means all of them. -/
theorem Document.matches_and (ds : List Document) :
    Document.Matches sat [("$and", .array (ds.map .document))] ↔ ∀ d ∈ ds, d.Matches sat := by
  rw [Document.Matches, Document.Matches, and_true, Value.Satisfies,
    if_pos ⟨rfl, Value.all_isDocument_documents ds⟩, Value.allMatch_documents]

/-- A filter with the single element `$or` over documents means one of them. -/
theorem Document.matches_or (ds : List Document) :
    Document.Matches sat [("$or", .array (ds.map .document))] ↔ ∃ d ∈ ds, d.Matches sat := by
  rw [Document.Matches, Document.Matches, and_true, Value.Satisfies,
    if_neg (fun h => absurd h.1 (by decide)),
    if_pos ⟨rfl, Value.all_isDocument_documents ds⟩, Value.anyMatches_documents]

/-! ### Conjunctions -/

/-- Merged into one document or kept apart under `$and`, a conjunction means all of its filters. -/
theorem matches_conjunction (ds : List Document) :
    (conjunction ds).Matches sat ↔ ∀ d ∈ ds, d.Matches sat := by
  rw [conjunction_eq]
  split
  · exact Document.matches_flatten ds
  · exact Document.matches_and ds

/-- The filter of a tree means the same as the filters of its leaves together. -/
theorem Leafwise.matches_iff {e : Expr} {d : Document} {ds : List Document}
    (h : Leafwise t e d ds) : d.Matches sat ↔ ∀ x ∈ ds, x.Matches sat := by
  rcases h.filter_eq with rfl | rfl
  · exact matches_conjunction ds
  · simp

/-- A conjunction of two filters compiles, and means both. -/
theorem compile_and_meaning {op : Operator} {l r : Expr} {dl dr : Document}
    (hop : t.Allows Expr.andToken op) (hl : l.compile t = .ok (.condition dl))
    (hr : r.compile t = .ok (.condition dr)) :
    ∃ d, (Expr.binary Expr.andToken l r).compile t = .ok (.condition d) ∧
      ∀ sat, d.Matches sat ↔ dl.Matches sat ∧ dr.Matches sat := by
  -- the two documents are not joined as such: their leaves are, and may be merged in another way
  obtain ⟨dsl, hl⟩ := exists_leafwise_of_compile hl
  obtain ⟨dsr, hr⟩ := exists_leafwise_of_compile hr
  refine ⟨conjunction (dsl ++ dsr), ?_, fun sat => ?_⟩
  · exact compile_and_eq_ok_iff.2 ⟨⟨op, hop⟩, dl, dr, dsl, dsr, hl, hr, rfl⟩
  · rw [matches_conjunction, List.forall_mem_append, hl.matches_iff, hr.matches_iff]

/-! ### Other logical operators -/

/-- A logical operator other than `&&` keeps the filters of its sides whole, under its target. -/
theorem compile_logical {token : String} {op : Operator} {l r : Expr} {dl dr : Document}
    (htoken : token ≠ Expr.andToken) (hop : t.Allows token op)
    (htarget : op.target = "$and" ∨ op.target = "$or")
    (hl : l.compile t = .ok (.condition dl)) (hr : r.compile t = .ok (.condition dr)) :
    (Expr.binary token l r).compile t =
      .ok (.condition [(op.target, .array ([dl, dr].map .document))]) := by
  rw [compile_binary htoken, hl, ok_bind, hr, ok_bind, Compile.binary,
    lookupOperator_eq_ok_iff.2 hop, ok_bind, if_pos (by simpa using htarget)]
  rfl

/-- **Logical operators mean what they say.** For two trees that compile to filters: `l && r`
compiles and matches when both filters do, and so does any other allowed token whose target is
`$and`; one whose target is `$or` compiles and matches when one of them does. -/
theorem compile_logical_meaning {l r : Expr} {dl dr : Document}
    (hl : l.compile t = .ok (.condition dl)) (hr : r.compile t = .ok (.condition dr)) :
    Query.compileTree t l = .ok dl ∧ Query.compileTree t r = .ok dr ∧
    (∀ op, t.Allows "&&" op → ∃ d, Query.compileTree t (.binary "&&" l r) = .ok d ∧
      ∀ sat, d.Matches sat ↔ dl.Matches sat ∧ dr.Matches sat) ∧
    (∀ token op, token ≠ "&&" → t.Allows token op →
      (op.target = "$and" → ∃ d, Query.compileTree t (.binary token l r) = .ok d ∧
        ∀ sat, d.Matches sat ↔ dl.Matches sat ∧ dr.Matches sat) ∧
      (op.target = "$or" → ∃ d, Query.compileTree t (.binary token l r) = .ok d ∧
        ∀ sat, d.Matches sat ↔ dl.Matches sat ∨ dr.Matches sat)) := by
  refine ⟨compileTree_eq_ok_iff.2 (Or.inl hl), compileTree_eq_ok_iff.2 (Or.inl hr), ?_, ?_⟩
  · intro op hop
    obtain ⟨d, hd, hm⟩ := compile_and_meaning hop hl hr
    exact ⟨d, compileTree_eq_ok_iff.2 (Or.inl hd), hm⟩
  · intro token op htoken hop
    refine ⟨fun htarget => ?_, fun htarget => ?_⟩
    · have hd := compile_logical htoken hop (Or.inl htarget) hl hr
      refine ⟨_, compileTree_eq_ok_iff.2 (Or.inl hd), fun sat => ?_⟩
      rw [htarget, Document.matches_and]
      simp
    · have hd := compile_logical htoken hop (Or.inr htarget) hl hr
      refine ⟨_, compileTree_eq_ok_iff.2 (Or.inl hd), fun sat => ?_⟩
      rw [htarget, Document.matches_or]
      simp

/-- Sides that were merged on their own, or not at all, and collide when they are joined: `a == 1 &&
b > 2` on the left and `a < 9` on the right. -/
theorem colliding_conjunction_meaning :
    let l : Expr := .binary "&&" (.binary "==" (.identifier "a") (.number "1"))
      (.binary ">" (.identifier "b") (.number "2"))
    let r : Expr := .binary "<" (.identifier "a") (.number "9")
    let dl : Document := [("a", .number "1"), ("b", .document [("$gt", .number "2")])]
    let dr : Document := [("a", .document [("$lt", .number "9")])]
    l.compile .standard = .ok (.condition dl) ∧ r.compile .standard = .ok (.condition dr) ∧
      ∃ d, Query.compileTree .standard (.binary "&&" l r) = .ok d ∧
        ∀ sat, d.Matches sat ↔ dl.Matches sat ∧ dr.Matches sat := by
  intro l r dl dr
  have hl : l.compile .standard = .ok (.condition dl) := by cbv
  have hr : r.compile .standard = .ok (.condition dr) := by cbv
  have hop : Tables.standard.Allows "&&" ⟨"&&", "$and", true⟩ := by decide
  exact ⟨hl, hr, (compile_logical_meaning hl hr).2.2.1 _ hop⟩

end DocQuery
