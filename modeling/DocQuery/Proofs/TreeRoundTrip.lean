import DocQuery.Proofs.TreeFormat

/-!
# DocQuery.Proofs.TreeRoundTrip

**From a source to a tree file and back.** Every tree that a source is parsed to is complete
(`isComplete_of_parse`), so it can be written. What is read back is the tree itself exactly when
each of its texts is restorable and it is not nested deeper than the reader goes, and the file is a
JSON text exactly when each of its texts is restorable.

So the round trip is not total: a string literal with a character that JSON has no escape for where
the writer needs one is lost, and a file that nests too deep is refused although it was written
(`control_character_lost`).
-/

namespace DocQuery

open DocQuery.Expr

/-! ### Parsed trees are complete -/

namespace Expr

theorem isKnown_of_ofToken? {token : String} {op : UnaryOp} (h : UnaryOp.ofToken? token = some op) :
    op.isKnown = true := by
  have hknown : ∀ op ∈ UnaryOp.all, op.isKnown = true := by decide
  exact hknown op (List.mem_of_find?_eq_some h)

theorem isComplete_chain : (es : List Expr) → es ≠ [] → areComplete es = true →
    (chain es).isComplete = true
  | [], hne, _ => absurd rfl hne
  | [e], _, h => by
      rw [areComplete, Bool.and_eq_true] at h
      exact h.1
  | e :: next :: rest, _, h => by
      rw [areComplete, Bool.and_eq_true] at h
      rw [chain, isComplete, h.1, isComplete_chain (next :: rest) (by simp) h.2]
      · rfl
      · simp

end Expr

namespace Script

theorem ne_nil_of_argsToExprs {t : Tree} {rest : List Tree} {es : List Expr}
    (h : argsToExprs (t :: rest) = .ok es) : es ≠ [] := by
  rw [argsToExprs] at h
  obtain ⟨e, -, h⟩ := bind_eq_ok_iff.1 h
  obtain ⟨tail, -, h⟩ := bind_eq_ok_iff.1 h
  cases h
  simp

mutual

/-- What an expression of a script is converted to is complete. -/
theorem isComplete_toExpr : (t : Tree) → {e : Expr} → t.toExpr = .ok e → e.isComplete = true
  | .string _ _ _, _, h => by cases h; rfl
  | .number _ _ _, _, h => by
      rw [Tree.toExpr] at h
      split at h
      · cases h; rfl
      · cases h
  | .bool _ _, _, h => by cases h; rfl
  | .null _, _, h => by cases h; rfl
  | .identifier _ _, _, h => by cases h; rfl
  | .dot base _ _, _, h => by
      rw [Tree.toExpr] at h
      obtain ⟨b, hb, h⟩ := bind_eq_ok_iff.1 h
      cases h
      rw [isComplete, isComplete_toExpr base hb]
  | .binary _ left right, _, h => by
      rw [Tree.toExpr] at h
      obtain ⟨l, hl, h⟩ := bind_eq_ok_iff.1 h
      obtain ⟨r, hr, h⟩ := bind_eq_ok_iff.1 h
      cases h
      rw [isComplete, isComplete_toExpr left hl, isComplete_toExpr right hr]
      rfl
  | .unary _ op operand, _, h => by
      rw [Tree.toExpr] at h
      split at h
      · next unaryOp hop =>
        obtain ⟨x, hx, h⟩ := bind_eq_ok_iff.1 h
        cases h
        rw [isComplete, isKnown_of_ofToken? hop, isComplete_toExpr operand hx]
        rfl
      · cases h
  | .suffixed _ _, _, h => by rw [Tree.toExpr] at h; cases h
  | .array start _ items, _, h => by
      rw [Tree.toExpr] at h
      obtain ⟨es, hes, h⟩ := bind_eq_ok_iff.1 h
      cases h
      exact areComplete_itemsToExprs start items hes
  | .elision, _, h => by cases h
  | .call callee args _, _, h => by
      cases callee with
      | dot base method stop =>
          rw [Tree.toExpr] at h
          obtain ⟨f, hf, h⟩ := bind_eq_ok_iff.1 h
          obtain ⟨es, hes, h⟩ := bind_eq_ok_iff.1 h
          cases h
          rw [isComplete, isComplete_toExpr base hf, areComplete_argsToExprs args hes]
          rfl
      | _ => cases h
  | .assign _ target value, _, h => by
      rw [Tree.toExpr] at h
      obtain ⟨t, ht, h⟩ := bind_eq_ok_iff.1 h
      obtain ⟨v, hv, h⟩ := bind_eq_ok_iff.1 h
      cases h
      rw [isComplete, isComplete_toExpr target ht, isComplete_toExpr value hv]
      rfl
  | .sequence [], _, h => by rw [Tree.toExpr] at h; cases h
  | .sequence (first :: rest), _, h => by
      rw [Tree.toExpr] at h
      · obtain ⟨es, hes, h⟩ := bind_eq_ok_iff.1 h
        cases h
        exact isComplete_chain es (ne_nil_of_argsToExprs hes)
          (areComplete_argsToExprs (first :: rest) hes)
      · simp
  | .spread _, _, h => by cases h
  | .object _ _ _, _, h => by cases h
  | .arrayPattern _ _ _, _, h => by cases h
  | .objectPattern _ _ _, _, h => by cases h
  | .other _ _ _ _, _, h => by cases h
  | .bad, _, h => by cases h

theorem areComplete_itemsToExprs (start : Nat) : (items : List Tree) → {es : List Expr} →
    itemsToExprs start items = .ok es → areComplete es = true
  | [], _, h => by cases h; rfl
  | t :: rest, _, h => by
      -- a gap is refused before anything behind it is looked at
      by_cases hgap : t = .elision
      · rw [hgap, itemsToExprs] at h
        cases h
      · rw [itemsToExprs] at h
        · obtain ⟨e, he, h⟩ := bind_eq_ok_iff.1 h
          obtain ⟨tail, htail, h⟩ := bind_eq_ok_iff.1 h
          cases h
          rw [areComplete, isComplete_toExpr t he, areComplete_itemsToExprs start rest htail]
          rfl
        · exact hgap

theorem areComplete_argsToExprs : (args : List Tree) → {es : List Expr} →
    argsToExprs args = .ok es → areComplete es = true
  | [], _, h => by cases h; rfl
  | t :: rest, _, h => by
      rw [argsToExprs] at h
      obtain ⟨e, he, h⟩ := bind_eq_ok_iff.1 h
      obtain ⟨tail, htail, h⟩ := bind_eq_ok_iff.1 h
      cases h
      rw [areComplete, isComplete_toExpr t he, areComplete_argsToExprs rest htail]
      rfl

end

theorem areComplete_toProgram : (body : List Statement) → {es : List Expr} →
    toProgram body = .ok es → areComplete es = true
  | [], _, h => by cases h; rfl
  | .empty :: rest, _, h => areComplete_toProgram rest h
  | .expression tree :: rest, _, h => by
      rw [toProgram] at h
      obtain ⟨e, he, h⟩ := bind_eq_ok_iff.1 h
      obtain ⟨tail, htail, h⟩ := bind_eq_ok_iff.1 h
      cases h
      rw [areComplete, isComplete, isComplete_toExpr tree he, areComplete_toProgram rest htail]
      rfl
  | .other _ _ :: _, _, h => by cases h
  | .bad :: _, _, h => by cases h

/-- **A parsed tree is complete.** -/
theorem isComplete_of_parse {src : String} {e : Expr} (h : parse src = .ok e) :
    e.isComplete = true := by
  unfold parse at h
  split at h
  · cases h
  · next body _ =>
    split at h
    · cases h
    · next statements hstatements =>
      cases h
      exact areComplete_toProgram body hstatements

end Script

/-! ### Tree files of complete trees -/

namespace Expr

theorem keepsNames_readBack : KeepsNames Json.readBack where
  kind k := (Json.readBack_eq_self_iff _).2 (by cases k <;> decide)
  token op h := by
    refine (Json.readBack_eq_self_iff _).2 ?_
    cases op with
    | other code => cases h
    | _ => decide

theorem toTreeText_eq {e : Expr} (h : e.isComplete = true) : e.toTreeText = .ok e.form.toText := by
  rw [toTreeText, encode_eq_form e h]
  rfl

/-- **What is read of the tree file of a complete tree**: the tree with its texts reread, as long as
the tree is not nested too deep. -/
theorem toOption_ofTreeText {e : Expr} (h : e.isComplete = true) :
    (ofTreeText e.form.toText).toOption =
      if e.nesting ≤ Json.maxDepth then some (e.mapTexts Json.readBack) else none := by
  have hparse := Json.toOption_parse_toText (isTextual_form e)
  rw [depth_form, ← form_mapTexts keepsNames_readBack e h] at hparse
  have hback : (e.mapTexts Json.readBack).isComplete = true := by rw [isComplete_mapTexts, h]
  unfold ofTreeText
  cases hread : Json.parse e.form.toText with
  | error fault =>
      rw [hread] at hparse
      split at hparse
      · cases hparse
      · next hdeep => rw [if_neg hdeep]; rfl
  | ok j =>
      rw [hread] at hparse
      split at hparse
      · next hdeep =>
        cases hparse
        rw [if_pos hdeep]
        simp only [decode_form _ hback]
        rfl
      · cases hparse

theorem readBack_texts_iff (e : Expr) :
    e.mapTexts Json.readBack = e ↔ ∀ s ∈ e.texts, Json.restorable s = true := by
  simp only [mapTexts_eq_self_iff, Json.readBack_eq_self_iff]

theorem ofTreeText_eq_self_iff {e : Expr} (h : e.isComplete = true) :
    ofTreeText e.form.toText = .ok e ↔
      (∀ s ∈ e.texts, Json.restorable s = true) ∧ e.nesting ≤ Json.maxDepth := by
  have hread := toOption_ofTreeText h
  rw [← readBack_texts_iff]
  constructor
  · intro hok
    rw [hok] at hread
    split at hread
    · next hdeep => exact ⟨(Option.some.inj hread).symm, hdeep⟩
    · cases hread
  · rintro ⟨hback, hdeep⟩
    rw [if_pos hdeep, hback] at hread
    cases hok : ofTreeText e.form.toText with
    | ok e' =>
        rw [hok] at hread
        exact congrArg _ (Option.some.inj hread)
    | error fault =>
        rw [hok] at hread
        cases hread

theorem jsonText_toText_iff {e : Expr} (h : e.isComplete = true) :
    Json.JsonText e.form.toText.toList ↔ ∀ s ∈ e.texts, Json.restorable s = true := by
  have hback : (e.mapTexts Json.readBack).isComplete = true := by rw [isComplete_mapTexts, h]
  rw [Json.toText, String.toList_ofList, Json.jsonText_write_iff (isTextual_form e),
    ← form_mapTexts keepsNames_readBack e h, ← readBack_texts_iff]
  constructor
  · -- equal forms come from equal trees, so that nothing was lost in the texts either
    exact form_inj hback h
  · intro heq
    rw [heq]

end Expr

/-! ### From a source and back -/

/-- **The round trip of a parsed source through a tree file.** The file can always be written. It is
a JSON text exactly when every text of the tree is restorable; it is read back as the same tree
exactly when, besides, the tree is not nested too deep; and then what is read compiles to what the
source compiles to, under all tables. -/
theorem parsed_tree_round_trip {src : String} {prog : Expr} (h : Query.parse src = .ok prog) :
    ∃ text, prog.toTreeText = .ok text ∧
      (Json.JsonText text.toList ↔ ∀ s ∈ prog.texts, Json.restorable s = true) ∧
      (Expr.ofTreeText text = .ok prog ↔
        (∀ s ∈ prog.texts, Json.restorable s = true) ∧ prog.nesting ≤ Json.maxDepth) ∧
      ((∀ s ∈ prog.texts, Json.restorable s = true) → prog.nesting ≤ Json.maxDepth →
        ∃ e, Expr.ofTreeText text = .ok e ∧
          ∀ t, Query.compileTree t e = Query.compile t src) := by
  have hcomplete : prog.isComplete = true := by
    unfold Query.parse at h
    cases hparse : Script.parse src with
    | error fault => rw [hparse] at h; cases h
    | ok e =>
        rw [hparse] at h
        cases h
        exact Script.isComplete_of_parse hparse
  have hread := ofTreeText_eq_self_iff hcomplete
  refine ⟨prog.form.toText, toTreeText_eq hcomplete, jsonText_toText_iff hcomplete, hread, ?_⟩
  intro hrestorable hdeep
  refine ⟨prog, hread.2 ⟨hrestorable, hdeep⟩, ?_⟩
  intro t
  rw [Query.compile, h]
  rfl

/-- A control character that JSON has no letter for is lost: the file of this source is no JSON
text, and another tree is read from it. -/
theorem control_character_lost :
    ∃ prog text, Query.parse "a == \"\\x01\"" = .ok prog ∧ prog.toTreeText = .ok text ∧
      ¬Json.JsonText text.toList ∧ Expr.ofTreeText text ≠ .ok prog := by
  have htexts : (Query.parse "a == \"\\x01\"").toOption.map Expr.texts =
      some ["==", "a", "\x01"] := by
    decide +kernel
  cases hparse : Query.parse "a == \"\\x01\"" with
  | error fault =>
      rw [hparse] at htexts
      cases htexts
  | ok prog =>
      rw [hparse] at htexts
      have htexts : prog.texts = ["==", "a", "\x01"] := Option.some.inj htexts
      obtain ⟨text, htext, hjson, hread, -⟩ := parsed_tree_round_trip hparse
      have hlost : ¬∀ s ∈ prog.texts, Json.restorable s = true := by
        rw [htexts]
        decide
      exact ⟨prog, text, rfl, htext, fun h => hlost (hjson.1 h), fun h => hlost (hread.1 h).1⟩

end DocQuery
