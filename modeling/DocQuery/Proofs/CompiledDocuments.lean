import DocQuery.Proofs.Acceptance
import DocQuery.Proofs.NumberTexts
import DocQuery.Proofs.Renderers

/-!
# DocQuery.Proofs.CompiledDocuments

**What the compiler hands out can be rendered.** Trees may have number literals that are none and
holes anywhere; a document that a tree compiles to has neither. Its numbers are number literals,
nothing in it is absent, and no document in it repeats a key, so that every renderer accepts it; only
indented text ends at a depth, which a compiled document may exceed. An update document is a
non-empty document under some of `$set`, `$inc` and `$unset`; no field is written twice, a removal
writes null and an increment a number.

`Fragment.Proper` states this of whatever a part of a tree compiles to, and each rule of the compiler
keeps it. An update is described by its writes: it is `Update.ofWrites` of a list of them, each made
by one of the three operators (`Write.Proper`).
-/

namespace DocQuery

open Compile

variable {t : Tables}

/-! ### Proper values -/

/-- A value that has a compact text and none of whose documents repeats a key. -/
def Value.Proper (v : Value) : Prop := v.isRenderable = true ∧ v.DistinctKeys

theorem Value.proper_array_iff {items : List Value} :
    (Value.array items).Proper ↔ ∀ v ∈ items, v.Proper := by
  rw [Value.Proper, Value.isRenderable, Value.areRenderable_iff, Value.DistinctKeys,
    Value.everyKeys_array, ← forall₂_and]
  rfl

theorem Value.proper_document_iff {d : Document} :
    (Value.document d).Proper ↔ d.keys.Nodup ∧ ∀ e ∈ d, e.2.Proper := by
  have hvalues : (∀ e ∈ d, e.2.Proper) ↔
      (∀ e ∈ d, e.2.isRenderable = true) ∧ ∀ e ∈ d, e.2.DistinctKeys := forall₂_and
  rw [hvalues, Value.Proper, Value.isRenderable, Value.haveRenderable_iff, Value.DistinctKeys,
    Value.everyKeys_document]
  exact and_left_comm

theorem Value.proper_singleton {key : String} {v : Value} (h : v.Proper) :
    (Value.document [(key, v)]).Proper := by
  rw [Value.proper_document_iff]
  exact ⟨List.nodup_singleton key, by simpa using h⟩

theorem Value.Proper.set {d : Document} {v : Value} (hd : (Value.document d).Proper)
    (hv : v.Proper) (key : String) : (Value.document (Document.set key v d)).Proper := by
  refine ⟨?_, Value.distinctKeys_set hd.2 hv.2 key⟩
  rw [Value.isRenderable, Value.haveRenderable_iff]
  intro e he
  rcases Value.mem_set he with rfl | he
  · exact hv.1
  · exact ((Value.proper_document_iff.1 hd).2 e he).1

/-! ### Proper updates -/

/-- A write as the compiler makes them: any value is set, a number is added, and a removed field gets
null. -/
inductive Write.Proper : Write → Prop where
  /-- A field is set. -/
  | set {field : String} {v : Value} (hv : v.Proper) : Write.Proper ⟨"$set", field, v⟩
  /-- A number is added to a field. -/
  | inc {field text : String} (h : Decimal.isNumber text = true) :
      Write.Proper ⟨"$inc", field, .number text⟩
  /-- A field is removed. -/
  | unset {field : String} : Write.Proper ⟨"$unset", field, .null⟩

theorem Write.Proper.value {w : Write} (h : w.Proper) : w.value.Proper := by
  cases h with
  | set hv => exact hv
  | inc h => exact ⟨h, trivial⟩
  | unset => exact ⟨rfl, trivial⟩

/-- An update that consists of proper writes to different fields. -/
def Update.Proper (u : Update) : Prop :=
  ∃ ws : List Write, ws ≠ [] ∧ u = Update.ofWrites ws ∧ (ws.map (·.field)).Nodup ∧
    ∀ w ∈ ws, w.Proper

/-- What an update document looks like: operators among three, none of them without fields, no field
written twice, null for removals and numbers for increments. -/
structure Update.WellFormed (u : Update) : Prop where
  /-- The operators are those there are. -/
  operators : ∀ entry ∈ u, entry.1 ∈ ["$set", "$inc", "$unset"]
  /-- Each operator writes a field. -/
  nonempty : ∀ entry ∈ u, entry.2 ≠ []
  /-- No field is written twice, by whatever operators. -/
  fields : (u.flatMap fun entry => Document.keys entry.2).Nodup
  /-- A removal writes null. -/
  unset : ∀ fields, ("$unset", fields) ∈ u → ∀ e ∈ fields, e.2 = .null
  /-- An increment is by a number. -/
  inc : ∀ fields, ("$inc", fields) ∈ u → ∀ e ∈ fields, isNumberValue e.2 = true

theorem mem_writesUnder_iff {group : String} {ws : List Write} {e : String × Value} :
    e ∈ writesUnder group ws ↔ ∃ w ∈ ws, w.group = group ∧ e = (w.field, w.value) := by
  simp only [writesUnder, List.mem_map, List.mem_filter, beq_iff_eq, and_assoc]
  exact exists_congr fun w => and_congr_right fun _ => and_congr_right fun _ => eq_comm

theorem mem_ofWrites_iff {ws : List Write} {entry : String × Document} :
    entry ∈ Update.ofWrites ws ↔
      entry.1 ∈ ws.map (·.group) ∧ entry.2 = writesUnder entry.1 ws := by
  simp only [Update.ofWrites, List.mem_map, List.mem_eraseDups]
  constructor
  · rintro ⟨group, hgroup, rfl⟩
    exact ⟨hgroup, rfl⟩
  · rintro ⟨hgroup, hfields⟩
    exact ⟨entry.1, hgroup, Prod.ext rfl hfields.symm⟩

theorem nodup_keys_writesUnder {ws : List Write} (h : (ws.map (·.field)).Nodup) (group : String) :
    (writesUnder group ws).keys.Nodup := by
  have hkeys : (writesUnder group ws).keys = (ws.filter (·.group == group)).map (·.field) := by
    simp [writesUnder, Document.keys]
  rw [hkeys]
  exact h.sublist (List.filter_sublist.map _)

theorem wellFormed_ofWrites {ws : List Write} (hnodup : (ws.map (·.field)).Nodup)
    (hws : ∀ w ∈ ws, w.Proper) : (Update.ofWrites ws).WellFormed := by
  have hsource : ∀ {group fields}, (group, fields) ∈ Update.ofWrites ws → ∀ e ∈ fields,
      ∃ w ∈ ws, w.group = group ∧ e = (w.field, w.value) := by
    intro group fields hmem e he
    have hfields : fields = writesUnder group ws := (mem_ofWrites_iff.1 hmem).2
    rw [hfields] at he
    exact mem_writesUnder_iff.1 he
  refine ⟨?_, ?_, ?_, ?_, ?_⟩
  · intro entry hmem
    obtain ⟨w, hw, hgroup⟩ := List.mem_map.1 (mem_ofWrites_iff.1 hmem).1
    rw [← hgroup]
    cases hws w hw <;> simp
  · intro entry hmem hnil
    obtain ⟨hgroup, hfields⟩ := mem_ofWrites_iff.1 hmem
    obtain ⟨w, hw, hgroup⟩ := List.mem_map.1 hgroup
    have hwrite : (w.field, w.value) ∈ writesUnder entry.1 ws :=
      mem_writesUnder_iff.2 ⟨w, hw, hgroup, rfl⟩
    rw [← hfields, hnil] at hwrite
    cases hwrite
  · unfold Update.ofWrites
    rw [List.flatMap_map, List.nodup_flatMap]
    refine ⟨fun group _ => nodup_keys_writesUnder hnodup group, ?_⟩
    refine (nodup_eraseDups _).imp ?_
    -- a field under two operators would have two writes
    intro g g' hne key hkey hkey'
    obtain ⟨e, he, rfl⟩ := List.mem_map.1 hkey
    obtain ⟨e', he', hsame⟩ := List.mem_map.1 hkey'
    obtain ⟨w, hw, rfl, rfl⟩ := mem_writesUnder_iff.1 he
    obtain ⟨w', hw', rfl, rfl⟩ := mem_writesUnder_iff.1 he'
    exact hne (congrArg Write.group (List.inj_on_of_nodup_map hnodup hw hw' hsame.symm))
  · intro fields hmem e he
    obtain ⟨w, hw, hgroup, rfl⟩ := hsource hmem e he
    cases hws w hw with
    | unset => rfl
    | _ => simp at hgroup
  · intro fields hmem e he
    obtain ⟨w, hw, hgroup, rfl⟩ := hsource hmem e he
    cases hws w hw with
    | inc => rfl
    | _ => simp at hgroup

/-- The document of a proper update is proper. -/
theorem Update.Proper.toDocument {u : Update} (h : u.Proper) :
    (Value.document u.toDocument).Proper := by
  obtain ⟨ws, -, rfl, hnodup, hws⟩ := h
  have hkeys : Document.keys (Update.ofWrites ws).toDocument = (ws.map (·.group)).eraseDups := by
    simp [Document.keys, Update.toDocument, Update.ofWrites, Function.comp_def]
  rw [Value.proper_document_iff, hkeys]
  refine ⟨nodup_eraseDups _, ?_⟩
  intro e he
  obtain ⟨⟨group, fields⟩, hmem, rfl⟩ := List.mem_map.1 he
  have hfields : fields = writesUnder group ws := (mem_ofWrites_iff.1 hmem).2
  subst hfields
  change (Value.document (writesUnder group ws)).Proper
  rw [Value.proper_document_iff]
  refine ⟨nodup_keys_writesUnder hnodup group, ?_⟩
  intro e he
  obtain ⟨w, hw, -, rfl⟩ := mem_writesUnder_iff.1 he
  exact (hws w hw).value

theorem ofWrites_singleton (w : Write) : Update.ofWrites [w] = w.toUpdate := by
  simp [Update.ofWrites, writesUnder, Write.toUpdate, Update.single, List.eraseDups_cons]

theorem Write.Proper.toUpdate {w : Write} (h : w.Proper) : w.toUpdate.Proper :=
  ⟨[w], by simp, (ofWrites_singleton w).symm, by simp, by simpa using h⟩

/-- A single write of a proper update is proper. -/
theorem Update.Proper.write {w : Write} (h : w.toUpdate.Proper) : w.Proper := by
  obtain ⟨ws, -, hu, hnodup, hws⟩ := h
  have hlength : ws.length = 1 := by
    rw [← Update.fieldCount_ofWrites hnodup, ← hu]
    rfl
  obtain ⟨w', rfl⟩ := List.length_eq_one_iff.1 hlength
  rw [ofWrites_singleton, Write.toUpdate_inj] at hu
  rw [hu]
  exact hws w' (List.mem_singleton_self w')

/-! ### The rules of the compiler -/

/-- What a part of a tree compiles to is proper. -/
def Fragment.Proper : Fragment → Prop
  | .field _ => True
  | .literal v => v.Proper
  | .condition d => (Value.document d).Proper
  | .update u => u.Proper

theorem proper_of_asValues {subject : String} {i : Nat} {fs : List Fragment} {vs : List Value}
    (hfs : ∀ f ∈ fs, f.Proper) (h : asValues subject i fs = .ok vs) : ∀ v ∈ vs, v.Proper := by
  rw [asValues_eq_ok_iff] at h
  rw [h, List.forall_mem_map] at hfs
  exact hfs

theorem proper_of_comparison {token target : String} {l r f : Fragment} (hl : l.Proper)
    (hr : r.Proper) (h : comparison token target l r = .ok f) : f.Proper := by
  have hfilter : ∀ {path : String} {v : Value}, v.Proper →
      (Value.document (comparisonFilter target path v)).Proper := by
    intro path v hv
    unfold comparisonFilter
    split
    · exact Value.proper_singleton hv
    · exact Value.proper_singleton (Value.proper_singleton hv)
  unfold comparison at h
  split at h <;> cases h
  · exact hfilter hr
  · exact hfilter hl

theorem proper_of_binary {token : String} {l r f : Fragment} (hl : l.Proper) (hr : r.Proper)
    (h : Compile.binary t token l r = .ok f) : f.Proper := by
  simp only [Compile.binary, bind_eq_ok_iff] at h
  obtain ⟨op, -, h⟩ := h
  split at h
  · simp only [bind_eq_ok_iff, asCondition_eq_ok_iff] at h
    obtain ⟨dl, rfl, dr, rfl, h⟩ := h
    cases h
    refine Value.proper_singleton (Value.proper_array_iff.2 ?_)
    intro v hv
    rcases List.mem_pair.1 hv with rfl | rfl
    · exact hl
    · exact hr
  · exact proper_of_comparison hl hr h

/-- Merged or under `$and`, proper filters make a proper filter. -/
theorem proper_conjunction {ds : List Document} (h : ∀ d ∈ ds, (Value.document d).Proper) :
    (Value.document (conjunction ds)).Proper := by
  rw [conjunction_eq]
  split
  · next hnodup =>
    have hkeys : Document.keys ds.flatten = ds.flatMap Document.keys := by
      rw [Document.keys, List.map_flatten]
      rfl
    rw [Value.proper_document_iff, hkeys]
    refine ⟨hnodup, ?_⟩
    intro e he
    obtain ⟨d, hd, he⟩ := List.mem_flatten.1 he
    exact (Value.proper_document_iff.1 (h d hd)).2 e he
  · refine Value.proper_singleton (Value.proper_array_iff.2 ?_)
    rw [List.forall_mem_map]
    exact h

theorem proper_of_unary {op : UnaryOp} {f g : Fragment} (hf : f.Proper)
    (h : Compile.unary op f = .ok g) : g.Proper := by
  unfold Compile.unary at h
  split at h <;> cases h
  · exact ⟨Decimal.isNumber_negate hf.1, trivial⟩
  · exact Value.proper_singleton ⟨rfl, trivial⟩
  · exact Write.Proper.toUpdate .unset
  · exact Write.Proper.toUpdate (.inc (by decide))

theorem proper_of_methodOperand {m : Method} {args : List Fragment} {d : Document}
    (hargs : ∀ f ∈ args, f.Proper) (h : methodOperand m args = .ok d) :
    (Value.document d).Proper := by
  unfold methodOperand at h
  split at h
  · rw [bind_eq_ok_iff] at h
    obtain ⟨vs, hvs, h⟩ := h
    cases h
    exact Value.proper_singleton (Value.proper_array_iff.2 (proper_of_asValues hargs hvs))
  · split at h
    · cases h
      exact Value.proper_singleton ⟨rfl, trivial⟩
    · next first rest =>
      rw [List.forall_mem_cons] at hargs
      simp only [bind_eq_ok_iff, asValue_eq_ok_iff] at h
      obtain ⟨v, rfl, h⟩ := h
      cases h
      exact Value.proper_singleton hargs.1
  · split at h
    · cases h
    · next first =>
      rw [List.forall_mem_cons] at hargs
      simp only [bind_eq_ok_iff, asValue_eq_ok_iff] at h
      obtain ⟨v, rfl, h⟩ := h
      cases h
      exact Value.proper_singleton hargs.1
    · next first second rest =>
      rw [List.forall_mem_cons, List.forall_mem_cons] at hargs
      simp only [bind_eq_ok_iff, asValue_eq_ok_iff] at h
      obtain ⟨v, rfl, w, rfl, h⟩ := h
      cases h
      -- tables may give a method one key for both arguments, and then the second replaces the first
      exact (Value.proper_singleton hargs.1).set hargs.2.1 m.option
  · split at h
    · next d' =>
      cases h
      exact Value.proper_singleton (hargs _ (List.mem_singleton_self _))
    · cases h
    · cases h
  · cases h

theorem proper_of_call {name : String} {field f : Fragment} {args : List Fragment}
    (hargs : ∀ f ∈ args, f.Proper) (h : Compile.call t name field args = .ok f) : f.Proper := by
  unfold Compile.call at h
  split at h
  · cases h
  · split at h
    · rw [bind_eq_ok_iff] at h
      obtain ⟨operand, hoperand, h⟩ := h
      cases h
      exact Value.proper_singleton (proper_of_methodOperand hargs hoperand)
    · cases h

theorem proper_of_assign {op : String} {target v f : Fragment} (hv : v.Proper)
    (h : Compile.assign op target v = .ok f) : f.Proper := by
  simp only [Compile.assign, bind_eq_ok_iff] at h
  obtain ⟨group, hgroup, h⟩ := h
  split at h
  · next path =>
    split at h
    · next v =>
      split at h
      · cases h
      · next hnumber =>
        cases h
        unfold assignGroup at hgroup
        split at hgroup
        · cases hgroup
          exact Write.Proper.toUpdate (.set hv)
        · split at hgroup
          · cases hgroup
            -- the check on increments has left only numbers
            have hisNumber : isNumberValue v = true := by simpa using hnumber
            obtain ⟨text, rfl⟩ := isNumberValue_iff.1 hisNumber
            exact Write.Proper.toUpdate (.inc hv.1)
          · cases hgroup
    · cases h
  · cases h

theorem proper_of_program {fs : List Fragment} {f : Fragment} (hfs : ∀ f ∈ fs, f.Proper)
    (h : Compile.program fs = .ok f) : f.Proper := by
  unfold Compile.program at h
  split at h <;> cases h
  exact hfs f (List.mem_singleton_self f)

/-! ### Chains, through their leaves -/

/-- The filters of the leaves of a conjunction that compiles. -/
theorem exists_filters_of_compile_and {l r : Expr} {f : Fragment}
    (h : (Expr.binary Expr.andToken l r).compile t = .ok f) :
    ∃ ds, List.Forall₂ (fun leaf d => leaf.compile t = .ok (.condition d))
      (Expr.andLeaves (.binary Expr.andToken l r)) ds ∧ f = .condition (conjunction ds) := by
  simp only [compile_and, bind_eq_ok_iff, mapM_eq_ok_iff, compileFilter_eq_ok_iff] at h
  obtain ⟨_, -, ds, hds, hf⟩ := h
  exact ⟨ds, by rw [Expr.andLeaves_binary]; exact hds, (Except.ok.inj hf).symm⟩

/-- The writes of the members of a comma chain that compiles. -/
theorem exists_writes_of_compile_sequence {l r : Expr} {f : Fragment}
    (h : (Expr.sequence l r).compile t = .ok f) :
    ∃ ws : List Write, (∀ leaf ∈ Expr.sequenceLeaves (.sequence l r), leaf.isWrite = true) ∧
      List.Forall₂ (fun leaf w => leaf.compile t = .ok (.update w.toUpdate))
        (Expr.sequenceLeaves (.sequence l r)) ws ∧
      (ws.map (·.field)).Nodup ∧ f = .update (Update.ofWrites ws) := by
  have hrun := h
  rw [compile_sequence, bind_eq_ok_iff] at hrun
  obtain ⟨b, hb, -⟩ := hrun
  -- the run succeeded, so each leaf was checked and is a single write
  have hleaves := compile_of_foldlM_addLeaf hb
  have hwrite := fun leaf hmem => (hleaves leaf hmem).1
  obtain ⟨ws, hws⟩ := exists_writes hleaves
  obtain ⟨hok, hrefused⟩ := compile_sequence_of_writes hwrite hws
  by_cases hnodup : (ws.map (·.field)).Nodup
  · rw [hok hnodup] at h
    exact ⟨ws, hwrite, hws, hnodup, (Except.ok.inj h).symm⟩
  · obtain ⟨_, _, -, herror⟩ := hrefused hnodup
    rw [herror] at h
    cases h

/-- What a conjunction compiles to is proper when what smaller trees compile to is. -/
theorem proper_of_and {l r : Expr} {f : Fragment}
    (hsmaller : ∀ leaf : Expr, sizeOf leaf < sizeOf (Expr.binary Expr.andToken l r) →
      ∀ g : Fragment, leaf.compile t = .ok g → g.Proper)
    (h : (Expr.binary Expr.andToken l r).compile t = .ok f) : f.Proper := by
  obtain ⟨ds, hds, rfl⟩ := exists_filters_of_compile_and h
  refine proper_conjunction (forall_mem_of_forall₂ hds fun leaf hmem d hd => ?_)
  exact hsmaller leaf (Expr.sizeOf_lt_of_mem_andLeaves rfl hmem) _ hd

/-- What a comma chain compiles to is proper when what smaller trees compile to is. -/
theorem proper_of_sequence {l r : Expr} {f : Fragment}
    (hsmaller : ∀ leaf : Expr, sizeOf leaf < sizeOf (Expr.sequence l r) →
      ∀ g : Fragment, leaf.compile t = .ok g → g.Proper)
    (h : (Expr.sequence l r).compile t = .ok f) : f.Proper := by
  obtain ⟨ws, -, hws, hnodup, rfl⟩ := exists_writes_of_compile_sequence h
  refine ⟨ws, ?_, rfl, hnodup, ?_⟩
  · rintro rfl
    exact Grouping.comma.leaves_ne_nil _ (List.forall₂_nil_right_iff.1 hws)
  · refine forall_mem_of_forall₂ hws fun leaf hmem w hw => Update.Proper.write ?_
    exact hsmaller leaf (Expr.sizeOf_lt_of_mem_sequenceLeaves hmem) _ hw

/-! ### Whole trees -/

mutual

/-- **What a tree compiles to is proper.** -/
theorem proper_of_compile {e : Expr} {f : Fragment} (h : e.compile t = .ok f) : f.Proper := by
  cases e with
  | hole => rw [Expr.compile] at h; cases h
  | program body =>
      rw [Expr.compile, bind_eq_ok_iff] at h
      obtain ⟨fs, hfs, h⟩ := h
      exact proper_of_program (proper_of_compileAll hfs) h
  | statement e =>
      rw [Expr.compile] at h
      exact proper_of_compile h
  | string s =>
      rw [Expr.compile] at h
      cases h
      exact ⟨rfl, trivial⟩
  | number literal =>
      rw [Expr.compile] at h
      split at h
      · next hnumber =>
        cases h
        exact ⟨hnumber, trivial⟩
      · cases h
  | bool b =>
      rw [Expr.compile] at h
      cases h
      exact ⟨rfl, trivial⟩
  | null =>
      rw [Expr.compile] at h
      cases h
      exact ⟨rfl, trivial⟩
  | identifier name =>
      rw [Expr.compile] at h
      cases h
      trivial
  | member base property =>
      rw [Expr.compile, bind_eq_ok_iff] at h
      obtain ⟨g, -, h⟩ := h
      cases g <;> cases h
      trivial
  | binary token l r =>
      by_cases htoken : token = Expr.andToken
      · subst htoken
        exact proper_of_and (fun leaf hlt g hg => proper_of_compile hg) h
      · rw [compile_binary htoken, bind_eq_ok_iff] at h
        obtain ⟨g, hg, h⟩ := h
        rw [bind_eq_ok_iff] at h
        obtain ⟨k, hk, h⟩ := h
        exact proper_of_binary (proper_of_compile hg) (proper_of_compile hk) h
  | unary op operand =>
      rw [Expr.compile, bind_eq_ok_iff] at h
      obtain ⟨g, hg, h⟩ := h
      exact proper_of_unary (proper_of_compile hg) h
  | array elements =>
      rw [Expr.compile, bind_eq_ok_iff] at h
      obtain ⟨fs, hfs, h⟩ := h
      rw [bind_eq_ok_iff] at h
      obtain ⟨vs, hvs, h⟩ := h
      cases h
      exact Value.proper_array_iff.2 (proper_of_asValues (proper_of_compileAll hfs) hvs)
  | call field name args =>
      rw [Expr.compile, bind_eq_ok_iff] at h
      obtain ⟨g, -, h⟩ := h
      rw [bind_eq_ok_iff] at h
      obtain ⟨fs, hfs, h⟩ := h
      exact proper_of_call (proper_of_compileAll hfs) h
  | detachedCall args => rw [Expr.compile] at h; cases h
  | assign op target value =>
      rw [Expr.compile, bind_eq_ok_iff] at h
      obtain ⟨g, -, h⟩ := h
      rw [bind_eq_ok_iff] at h
      obtain ⟨k, hk, h⟩ := h
      exact proper_of_assign (proper_of_compile hk) h
  | sequence l r =>
      exact proper_of_sequence (fun leaf hlt g hg => proper_of_compile hg) h
termination_by sizeOf e
decreasing_by
  -- a part of the node, or something no larger than a leaf of it
  all_goals
    subst_vars
    first
    | simp only [Expr.program.sizeOf_spec, Expr.statement.sizeOf_spec, Expr.binary.sizeOf_spec,
        Expr.unary.sizeOf_spec, Expr.array.sizeOf_spec, Expr.call.sizeOf_spec,
        Expr.assign.sizeOf_spec]
      omega
    | omega

theorem proper_of_compileAll {es : List Expr} {fs : List Fragment} (h : compileAll t es = .ok fs) :
    ∀ f ∈ fs, f.Proper := by
  cases compileAll_eq_ok_iff.1 h with
  | nil => simp
  | cons hf hfs =>
      exact List.forall_mem_cons.2
        ⟨proper_of_compile hf, proper_of_compileAll (compileAll_eq_ok_iff.2 hfs)⟩
termination_by sizeOf es
decreasing_by
  all_goals
    subst_vars
    simp only [List.cons.sizeOf_spec]
    omega

end

/-- The document of a tree is proper. -/
theorem proper_of_compileTree {e : Expr} {d : Document} (h : Query.compileTree t e = .ok d) :
    (Value.document d).Proper := by
  rcases compileTree_eq_ok_iff.1 h with hd | ⟨u, hu, rfl⟩
  · exact proper_of_compile (f := .condition d) hd
  · exact (proper_of_compile (f := .update u) hu).toDocument

/-- **What the compiler hands out can be rendered.** For all tables and every tree, a document that
the tree compiles to has only number literals for numbers, nothing absent and no repeated key at any
depth, and every renderer accepts it, the indenter exactly when it nests no deeper than the limit.
When the tree is an update, its document is that of a well-formed one. -/
theorem compiled_document_renders {e : Expr} {d : Document} (h : Query.compileTree t e = .ok d) :
    (Value.document d).isRenderable = true ∧ (Value.document d).DistinctKeys ∧
      (Value.document d).Renders ∧
      ∀ u, e.compile t = .ok (.update u) → d = u.toDocument ∧ u ≠ [] ∧ u.WellFormed := by
  obtain ⟨hrenderable, hdistinct⟩ := proper_of_compileTree h
  refine ⟨hrenderable, hdistinct, Value.renders_of_isRenderable hrenderable, ?_⟩
  intro u hu
  have hdoc := compileTree_eq_ok_iff.2 (Or.inr ⟨u, hu, rfl⟩)
  rw [h] at hdoc
  obtain ⟨ws, hne, rfl, hnodup, hws⟩ := proper_of_compile (f := .update u) hu
  refine ⟨Except.ok.inj hdoc, ?_, wellFormed_ofWrites hnodup hws⟩
  intro hnil
  have hcount := Update.fieldCount_ofWrites hnodup
  rw [hnil] at hcount
  exact hne (List.length_eq_zero_iff.1 hcount.symm)

/-- A chain that sets a negated number and a list, adds and removes: `a = -1.50, ++b, delete c.d,
e = ["\n"]`. -/
theorem mixed_update_renders :
    let e : Expr := .chain [.assign "=" (.identifier "a") (.unary .negate (.number "1.50")),
      .unary .increment (.identifier "b"), .unary .delete (.member (.identifier "c") "d"),
      .assign "=" (.identifier "e") (.array [.string "\n"])]
    let u : Update := [("$set", [("a", .number "-1.50"), ("e", .array [.string "\n"])]),
      ("$inc", [("b", .number "1")]), ("$unset", [("c.d", .null)])]
    e.compile .standard = .ok (.update u) ∧ (Value.document u.toDocument).DistinctKeys ∧
      (Value.document u.toDocument).Renders ∧ u.WellFormed := by
  intro e u
  have hu : e.compile .standard = .ok (.update u) := by cbv
  have hd : Query.compileTree .standard e = .ok u.toDocument :=
    compileTree_eq_ok_iff.2 (Or.inr ⟨u, hu, rfl⟩)
  obtain ⟨-, hdistinct, hrenders, hupdate⟩ := compiled_document_renders hd
  exact ⟨hu, hdistinct, hrenders, (hupdate u hu).2.2⟩

end DocQuery
