import DocQuery.Proofs.Compiler

/-!
# DocQuery.Proofs.UpdateChain

**What a comma chain of writes compiles to.** Each member of a chain writes one field with one update
operator. The update of the chain has the operators in the order of their first use and, under each
of them, the writes made with it in the order of the chain (`Update.ofWrites`). A field that is
written twice, by whatever operators, is refused at its second write.

The builder of an update keeps two views of the writes so far, the grouped update and the list of
written fields. `UpdateBuilder.Holds` says that both views are views of one list of writes; a write
of a new field extends the list (`Holds.write_new`), a write of a known field is refused with the
operator that the list has for it (`Holds.write_again`), and a run of writes follows by induction on
the writes still to come (`Holds.run`).
-/

namespace DocQuery

open Compile

/-- One write of an update: a field gets a value by an update operator. -/
structure Write where
  /-- The update operator. -/
  group : String
  /-- The field, by its dotted path. -/
  field : String
  /-- The operand. -/
  value : Value

/-- The update of a single write. -/
def Write.toUpdate (w : Write) : Update := .single w.group w.field w.value

theorem Write.toUpdate_inj {w w' : Write} : w.toUpdate = w'.toUpdate ↔ w = w' := by
  cases w
  cases w'
  simp [Write.toUpdate, Update.single]

/-- The fields that writes made with one operator put under it. -/
def writesUnder (group : String) (ws : List Write) : Document :=
  (ws.filter (·.group == group)).map fun w => (w.field, w.value)

/-- The update that consists of writes: operators in the order of their first use, and under each of
them its writes in order. -/
def Update.ofWrites (ws : List Write) : Update :=
  (ws.map (·.group)).eraseDups.map fun group => (group, writesUnder group ws)

/-- The number of fields that an update writes. -/
def Update.fieldCount (u : Update) : Nat := (u.map (·.2.length)).sum

/-- `later` is the first of the writes whose field an earlier one, `earlier`, has written. -/
def FirstRepeat (ws : List Write) (earlier later : Write) : Prop :=
  ∃ before after, ws = before ++ later :: after ∧ (before.map (·.field)).Nodup ∧
    earlier ∈ before ∧ earlier.field = later.field

/-! ### Grouping one more write -/

theorem nodup_eraseDups (xs : List String) : xs.eraseDups.Nodup := by
  cases xs with
  | nil => simp
  | cons x rest =>
      rw [List.eraseDups_cons, List.nodup_cons]
      refine ⟨?_, nodup_eraseDups _⟩
      rw [List.mem_eraseDups, List.mem_filter]
      simp
termination_by xs.length
decreasing_by exact Nat.lt_succ_of_le (List.length_filter_le _ rest)

theorem eraseDups_concat (xs : List String) (x : String) :
    (xs ++ [x]).eraseDups = if x ∈ xs then xs.eraseDups else xs.eraseDups ++ [x] := by
  rw [List.eraseDups_append]
  split
  · next h => simp [List.removeAll, h]
  · next h =>
    have hone : [x].removeAll xs = [x] := by simp [List.removeAll, h]
    rw [hone]
    rfl

theorem writesUnder_concat (group : String) (ws : List Write) (w : Write) :
    writesUnder group (ws ++ [w]) =
      if group = w.group then writesUnder group ws ++ [(w.field, w.value)]
      else writesUnder group ws := by
  unfold writesUnder
  by_cases h : group = w.group
  · simp [h]
  · have h' : ¬ w.group = group := fun e => h e.symm
    simp [h, h']

theorem writesUnder_of_not_mem {group : String} {ws : List Write}
    (h : group ∉ ws.map (·.group)) : writesUnder group ws = [] := by
  simp only [List.mem_map, not_exists, not_and] at h
  simp only [writesUnder, List.map_eq_nil_iff, List.filter_eq_nil_iff, beq_iff_eq]
  exact h

theorem keys_writesUnder_subset {group : String} {ws : List Write} {key : String}
    (h : key ∈ (writesUnder group ws).keys) : key ∈ ws.map (·.field) := by
  simp only [writesUnder, Document.keys, List.map_map, List.mem_map, List.mem_filter,
    Function.comp_apply] at h ⊢
  obtain ⟨w, ⟨hw, -⟩, rfl⟩ := h
  exact ⟨w, hw, rfl⟩

/-- Inserting under an operator changes only the fields of that operator, and appends the operator
if it is new. -/
theorem insert_map (group field : String) (value : Value) (fields : String → Document)
    (hnew : field ∉ (fields group).keys) {groups : List String} (hnodup : groups.Nodup) :
    UpdateBuilder.insert group field value (groups.map fun g => (g, fields g)) =
      if group ∈ groups then
        groups.map fun g => (g, if g = group then fields g ++ [(field, value)] else fields g)
      else (groups.map fun g => (g, fields g)) ++ [(group, [(field, value)])] := by
  induction groups with
  | nil => rfl
  | cons g rest ih =>
      rw [List.nodup_cons] at hnodup
      by_cases hg : g = group
      · subst hg
        have hrest : ∀ x ∈ rest, ¬ x = g := fun x hx e => hnodup.1 (e ▸ hx)
        rw [List.map_cons, UpdateBuilder.insert, if_pos rfl, Document.set_of_not_mem value hnew,
          if_pos (List.mem_cons_self ..), List.map_cons, if_pos rfl]
        exact congrArg _ (List.map_congr_left fun x hx => by rw [if_neg (hrest x hx)])
      · have hg' : ¬ group = g := fun e => hg e.symm
        rw [List.map_cons, UpdateBuilder.insert, if_neg hg, ih hnodup.2]
        simp only [List.mem_cons, hg', false_or]
        split
        · rw [List.map_cons, if_neg hg]
        · rfl

/-- Writing a new field extends the writes of an update. -/
theorem insert_ofWrites {ws : List Write} {w : Write} (h : w.field ∉ ws.map (·.field)) :
    UpdateBuilder.insert w.group w.field w.value (Update.ofWrites ws) =
      Update.ofWrites (ws ++ [w]) := by
  have hnew : w.field ∉ (writesUnder w.group ws).keys := fun hk => h (keys_writesUnder_subset hk)
  unfold Update.ofWrites
  rw [insert_map w.group w.field w.value (writesUnder · ws) hnew (nodup_eraseDups _),
    List.map_append, List.map_singleton, eraseDups_concat]
  simp only [List.mem_eraseDups]
  split
  · exact List.map_congr_left fun g _ => by rw [writesUnder_concat]
  · next hg =>
    rw [List.map_append, List.map_singleton, writesUnder_concat, if_pos rfl,
      writesUnder_of_not_mem hg]
    refine congrArg (· ++ _) (List.map_congr_left fun g hmem => ?_)
    rw [List.mem_eraseDups] at hmem
    rw [writesUnder_concat, if_neg]
    rintro rfl
    exact hg hmem

/-! ### The builder -/

/-- Both views of a builder are views of these writes, no two of which write the same field. -/
structure UpdateBuilder.Holds (b : UpdateBuilder) (ws : List Write) : Prop where
  /-- The update so far. -/
  update_eq : b.update = Update.ofWrites ws
  /-- The fields written so far. -/
  written_eq : b.written = (ws.map fun w => (w.field, w.group)).reverse
  /-- No field is written twice. -/
  nodup : (ws.map (·.field)).Nodup

namespace UpdateBuilder

theorem holds_empty : UpdateBuilder.empty.Holds [] := ⟨rfl, rfl, List.nodup_nil⟩

variable {b : UpdateBuilder} {ws : List Write} {w : Write}

/-- Write one write. -/
def writeOne (b : UpdateBuilder) (w : Write) : Except Cause UpdateBuilder :=
  b.write w.group w.field w.value

/-- A write of a new field joins the writes. -/
theorem Holds.write_new (h : b.Holds ws) (hw : w.field ∉ ws.map (·.field)) :
    ∃ b', b.writeOne w = .ok b' ∧ b'.Holds (ws ++ [w]) := by
  have hnone : b.written.lookup w.field = none := by
    rw [h.written_eq, List.lookup_eq_none_iff]
    intro p hp
    simp only [List.mem_reverse, List.mem_map] at hp
    obtain ⟨e, he, rfl⟩ := hp
    rw [bne_iff_ne]
    intro hfield
    exact hw (List.mem_map.2 ⟨e, he, hfield.symm⟩)
  refine ⟨⟨_, _⟩, by rw [writeOne, UpdateBuilder.write, hnone], ?_, ?_, ?_⟩
  · rw [h.update_eq, insert_ofWrites hw]
  · simp [h.written_eq]
  · rw [List.map_append, List.nodup_append]
    refine ⟨h.nodup, by simp, ?_⟩
    intro x hx y hy
    rw [List.map_singleton, List.mem_singleton] at hy
    exact fun e => hw (hy ▸ e ▸ hx)

/-- A write of a known field is refused, with the operator that wrote the field before. -/
theorem Holds.write_again (h : b.Holds ws) {e : Write} (he : e ∈ ws) (hfield : e.field = w.field) :
    b.writeOne w = .error (.conflictingUpdate w.field e.group w.group) := by
  have hlookup : b.written.lookup w.field = some e.group := by
    -- the list of written fields is reversed, so what follows `e` has to be ruled out
    obtain ⟨before, after, rfl⟩ := List.append_of_mem he
    have hnodup := h.nodup
    rw [List.map_append, List.map_cons, List.nodup_append] at hnodup
    rw [h.written_eq, List.lookup_eq_some_iff]
    refine ⟨(after.map fun w => (w.field, w.group)).reverse,
      (before.map fun w => (w.field, w.group)).reverse, by simp [hfield], ?_⟩
    intro p hp
    simp only [List.mem_reverse, List.mem_map] at hp
    obtain ⟨x, hx, rfl⟩ := hp
    simp only [bne_iff_ne, ne_eq]
    intro heq
    have hnot := (List.nodup_cons.1 hnodup.2.1).1
    exact hnot (hfield ▸ heq ▸ List.mem_map_of_mem hx)
  rw [writeOne, UpdateBuilder.write, hlookup]

/-- A run of writes either makes all of them, or stops at the first one whose field is known. The
induction is on the writes still to come; those already made are the list that the builder holds. -/
theorem Holds.run (h : b.Holds ws) (rest : List Write) :
    (((ws ++ rest).map (·.field)).Nodup → ∃ b', rest.foldlM writeOne b = .ok b' ∧
      b'.Holds (ws ++ rest)) ∧
    (¬ ((ws ++ rest).map (·.field)).Nodup → ∃ earlier later, FirstRepeat (ws ++ rest) earlier later ∧
      rest.foldlM writeOne b =
        .error (.conflictingUpdate later.field earlier.group later.group)) := by
  induction rest generalizing b ws with
  | nil =>
      rw [List.append_nil]
      exact ⟨fun _ => ⟨b, rfl, h⟩, fun hrep => absurd h.nodup hrep⟩
  | cons w rest ih =>
      by_cases hw : w.field ∈ ws.map (·.field)
      · -- the field is known: the run stops here, whatever is still to come
        obtain ⟨e, he, hfield⟩ := List.mem_map.1 hw
        have hstop : (w :: rest).foldlM writeOne b =
            .error (.conflictingUpdate w.field e.group w.group) := by
          rw [List.foldlM_cons, h.write_again he hfield]
          rfl
        have hrep : FirstRepeat (ws ++ w :: rest) e w := ⟨ws, rest, rfl, h.nodup, he, hfield⟩
        refine ⟨fun hnodup => ?_, fun _ => ⟨e, w, hrep, hstop⟩⟩
        rw [List.map_append, List.map_cons, List.nodup_append] at hnodup
        exact absurd rfl (hnodup.2.2 _ hw _ (List.mem_cons_self ..))
      · -- the field is new: the write moves from those to come to those made
        obtain ⟨b', hb', hholds⟩ := h.write_new hw
        have hstep : (w :: rest).foldlM writeOne b = rest.foldlM writeOne b' := by
          rw [List.foldlM_cons, hb']
          rfl
        rw [hstep, show ws ++ w :: rest = ws ++ [w] ++ rest by simp]
        exact ih hholds

end UpdateBuilder

/-! ### The number of writes -/

/-- Inserting a field that its operator does not have yet adds one field. -/
theorem Update.fieldCount_insert {group field : String} {value : Value} {u : Update}
    (hnew : ∀ fields, (group, fields) ∈ u → field ∉ Document.keys fields) :
    Update.fieldCount (UpdateBuilder.insert group field value u) = u.fieldCount + 1 := by
  induction u with
  | nil => rfl
  | cons entry rest ih =>
      obtain ⟨g, fields⟩ := entry
      rw [UpdateBuilder.insert]
      split
      · next hg =>
        subst hg
        rw [Document.set_of_not_mem value (hnew fields (List.mem_cons_self ..))]
        simp only [Update.fieldCount, List.map_cons, List.sum_cons, List.length_append,
          List.length_singleton]
        omega
      · have := ih fun fs hfs => hnew fs (List.mem_cons_of_mem _ hfs)
        simp only [Update.fieldCount, List.map_cons, List.sum_cons] at this ⊢
        omega

/-- Writes of different fields all end up in the update. -/
theorem Update.fieldCount_ofWrites {ws : List Write} (h : (ws.map (·.field)).Nodup) :
    (Update.ofWrites ws).fieldCount = ws.length := by
  induction ws using List.reverseRecOn with
  | nil => rfl
  | append_singleton ws w ih =>
      rw [List.map_append, List.map_singleton, List.nodup_append] at h
      have hw : w.field ∉ ws.map (·.field) := fun hmem => h.2.2 _ hmem _ (by simp) rfl
      rw [← insert_ofWrites hw, Update.fieldCount_insert, ih h.1, List.length_append,
        List.length_singleton]
      intro fields hfields hkey
      obtain ⟨g, -, hg⟩ := List.mem_map.1 hfields
      cases hg
      exact hw (keys_writesUnder_subset hkey)

/-! ### Chains of writes -/

/-- What a removal, an increment or an assignment writes to. -/
def Expr.writeTarget? : Expr → Option Expr
  | .unary .delete operand => some operand
  | .unary .increment operand => some operand
  | .assign _ target _ => some target
  | _ => none

/-- A tree that a comma chain may have as a member: a removal, an increment or an assignment. -/
def Expr.isWrite (e : Expr) : Bool := e.writeTarget?.isSome

theorem checkSequenceMember_eq_ok_iff {e : Expr} :
    checkSequenceMember e = .ok () ↔ e.isWrite = true := by
  cases e with
  | unary op operand =>
      cases op <;> simp [checkSequenceMember, Expr.isWrite, Expr.writeTarget?]
  | _ => simp [checkSequenceMember, Expr.isWrite, Expr.writeTarget?]

variable {t : Tables}

/-- A member that compiles to a single write is written. -/
theorem addLeaf_eq_writeOne {b : UpdateBuilder} {leaf : Expr} {w : Write}
    (hmember : leaf.isWrite = true) (hw : leaf.compile t = .ok (.update w.toUpdate)) :
    addLeaf t b leaf = b.writeOne w := by
  rw [addLeaf, checkSequenceMember_eq_ok_iff.2 hmember, ok_bind, hw, ok_bind, addMember,
    Write.toUpdate, Update.single, UpdateBuilder.merge, UpdateBuilder.writeAll,
    UpdateBuilder.writeOne]
  cases b.write w.group w.field w.value <;> rfl

/-- A run over members that compile to single writes is a run of those writes. -/
theorem foldlM_addLeaf {b : UpdateBuilder} {leaves : List Expr} {ws : List Write}
    (hmember : ∀ leaf ∈ leaves, leaf.isWrite = true)
    (hws : List.Forall₂ (fun leaf w => leaf.compile t = .ok (.update w.toUpdate)) leaves ws) :
    leaves.foldlM (addLeaf t) b = ws.foldlM UpdateBuilder.writeOne b := by
  induction hws generalizing b with
  | nil => rfl
  | cons hw _ ih =>
      rw [List.forall_mem_cons] at hmember
      rw [List.foldlM_cons, List.foldlM_cons, addLeaf_eq_writeOne hmember.1 hw]
      exact bind_congr fun b' => ih hmember.2

/-- A chain of single writes makes all of them, or stops at the first repeated field. -/
theorem compile_sequence_of_writes {l r : Expr} {ws : List Write}
    (hmember : ∀ leaf ∈ Expr.sequenceLeaves (.sequence l r), leaf.isWrite = true)
    (hws : List.Forall₂ (fun leaf w => leaf.compile t = .ok (.update w.toUpdate))
      (Expr.sequenceLeaves (.sequence l r)) ws) :
    ((ws.map (·.field)).Nodup →
      (Expr.sequence l r).compile t = .ok (.update (Update.ofWrites ws))) ∧
    (¬ (ws.map (·.field)).Nodup → ∃ earlier later, FirstRepeat ws earlier later ∧
      (Expr.sequence l r).compile t =
        .error (.conflictingUpdate later.field earlier.group later.group)) := by
  have hrun := UpdateBuilder.holds_empty.run ws
  rw [List.nil_append] at hrun
  rw [compile_sequence, foldlM_addLeaf hmember hws]
  refine ⟨fun hnodup => ?_, fun hrep => ?_⟩
  · obtain ⟨b, hb, hholds⟩ := hrun.1 hnodup
    rw [hb, ok_bind, hholds.update_eq]
  · obtain ⟨earlier, later, hfirst, herror⟩ := hrun.2 hrep
    exact ⟨earlier, later, hfirst, by rw [herror]; rfl⟩

/-- **Comma chains of writes.** A chain whose members are removals, increments and assignments that
compile to the single writes `ws` has a document exactly when no field is written twice. The document
has the update operators in the order of their first use and under each of them exactly its writes,
in the order of the chain, so that nothing is lost. Otherwise the first write of a known field is
blamed, and the message names the operator of the earlier write and then its own. -/
theorem compile_chain_of_single_writes {l r : Expr} {ws : List Write}
    (hmember : ∀ leaf ∈ Expr.sequenceLeaves (.sequence l r), leaf.isWrite = true)
    (hws : List.Forall₂ (fun leaf w => leaf.compile t = .ok (.update w.toUpdate))
      (Expr.sequenceLeaves (.sequence l r)) ws) :
    ((∃ d, Query.compileTree t (.sequence l r) = .ok d) ↔ (ws.map (·.field)).Nodup) ∧
    (∀ d, Query.compileTree t (.sequence l r) = .ok d →
      d = (Update.ofWrites ws).toDocument ∧ (Update.ofWrites ws).fieldCount = ws.length) ∧
    (¬ (ws.map (·.field)).Nodup → ∃ earlier later, FirstRepeat ws earlier later ∧
      Query.compileTree t (.sequence l r) = .error (.rejected
        { kind := some .sequenceMember
          subject := later.field
          message := "conflicting update of field " ++ Text.quote later.field ++ " in " ++
            earlier.group ++ " and " ++ later.group
          supported := [] })) := by
  obtain ⟨hok, herror⟩ := compile_sequence_of_writes hmember hws
  have hdoc (hnodup : (ws.map (·.field)).Nodup) :
      Query.compileTree t (.sequence l r) = .ok (Update.ofWrites ws).toDocument :=
    compileTree_eq_ok_iff.2 (Or.inr ⟨_, hok hnodup, rfl⟩)
  have hfail (hrep : ¬ (ws.map (·.field)).Nodup) : ∃ earlier later, FirstRepeat ws earlier later ∧
      Query.compileTree t (.sequence l r) =
        .error (.rejected (Cause.conflictingUpdate later.field earlier.group later.group).diagnostic)
      := by
    obtain ⟨earlier, later, hfirst, hc⟩ := herror hrep
    refine ⟨earlier, later, hfirst, ?_⟩
    rw [Query.compileTree, Expr.toDocument.eq_2 _ _ Expr.noConfusion, hc]
    rfl
  have hnodup_of_ok {d : Document} (hd : Query.compileTree t (.sequence l r) = .ok d) :
      (ws.map (·.field)).Nodup := by
    by_contra hrep
    obtain ⟨_, _, _, hc⟩ := hfail hrep
    rw [hc] at hd
    cases hd
  refine ⟨⟨?_, fun hnodup => ⟨_, hdoc hnodup⟩⟩, ?_, hfail⟩
  · rintro ⟨d, hd⟩
    exact hnodup_of_ok hd
  · intro d hd
    have hnodup := hnodup_of_ok hd
    rw [hdoc hnodup] at hd
    exact ⟨(Except.ok.inj hd).symm, Update.fieldCount_ofWrites hnodup⟩

/-- A chain with interleaved operators and one with a repeated field: `a = 1, ++b, c = 2` has a
document, and `a = 1, ++b, a += 2` is refused at its third member. -/
theorem interleaved_and_repeated_writes :
    let one : Expr := .assign "=" (.identifier "a") (.number "1")
    let two : Expr := .unary .increment (.identifier "b")
    let other : Expr := .assign "=" (.identifier "c") (.number "2")
    let again : Expr := .assign "+=" (.identifier "a") (.number "2")
    Query.compileTree .standard (.sequence one (.sequence two other)) =
      .ok (Update.ofWrites [⟨"$set", "a", .number "1"⟩, ⟨"$inc", "b", .number "1"⟩,
        ⟨"$set", "c", .number "2"⟩]).toDocument ∧
    ∃ earlier later, FirstRepeat [⟨"$set", "a", .number "1"⟩, ⟨"$inc", "b", .number "1"⟩,
        ⟨"$inc", "a", .number "2"⟩] earlier later ∧
      Query.compileTree .standard (.sequence one (.sequence two again)) = .error (.rejected
        { kind := some .sequenceMember
          subject := later.field
          message := "conflicting update of field " ++ Text.quote later.field ++ " in " ++
            earlier.group ++ " and " ++ later.group
          supported := [] }) := by
  intro one two other again
  have hone : one.compile .standard =
      .ok (.update (Write.toUpdate ⟨"$set", "a", .number "1"⟩)) := by cbv
  have htwo : two.compile .standard =
      .ok (.update (Write.toUpdate ⟨"$inc", "b", .number "1"⟩)) := by cbv
  have hother : other.compile .standard =
      .ok (.update (Write.toUpdate ⟨"$set", "c", .number "2"⟩)) := by cbv
  have hagain : again.compile .standard =
      .ok (.update (Write.toUpdate ⟨"$inc", "a", .number "2"⟩)) := by cbv
  have hleaves (last : Expr) (hlast : last.sequenceSides? = none) :
      Expr.sequenceLeaves (.sequence one (.sequence two last)) = [one, two, last] := by
    rw [Expr.sequenceLeaves_sequence, Expr.sequenceLeaves_sequence,
      Expr.sequenceLeaves_of_no_sides hlast, Expr.sequenceLeaves_of_no_sides (e := one) rfl,
      Expr.sequenceLeaves_of_no_sides (e := two) rfl]
    rfl
  have hdistinct := compile_chain_of_single_writes (t := .standard) (l := one)
    (r := .sequence two other)
    (by rw [hleaves _ rfl]; simp [Expr.isWrite, Expr.writeTarget?, one, two, other])
    (by rw [hleaves _ rfl]; exact .cons hone (.cons htwo (.cons hother .nil)))
  have hrepeated := compile_chain_of_single_writes (t := .standard) (l := one)
    (r := .sequence two again)
    (by rw [hleaves _ rfl]; simp [Expr.isWrite, Expr.writeTarget?, one, two, again])
    (by rw [hleaves _ rfl]; exact .cons hone (.cons htwo (.cons hagain .nil)))
  obtain ⟨d, hd⟩ := hdistinct.1.2 (by decide)
  exact ⟨by rw [hd, (hdistinct.2.1 d hd).1], hrepeated.2.2 (by decide)⟩

/-- A statement compiles to what its expression compiles to, and still no chain may have it as a
member: the first member of `(a = 1;), b = 2` compiles to a single write of a field of its own, and
the chain is refused. -/
theorem statement_member_refused :
    let member : Expr := .statement (.assign "=" (.identifier "a") (.number "1"))
    let other : Expr := .assign "=" (.identifier "b") (.number "2")
    let ws : List Write := [⟨"$set", "a", .number "1"⟩, ⟨"$set", "b", .number "2"⟩]
    List.Forall₂ (fun leaf w => leaf.compile .standard = .ok (.update w.toUpdate))
        (Expr.sequenceLeaves (.sequence member other)) ws ∧
      (ws.map (·.field)).Nodup ∧
      ¬ ∃ d, Query.compileTree .standard (.sequence member other) = .ok d := by
  intro member other ws
  have hleaves : Expr.sequenceLeaves (.sequence member other) = [member, other] := by
    rw [Expr.sequenceLeaves_sequence, Expr.sequenceLeaves_of_no_sides (e := member) rfl,
      Expr.sequenceLeaves_of_no_sides (e := other) rfl]
    rfl
  refine ⟨?_, by decide, ?_⟩
  · rw [hleaves]
    exact .cons (by cbv) (.cons (by cbv) .nil)
  · rintro ⟨d, hd⟩
    rw [Query.compileTree, Expr.toDocument.eq_2 _ _ Expr.noConfusion, compile_sequence,
      hleaves] at hd
    cases hd

end DocQuery
