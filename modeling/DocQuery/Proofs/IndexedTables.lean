import DocQuery.Proofs.IndexedDocuments
import DocQuery.Proofs.TableChecks
import DocQuery.Tables.Indexed

/-!
# DocQuery.Proofs.IndexedTables

**Tables are what their entries say, and a look-up finds the entry of its key.** Entries are checked
and indexed in one pass, operators before methods. `EntryCheck` says when the check of one entry lets
it pass: when its key is free and it is complete by itself. Behind entries that are fine that means
that the list is still fine with it, and so a whole pass (`indexEntries_cases`) ends with the index of
all keys, or at the first entry that spoils the list.

The index is *the* index of the keys (`placesOf`), so that looking a key up by it and looking for it
in the entries come to the same (`Tables.operator?` and `IndexedTables.operator?`).
-/

namespace DocQuery

/-! ### Conditions on entries -/

/-- What is asked of operator entries. -/
structure ValidOperators (ops : List Operator) : Prop where
  /-- Every operator has a token. -/
  tokens : ∀ op ∈ ops, op.token ≠ ""
  /-- No token occurs twice. -/
  distinct : (ops.map (·.token)).Nodup
  /-- Every allowed operator has a target. -/
  targets : ∀ op ∈ ops, op.allowed = true → op.target ≠ ""

/-- What is asked of method entries. -/
structure ValidMethods (ms : List Method) : Prop where
  /-- Every method has a name. -/
  names : ∀ m ∈ ms, m.name ≠ ""
  /-- No name occurs twice. -/
  distinct : (ms.map (·.name)).Nodup
  /-- Every method has a target. -/
  targets : ∀ m ∈ ms, m.target ≠ ""
  /-- Every method has one of the four shapes. -/
  shapes : ∀ m ∈ ms, m.shape ∈ Shape.all
  /-- Every method with two arguments has a key for the second. -/
  options : ∀ m ∈ ms, m.shape = .two → m.option ≠ ""

theorem Shape.mem_all_iff (shape : Shape) : shape ∈ Shape.all ↔ shape.isKnown = true := by
  cases shape <;> simp [Shape.all, Shape.isKnown]

theorem validOperators_iff {ops : List Operator} :
    ValidOperators ops ↔ Tables.Fresh (·.token) Tables.CompleteOperator [] ops := by
  constructor
  · intro h
    exact ⟨fun op hop => ⟨⟨h.tokens op hop, h.targets op hop⟩, List.not_mem_nil⟩, h.distinct⟩
  · intro ⟨hall, hdistinct⟩
    exact ⟨fun op hop => (hall op hop).1.1, hdistinct, fun op hop => (hall op hop).1.2⟩

theorem validMethods_iff {ms : List Method} :
    ValidMethods ms ↔ Tables.Fresh (·.name) Tables.CompleteMethod [] ms := by
  constructor
  · intro h
    refine ⟨fun m hm => ⟨⟨h.names m hm, h.targets m hm, ?_, h.options m hm⟩, List.not_mem_nil⟩,
      h.distinct⟩
    exact (Shape.mem_all_iff _).1 (h.shapes m hm)
  · intro ⟨hall, hdistinct⟩
    exact ⟨fun m hm => (hall m hm).1.1, hdistinct, fun m hm => (hall m hm).1.2.1,
      fun m hm => (Shape.mem_all_iff _).2 (hall m hm).1.2.2.1, fun m hm => (hall m hm).1.2.2.2⟩

/-! ### One pass over entries -/

section Pass

variable {α : Type} {key : α → String} {fault? : Nat → Bool → α → Option TableError}
  {Complete : α → Prop} {place : Nat → String}

/-- The check of one entry: it passes exactly when its key is free and it is complete by itself, and
its message starts with the place of the entry. -/
structure EntryCheck (key : α → String) (fault? : Nat → Bool → α → Option TableError)
    (Complete : α → Prop) (place : Nat → String) : Prop where
  /-- When an entry passes. -/
  pass_iff : ∀ i taken x, fault? i taken x = none ↔ Complete x ∧ taken = false
  /-- What the message of a fault starts with. -/
  message : ∀ i taken x e, fault? i taken x = some e → ∃ what, e.message = place i ++ what

/-- The entries without faults of their own and with different keys. -/
abbrev SoundEntries (key : α → String) (Complete : α → Prop) (xs : List α) : Prop :=
  Tables.Fresh key Complete [] xs

/-- **The error is about the first entry that spoils a list**: the entries before it are fine, with
it they are not, the fault is the first one that the entry has there, and its message starts with the
place of the entry. -/
def FirstOffender (Valid : List α → Prop) (key : α → String)
    (fault? : Nat → Bool → α → Option TableError) (place : Nat → String) (xs : List α)
    (e : TableError) : Prop :=
  ∃ before x after, xs = before ++ x :: after ∧ Valid before ∧ ¬ Valid (before ++ [x]) ∧
    fault? before.length (decide (key x ∈ before.map key)) x = some e ∧
    ∃ what, e.message = place before.length ++ what

theorem soundEntries_concat {xs : List α} {x : α} :
    SoundEntries key Complete (xs ++ [x]) ↔
      SoundEntries key Complete xs ∧ Complete x ∧ key x ∉ xs.map key := by
  simp only [SoundEntries, Tables.Fresh, List.forall_mem_append, List.map_append,
    List.map_singleton, List.forall_mem_singleton, List.nodup_append]
  constructor
  · rintro ⟨⟨hall, hx⟩, hnodup, -, hnew⟩
    exact ⟨⟨hall, hnodup⟩, hx.1, fun hmem => hnew _ hmem rfl⟩
  · rintro ⟨⟨hall, hnodup⟩, hx, hnew⟩
    refine ⟨⟨hall, hx, List.not_mem_nil⟩, hnodup, List.nodup_singleton _, ?_⟩
    intro a ha heq
    exact hnew (heq ▸ ha)

theorem soundEntries_nil : SoundEntries key Complete [] := ⟨List.forall_mem_nil _, List.nodup_nil⟩

/-- **What a pass does** behind entries that are fine: it adds the places of all keys, or it ends at
the first entry that spoils the list. -/
theorem indexEntries_cases (hcheck : EntryCheck key fault? Complete place) {done : List α}
    (hdone : SoundEntries key Complete done) (rest : List α) :
    (SoundEntries key Complete (done ++ rest) ∧
        indexEntries key fault? done.length (placesOf (done.map key)) rest =
          .ok (placesOf ((done ++ rest).map key))) ∨
      ∃ e, FirstOffender (SoundEntries key Complete) key fault? place (done ++ rest) e ∧
        indexEntries key fault? done.length (placesOf (done.map key)) rest = .error e := by
  induction rest generalizing done with
  | nil =>
      rw [List.append_nil]
      exact Or.inl ⟨hdone, rfl⟩
  | cons x rest ih =>
      rw [indexEntries, lookup_isSome, decide_eq_decide.2 mem_placesOf_iff]
      cases hfault : fault? done.length (decide (key x ∈ done.map key)) x with
      | some e =>
          have hmessage := hcheck.message _ _ _ _ hfault
          refine Or.inr ⟨e, ⟨done, x, rest, rfl, hdone, ?_, hfault, hmessage⟩, rfl⟩
          rw [soundEntries_concat]
          rintro ⟨-, hcomplete, hnew⟩
          rw [(hcheck.pass_iff _ _ _).2 ⟨hcomplete, decide_eq_false hnew⟩] at hfault
          cases hfault
      | none =>
          obtain ⟨hcomplete, hnew⟩ := (hcheck.pass_iff _ _ _).1 hfault
          have hnext : SoundEntries key Complete (done ++ [x]) :=
            soundEntries_concat.2 ⟨hdone, hcomplete, of_decide_eq_false hnew⟩
          have hplaces : placesOf ((done ++ [x]).map key) =
              (key x, done.length) :: placesOf (done.map key) := by
            rw [List.map_append, List.map_singleton, placesOf_concat, List.length_map]
          have hrun := ih hnext
          rwa [hplaces, List.length_append, List.length_singleton, List.append_assoc,
            List.singleton_append] at hrun

/-- The first entry that spoils a list spoils all of it. -/
theorem FirstOffender.not_soundEntries {xs : List α} {e : TableError}
    (h : FirstOffender (SoundEntries key Complete) key fault? place xs e) :
    ¬ SoundEntries key Complete xs := by
  obtain ⟨before, x, after, rfl, -, hspoilt, -⟩ := h
  intro ⟨hall, hnodup⟩
  rw [List.append_cons] at hall hnodup
  refine hspoilt ⟨fun y hy => hall y (List.mem_append_left _ hy), ?_⟩
  rw [List.map_append] at hnodup
  exact hnodup.of_append_left

/-- A pass over all entries ends with the index of their keys exactly when they are fine. -/
theorem indexEntries_eq_ok_iff (hcheck : EntryCheck key fault? Complete place) {xs : List α}
    {places : List (String × Nat)} :
    indexEntries key fault? 0 [] xs = .ok places ↔
      SoundEntries key Complete xs ∧ places = placesOf (xs.map key) := by
  rcases indexEntries_cases hcheck soundEntries_nil xs with ⟨hsound, hok⟩ | ⟨e, hfault, herror⟩
  · have hok' : indexEntries key fault? 0 [] xs = .ok (placesOf (xs.map key)) := hok
    rw [hok', Except.ok.injEq]
    exact ⟨fun h => ⟨hsound, h.symm⟩, fun h => h.2.symm⟩
  · have herror' : indexEntries key fault? 0 [] xs = .error e := herror
    rw [herror']
    exact iff_of_false (by simp) fun h => hfault.not_soundEntries h.1

/-- Otherwise it ends at the first entry that spoils them. -/
theorem firstOffender_of_indexEntries (hcheck : EntryCheck key fault? Complete place) {xs : List α}
    {e : TableError} (h : indexEntries key fault? 0 [] xs = .error e) :
    FirstOffender (SoundEntries key Complete) key fault? place xs e := by
  rcases indexEntries_cases hcheck soundEntries_nil xs with ⟨-, hok⟩ | ⟨e', hfault, herror⟩
  · cases hok.symm.trans h
  · cases herror.symm.trans h
    exact hfault

/-- A pass that remembers the keys it has seen fails where one that remembers their places does. -/
theorem check_eq_indexEntries {check : Nat → List String → List α → Except TableError Unit}
    (hnil : ∀ i seen, check i seen [] = .ok ())
    (hcons : ∀ i seen x rest, check i seen (x :: rest) =
      match fault? i (decide (key x ∈ seen)) x with
      | some e => .error e
      | none => check (i + 1) (key x :: seen) rest)
    (i : Nat) (places : List (String × Nat)) (xs : List α) :
    check i (places.map (·.1)) xs = (indexEntries key fault? i places xs).map fun _ => () := by
  induction xs generalizing i places with
  | nil => exact hnil i _
  | cons x xs ih =>
      rw [hcons, indexEntries, lookup_isSome]
      cases fault? i (decide (key x ∈ places.map (·.1))) x with
      | some e => rfl
      | none => exact ih (i + 1) ((key x, i) :: places)

end Pass

/-! ### Look-ups -/

section LookUps

variable {α : Type} {key : α → String} {xs : List α}

/-- An entry is found by the place of its key, and no other entry. -/
theorem lookup_entry_iff (hnodup : (xs.map key).Nodup) {k : String} {x : α} :
    (((placesOf (xs.map key)).lookup k).bind fun i => xs.toArray[i]?) = some x ↔
      x ∈ xs ∧ key x = k := by
  simp only [Option.bind_eq_some_iff, lookup_placesOf hnodup, List.getElem?_map,
    Option.map_eq_some_iff, List.getElem?_toArray]
  constructor
  · rintro ⟨i, ⟨y, hy, hkey⟩, hx⟩
    rw [hx, Option.some.injEq] at hy
    subst hy
    exact ⟨List.mem_of_getElem? hx, hkey⟩
  · rintro ⟨hx, hkey⟩
    obtain ⟨i, hi⟩ := List.mem_iff_getElem?.1 hx
    exact ⟨i, ⟨x, hi, hkey⟩, hi⟩

/-- An entry is found among the entries by its key, and no other entry. -/
theorem find?_key_iff (hnodup : (xs.map key).Nodup) (k : String) (x : α) :
    xs.find? (fun y => key y == k) = some x ↔ x ∈ xs ∧ key x = k := by
  constructor
  · intro h
    exact ⟨List.mem_of_find?_eq_some h, by simpa using List.find?_some h⟩
  · rintro ⟨hx, rfl⟩
    exact Tables.find?_key_of_mem hnodup hx

variable {find find' : String → Option α}

/-- What finds the entry of every key finds none for a key that occurs nowhere. -/
theorem eq_none_iff_of_finds (h : ∀ k x, find k = some x ↔ x ∈ xs ∧ key x = k) (k : String) :
    find k = none ↔ k ∉ xs.map key := by
  rw [Option.eq_none_iff_forall_ne_some, List.mem_map, not_exists]
  exact forall_congr' fun x => not_congr (h k x)

/-- Two ways to find the entry of every key come to the same. -/
theorem eq_of_finds (h : ∀ k x, find k = some x ↔ x ∈ xs ∧ key x = k)
    (h' : ∀ k x, find' k = some x ↔ x ∈ xs ∧ key x = k) : find = find' := by
  funext k
  exact Option.ext fun x => (h k x).trans (h' k x).symm

end LookUps

/-! ### Operators and methods -/

theorem entryCheck_operators :
    EntryCheck (·.token) Operator.fault? Tables.CompleteOperator TableError.atOperator := by
  constructor
  · intro i taken op
    unfold Operator.fault? Tables.CompleteOperator
    by_cases htoken : op.token = ""
    · simp [htoken]
    cases taken with
    | true => simp [htoken]
    | false => simp [htoken]
  · intro i taken op e h
    unfold Operator.fault? at h
    repeat' split at h
    all_goals cases h <;>
      (apply Exists.intro; simp only [TableError.message, String.append_assoc]; rfl)

theorem entryCheck_methods :
    EntryCheck (·.name) Method.fault? Tables.CompleteMethod TableError.atMethod := by
  constructor
  · intro i taken m
    unfold Method.fault? Tables.CompleteMethod
    by_cases hname : m.name = ""
    · simp [hname]
    by_cases htarget : m.target = ""
    · cases taken <;> simp [hname, htarget]
    cases taken with
    | true => simp [hname]
    | false =>
        cases hshape : m.shape.isKnown with
        | true => simp [hname, htarget]
        | false => simp [hname, htarget]
  · intro i taken m e h
    unfold Method.fault? at h
    repeat' split at h
    all_goals cases h <;>
      (apply Exists.intro; simp only [TableError.message, String.append_assoc]; rfl)

namespace IndexedTables

variable {ops : List Operator} {ms : List Method} {t : IndexedTables}

theorem new_eq_ok_iff :
    new ops ms = .ok t ↔ (ValidOperators ops ∧ ValidMethods ms) ∧
      t = ⟨ops.toArray, ms.toArray, placesOf (ops.map (·.token)), placesOf (ms.map (·.name))⟩ := by
  simp only [new, bind_eq_ok_iff, indexEntries_eq_ok_iff entryCheck_operators,
    indexEntries_eq_ok_iff entryCheck_methods, Except.ok.injEq, validOperators_iff, validMethods_iff]
  constructor
  · rintro ⟨_, ⟨hops, rfl⟩, _, ⟨hms, rfl⟩, rfl⟩
    exact ⟨⟨hops, hms⟩, rfl⟩
  · rintro ⟨⟨hops, hms⟩, rfl⟩
    exact ⟨_, ⟨hops, rfl⟩, _, ⟨hms, rfl⟩, rfl⟩

/-- Entries that are no tables are refused for the first one that spoils its list, and a method only
when all operators are fine. -/
theorem firstOffender_of_new {e : TableError} (h : new ops ms = .error e) :
    FirstOffender ValidOperators (·.token) Operator.fault? TableError.atOperator ops e ∨
      ValidOperators ops ∧
        FirstOffender ValidMethods (·.name) Method.fault? TableError.atMethod ms e := by
  have hvalidOps : ValidOperators = SoundEntries (·.token) Tables.CompleteOperator :=
    funext fun _ => propext validOperators_iff
  have hvalidMs : ValidMethods = SoundEntries (·.name) Tables.CompleteMethod :=
    funext fun _ => propext validMethods_iff
  rw [hvalidOps, hvalidMs]
  unfold new at h
  cases hops : indexEntries (·.token) Operator.fault? 0 [] ops with
  | error e' =>
      rw [hops] at h
      cases h
      exact Or.inl (firstOffender_of_indexEntries entryCheck_operators hops)
  | ok operatorPlaces =>
      rw [hops, ok_bind] at h
      cases hms : indexEntries (·.name) Method.fault? 0 [] ms with
      | error e' =>
          rw [hms] at h
          cases h
          exact Or.inr ⟨((indexEntries_eq_ok_iff entryCheck_operators).1 hops).1,
            firstOffender_of_indexEntries entryCheck_methods hms⟩
      | ok methodPlaces =>
          rw [hms] at h
          cases h

/-! ### Tables without indices -/

theorem checkOperators_cons (i : Nat) (seen : List String) (op : Operator) (ops : List Operator) :
    Tables.checkOperators i seen (op :: ops) =
      match op.fault? i (decide (op.token ∈ seen)) with
      | some e => .error e
      | none => Tables.checkOperators (i + 1) (op.token :: seen) ops := by
  rw [Tables.checkOperators, Operator.fault?]
  simp only [decide_eq_true_eq]
  split_ifs <;> rfl

theorem checkMethods_cons (i : Nat) (seen : List String) (m : Method) (ms : List Method) :
    Tables.checkMethods i seen (m :: ms) =
      match m.fault? i (decide (m.name ∈ seen)) with
      | some e => .error e
      | none => Tables.checkMethods (i + 1) (m.name :: seen) ms := by
  rw [Tables.checkMethods, Method.fault?]
  simp only [decide_eq_true_eq]
  split_ifs <;> rfl

/-- **Tables with indices are built from the entries that tables are built from**, and other entries
are refused with the same error. -/
theorem new_toTables (ops : List Operator) (ms : List Method) :
    Tables.new ops ms = (new ops ms).map toTables := by
  have hops := check_eq_indexEntries (fun _ _ => rfl) checkOperators_cons 0 [] ops
  have hms := check_eq_indexEntries (fun _ _ => rfl) checkMethods_cons 0 [] ms
  rw [List.map_nil] at hops hms
  rw [Tables.new, new, hops, hms]
  cases indexEntries (·.token) Operator.fault? 0 [] ops with
  | error e => rfl
  | ok operatorPlaces =>
      cases indexEntries (·.name) Method.fault? 0 [] ms with
      | error e => rfl
      | ok methodPlaces => simp [Except.map, toTables]

/-! ### What tables serve -/

/-- What tables show of the entries that they were built from. -/
structure Serves (t : IndexedTables) (ops : List Operator) (ms : List Method) : Prop where
  /-- The operators are listed as they were given. -/
  operators_eq : t.operators.toList = ops
  /-- The methods are listed as they were given. -/
  methods_eq : t.methods.toList = ms
  /-- A token has the one entry that it is the token of. -/
  operator_iff : ∀ token op, t.operator? token = some op ↔ op ∈ ops ∧ op.token = token
  /-- A token has no entry exactly when it is the token of none. -/
  no_operator_iff : ∀ token, t.operator? token = none ↔ token ∉ ops.map (·.token)
  /-- A name has the one entry that it is the name of. -/
  method_iff : ∀ name m, t.method? name = some m ↔ m ∈ ms ∧ m.name = name
  /-- A name has no entry exactly when it is the name of none. -/
  no_method_iff : ∀ name, t.method? name = none ↔ name ∉ ms.map (·.name)
  /-- The compiler finds the same entries. -/
  lookups_eq : t.toTables.operator? = t.operator? ∧ t.toTables.method? = t.method?
  /-- The supported tokens are those that the compiler accepts, in the order of the entries. -/
  supported_eq : t.supportedOperators =
    (ops.map (·.token)).filter fun token => (Compile.lookupOperator t.toTables token).isOk
  /-- The compiler accepts no other token. -/
  supported_iff : ∀ token,
    token ∈ t.supportedOperators ↔ ∃ op, Compile.lookupOperator t.toTables token = .ok op

/-- The tokens that the compiler accepts are those of allowed operators. -/
theorem isOk_lookupOperator {op : Operator} {t : Tables} (h : t.operator? op.token = some op) :
    (Compile.lookupOperator t op.token).isOk = op.allowed := by
  rw [Compile.lookupOperator, h]
  cases hallowed : op.allowed with
  | true => simp [hallowed, Except.toBool]
  | false => simp [hallowed, Except.toBool]

theorem serves_of_new (h : new ops ms = .ok t) : t.Serves ops ms := by
  obtain ⟨⟨hops, hms⟩, rfl⟩ := new_eq_ok_iff.1 h
  have hoperator := @lookup_entry_iff _ (·.token) ops hops.distinct
  have hmethod := @lookup_entry_iff _ (·.name) ms hms.distinct
  have hplain := find?_key_iff hops.distinct
  have hsupported : ∀ op ∈ ops, (Compile.lookupOperator ⟨ops, ms⟩ op.token).isOk = op.allowed :=
    fun op hop => isOk_lookupOperator ((hplain _ _).2 ⟨hop, rfl⟩)
  refine ⟨rfl, rfl, fun token op => hoperator, eq_none_iff_of_finds fun _ _ => hoperator,
    fun name m => hmethod, eq_none_iff_of_finds fun _ _ => hmethod,
    ⟨eq_of_finds hplain fun _ _ => hoperator,
      eq_of_finds (find?_key_iff hms.distinct) fun _ _ => hmethod⟩, ?_, ?_⟩
  · rw [List.filter_map]
    exact congrArg _ (List.filter_congr fun op hop => (hsupported op hop).symm)
  · intro token
    simp only [supportedOperators, Tables.supportedOperators, toTables, List.mem_map,
      List.mem_filter, lookupOperator_eq_ok_iff, Tables.Allows, Tables.operator?, hplain]
    constructor
    · rintro ⟨op, ⟨hop, hallowed⟩, htoken⟩
      exact ⟨op, ⟨hop, htoken⟩, hallowed⟩
    · rintro ⟨op, ⟨hop, htoken⟩, hallowed⟩
      exact ⟨op, ⟨hop, hallowed⟩, htoken⟩

end IndexedTables

/-- **Tables are built from exactly the valid entries, and look-ups are exact.** Other entries are
refused for the first one that spoils its list, operators before methods. Tables that are built list
their entries as given, a look-up finds the one entry of its key or none, and the supported tokens
are those that the compiler accepts. -/
theorem tables_exact (ops : List Operator) (ms : List Method) :
    ((∃ t, IndexedTables.new ops ms = .ok t) ↔ ValidOperators ops ∧ ValidMethods ms) ∧
      (∀ e, IndexedTables.new ops ms = .error e →
        FirstOffender ValidOperators (·.token) Operator.fault? TableError.atOperator ops e ∨
          ValidOperators ops ∧
            FirstOffender ValidMethods (·.name) Method.fault? TableError.atMethod ms e) ∧
      (∀ t, IndexedTables.new ops ms = .ok t → t.Serves ops ms) ∧
      Tables.new ops ms = (IndexedTables.new ops ms).map (·.toTables) := by
  refine ⟨?_, fun e => IndexedTables.firstOffender_of_new, fun t => IndexedTables.serves_of_new,
    IndexedTables.new_toTables ops ms⟩
  constructor
  · intro ⟨t, ht⟩
    exact (IndexedTables.new_eq_ok_iff.1 ht).1
  · intro hvalid
    exact ⟨_, IndexedTables.new_eq_ok_iff.2 ⟨hvalid, rfl⟩⟩

/-- An operator entry that repeats a token is refused, whatever the methods are; without it the
tables serve the other entries. -/
theorem repeated_token_refused :
    let ops : List Operator := [⟨"==", "$eq", true⟩, ⟨"===", "", false⟩]
    let repeated : List Operator := ops ++ [⟨"==", "", true⟩]
    let ms : List Method := [⟨"in", "$in", .array, ""⟩, ⟨"near", "$near", .two, "$maxDistance"⟩]
    (∃ t, IndexedTables.new ops ms = .ok t ∧ t.Serves ops ms ∧ ValidOperators ops ∧
        ValidMethods ms) ∧
      IndexedTables.new repeated [⟨"", "", .other 7, ""⟩] = .error (.duplicateToken 2 "==") ∧
      FirstOffender ValidOperators (·.token) Operator.fault? TableError.atOperator repeated
        (.duplicateToken 2 "==") := by
  intro ops repeated ms
  obtain ⟨haccepted, -, hserves, -⟩ := tables_exact ops ms
  have hok : ∃ t, IndexedTables.new ops ms = .ok t := ⟨_, rfl⟩
  obtain ⟨t, ht⟩ := hok
  obtain ⟨-, hrefused, -⟩ := tables_exact repeated [⟨"", "", .other 7, ""⟩]
  have herror : IndexedTables.new repeated [⟨"", "", .other 7, ""⟩] =
      .error (.duplicateToken 2 "==") := rfl
  refine ⟨⟨t, ht, hserves t ht, haccepted.1 ⟨t, ht⟩⟩, herror, ?_⟩
  rcases hrefused _ herror with hfault | ⟨hvalid, -⟩
  · exact hfault
  · have hdistinct := hvalid.distinct
    simp [repeated, ops] at hdistinct

end DocQuery
