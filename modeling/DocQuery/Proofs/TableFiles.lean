import DocQuery.Proofs.ConfigReading
import DocQuery.Proofs.TableChecks
import DocQuery.Tables.Load

/-!
# DocQuery.Proofs.TableFiles

**Which table files load, and what they load.** A table file is checked three times: the schema
checks each entry alone (`OperatorEntry.Fits`, `MethodEntry.Fits`), then there must be an operator,
and then `Tables.new` checks the entries against each other. `load_of_denotes` puts the three
together for files that are JSON texts: exactly the lists that are `Accepted` load, they load as
they stand with the defaults filled in, and for any other lists the error names the check that
failed.

Each check of the schema is described once, by what it accepts (`operatorOf?_eq_some_iff`,
`methodOf?_eq_some_iff`), and so are those of `Tables.new` (`new_eq_ok_iff`).
-/

namespace DocQuery.Tables

open Config (ofValue)

/-! ### Entries as a file gives them -/

/-- An operator of a file. -/
structure OperatorEntry where
  /-- The source token. -/
  token : String
  /-- The document operator, if it is given. -/
  target : Option String
  /-- Whether expressions may use the token, if it is given. -/
  allowed : Option Bool

/-- A method of a file. -/
structure MethodEntry where
  /-- The method's name. -/
  name : String
  /-- The document operator. -/
  target : String
  /-- The name of the shape of the arguments. -/
  shape : String
  /-- The key of the second argument, if it is given. -/
  option : Option String

/-- An ASCII letter. -/
def IsLetter (c : Char) : Prop := 'A' ≤ c ∧ c ≤ 'Z' ∨ 'a' ≤ c ∧ c ≤ 'z'

/-- A dollar sign and one or more letters. -/
def IsTarget (s : String) : Prop :=
  ∃ cs, s.toList = '$' :: cs ∧ cs ≠ [] ∧ ∀ c ∈ cs, IsLetter c

/-- Letters, digits and underscores, at least one and no digit first. -/
def IsName (s : String) : Prop :=
  ∃ c cs, s.toList = c :: cs ∧ (IsLetter c ∨ c = '_') ∧
    ∀ d ∈ cs, IsLetter d ∨ '0' ≤ d ∧ d ≤ '9' ∨ d = '_'

namespace OperatorEntry

/-- The document of an entry. -/
def value (e : OperatorEntry) : Value :=
  .document (("token", .string e.token) ::
    ((e.target.map fun t => ("target", Value.string t)).toList ++
      (e.allowed.map fun b => ("allowed", Value.bool b)).toList))

/-- The operator of an entry, with the defaults filled in. -/
def operator (e : OperatorEntry) : Operator where
  token := e.token
  target := e.target.getD ""
  allowed := e.allowed.getD true

/-- What the schema asks of an operator. -/
structure Fits (e : OperatorEntry) : Prop where
  token : e.token ≠ ""
  target : ∀ t, e.target = some t → t = "" ∨ IsTarget t

end OperatorEntry

namespace MethodEntry

/-- The document of an entry. -/
def value (e : MethodEntry) : Value :=
  .document (("name", .string e.name) :: ("target", .string e.target) ::
    ("shape", .string e.shape) :: (e.option.map fun s => ("option", Value.string s)).toList)

/-- The method of an entry, with the default filled in. -/
def Describes (e : MethodEntry) (m : Method) : Prop :=
  m.name = e.name ∧ m.target = e.target ∧ (m.shape ∈ Shape.all ∧ m.shape.name = e.shape) ∧
    m.option = e.option.getD ""

/-- What the schema asks of a method. -/
structure Fits (e : MethodEntry) : Prop where
  name : IsName e.name
  target : IsTarget e.target
  shape : e.shape ∈ ["array", "single", "two", "expr"]
  option : ∀ s, e.option = some s → s = "" ∨ IsTarget s

end MethodEntry

/-- The document of a file. -/
def fileValue (operators : List OperatorEntry) (methods : List MethodEntry) : Value :=
  .document [("operators", .array (operators.map (·.value))),
    ("methods", .array (methods.map (·.value)))]

/-- What the schema asks of a file. -/
structure FileFits (operators : List OperatorEntry) (methods : List MethodEntry) : Prop where
  operators : ∀ e ∈ operators, e.Fits
  methods : ∀ e ∈ methods, e.Fits

/-- The lists that load: each entry fits the schema, there is an operator, no token and no method
name stands twice, allowed operators have a target and two-argument methods an option. -/
structure Accepted (operators : List OperatorEntry) (methods : List MethodEntry) : Prop where
  fits : FileFits operators methods
  notEmpty : operators ≠ []
  tokens : (operators.map (·.token)).Nodup
  targets : ∀ e ∈ operators, e.allowed.getD true = true → e.target.getD "" ≠ ""
  names : (methods.map (·.name)).Nodup
  options : ∀ e ∈ methods, e.shape = "two" → e.option.getD "" ≠ ""

/-! ### The schema -/

theorem isAlpha_iff {c : Char} : c.isAlpha = true ↔ IsLetter c := by
  simp only [Char.isAlpha, Char.isUpper, Char.isLower, Bool.or_eq_true, Bool.and_eq_true,
    decide_eq_true_eq, IsLetter, Char.le_def, ge_iff_le]

theorem isTarget_iff {s : String} : isTarget s = true ↔ IsTarget s := by
  unfold isTarget IsTarget
  split
  · next c cs hs =>
    rw [hs]
    simp [isAlpha_iff]
  · next hs =>
    refine ⟨fun h => (by cases h), ?_⟩
    rintro ⟨cs, heq, hne, -⟩
    cases cs with
    | nil => exact absurd rfl hne
    | cons c cs => exact absurd heq (hs c cs)

theorem isMethodName_iff {s : String} : isMethodName s = true ↔ IsName s := by
  unfold isMethodName IsName
  split
  · next c cs hs =>
    rw [hs]
    simp [isAlpha_iff, Char.isAlphanum, Char.isDigit, Char.le_def, or_assoc]
  · next hs =>
    rw [hs]
    simp

/-- An optional target is absent, empty or a target. -/
theorem optionalTarget?_eq_some_iff {fields : List (String × Config)} {name : String}
    {given : Option String} (h : Config.field? fields name = given.map .string) {s : String} :
    optionalTarget? fields name = some s ↔
      (∀ t, given = some t → t = "" ∨ IsTarget t) ∧ s = given.getD "" := by
  rw [optionalTarget?, h]
  cases given with
  | none => simp [eq_comm]
  | some t =>
      simp only [Option.map_some, Option.getD_some, Option.some.injEq, forall_eq', ← isTarget_iff]
      split
      · next hfits =>
        have hfits' : t = "" ∨ isTarget t = true := by simpa using hfits
        simp only [Option.some.injEq, hfits', true_and]
        exact eq_comm
      · next hfits =>
        have hfits' : ¬(t = "" ∨ isTarget t = true) := by simpa using hfits
        simp [hfits']

theorem ofValue_operatorEntry (e : OperatorEntry) :
    ∃ fields, ofValue e.value = .struct fields ∧
      hasOnly fields ["token", "target", "allowed"] = true ∧
      Config.field? fields "token" = some (.string e.token) ∧
      Config.field? fields "target" = e.target.map .string ∧
      Config.field? fields "allowed" = e.allowed.map .bool := by
  obtain ⟨token, target, allowed⟩ := e
  cases target with
  | none => cases allowed <;> exact ⟨_, rfl, rfl, rfl, rfl, rfl⟩
  | some t => cases allowed <;> exact ⟨_, rfl, rfl, rfl, rfl, rfl⟩

/-- The schema accepts the operators that fit, and fills in the defaults. -/
theorem operatorOf?_eq_some_iff {e : OperatorEntry} {op : Operator} :
    operatorOf? (ofValue e.value) = some op ↔ e.Fits ∧ e.operator = op := by
  obtain ⟨fields, hvalue, honly, htoken, htarget, hallowed⟩ := ofValue_operatorEntry e
  have hread : operatorOf? (ofValue e.value) =
      (optionalTarget? fields "target").bind fun target =>
        if e.token = "" then none
        else some { token := e.token, target, allowed := e.allowed.getD true } := by
    rw [hvalue, operatorOf?, honly, requiredString?, htoken, hallowed]
    cases e.allowed with
    | none => simp
    | some b => simp
  rw [hread, Option.bind_eq_some_iff]
  simp only [optionalTarget?_eq_some_iff htarget]
  by_cases hempty : e.token = ""
  · simp only [hempty, if_true]
    constructor
    · rintro ⟨_, -, h⟩
      cases h
    · rintro ⟨hfits, -⟩
      exact absurd hempty hfits.token
  · simp only [if_neg hempty, Option.some.injEq]
    constructor
    · rintro ⟨_, ⟨htargets, rfl⟩, rfl⟩
      exact ⟨⟨hempty, htargets⟩, rfl⟩
    · rintro ⟨hfits, rfl⟩
      exact ⟨_, ⟨hfits.target, rfl⟩, rfl⟩

theorem ofName?_eq_some_iff {name : String} {shape : Shape} :
    Shape.ofName? name = some shape ↔ shape ∈ Shape.all ∧ shape.name = name := by
  constructor
  · intro h
    exact ⟨List.mem_of_find?_eq_some h, by simpa using List.find?_some h⟩
  · rintro ⟨hmem, rfl⟩
    simp only [Shape.all, List.mem_cons, List.not_mem_nil, or_false] at hmem
    rcases hmem with rfl | rfl | rfl | rfl <;> rfl

theorem exists_shape_iff {name : String} :
    (∃ shape ∈ Shape.all, shape.name = name) ↔ name ∈ ["array", "single", "two", "expr"] := by
  simp [Shape.all, Shape.name, eq_comm]

theorem ofValue_methodEntry (e : MethodEntry) :
    ∃ fields, ofValue e.value = .struct fields ∧
      hasOnly fields ["name", "target", "shape", "option"] = true ∧
      Config.field? fields "name" = some (.string e.name) ∧
      Config.field? fields "target" = some (.string e.target) ∧
      Config.field? fields "shape" = some (.string e.shape) ∧
      Config.field? fields "option" = e.option.map .string := by
  obtain ⟨name, target, shape, option⟩ := e
  cases option <;> exact ⟨_, rfl, rfl, rfl, rfl, rfl, rfl⟩

/-- The schema accepts the methods that fit, and fills in the default. -/
theorem methodOf?_eq_some_iff {e : MethodEntry} {m : Method} :
    methodOf? (ofValue e.value) = some m ↔ e.Fits ∧ e.Describes m := by
  obtain ⟨fields, hvalue, honly, hname, htarget, hshape, hoption⟩ := ofValue_methodEntry e
  have hread : methodOf? (ofValue e.value) =
      (Shape.ofName? e.shape).bind fun shape =>
        (optionalTarget? fields "option").bind fun option =>
          if isMethodName e.name && isTarget e.target then
            some { name := e.name, target := e.target, shape, option }
          else none := by
    rw [hvalue, methodOf?, honly, requiredString?, requiredString?, requiredString?, hname, htarget,
      hshape]
    rfl
  rw [hread]
  simp only [Option.bind_eq_some_iff, ofName?_eq_some_iff, optionalTarget?_eq_some_iff hoption,
    Option.ite_none_right_eq_some, Bool.and_eq_true, isMethodName_iff, isTarget_iff,
    Option.some.injEq]
  constructor
  · rintro ⟨shape, hmem, _, ⟨hoptions, rfl⟩, ⟨hname, htarget⟩, rfl⟩
    exact ⟨⟨hname, htarget, exists_shape_iff.1 ⟨shape, hmem⟩, hoptions⟩, rfl, rfl, hmem, rfl⟩
  · rintro ⟨hfits, hname, htarget, hshape, hoption⟩
    refine ⟨m.shape, hshape, _, ⟨hfits.option, rfl⟩, ⟨hfits.name, hfits.target⟩, ?_⟩
    rw [← hname, ← htarget, ← hoption]

/-- A method that fits is described. -/
theorem MethodEntry.Fits.exists_describes {e : MethodEntry} (h : e.Fits) : ∃ m, e.Describes m := by
  obtain ⟨shape, hshape⟩ := exists_shape_iff.2 h.shape
  exact ⟨⟨e.name, e.target, shape, e.option.getD ""⟩, rfl, rfl, hshape, rfl⟩

/-- Entries are read one by one, and all of them must fit. -/
theorem mapM_entries_eq_some_iff {α β : Type} {entry : Config → Option β} {value : α → Value}
    {Fits : α → Prop} {Describes : α → β → Prop}
    (h : ∀ e y, entry (ofValue (value e)) = some y ↔ Fits e ∧ Describes e y) {es : List α}
    {ys : List β} :
    ((es.map value).map ofValue).mapM entry = some ys ↔
      (∀ e ∈ es, Fits e) ∧ List.Forall₂ Describes es ys := by
  induction es generalizing ys with
  | nil => cases ys <;> simp
  | cons e es ih =>
      rw [List.forall_mem_cons]
      simp only [List.map_cons, List.mapM_cons, Option.bind_eq_bind, Option.bind_eq_some_iff, h, ih]
      constructor
      · rintro ⟨y, hy, ys', hys, heq⟩
        cases heq
        exact ⟨⟨hy.1, hys.1⟩, .cons hy.2 hys.2⟩
      · rintro ⟨⟨he, hes⟩, hall⟩
        cases hall with
        | cons hy hys => exact ⟨_, ⟨he, hy⟩, _, ⟨hes, hys⟩, rfl⟩

/-- **What the schema makes of a file.** -/
theorem entriesOf?_eq_some_iff {operators : List OperatorEntry} {methods : List MethodEntry}
    {ops : List Operator} {ms : List Method} :
    entriesOf? (ofValue (fileValue operators methods)) = some (ops, ms) ↔
      FileFits operators methods ∧ ops = operators.map (·.operator) ∧
        List.Forall₂ MethodEntry.Describes methods ms := by
  have hread : entriesOf? (ofValue (fileValue operators methods)) =
      (((operators.map (·.value)).map ofValue).mapM operatorOf?).bind fun ops =>
        (((methods.map (·.value)).map ofValue).mapM methodOf?).bind fun ms => some (ops, ms) := by
    rw [← Config.ofItems_eq_map, ← Config.ofItems_eq_map]
    rfl
  have hops : List.Forall₂ (fun (e : OperatorEntry) op => e.operator = op) operators ops ↔
      ops = operators.map (·.operator) := by
    rw [← List.forall₂_map_left_iff, List.forall₂_eq_eq_eq]
    exact eq_comm
  rw [hread]
  simp only [Option.bind_eq_some_iff, mapM_entries_eq_some_iff fun _ _ => operatorOf?_eq_some_iff,
    mapM_entries_eq_some_iff fun _ _ => methodOf?_eq_some_iff]
  constructor
  · rintro ⟨ops', hops', ms', hms', heq⟩
    cases heq
    exact ⟨⟨hops'.1, hms'.1⟩, hops.1 hops'.2, hms'.2⟩
  · rintro ⟨hfits, hops', hms⟩
    exact ⟨ops, ⟨hfits.operators, hops.2 hops'⟩, ms, ⟨hfits.methods, hms⟩, rfl⟩

/-! ### Entries against each other -/

theorem IsTarget.ne_empty {s : String} (h : IsTarget s) : s ≠ "" := by
  rintro rfl
  obtain ⟨cs, hcs, -⟩ := h
  cases hcs

theorem IsName.ne_empty {s : String} (h : IsName s) : s ≠ "" := by
  rintro rfl
  obtain ⟨c, cs, hcs, -⟩ := h
  cases hcs

theorem fresh_operators_iff {operators : List OperatorEntry} (hfits : ∀ e ∈ operators, e.Fits) :
    Fresh (·.token) CompleteOperator [] (operators.map (·.operator)) ↔
      (∀ e ∈ operators, e.allowed.getD true = true → e.target.getD "" ≠ "") ∧
        (operators.map (·.token)).Nodup := by
  have hkeys : (operators.map (·.operator)).map (·.token) = operators.map (·.token) := by
    rw [List.map_map]
    rfl
  rw [Fresh, hkeys, List.forall_mem_map]
  refine and_congr_left' (forall₂_congr fun e he => ?_)
  simp [CompleteOperator, OperatorEntry.operator, (hfits e he).token]

theorem MethodEntry.Describes.complete_iff {e : MethodEntry} {m : Method} (h : e.Describes m)
    (hfits : e.Fits) : CompleteMethod m ↔ (e.shape = "two" → e.option.getD "" ≠ "") := by
  obtain ⟨hname, htarget, ⟨hmem, hshape⟩, hoption⟩ := h
  have hknown : m.shape.isKnown = true ∧ (m.shape = .two ↔ e.shape = "two") := by
    rw [← hshape]
    simp only [Shape.all, List.mem_cons, List.not_mem_nil, or_false] at hmem
    rcases hmem with h | h | h | h <;> rw [h] <;> decide
  rw [CompleteMethod, hname, htarget, hoption, hknown.2]
  simp [hfits.name.ne_empty, hfits.target.ne_empty, hknown.1]

theorem map_name_of_describes {methods : List MethodEntry} {ms : List Method}
    (h : List.Forall₂ MethodEntry.Describes methods ms) :
    ms.map (·.name) = methods.map (·.name) := by
  induction h with
  | nil => rfl
  | cons hm _ ih => rw [List.map_cons, List.map_cons, hm.1, ih]

theorem fresh_methods_iff {methods : List MethodEntry} {ms : List Method}
    (hfits : ∀ e ∈ methods, e.Fits) (h : List.Forall₂ MethodEntry.Describes methods ms) :
    Fresh (·.name) CompleteMethod [] ms ↔
      (∀ e ∈ methods, e.shape = "two" → e.option.getD "" ≠ "") ∧
        (methods.map (·.name)).Nodup := by
  have hcomplete : (∀ m ∈ ms, CompleteMethod m ∧ m.name ∉ []) ↔
      ∀ e ∈ methods, e.shape = "two" → e.option.getD "" ≠ "" := by
    induction h with
    | nil => simp
    | cons hm _ ih =>
        rw [List.forall_mem_cons] at hfits
        rw [List.forall_mem_cons, List.forall_mem_cons, ih hfits.2, hm.complete_iff hfits.1]
        simp
  rw [Fresh, map_name_of_describes h, hcomplete]

theorem FileFits.exists_describes {operators : List OperatorEntry} {methods : List MethodEntry}
    (h : FileFits operators methods) : ∃ ms, List.Forall₂ MethodEntry.Describes methods ms := by
  have hmethods := h.methods
  clear h
  induction methods with
  | nil => exact ⟨[], .nil⟩
  | cons e methods ih =>
      rw [List.forall_mem_cons] at hmethods
      obtain ⟨m, hm⟩ := hmethods.1.exists_describes
      obtain ⟨ms, hms⟩ := ih hmethods.2
      exact ⟨m :: ms, .cons hm hms⟩

/-- Of the lists that fit the schema, those are accepted that have an operator and pass the checks
of the entries against each other. -/
theorem accepted_iff {operators : List OperatorEntry} {methods : List MethodEntry}
    {ms : List Method} (hfits : FileFits operators methods)
    (hms : List.Forall₂ MethodEntry.Describes methods ms) :
    Accepted operators methods ↔ operators ≠ [] ∧
      Tables.new (operators.map (·.operator)) ms = .ok ⟨operators.map (·.operator), ms⟩ := by
  rw [new_eq_ok_iff, fresh_operators_iff hfits.operators, fresh_methods_iff hfits.methods hms]
  constructor
  · intro h
    exact ⟨h.notEmpty, ⟨⟨h.targets, h.tokens⟩, h.options, h.names⟩, rfl⟩
  · rintro ⟨hne, ⟨⟨htargets, htokens⟩, hoptions, hnames⟩, -⟩
    exact ⟨hfits, hne, htokens, htargets, hnames, hoptions⟩

/-! ### Loading -/

theorem OperatorEntry.distinctKeys (e : OperatorEntry) : e.value.DistinctKeys := by
  obtain ⟨token, target, allowed⟩ := e
  rw [OperatorEntry.value, Value.DistinctKeys, Value.everyKeys_document]
  cases target with
  | none => cases allowed <;> simp [Value.EveryKeys]
  | some t => cases allowed <;> simp [Value.EveryKeys]

theorem MethodEntry.distinctKeys (e : MethodEntry) : e.value.DistinctKeys := by
  obtain ⟨name, target, shape, option⟩ := e
  rw [MethodEntry.value, Value.DistinctKeys, Value.everyKeys_document]
  cases option <;> simp [Value.EveryKeys]

theorem distinctKeys_fileValue (operators : List OperatorEntry) (methods : List MethodEntry) :
    (fileValue operators methods).DistinctKeys := by
  rw [fileValue, Value.DistinctKeys, Value.everyKeys_document]
  refine ⟨by simp, ?_⟩
  simp only [List.forall_mem_cons, Value.everyKeys_array, List.forall_mem_map]
  exact ⟨fun e _ => e.distinctKeys, fun e _ => e.distinctKeys, by simp⟩

/-- **Which JSON texts load as tables, and what they load.** The text of two lists loads exactly
when the lists are accepted, and then the tables have the entries of the lists, in order and with
the defaults filled in. The error for any other lists names the check that failed: the schema, the
one that there is an operator, or the one of the entries against each other. -/
theorem load_of_denotes (file : String) {text : String} {operators : List OperatorEntry}
    {methods : List MethodEntry} (htext : Json.Denotes text.toList (fileValue operators methods))
    (hmark : Config.byteOrderMark ∉ text.toList) :
    (Accepted operators methods → ∃ t, load file text = .ok t ∧
      t.operators = operators.map (·.operator) ∧
        List.Forall₂ MethodEntry.Describes methods t.methods) ∧
    (¬Accepted operators methods → ∃ e, load file text = .error e ∧
      (¬FileFits operators methods → e.field = "cue") ∧
      (FileFits operators methods → operators = [] → e.field = "operators") ∧
      (FileFits operators methods → operators ≠ [] → e.field = "tables")) := by
  have hparse : (Config.parse? text).bind entriesOf? =
      entriesOf? (ofValue (fileValue operators methods)) := by
    rw [Config.parse?_of_denotes htext (distinctKeys_fileValue operators methods) hmark]
    rfl
  by_cases hfits : FileFits operators methods
  · obtain ⟨ms, hms⟩ := hfits.exists_describes
    rw [entriesOf?_eq_some_iff.2 ⟨hfits, rfl, hms⟩] at hparse
    rw [load, hparse, accepted_iff hfits hms]
    by_cases hempty : operators = []
    · subst hempty
      exact ⟨fun h => absurd rfl h.1, fun _ => ⟨_, rfl, fun h => absurd hfits h, fun _ _ => rfl,
        fun _ h => absurd rfl h⟩⟩
    · have hsome : (operators.map (·.operator)).isEmpty = false := by
        simpa using hempty
      simp only [hsome, Bool.false_eq_true, if_false]
      cases hnew : Tables.new (operators.map (·.operator)) ms with
      | ok t =>
          obtain ⟨-, rfl⟩ := new_eq_ok_iff.1 hnew
          exact ⟨fun _ => ⟨_, rfl, rfl, hms⟩, fun h => absurd ⟨hempty, rfl⟩ h⟩
      | error e =>
          refine ⟨fun h => (by cases h.2), fun _ => ⟨_, rfl, fun h => absurd hfits h,
            fun _ h => absurd h hempty, fun _ _ => rfl⟩⟩
  · have hnone : entriesOf? (ofValue (fileValue operators methods)) = none := by
      rw [Option.eq_none_iff_forall_ne_some]
      intro entries hentries
      exact hfits (entriesOf?_eq_some_iff.1 hentries).1
    rw [load, hparse, hnone]
    exact ⟨fun h => absurd h.fits hfits, fun _ => ⟨_, rfl, fun _ => rfl, fun h => absurd h hfits,
      fun h => absurd h hfits⟩⟩

set_option maxRecDepth 2000 in
theorem two_entry_file_loads :
    let text : String :=
      "\x7b\"operators\"\n :[\x7b\"token\":\"≠\"\n, \"allowed\":false\x7d\n]\r\n,\"methods\":[" ++
        "\x7b\"name\":\"re\",\"target\":\"$r\",\"shape\":\"two\"\n\t,\"option\":\"$o\"\x7d]\x7d\n"
    ∃ t, load "tables.json" text = .ok t ∧ t.operators = [⟨"≠", "", false⟩] ∧
      List.Forall₂ MethodEntry.Describes [⟨"re", "$r", "two", some "$o"⟩] t.methods := by
  intro text
  have hoperator : OperatorEntry.Fits ⟨"≠", none, some false⟩ := ⟨by simp, by simp⟩
  have hmethod : MethodEntry.Fits ⟨"re", "$r", "two", some "$o"⟩ := by
    refine ⟨isMethodName_iff.1 (by decide), isTarget_iff.1 (by decide), by simp, ?_⟩
    rintro s ⟨⟩
    exact Or.inr (isTarget_iff.1 (by decide))
  have haccepted : Accepted [⟨"≠", none, some false⟩] [⟨"re", "$r", "two", some "$o"⟩] :=
    ⟨⟨by simp [hoperator], by simp [hmethod]⟩, by simp, by simp, by simp, by simp, by simp⟩
  have hread : Json.Strict.read text.toList =
      some (fileValue [⟨"≠", none, some false⟩] [⟨"re", "$r", "two", some "$o"⟩]) := by
    cbv
  have hmark : Config.byteOrderMark ∉ text.toList := by decide +kernel
  exact (load_of_denotes "tables.json" (Json.Strict.read_eq_some_iff.1 hread) hmark).1 haccepted

end DocQuery.Tables
