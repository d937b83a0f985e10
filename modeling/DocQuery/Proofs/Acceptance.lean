import DocQuery.Proofs.JsonGrammar
import DocQuery.Proofs.UpdateChain

/-!
# DocQuery.Proofs.Acceptance

**Which trees compile.** `Derives t role e` is a grammar of trees: it says what a tree can stand for
under the tables `t`, a field, a value, a filter condition or an update. The grammar speaks about
trees only; it mentions no fragment, no document and no error.

The compiler accepts exactly what the grammar derives (`derives_iff_compile`), and the role that is
derived is the role of the fragment (`Fragment.role`). Both directions go through one lemma for each
rule of the compiler, which says on which *roles* of its parts the rule succeeds. Two rules bypass
the bottom-up order: a conjunction is compiled through its leaves, which `compile_and_eq_ok_iff` has
put back on its sides, and a comma chain is a run over its leaves, whose writes must be of different
fields.
-/

namespace DocQuery

open Compile

/-- What a tree can stand for. -/
inductive Role where
  /-- A field, by its dotted path. -/
  | field (path : String)
  /-- A value, and whether it is a number. -/
  | value (isNumber : Bool)
  /-- A filter condition. -/
  | condition
  /-- An update. -/
  | update
deriving DecidableEq

/-- Whether a role is that of a value. -/
def Role.isValue : Role → Bool
  | .value _ => true
  | _ => false

/-- Which arguments a method of a shape takes, by their roles: any number of values; none, or a
first one that is a value; at least one, the first two being values; exactly one condition. -/
def Shape.Takes : Shape → List Role → Prop
  | .array, roles => ∀ role ∈ roles, role.isValue = true
  | .single, roles => ∀ role ∈ roles.take 1, role.isValue = true
  | .two, roles => roles ≠ [] ∧ ∀ role ∈ roles.take 2, role.isValue = true
  | .expr, roles => roles = [.condition]
  | .other _, _ => False

/-- Whether an operator joins conditions. -/
def Operator.isLogical (op : Operator) : Bool := op.target = "$and" || op.target = "$or"

mutual

/-- `e` can stand for `role` under the tables `t`. -/
inductive Derives (t : Tables) : Role → Expr → Prop where
  /-- A name is a field. -/
  | identifier {name : String} : Derives t (.field name) (.identifier name)
  /-- A property of a field is a field. -/
  | member {path property : String} {base : Expr} (hbase : Derives t (.field path) base) :
      Derives t (.field (path ++ "." ++ property)) (.member base property)
  /-- A string is a value. -/
  | string {s : String} : Derives t (.value false) (.string s)
  /-- A boolean is a value. -/
  | bool {b : Bool} : Derives t (.value false) (.bool b)
  /-- Null is a value. -/
  | null : Derives t (.value false) .null
  /-- A number literal is a value when JSON has it. -/
  | number {literal : String} (h : Json.NumberText literal.toList) :
      Derives t (.value true) (.number literal)
  /-- The negation of a number is a number. -/
  | negate {e : Expr} (he : Derives t (.value true) e) :
      Derives t (.value true) (.unary .negate e)
  /-- An array of values is a value. -/
  | array {roles : List Role} {es : List Expr} (hes : DerivesAll t roles es)
      (hvalues : ∀ role ∈ roles, role.isValue = true) : Derives t (.value false) (.array es)
  /-- A conjunction of conditions. -/
  | conjunction {op : Operator} {l r : Expr} (hop : t.Allows "&&" op)
      (hl : Derives t .condition l) (hr : Derives t .condition r) :
      Derives t .condition (.binary "&&" l r)
  /-- Another logical operator on conditions. -/
  | logical {token : String} {op : Operator} {l r : Expr} (htoken : token ≠ "&&")
      (hop : t.Allows token op) (hlogical : op.isLogical = true)
      (hl : Derives t .condition l) (hr : Derives t .condition r) :
      Derives t .condition (.binary token l r)
  /-- A comparison of a field with a value. -/
  | comparison {token path : String} {op : Operator} {isNumber : Bool} {l r : Expr}
      (htoken : token ≠ "&&") (hop : t.Allows token op) (hlogical : op.isLogical = false)
      (hl : Derives t (.field path) l) (hr : Derives t (.value isNumber) r) :
      Derives t .condition (.binary token l r)
  /-- A comparison of a value with a field. -/
  | flipped {token path : String} {op : Operator} {isNumber : Bool} {l r : Expr}
      (htoken : token ≠ "&&") (hop : t.Allows token op) (hlogical : op.isLogical = false)
      (hl : Derives t (.value isNumber) l) (hr : Derives t (.field path) r) :
      Derives t .condition (.binary token l r)
  /-- The logical negation of a field. -/
  | not {path : String} {e : Expr} (he : Derives t (.field path) e) :
      Derives t .condition (.unary .not e)
  /-- A method of the tables, called on a field with arguments that can stand for something and that
  its shape takes. -/
  | call {name path : String} {m : Method} {field : Expr} {roles : List Role} {args : List Expr}
      (hm : t.method? name = some m) (hfield : Derives t (.field path) field)
      (hargs : DerivesAll t roles args) (htakes : m.shape.Takes roles) :
      Derives t .condition (.call field name args)
  /-- The removal of a field. -/
  | delete {path : String} {e : Expr} (he : Derives t (.field path) e) :
      Derives t .update (.unary .delete e)
  /-- The increment of a field by one. -/
  | increment {path : String} {e : Expr} (he : Derives t (.field path) e) :
      Derives t .update (.unary .increment e)
  /-- The assignment of a value to a field. -/
  | assign {path : String} {isNumber : Bool} {target v : Expr}
      (htarget : Derives t (.field path) target) (hv : Derives t (.value isNumber) v) :
      Derives t .update (.assign "=" target v)
  /-- The increment of a field by a number. -/
  | add {path : String} {target v : Expr} (htarget : Derives t (.field path) target)
      (hv : Derives t (.value true) v) : Derives t .update (.assign "+=" target v)
  /-- A comma chain of writes to different fields. -/
  | chain {paths : List String} {l r : Expr}
      (hmembers : DerivesMembers t paths (Expr.sequenceLeaves (.sequence l r)))
      (hpaths : paths.Nodup) : Derives t .update (.sequence l r)
  /-- A statement is what its expression is. -/
  | statement {role : Role} {e : Expr} (he : Derives t role e) : Derives t role (.statement e)
  /-- A program is what its only statement is. -/
  | program {role : Role} {e : Expr} (he : Derives t role e) : Derives t role (.program [e])

/-- The trees of a list can stand for these roles. -/
inductive DerivesAll (t : Tables) : List Role → List Expr → Prop where
  /-- No trees. -/
  | nil : DerivesAll t [] []
  /-- One tree and the others. -/
  | cons {role : Role} {roles : List Role} {e : Expr} {es : List Expr} (he : Derives t role e)
      (hes : DerivesAll t roles es) : DerivesAll t (role :: roles) (e :: es)

/-- The trees of a list are removals, increments and assignments that are updates of these fields. -/
inductive DerivesMembers (t : Tables) : List String → List Expr → Prop where
  /-- No trees. -/
  | nil : DerivesMembers t [] []
  /-- One tree and the others. -/
  | cons {path : String} {paths : List String} {leaf target : Expr} {leaves : List Expr}
      (hwrite : leaf.writeTarget? = some target) (htarget : Derives t (.field path) target)
      (hleaf : Derives t .update leaf) (hleaves : DerivesMembers t paths leaves) :
      DerivesMembers t (path :: paths) (leaf :: leaves)

end

/-! ### The rules of the compiler, by the roles of their parts -/

/-- The role of a fragment. -/
def Fragment.role : Fragment → Role
  | .field path => .field path
  | .literal v => .value (isNumberValue v)
  | .condition _ => .condition
  | .update _ => .update

variable {t : Tables}

theorem Fragment.role_eq_field_iff {f : Fragment} {path : String} :
    f.role = .field path ↔ f = .field path := by
  cases f <;> simp [Fragment.role]

theorem Fragment.role_eq_value_iff {f : Fragment} {isNumber : Bool} :
    f.role = .value isNumber ↔ ∃ v, f = .literal v ∧ isNumberValue v = isNumber := by
  cases f <;> simp [Fragment.role]

theorem Fragment.role_eq_condition_iff {f : Fragment} :
    f.role = .condition ↔ ∃ d, f = .condition d := by
  cases f <;> simp [Fragment.role]

theorem Fragment.role_eq_update_iff {f : Fragment} :
    f.role = .update ↔ ∃ u, f = .update u := by
  cases f <;> simp [Fragment.role]

theorem Fragment.isValue_role_iff {f : Fragment} :
    f.role.isValue = true ↔ ∃ v, f = .literal v := by
  cases f <;> simp [Fragment.role, Role.isValue]

theorem isNumberValue_iff {v : Value} : isNumberValue v = true ↔ ∃ text, v = .number text := by
  cases v <;> simp [isNumberValue]

/-- Fragments are values exactly when all of their roles are. -/
theorem exists_asValues_iff (subject : String) (i : Nat) {fs : List Fragment} :
    (∃ vs, asValues subject i fs = .ok vs) ↔ ∀ role ∈ fs.map Fragment.role, role.isValue = true := by
  simp only [asValues_eq_ok_iff, List.forall_mem_map, Fragment.isValue_role_iff]
  induction fs with
  | nil => simp
  | cons f rest ih =>
      rw [List.forall_mem_cons, ← ih]
      constructor
      · rintro ⟨vs, h⟩
        cases vs with
        | nil => simp at h
        | cons v vs =>
            simp only [List.map_cons, List.cons.injEq] at h
            exact ⟨⟨v, h.1⟩, vs, h.2⟩
      · rintro ⟨⟨v, rfl⟩, vs, rfl⟩
        exact ⟨v :: vs, rfl⟩

/-- A method has an operand exactly when its shape takes its arguments. -/
theorem exists_methodOperand_iff {m : Method} {fs : List Fragment} :
    (∃ d, methodOperand m fs = .ok d) ↔ m.shape.Takes (fs.map Fragment.role) := by
  unfold methodOperand
  cases m.shape with
  | array =>
      simp only [Shape.Takes, bind_eq_ok_iff, ← exists_asValues_iff (m.name ++ "()") 0]
      exact ⟨fun ⟨_, vs, h, _⟩ => ⟨vs, h⟩, fun ⟨vs, h⟩ => ⟨_, vs, h, rfl⟩⟩
  | single =>
      cases fs with
      | nil => simp [Shape.Takes]
      | cons f rest =>
          simp [Shape.Takes, bind_eq_ok_iff, asValue_eq_ok_iff, Fragment.isValue_role_iff]
  | two =>
      match fs with
      | [] => simp [Shape.Takes]
      | [f] => simp [Shape.Takes, bind_eq_ok_iff, asValue_eq_ok_iff, Fragment.isValue_role_iff]
      | f :: g :: rest =>
          simp [Shape.Takes, bind_eq_ok_iff, asValue_eq_ok_iff, Fragment.isValue_role_iff]
  | expr =>
      match fs with
      | [] => simp [Shape.Takes]
      | [f] => cases f <;> simp [Shape.Takes, Fragment.role]
      | f :: g :: rest => cases f <;> simp [Shape.Takes]
  | other code => simp [Shape.Takes]

/-- A comparison succeeds exactly on a field and a value, in either order. -/
theorem exists_comparison_iff {token target : String} {l r : Fragment} :
    (∃ f, comparison token target l r = .ok f) ↔
      (∃ path n, l.role = .field path ∧ r.role = .value n) ∨
        ∃ path n, l.role = .value n ∧ r.role = .field path := by
  cases l <;> cases r <;> simp [comparison, Fragment.role]

theorem role_of_comparison {token target : String} {l r f : Fragment}
    (h : comparison token target l r = .ok f) : f.role = .condition := by
  unfold comparison at h
  split at h <;> cases h <;> rfl

/-- A binary operator other than conjunction succeeds exactly where it is allowed: on two conditions
when it is logical, and on a field and a value otherwise. -/
theorem exists_binary_iff {token : String} {l r : Fragment} :
    (∃ f, Compile.binary t token l r = .ok f) ↔ ∃ op, t.Allows token op ∧
      (op.isLogical = true ∧ l.role = .condition ∧ r.role = .condition ∨
        op.isLogical = false ∧ ((∃ path n, l.role = .field path ∧ r.role = .value n) ∨
          ∃ path n, l.role = .value n ∧ r.role = .field path)) := by
  simp only [Compile.binary, bind_eq_ok_iff, lookupOperator_eq_ok_iff]
  constructor
  · rintro ⟨f, op, hop, h⟩
    refine ⟨op, hop, ?_⟩
    cases hl : op.isLogical with
    | true =>
        rw [Operator.isLogical] at hl
        simp only [hl, if_true, bind_eq_ok_iff, asCondition_eq_ok_iff] at h
        obtain ⟨dl, rfl, dr, rfl, -⟩ := h
        exact Or.inl ⟨rfl, rfl, rfl⟩
    | false =>
        rw [Operator.isLogical] at hl
        simp only [hl, Bool.false_eq_true, if_false] at h
        exact Or.inr ⟨rfl, exists_comparison_iff.1 ⟨f, h⟩⟩
  · rintro ⟨op, hop, ⟨hl, hleft, hright⟩ | ⟨hl, hsides⟩⟩
    · obtain ⟨dl, rfl⟩ := Fragment.role_eq_condition_iff.1 hleft
      obtain ⟨dr, rfl⟩ := Fragment.role_eq_condition_iff.1 hright
      rw [Operator.isLogical] at hl
      refine ⟨.condition [(op.target, .array [.document dl, .document dr])], op, hop, ?_⟩
      rw [if_pos hl]
      rfl
    · obtain ⟨f, hf⟩ := exists_comparison_iff.2 hsides
      rw [Operator.isLogical] at hl
      refine ⟨f, op, hop, ?_⟩
      rw [if_neg (by rw [hl]; exact Bool.false_ne_true)]
      exact hf

theorem role_of_binary {token : String} {l r f : Fragment}
    (h : Compile.binary t token l r = .ok f) : f.role = .condition := by
  simp only [Compile.binary, bind_eq_ok_iff] at h
  obtain ⟨op, -, h⟩ := h
  split at h
  · simp only [bind_eq_ok_iff] at h
    obtain ⟨_, -, _, -, h⟩ := h
    cases h
    rfl
  · exact role_of_comparison h

/-- An assignment succeeds exactly on a field and a value, which has to be a number for `+=`. -/
theorem exists_assign_iff {op : String} {target v : Fragment} :
    (∃ f, Compile.assign op target v = .ok f) ↔ ∃ path n, target.role = .field path ∧
      v.role = .value n ∧ (op = "=" ∨ op = "+=" ∧ n = true) := by
  unfold Compile.assign assignGroup
  by_cases hset : op = "="
  · cases target <;> cases v <;> simp [hset, Fragment.role]
  · by_cases hadd : op = "+="
    · cases target with
      | field path =>
          cases v with
          | literal v => cases hv : isNumberValue v <;> simp [hadd, hv, Fragment.role]
          | _ => simp [hadd, Fragment.role]
      | _ => simp [hadd, Fragment.role]
    · simp [hset, hadd]

/-- What an assignment compiles to is a single write to its target. -/
theorem assign_eq_ok {op : String} {target v f : Fragment}
    (h : Compile.assign op target v = .ok f) :
    ∃ w : Write, f = .update w.toUpdate ∧ target = .field w.field := by
  simp only [Compile.assign, bind_eq_ok_iff] at h
  obtain ⟨group, -, h⟩ := h
  split at h
  · next path =>
    split at h
    · next v =>
      split at h
      · cases h
      · cases h
        exact ⟨⟨group, path, v⟩, rfl, rfl⟩
    · cases h
  · cases h

/-- A call succeeds exactly for a method of the tables, on a field, with arguments that it takes. -/
theorem exists_call_iff {name : String} {field : Fragment} {args : List Fragment} :
    (∃ f, Compile.call t name field args = .ok f) ↔ ∃ m path, t.method? name = some m ∧
      field.role = .field path ∧ m.shape.Takes (args.map Fragment.role) := by
  unfold Compile.call
  cases t.method? name with
  | none => simp
  | some m =>
      simp only [Option.some.injEq, ← exists_methodOperand_iff, exists_and_left, ↓existsAndEq,
        true_and, Fragment.role_eq_field_iff]
      cases field <;> simp [bind_eq_ok_iff]

theorem role_of_call {name : String} {field f : Fragment} {args : List Fragment}
    (h : Compile.call t name field args = .ok f) : f.role = .condition := by
  unfold Compile.call at h
  split at h
  · cases h
  · split at h
    · rw [bind_eq_ok_iff] at h
      obtain ⟨_, -, h⟩ := h
      cases h
      rfl
    · cases h

/-! ### Members of comma chains -/

theorem sizeOf_writeTarget {leaf target : Expr} (h : leaf.writeTarget? = some target) :
    sizeOf target < sizeOf leaf := by
  unfold Expr.writeTarget? at h
  split at h <;> cases h
  · rw [Expr.unary.sizeOf_spec]; omega
  · rw [Expr.unary.sizeOf_spec]; omega
  · rw [Expr.assign.sizeOf_spec]; omega

/-- A removal, an increment or an assignment that compiles is a single write to its target. -/
theorem write_of_compile {leaf target : Expr} {f : Fragment}
    (htarget : leaf.writeTarget? = some target) (h : leaf.compile t = .ok f) :
    ∃ w : Write, f = .update w.toUpdate ∧ target.compile t = .ok (.field w.field) := by
  unfold Expr.writeTarget? at htarget
  split at htarget <;> cases htarget
  · rw [Expr.compile, bind_eq_ok_iff] at h
    obtain ⟨g, hg, h⟩ := h
    cases g <;> cases h
    exact ⟨⟨_, _, _⟩, rfl, hg⟩
  · rw [Expr.compile, bind_eq_ok_iff] at h
    obtain ⟨g, hg, h⟩ := h
    cases g <;> cases h
    exact ⟨⟨_, _, _⟩, rfl, hg⟩
  · rw [Expr.compile, bind_eq_ok_iff] at h
    obtain ⟨g, hg, h⟩ := h
    rw [bind_eq_ok_iff] at h
    obtain ⟨v, -, h⟩ := h
    obtain ⟨w, rfl, rfl⟩ := assign_eq_ok h
    exact ⟨w, rfl, hg⟩

/-- A run over members that succeeds has checked and compiled each of them. -/
theorem compile_of_foldlM_addLeaf {b b' : UpdateBuilder} {leaves : List Expr}
    (h : leaves.foldlM (addLeaf t) b = .ok b') :
    ∀ leaf ∈ leaves, leaf.isWrite = true ∧ ∃ f, leaf.compile t = .ok f := by
  induction leaves generalizing b with
  | nil => simp
  | cons leaf rest ih =>
      rw [List.foldlM_cons, bind_eq_ok_iff] at h
      obtain ⟨b₁, hleaf, hrest⟩ := h
      simp only [addLeaf, bind_eq_ok_iff] at hleaf
      obtain ⟨_, hcheck, f, hf, -⟩ := hleaf
      exact List.forall_mem_cons.2
        ⟨⟨checkSequenceMember_eq_ok_iff.1 hcheck, f, hf⟩, ih hrest⟩

/-- Members that are checked and compile have their writes. -/
theorem exists_writes {leaves : List Expr}
    (h : ∀ leaf ∈ leaves, leaf.isWrite = true ∧ ∃ f, leaf.compile t = .ok f) :
    ∃ ws : List Write,
      List.Forall₂ (fun leaf w => leaf.compile t = .ok (.update w.toUpdate)) leaves ws := by
  induction leaves with
  | nil => exact ⟨[], .nil⟩
  | cons leaf rest ih =>
      rw [List.forall_mem_cons] at h
      obtain ⟨⟨hwrite, f, hf⟩, hrest⟩ := h
      obtain ⟨target, htarget⟩ := Option.isSome_iff_exists.1 hwrite
      obtain ⟨w, rfl, -⟩ := write_of_compile htarget hf
      obtain ⟨ws, hws⟩ := ih hrest
      exact ⟨w :: ws, .cons hf hws⟩

/-! ### What the grammar derives compiles -/

mutual

theorem compile_of_derives {role : Role} {e : Expr} :
    Derives t role e → ∃ f, e.compile t = .ok f ∧ f.role = role
  | .identifier => ⟨.field _, by rw [Expr.compile], rfl⟩
  | .member hbase => by
      obtain ⟨f, hf, hrole⟩ := compile_of_derives hbase
      obtain rfl := Fragment.role_eq_field_iff.1 hrole
      exact ⟨.field _, by rw [Expr.compile, hf]; rfl, rfl⟩
  | .string => ⟨.literal _, by rw [Expr.compile], rfl⟩
  | .bool => ⟨.literal _, by rw [Expr.compile], rfl⟩
  | .null => ⟨.literal _, by rw [Expr.compile], rfl⟩
  | .number h => by
      have hnumber : Decimal.isNumber _ = true := (Json.isNumberChars_iff _).2 h
      exact ⟨.literal _, by rw [Expr.compile, if_pos hnumber], rfl⟩
  | .negate he => by
      obtain ⟨f, hf, hrole⟩ := compile_of_derives he
      obtain ⟨v, rfl, hv⟩ := Fragment.role_eq_value_iff.1 hrole
      obtain ⟨text, rfl⟩ := isNumberValue_iff.1 hv
      exact ⟨_, by rw [Expr.compile, hf]; rfl, rfl⟩
  | .array hes hvalues => by
      obtain ⟨fs, hfs, rfl⟩ := compileAll_of_derives hes
      obtain ⟨vs, hvs⟩ := (exists_asValues_iff Kind.array.name 0).2 hvalues
      exact ⟨.literal (.array vs), by rw [Expr.compile, hfs, ok_bind, hvs]; rfl, rfl⟩
  | .conjunction hop hl hr => by
      obtain ⟨f, hf, hfrole⟩ := compile_of_derives hl
      obtain ⟨g, hg, hgrole⟩ := compile_of_derives hr
      obtain ⟨dl, rfl⟩ := Fragment.role_eq_condition_iff.1 hfrole
      obtain ⟨dr, rfl⟩ := Fragment.role_eq_condition_iff.1 hgrole
      obtain ⟨dsl, hdsl⟩ := exists_leafwise_of_compile hf
      obtain ⟨dsr, hdsr⟩ := exists_leafwise_of_compile hg
      exact ⟨_, compile_and_eq_ok_iff.2 ⟨⟨_, hop⟩, dl, dr, dsl, dsr, hdsl, hdsr, rfl⟩, rfl⟩
  | .logical htoken hop hlogical hl hr => by
      obtain ⟨f, hf, hfrole⟩ := compile_of_derives hl
      obtain ⟨g, hg, hgrole⟩ := compile_of_derives hr
      obtain ⟨x, hx⟩ := exists_binary_iff.2 ⟨_, hop, Or.inl ⟨hlogical, hfrole, hgrole⟩⟩
      exact ⟨x, by rw [compile_binary htoken, hf, ok_bind, hg, ok_bind, hx],
        role_of_binary hx⟩
  | .comparison htoken hop hlogical hl hr => by
      obtain ⟨f, hf, hfrole⟩ := compile_of_derives hl
      obtain ⟨g, hg, hgrole⟩ := compile_of_derives hr
      obtain ⟨x, hx⟩ := exists_binary_iff.2
        ⟨_, hop, Or.inr ⟨hlogical, Or.inl ⟨_, _, hfrole, hgrole⟩⟩⟩
      exact ⟨x, by rw [compile_binary htoken, hf, ok_bind, hg, ok_bind, hx],
        role_of_binary hx⟩
  | .flipped htoken hop hlogical hl hr => by
      obtain ⟨f, hf, hfrole⟩ := compile_of_derives hl
      obtain ⟨g, hg, hgrole⟩ := compile_of_derives hr
      obtain ⟨x, hx⟩ := exists_binary_iff.2
        ⟨_, hop, Or.inr ⟨hlogical, Or.inr ⟨_, _, hfrole, hgrole⟩⟩⟩
      exact ⟨x, by rw [compile_binary htoken, hf, ok_bind, hg, ok_bind, hx],
        role_of_binary hx⟩
  | .not he => by
      obtain ⟨f, hf, hrole⟩ := compile_of_derives he
      obtain rfl := Fragment.role_eq_field_iff.1 hrole
      exact ⟨.condition _, by rw [Expr.compile, hf]; rfl, rfl⟩
  | .call hm hfield hargs htakes => by
      obtain ⟨f, hf, hrole⟩ := compile_of_derives hfield
      obtain ⟨fs, hfs, rfl⟩ := compileAll_of_derives hargs
      obtain ⟨x, hx⟩ := exists_call_iff.2 ⟨_, _, hm, hrole, htakes⟩
      exact ⟨x, by rw [Expr.compile, hf, ok_bind, hfs, ok_bind, hx], role_of_call hx⟩
  | .delete he => by
      obtain ⟨f, hf, hrole⟩ := compile_of_derives he
      obtain rfl := Fragment.role_eq_field_iff.1 hrole
      exact ⟨.update _, by rw [Expr.compile, hf]; rfl, rfl⟩
  | .increment he => by
      obtain ⟨f, hf, hrole⟩ := compile_of_derives he
      obtain rfl := Fragment.role_eq_field_iff.1 hrole
      exact ⟨.update _, by rw [Expr.compile, hf]; rfl, rfl⟩
  | .assign htarget hv => by
      obtain ⟨f, hf, hfrole⟩ := compile_of_derives htarget
      obtain ⟨g, hg, hgrole⟩ := compile_of_derives hv
      obtain ⟨x, hx⟩ := exists_assign_iff.2 ⟨_, _, hfrole, hgrole, Or.inl rfl⟩
      obtain ⟨w, rfl, -⟩ := assign_eq_ok hx
      exact ⟨_, by rw [Expr.compile, hf, ok_bind, hg, ok_bind, hx], rfl⟩
  | .add htarget hv => by
      obtain ⟨f, hf, hfrole⟩ := compile_of_derives htarget
      obtain ⟨g, hg, hgrole⟩ := compile_of_derives hv
      obtain ⟨x, hx⟩ := exists_assign_iff.2 ⟨_, _, hfrole, hgrole, Or.inr ⟨rfl, rfl⟩⟩
      obtain ⟨w, rfl, -⟩ := assign_eq_ok hx
      exact ⟨_, by rw [Expr.compile, hf, ok_bind, hg, ok_bind, hx], rfl⟩
  | .chain hmembers hpaths => by
      -- different paths are all that a run over single writes can fail on
      obtain ⟨ws, hwrites, hws, rfl⟩ := writes_of_derives hmembers
      exact ⟨_, (compile_sequence_of_writes hwrites hws).1 hpaths, rfl⟩
  | .statement he => by
      obtain ⟨f, hf, hrole⟩ := compile_of_derives he
      exact ⟨f, by rw [Expr.compile, hf], hrole⟩
  | .program he => by
      obtain ⟨f, hf, hrole⟩ := compile_of_derives he
      have hbody : compileAll t [_] = .ok [f] := compileAll_eq_ok_iff.2 (.cons hf .nil)
      exact ⟨f, by rw [Expr.compile, hbody]; rfl, hrole⟩

theorem compileAll_of_derives {roles : List Role} {es : List Expr} :
    DerivesAll t roles es → ∃ fs, compileAll t es = .ok fs ∧ fs.map Fragment.role = roles
  | .nil => ⟨[], compileAll_eq_ok_iff.2 .nil, rfl⟩
  | .cons he hes => by
      obtain ⟨f, hf, rfl⟩ := compile_of_derives he
      obtain ⟨fs, hfs, rfl⟩ := compileAll_of_derives hes
      exact ⟨f :: fs, compileAll_eq_ok_iff.2 (.cons hf (compileAll_eq_ok_iff.1 hfs)), rfl⟩

theorem writes_of_derives {paths : List String} {leaves : List Expr} :
    DerivesMembers t paths leaves → ∃ ws : List Write,
      (∀ leaf ∈ leaves, leaf.isWrite = true) ∧
      List.Forall₂ (fun leaf w => leaf.compile t = .ok (.update w.toUpdate)) leaves ws ∧
      ws.map (·.field) = paths
  | .nil => ⟨[], by simp, .nil, rfl⟩
  | .cons hwrite htarget hleaf hleaves => by
      obtain ⟨f, hf, -⟩ := compile_of_derives hleaf
      obtain ⟨g, hg, hrole⟩ := compile_of_derives htarget
      obtain rfl := Fragment.role_eq_field_iff.1 hrole
      obtain ⟨ws, hwrites, hws, rfl⟩ := writes_of_derives hleaves
      obtain ⟨w, rfl, hfield⟩ := write_of_compile hwrite hf
      rw [hg] at hfield
      cases hfield
      refine ⟨w :: ws, List.forall_mem_cons.2 ⟨?_, hwrites⟩, .cons hf hws, rfl⟩
      rw [Expr.isWrite, hwrite]
      rfl

end

/-! ### What compiles is derived -/

/-- The members of a chain are derived, from derivations of all smaller trees. -/
theorem derivesMembers_of_writes {leaves : List Expr} {ws : List Write}
    (hwrite : ∀ leaf ∈ leaves, leaf.isWrite = true)
    (hws : List.Forall₂ (fun leaf w => leaf.compile t = .ok (.update w.toUpdate)) leaves ws)
    (ih : ∀ leaf ∈ leaves, ∀ e f, sizeOf e ≤ sizeOf leaf → e.compile t = .ok f →
      Derives t f.role e) : DerivesMembers t (ws.map (·.field)) leaves := by
  induction hws with
  | nil => exact .nil
  | @cons leaf w rest ws hw hws ihrest =>
      rw [List.forall_mem_cons] at hwrite ih
      obtain ⟨target, htarget⟩ := Option.isSome_iff_exists.1 hwrite.1
      obtain ⟨w', hw', hfield⟩ := write_of_compile htarget hw
      obtain rfl := Write.toUpdate_inj.1 (Fragment.update.inj hw')
      have hsmaller := sizeOf_writeTarget htarget
      exact .cons htarget (ih.1 target _ (by omega) hfield) (ih.1 leaf _ (Nat.le_refl _) hw)
        (ihrest hwrite.2 ih.2)

mutual

theorem derives_of_compile {e : Expr} {f : Fragment} (h : e.compile t = .ok f) :
    Derives t f.role e := by
  cases e with
  | hole => rw [Expr.compile] at h; cases h
  | program body =>
      rw [Expr.compile, bind_eq_ok_iff] at h
      obtain ⟨fs, hfs, h⟩ := h
      -- a program stands for something only when it has exactly one statement
      cases compileAll_eq_ok_iff.1 hfs with
      | nil => cases h
      | cons hg hrest =>
          cases hrest with
          | nil =>
              cases h
              exact .program (derives_of_compile hg)
          | cons _ _ => cases h
  | statement e =>
      rw [Expr.compile] at h
      exact .statement (derives_of_compile h)
  | string value => rw [Expr.compile] at h; cases h; exact .string
  | number literal =>
      rw [Expr.compile] at h
      split at h
      · next hnumber =>
        cases h
        exact .number ((Json.isNumberChars_iff _).1 hnumber)
      · cases h
  | bool value => rw [Expr.compile] at h; cases h; exact .bool
  | null => rw [Expr.compile] at h; cases h; exact .null
  | identifier name => rw [Expr.compile] at h; cases h; exact .identifier
  | member base property =>
      rw [Expr.compile, bind_eq_ok_iff] at h
      obtain ⟨g, hg, h⟩ := h
      have hbase := derives_of_compile hg
      cases g <;> cases h
      exact .member hbase
  | binary token l r =>
      by_cases htoken : token = Expr.andToken
      · -- the recursion is on the sides, though the compiler only ever sees the leaves
        subst htoken
        obtain ⟨⟨op, hop⟩, dl, dr, dsl, dsr, hl, hr, rfl⟩ := compile_and_eq_ok_iff.1 h
        exact .conjunction hop (derives_of_compile hl.compile_eq) (derives_of_compile hr.compile_eq)
      · rw [compile_binary htoken, bind_eq_ok_iff] at h
        obtain ⟨g, hg, h⟩ := h
        rw [bind_eq_ok_iff] at h
        obtain ⟨k, hk, h⟩ := h
        have hl := derives_of_compile hg
        have hr := derives_of_compile hk
        rw [role_of_binary h]
        obtain ⟨op, hop, ⟨hlogical, hgrole, hkrole⟩ | ⟨hlogical, hsides⟩⟩ :=
          exists_binary_iff.1 ⟨f, h⟩
        · rw [hgrole] at hl
          rw [hkrole] at hr
          exact .logical htoken hop hlogical hl hr
        · rcases hsides with ⟨path, n, hgrole, hkrole⟩ | ⟨path, n, hgrole, hkrole⟩
          · rw [hgrole] at hl
            rw [hkrole] at hr
            exact .comparison htoken hop hlogical hl hr
          · rw [hgrole] at hl
            rw [hkrole] at hr
            exact .flipped htoken hop hlogical hl hr
  | unary op operand =>
      rw [Expr.compile, bind_eq_ok_iff] at h
      obtain ⟨g, hg, h⟩ := h
      have hoperand := derives_of_compile hg
      cases op with
      | negate =>
          cases g with
          | literal v =>
              cases v <;> cases h
              exact .negate hoperand
          | _ => cases h
      | not => cases g <;> cases h; exact .not hoperand
      | delete => cases g <;> cases h; exact .delete hoperand
      | increment => cases g <;> cases h; exact .increment hoperand
      | other code => cases h
  | array elements =>
      rw [Expr.compile, bind_eq_ok_iff] at h
      obtain ⟨fs, hfs, h⟩ := h
      rw [bind_eq_ok_iff] at h
      obtain ⟨vs, hvs, h⟩ := h
      cases h
      exact .array (derivesAll_of_compileAll hfs) ((exists_asValues_iff _ _).1 ⟨vs, hvs⟩)
  | call field name args =>
      rw [Expr.compile, bind_eq_ok_iff] at h
      obtain ⟨g, hg, h⟩ := h
      rw [bind_eq_ok_iff] at h
      obtain ⟨fs, hfs, h⟩ := h
      have hfield := derives_of_compile hg
      obtain ⟨m, path, hm, hrole, htakes⟩ := exists_call_iff.1 ⟨f, h⟩
      rw [role_of_call h]
      rw [hrole] at hfield
      exact .call hm hfield (derivesAll_of_compileAll hfs) htakes
  | detachedCall args => rw [Expr.compile] at h; cases h
  | assign op target value =>
      rw [Expr.compile, bind_eq_ok_iff] at h
      obtain ⟨g, hg, h⟩ := h
      rw [bind_eq_ok_iff] at h
      obtain ⟨k, hk, h⟩ := h
      have htarget := derives_of_compile hg
      have hvalue := derives_of_compile hk
      obtain ⟨path, n, hgrole, hkrole, hop⟩ := exists_assign_iff.1 ⟨f, h⟩
      obtain ⟨w, rfl, -⟩ := assign_eq_ok h
      rw [hgrole] at htarget
      rw [hkrole] at hvalue
      rcases hop with rfl | ⟨rfl, rfl⟩
      · exact .assign htarget hvalue
      · exact .add htarget hvalue
  | sequence l r =>
      have hrun := h
      rw [compile_sequence, bind_eq_ok_iff] at hrun
      obtain ⟨b, hb, hf⟩ := hrun
      cases hf
      -- the run succeeded, so each leaf was checked and is a single write
      have hleaves := compile_of_foldlM_addLeaf hb
      obtain ⟨ws, hws⟩ := exists_writes hleaves
      have hwrite := fun leaf hmem => (hleaves leaf hmem).1
      have hnodup : (ws.map (·.field)).Nodup := by
        by_contra hrep
        obtain ⟨_, _, _, herror⟩ := (compile_sequence_of_writes hwrite hws).2 hrep
        rw [herror] at h
        cases h
      refine .chain (derivesMembers_of_writes hwrite hws fun leaf hmem e f hle he => ?_) hnodup
      have hlt := Expr.sizeOf_lt_of_mem_sequenceLeaves hmem
      exact derives_of_compile he
termination_by sizeOf e
decreasing_by
  -- a part of the node, or something no larger than a leaf of it
  all_goals
    subst_vars
    first
    | simp only [Expr.program.sizeOf_spec, Expr.statement.sizeOf_spec, Expr.member.sizeOf_spec,
        Expr.binary.sizeOf_spec, Expr.unary.sizeOf_spec, Expr.array.sizeOf_spec,
        Expr.call.sizeOf_spec, Expr.assign.sizeOf_spec, List.cons.sizeOf_spec]
      omega
    | omega

theorem derivesAll_of_compileAll {es : List Expr} {fs : List Fragment}
    (h : compileAll t es = .ok fs) : DerivesAll t (fs.map Fragment.role) es := by
  cases compileAll_eq_ok_iff.1 h with
  | nil => exact .nil
  | cons hf hfs =>
      exact .cons (derives_of_compile hf) (derivesAll_of_compileAll (compileAll_eq_ok_iff.2 hfs))
termination_by sizeOf es
decreasing_by
  all_goals
    subst_vars
    simp only [List.cons.sizeOf_spec]
    omega

end

/-- **The compiler accepts exactly what the grammar derives**, and finds the role that is derived. -/
theorem derives_iff_compile {role : Role} {e : Expr} :
    Derives t role e ↔ ∃ f, e.compile t = .ok f ∧ f.role = role := by
  constructor
  · exact compile_of_derives
  · rintro ⟨f, hf, rfl⟩
    exact derives_of_compile hf

/-- **A tree has a document exactly when the grammar derives it** as a condition or as an update; the
document of a condition is its filter, that of an update its update document. -/
theorem compileTree_accepts_iff (t : Tables) (e : Expr) :
    ((∃ d, Query.compileTree t e = .ok d) ↔ Derives t .condition e ∨ Derives t .update e) ∧
    (Derives t .condition e →
      ∃ d, e.compile t = .ok (.condition d) ∧ Query.compileTree t e = .ok d) ∧
    (Derives t .update e →
      ∃ u, e.compile t = .ok (.update u) ∧ Query.compileTree t e = .ok u.toDocument) := by
  have hcondition (h : Derives t .condition e) :
      ∃ d, e.compile t = .ok (.condition d) ∧ Query.compileTree t e = .ok d := by
    obtain ⟨f, hf, hrole⟩ := compile_of_derives h
    obtain ⟨d, rfl⟩ := Fragment.role_eq_condition_iff.1 hrole
    exact ⟨d, hf, compileTree_eq_ok_iff.2 (Or.inl hf)⟩
  have hupdate (h : Derives t .update e) :
      ∃ u, e.compile t = .ok (.update u) ∧ Query.compileTree t e = .ok u.toDocument := by
    obtain ⟨f, hf, hrole⟩ := compile_of_derives h
    obtain ⟨u, rfl⟩ := Fragment.role_eq_update_iff.1 hrole
    exact ⟨u, hf, compileTree_eq_ok_iff.2 (Or.inr ⟨u, hf, rfl⟩)⟩
  refine ⟨⟨?_, ?_⟩, hcondition, hupdate⟩
  · rintro ⟨d, hd⟩
    rcases compileTree_eq_ok_iff.1 hd with h | ⟨u, h, -⟩
    · exact Or.inl (derives_of_compile h)
    · exact Or.inr (derives_of_compile h)
  · rintro (h | h)
    · obtain ⟨d, -, hd⟩ := hcondition h
      exact ⟨d, hd⟩
    · obtain ⟨u, -, hd⟩ := hupdate h
      exact ⟨_, hd⟩

end DocQuery
