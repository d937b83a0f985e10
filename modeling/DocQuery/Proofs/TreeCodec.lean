import DocQuery.Proofs.Subtrees
import DocQuery.Proofs.TreeFormat

/-!
# DocQuery.Proofs.TreeCodec

**The tree format and its codec.** `Kind.format` is the format of tree files: which members the
object of a node has after its `kind`, in which order, and what each of them holds. `TreeForm v w`
says that the value `v` is a node of that format, and that `w` is `v` without the members that the
format does not name and with the others in its order. Members are found by `Json.look`, which is
plain look-up where no two keys of an object mean the same (`look_eq_lookMeaning`).

* The encoder fails exactly on trees with a missing node or callee (`encode_eq_error_iff`), and what
  it gives is the form of the tree.
* The decoder accepts exactly the values of the format, and the form of the tree it gives is the
  value without the members it ignored (`treeForm_of_decode`, `decode_of_treeForm`).
-/

namespace DocQuery

namespace Json

/-- Where the keys of an object mean different things, it does not matter which keys were asked for
before: the look-up finds the member whose key means what is asked for. -/
theorem look_eq_lookMeaning {members : List (String × Json)} {key : String}
    (hdistinct : (members.map fun m => keyMeaning m.1).Nodup) (hkey : keyMeaning key = key)
    (asked : List String) : look members asked key = lookMeaning members key := by
  unfold look
  split
  · next hfound =>
    simp only [List.all_cons, Bool.and_eq_true] at hfound
    obtain ⟨v, hv⟩ := Option.isSome_iff_exists.1 hfound.1
    obtain ⟨m, hm, rfl⟩ := Option.map_eq_some_iff.1 hv
    have hmem := List.mem_of_find?_eq_some hm
    have hwritten : m.1 = key := by simpa using List.find?_some hm
    -- a key as written means itself, and no other key means the same
    have hunique : ∀ m' ∈ members, (keyMeaning m'.1 == key) = true → m' = m := by
      intro m' hmem' hmeans
      refine List.inj_on_of_nodup_map hdistinct hmem' hmem ?_
      rw [beq_iff_eq.1 hmeans, hwritten, hkey]
    have hmeans : members.find? (fun m => keyMeaning m.1 == key) = some m := by
      cases hfind : members.find? (fun m => keyMeaning m.1 == key) with
      | none =>
          have hnone := List.find?_eq_none.1 hfind m hmem
          rw [hwritten, hkey] at hnone
          exact absurd (beq_self_eq_true key) hnone
      | some m' =>
          have hkey' := List.find?_some hfind
          rw [hunique m' (List.mem_of_find?_eq_some hfind) hkey']
    rw [hv, lookMeaning, hmeans]
    rfl
  · rfl

end Json

/-! ### The format -/

/-- What a member of a node's object holds. -/
inductive Slot where
  /-- A string. -/
  | text
  /-- A boolean. -/
  | flag
  /-- The token of one of the four prefix operators. -/
  | token
  /-- A node. -/
  | node
  /-- An array of nodes. -/
  | nodes
  /-- A member access, which is what a call calls. -/
  | callee
deriving Repr, DecidableEq

/-- The members of the nodes of a kind, after the kind itself. -/
def Kind.format : Kind → List (String × Slot)
  | .invalid => []
  | .program => [("body", .nodes)]
  | .statement => [("expression", .node)]
  | .string => [("value", .text)]
  | .number => [("literal", .text)]
  | .boolean => [("value", .flag)]
  | .null => []
  | .identifier => [("name", .text)]
  | .member => [("object", .node), ("property", .text)]
  | .binary => [("operator", .text), ("left", .node), ("right", .node)]
  | .unary => [("operator", .token), ("operand", .node)]
  | .array => [("elements", .nodes)]
  | .call => [("callee", .callee), ("arguments", .nodes)]
  | .assign => [("operator", .text), ("target", .node), ("value", .node)]
  | .sequence => [("left", .node), ("right", .node)]

namespace Expr

mutual

/-- The first value is the object of a node, and the second is the same object with the members of
the format only, in its order. -/
inductive TreeForm : Json → Json → Prop where
  /-- An object that names a kind and has the members of the kind. -/
  | node {members ws : List (String × Json)} {kind : Kind}
      (hkind : Json.look members [] "kind" = some (.string kind.name)) (hknown : kind ≠ .invalid)
      (hmembers : MembersForm members ["kind"] kind.format ws) :
      TreeForm (.object members) (nodeObject kind ws)

/-- Some members, looked for after the keys `asked`, have what a format wants of them. -/
inductive MembersForm :
    List (String × Json) → List String → List (String × Slot) → List (String × Json) → Prop where
  /-- No more members are wanted; the others are ignored. -/
  | done {members : List (String × Json)} {asked : List String} : MembersForm members asked [] []
  /-- The next member is there and holds the right thing. -/
  | member {members ws : List (String × Json)} {asked : List String} {key : String} {slot : Slot}
      {format : List (String × Slot)} {v w : Json} (hlook : Json.look members asked key = some v)
      (hslot : SlotForm slot v w) (hrest : MembersForm members (asked ++ [key]) format ws) :
      MembersForm members asked ((key, slot) :: format) ((key, w) :: ws)

/-- What a member holds. -/
inductive SlotForm : Slot → Json → Json → Prop where
  /-- A string. -/
  | text (s : String) : SlotForm .text (.string s) (.string s)
  /-- A boolean. -/
  | flag (b : Bool) : SlotForm .flag (.bool b) (.bool b)
  /-- The token of a prefix operator. -/
  | token {op : UnaryOp} (hop : op ∈ UnaryOp.all) :
      SlotForm .token (.string op.token) (.string op.token)
  /-- A node. -/
  | node {v w : Json} (h : TreeForm v w) : SlotForm .node v w
  /-- An array of nodes. -/
  | nodes {vs ws : List Json} (h : TreeForms vs ws) : SlotForm .nodes (.array vs) (.array ws)
  /-- A member access. -/
  | callee {members ws : List (String × Json)}
      (hkind : Json.look members [] "kind" = some (.string Kind.member.name))
      (hmembers : MembersForm members ["kind"] Kind.member.format ws) :
      SlotForm .callee (.object members) (nodeObject .member ws)

/-- The items of two arrays are nodes, one by one. -/
inductive TreeForms : List Json → List Json → Prop where
  /-- No items. -/
  | nil : TreeForms [] []
  /-- One more node. -/
  | cons {v w : Json} {vs ws : List Json} (hhead : TreeForm v w) (htail : TreeForms vs ws) :
      TreeForms (v :: vs) (w :: ws)

end

section Inversion

variable {members ws : List (String × Json)} {asked : List String} {v w : Json}

@[simp] theorem membersForm_nil_iff : MembersForm members asked [] ws ↔ ws = [] := by
  constructor
  · intro h
    cases h
    rfl
  · rintro rfl
    exact .done

@[simp] theorem membersForm_cons_iff {key : String} {slot : Slot} {format : List (String × Slot)} :
    MembersForm members asked ((key, slot) :: format) ws ↔
      ∃ v, Json.look members asked key = some v ∧ ∃ w, SlotForm slot v w ∧
        ∃ rest, MembersForm members (asked ++ [key]) format rest ∧ ws = (key, w) :: rest := by
  constructor
  · intro h
    cases h with
    | member hlook hslot hrest => exact ⟨_, hlook, _, hslot, _, hrest, rfl⟩
  · rintro ⟨v, hlook, w, hslot, rest, hrest, rfl⟩
    exact .member hlook hslot hrest

@[simp] theorem slotForm_text_iff : SlotForm .text v w ↔ ∃ s, v = .string s ∧ w = .string s := by
  constructor
  · intro h
    cases h with
    | text s => exact ⟨s, rfl, rfl⟩
  · rintro ⟨s, rfl, rfl⟩
    exact .text s

@[simp] theorem slotForm_flag_iff : SlotForm .flag v w ↔ ∃ b, v = .bool b ∧ w = .bool b := by
  constructor
  · intro h
    cases h with
    | flag b => exact ⟨b, rfl, rfl⟩
  · rintro ⟨b, rfl, rfl⟩
    exact .flag b

@[simp] theorem slotForm_token_iff :
    SlotForm .token v w ↔ ∃ op ∈ UnaryOp.all, v = .string op.token ∧ w = .string op.token := by
  constructor
  · intro h
    cases h with
    | token hop => exact ⟨_, hop, rfl, rfl⟩
  · rintro ⟨op, hop, rfl, rfl⟩
    exact .token hop

@[simp] theorem slotForm_node_iff : SlotForm .node v w ↔ TreeForm v w := by
  constructor
  · intro h
    cases h with
    | node h => exact h
  · exact .node

@[simp] theorem slotForm_nodes_iff :
    SlotForm .nodes v w ↔ ∃ vs ws, v = .array vs ∧ w = .array ws ∧ TreeForms vs ws := by
  constructor
  · intro h
    cases h with
    | nodes h => exact ⟨_, _, rfl, rfl, h⟩
  · rintro ⟨vs, ws, rfl, rfl, h⟩
    exact .nodes h

@[simp] theorem slotForm_callee_iff :
    SlotForm .callee v w ↔ ∃ members ws, v = .object members ∧ w = nodeObject .member ws ∧
      Json.look members [] "kind" = some (.string Kind.member.name) ∧
      MembersForm members ["kind"] Kind.member.format ws := by
  constructor
  · intro h
    cases h with
    | callee hkind hmembers => exact ⟨_, _, rfl, rfl, hkind, hmembers⟩
  · rintro ⟨members, ws, rfl, rfl, hkind, hmembers⟩
    exact .callee hkind hmembers

end Inversion

/-! ### What is encoded -/

/-- Whether a node is there, and its callee where it is a call. -/
def isPresent : Expr → Bool
  | .hole => false
  | .detachedCall _ => false
  | _ => true

/-- Whether a node is no prefix operator but the four. -/
def isRegular : Expr → Bool
  | .unary op _ => op.isKnown
  | _ => true

theorem exists_encodeAll_iff (es : List Expr) :
    (∃ js, encodeAll es = .ok js) ↔ ∀ e ∈ es, ∃ j, e.encode = .ok j := by
  induction es with
  | nil => simp [encodeAll]
  | cons e rest ih =>
      rw [List.forall_mem_cons, ← ih]
      simp [encodeAll, bind_eq_ok_iff]

theorem exists_encode_children_iff (e : Expr) :
    (∃ j, e.encode = .ok j) ↔ e.isPresent = true ∧ ∀ c ∈ e.children, ∃ j, c.encode = .ok j := by
  cases e <;> simp [encode, isPresent, children, bind_eq_ok_iff, exists_encodeAll_iff]

/-- **The encoder succeeds exactly when every node is there.** -/
theorem exists_encode_iff (e : Expr) :
    (∃ j, e.encode = .ok j) ↔ ∀ x, e.Contains x → x.isPresent = true :=
  iff_forall_contains exists_encode_children_iff e

theorem areComplete_iff (es : List Expr) :
    areComplete es = true ↔ ∀ e ∈ es, e.isComplete = true := by
  induction es with
  | nil => simp [areComplete]
  | cons e rest ih => simp [areComplete, ih]

theorem isComplete_children_iff (e : Expr) :
    e.isComplete = true ↔
      (e.isPresent = true ∧ e.isRegular = true) ∧ ∀ c ∈ e.children, c.isComplete = true := by
  cases e <;> simp [isComplete, isPresent, isRegular, children, areComplete_iff]

/-- A tree is complete exactly when every node is there and every prefix operator is one of the
four. -/
theorem isComplete_iff (e : Expr) :
    e.isComplete = true ↔ ∀ x, e.Contains x → x.isPresent = true ∧ x.isRegular = true :=
  iff_forall_contains isComplete_children_iff e

mutual

/-- What the encoder gives is the form of the tree, whatever its prefix operators are. -/
theorem form_of_encode : (e : Expr) → {j : Json} → e.encode = .ok j → e.form = j
  | .hole, _, h => by cases h
  | .program body, _, h => by
      rw [encode] at h
      obtain ⟨js, hbody, h⟩ := bind_eq_ok_iff.1 h
      cases h
      rw [form, forms_of_encodeAll body hbody]
  | .statement e, _, h => by
      rw [encode] at h
      obtain ⟨j, he, h⟩ := bind_eq_ok_iff.1 h
      cases h
      rw [form, form_of_encode e he]
  | .string _, _, h => by cases h; rfl
  | .number _, _, h => by cases h; rfl
  | .bool _, _, h => by cases h; rfl
  | .null, _, h => by cases h; rfl
  | .identifier _, _, h => by cases h; rfl
  | .member base _, _, h => by
      rw [encode] at h
      obtain ⟨j, hbase, h⟩ := bind_eq_ok_iff.1 h
      cases h
      rw [form, form_of_encode base hbase]
  | .binary _ left right, _, h => by
      rw [encode] at h
      obtain ⟨jl, hleft, h⟩ := bind_eq_ok_iff.1 h
      obtain ⟨jr, hright, h⟩ := bind_eq_ok_iff.1 h
      cases h
      rw [form, form_of_encode left hleft, form_of_encode right hright]
  | .unary _ operand, _, h => by
      rw [encode] at h
      obtain ⟨j, hoperand, h⟩ := bind_eq_ok_iff.1 h
      cases h
      rw [form, form_of_encode operand hoperand]
  | .array elements, _, h => by
      rw [encode] at h
      obtain ⟨js, helements, h⟩ := bind_eq_ok_iff.1 h
      cases h
      rw [form, forms_of_encodeAll elements helements]
  | .call field _ args, _, h => by
      rw [encode] at h
      obtain ⟨j, hfield, h⟩ := bind_eq_ok_iff.1 h
      obtain ⟨js, hargs, h⟩ := bind_eq_ok_iff.1 h
      cases h
      rw [form, form_of_encode field hfield, forms_of_encodeAll args hargs]
  | .detachedCall _, _, h => by cases h
  | .assign _ target value, _, h => by
      rw [encode] at h
      obtain ⟨jt, htarget, h⟩ := bind_eq_ok_iff.1 h
      obtain ⟨jv, hvalue, h⟩ := bind_eq_ok_iff.1 h
      cases h
      rw [form, form_of_encode target htarget, form_of_encode value hvalue]
  | .sequence left right, _, h => by
      rw [encode] at h
      obtain ⟨jl, hleft, h⟩ := bind_eq_ok_iff.1 h
      obtain ⟨jr, hright, h⟩ := bind_eq_ok_iff.1 h
      cases h
      rw [form, form_of_encode left hleft, form_of_encode right hright]

theorem forms_of_encodeAll : (es : List Expr) → {js : List Json} → encodeAll es = .ok js →
    forms es = js
  | [], _, h => by cases h; rfl
  | e :: rest, _, h => by
      rw [encodeAll] at h
      obtain ⟨j, he, h⟩ := bind_eq_ok_iff.1 h
      obtain ⟨js, hrest, h⟩ := bind_eq_ok_iff.1 h
      cases h
      rw [forms, form_of_encode e he, forms_of_encodeAll rest hrest]

end

/-! ### What is decoded -/

theorem eq_name_of_ofName {s : String} {kind : Kind} (h : Kind.ofName s = kind)
    (hknown : kind ≠ .invalid) : s = kind.name := by
  unfold Kind.ofName at h
  cases hfound : (Kind.all.drop 1).find? fun k => k.name == s with
  | none => rw [hfound] at h; exact absurd h.symm hknown
  | some found =>
      rw [hfound] at h
      cases h
      have hname : found.name = s := by simpa using List.find?_some hfound
      exact hname.symm

/-- An object is one of a kind when its first member of that key says so. -/
theorem ofName_kindText_iff {members : List (String × Json)} {kind : Kind}
    (hknown : kind ≠ .invalid) :
    Kind.ofName (kindText members) = kind ↔
      Json.look members [] "kind" = some (.string kind.name) := by
  constructor
  · intro h
    have hname := eq_name_of_ofName h hknown
    unfold kindText at hname
    split at hname
    · next s hlook => rw [hlook, hname]
    · exact absurd hname (by cases kind <;> decide)
  · intro h
    rw [kindText, h, ofName_name]

theorem mem_all_of_ofToken? {token : String} {op : UnaryOp} (h : UnaryOp.ofToken? token = some op) :
    op ∈ UnaryOp.all ∧ token = op.token := by
  have htoken : op.token = token := by simpa using List.find?_some h
  exact ⟨List.mem_of_find?_eq_some h, htoken.symm⟩

theorem isKnown_iff {op : UnaryOp} : op.isKnown = true ↔ op ∈ UnaryOp.all := by
  cases op <;> simp [UnaryOp.isKnown, UnaryOp.all]

section Members

variable {members : List (String × Json)} {asked : List String} {key path : String}

theorem stringMember_eq_ok_iff {s : String} :
    stringMember members asked key path = .ok s ↔
      Json.look members asked key = some (.string s) := by
  constructor
  · intro h
    unfold stringMember at h
    split at h
    · cases h
    · next hlook => cases h; exact hlook
    · cases h
  · exact stringMember_of_look

theorem boolMember_eq_ok_iff {b : Bool} :
    boolMember members asked key path = .ok b ↔ Json.look members asked key = some (.bool b) := by
  constructor
  · intro h
    unfold boolMember at h
    split at h
    · cases h
    · next hlook => cases h; exact hlook
    · cases h
  · exact boolMember_of_look

theorem exists_look_of_childWith {e : Expr}
    {dec : (v : Json) → sizeOf v < sizeOf members → String → Except DecodeError Expr}
    (h : childWith members dec asked key path = .ok e) :
    ∃ v, ∃ hlook : Json.look members asked key = some v,
      dec v (Json.sizeOf_look_lt hlook) (path ++ "." ++ key) = .ok e := by
  unfold childWith at h
  split at h
  · cases h
  · next v hlook => exact ⟨v, hlook, h⟩

theorem exists_look_of_listWith {es : List Expr}
    {dec : (items : List Json) → sizeOf items < sizeOf members → String →
      Except DecodeError (List Expr)}
    (h : listWith members dec asked key path = .ok es) :
    ∃ items, ∃ hlook : Json.look members asked key = some (.array items),
      dec items (Json.sizeOf_items_lt hlook) (path ++ "." ++ key) = .ok es := by
  unfold listWith at h
  split at h
  · cases h
  · next items hlook => exact ⟨items, hlook, h⟩
  · cases h

theorem exists_look_of_calleeWith {found : Expr × String}
    {dec : (callee : List (String × Json)) → sizeOf callee < sizeOf members → String →
      Except DecodeError (Expr × String)}
    (h : calleeWith members dec path = .ok found) :
    ∃ callee, ∃ hlook : Json.look members ["kind"] "callee" = some (.object callee),
      Json.look callee [] "kind" = some (.string Kind.member.name) ∧
      dec callee (Json.sizeOf_members_lt hlook) (path ++ ".callee") = .ok found := by
  unfold calleeWith at h
  split at h
  · next callee hlook =>
    split at h
    · next hkind => exact ⟨callee, hlook, (ofName_kindText_iff (by decide)).1 hkind, h⟩
    · cases h
  · cases h

end Members

mutual

/-- **What is decoded has the format**, and the form of the tree is the value without the members
that were ignored. -/
theorem treeForm_of_decode : (j : Json) → {path : String} → {e : Expr} → decode j path = .ok e →
    e.isComplete = true ∧ TreeForm j e.form
  | .object members, path, e, h => by
      have child {asked : List String} {key : String} {c : Expr}
          (hc : childWith members (fun v _ place => decode v place) asked key path = .ok c) :
          c.isComplete = true ∧ ∃ v, Json.look members asked key = some v ∧
            SlotForm .node v c.form := by
        obtain ⟨v, hlook, hc⟩ := exists_look_of_childWith hc
        have hlt := Json.sizeOf_look_lt hlook
        obtain ⟨hcomplete, hform⟩ := treeForm_of_decode v hc
        exact ⟨hcomplete, v, hlook, .node hform⟩
      have list {asked : List String} {key : String} {cs : List Expr}
          (hcs : listWith members (fun items _ place => decodeItems items place 0) asked key path =
            .ok cs) :
          areComplete cs = true ∧ ∃ v, Json.look members asked key = some v ∧
            SlotForm .nodes v (.array (forms cs)) := by
        obtain ⟨items, hlook, hcs⟩ := exists_look_of_listWith hcs
        have hlt := Json.sizeOf_items_lt hlook
        obtain ⟨hcomplete, hforms⟩ := treeForms_of_decodeItems items hcs
        exact ⟨hcomplete, .array items, hlook, .nodes hforms⟩
      rw [decode] at h
      generalize hname : Kind.ofName (kindText members) = kind at h
      have hkind := fun hknown : kind ≠ .invalid => (ofName_kindText_iff hknown).1 hname
      cases kind with
      | invalid => cases h
      | program =>
          obtain ⟨body, hbody, h⟩ := bind_eq_ok_iff.1 h
          cases h
          obtain ⟨hcomplete, v, hlook, hform⟩ := list hbody
          exact ⟨hcomplete, .node (hkind (by decide)) (by decide) (.member hlook hform .done)⟩
      | statement =>
          obtain ⟨inner, hinner, h⟩ := bind_eq_ok_iff.1 h
          cases h
          obtain ⟨hcomplete, v, hlook, hform⟩ := child hinner
          exact ⟨hcomplete, .node (hkind (by decide)) (by decide) (.member hlook hform .done)⟩
      | string =>
          obtain ⟨value, hvalue, h⟩ := bind_eq_ok_iff.1 h
          cases h
          exact ⟨rfl, .node (hkind (by decide)) (by decide)
            (.member (stringMember_eq_ok_iff.1 hvalue) (.text value) .done)⟩
      | number =>
          obtain ⟨literal, hliteral, h⟩ := bind_eq_ok_iff.1 h
          cases h
          exact ⟨rfl, .node (hkind (by decide)) (by decide)
            (.member (stringMember_eq_ok_iff.1 hliteral) (.text literal) .done)⟩
      | boolean =>
          obtain ⟨value, hvalue, h⟩ := bind_eq_ok_iff.1 h
          cases h
          exact ⟨rfl, .node (hkind (by decide)) (by decide)
            (.member (boolMember_eq_ok_iff.1 hvalue) (.flag value) .done)⟩
      | null =>
          cases h
          exact ⟨rfl, .node (hkind (by decide)) (by decide) .done⟩
      | identifier =>
          obtain ⟨name, hfound, h⟩ := bind_eq_ok_iff.1 h
          cases h
          exact ⟨rfl, .node (hkind (by decide)) (by decide)
            (.member (stringMember_eq_ok_iff.1 hfound) (.text name) .done)⟩
      | member =>
          obtain ⟨⟨base, property⟩, hmember, h⟩ := bind_eq_ok_iff.1 h
          cases h
          obtain ⟨hcomplete, hform⟩ := membersForm_of_decodeMember members hmember
          exact ⟨hcomplete, .node (hkind (by decide)) (by decide) hform⟩
      | binary =>
          obtain ⟨op, hop, h⟩ := bind_eq_ok_iff.1 h
          obtain ⟨left, hleft, h⟩ := bind_eq_ok_iff.1 h
          obtain ⟨right, hright, h⟩ := bind_eq_ok_iff.1 h
          cases h
          obtain ⟨hcl, vl, hlookl, hforml⟩ := child hleft
          obtain ⟨hcr, vr, hlookr, hformr⟩ := child hright
          refine ⟨by rw [isComplete, hcl, hcr]; rfl, .node (hkind (by decide)) (by decide) ?_⟩
          exact .member (stringMember_eq_ok_iff.1 hop) (.text op)
            (.member hlookl hforml (.member hlookr hformr .done))
      | unary =>
          obtain ⟨token, htoken, h⟩ := bind_eq_ok_iff.1 h
          cases hop : UnaryOp.ofToken? token with
          | none => rw [hop] at h; cases h
          | some op =>
              rw [hop] at h
              obtain ⟨operand, hoperand, h⟩ := bind_eq_ok_iff.1 h
              cases h
              obtain ⟨hmem, rfl⟩ := mem_all_of_ofToken? hop
              obtain ⟨hcomplete, v, hlook, hform⟩ := child hoperand
              refine ⟨by rw [isComplete, isKnown_iff.2 hmem, hcomplete]; rfl,
                .node (hkind (by decide)) (by decide) ?_⟩
              exact .member (stringMember_eq_ok_iff.1 htoken) (.token hmem)
                (.member hlook hform .done)
      | array =>
          obtain ⟨elements, helements, h⟩ := bind_eq_ok_iff.1 h
          cases h
          obtain ⟨hcomplete, v, hlook, hform⟩ := list helements
          exact ⟨hcomplete, .node (hkind (by decide)) (by decide) (.member hlook hform .done)⟩
      | call =>
          obtain ⟨⟨field, method⟩, hcallee, h⟩ := bind_eq_ok_iff.1 h
          obtain ⟨args, hargs, h⟩ := bind_eq_ok_iff.1 h
          cases h
          obtain ⟨callee, hlookc, hmember, hcallee⟩ := exists_look_of_calleeWith hcallee
          have hlt := Json.sizeOf_members_lt hlookc
          obtain ⟨hcf, hform⟩ := membersForm_of_decodeMember callee hcallee
          obtain ⟨hca, v, hlooka, hforms⟩ := list hargs
          have hcf : field.isComplete = true := hcf
          refine ⟨by rw [isComplete, hcf, hca]; rfl, .node (hkind (by decide)) (by decide) ?_⟩
          exact .member hlookc (.callee hmember hform) (.member hlooka hforms .done)
      | assign =>
          obtain ⟨op, hop, h⟩ := bind_eq_ok_iff.1 h
          obtain ⟨target, htarget, h⟩ := bind_eq_ok_iff.1 h
          obtain ⟨value, hvalue, h⟩ := bind_eq_ok_iff.1 h
          cases h
          obtain ⟨hct, vt, hlookt, hformt⟩ := child htarget
          obtain ⟨hcv, vv, hlookv, hformv⟩ := child hvalue
          refine ⟨by rw [isComplete, hct, hcv]; rfl, .node (hkind (by decide)) (by decide) ?_⟩
          exact .member (stringMember_eq_ok_iff.1 hop) (.text op)
            (.member hlookt hformt (.member hlookv hformv .done))
      | sequence =>
          obtain ⟨left, hleft, h⟩ := bind_eq_ok_iff.1 h
          obtain ⟨right, hright, h⟩ := bind_eq_ok_iff.1 h
          cases h
          obtain ⟨hcl, vl, hlookl, hforml⟩ := child hleft
          obtain ⟨hcr, vr, hlookr, hformr⟩ := child hright
          refine ⟨by rw [isComplete, hcl, hcr]; rfl, .node (hkind (by decide)) (by decide) ?_⟩
          exact .member hlookl hforml (.member hlookr hformr .done)
  | .null, _, _, h => by rw [decode] at h; cases h; nofun
  | .bool _, _, _, h => by rw [decode] at h; cases h; nofun
  | .number _, _, _, h => by rw [decode] at h; cases h; nofun
  | .string _, _, _, h => by rw [decode] at h; cases h; nofun
  | .array _, _, _, h => by rw [decode] at h; cases h; nofun
termination_by j => sizeOf j
decreasing_by all_goals simp only [Json.object.sizeOf_spec]; omega

theorem membersForm_of_decodeMember (members : List (String × Json)) {path : String}
    {found : Expr × String} (h : decodeMember members path = .ok found) :
    found.1.isComplete = true ∧ MembersForm members ["kind"] Kind.member.format
      [("object", found.1.form), ("property", .string found.2)] := by
  rw [decodeMember] at h
  obtain ⟨base, hbase, h⟩ := bind_eq_ok_iff.1 h
  obtain ⟨property, hproperty, h⟩ := bind_eq_ok_iff.1 h
  cases h
  obtain ⟨v, hlook, hbase⟩ := exists_look_of_childWith hbase
  have hlt := Json.sizeOf_look_lt hlook
  obtain ⟨hcomplete, hform⟩ := treeForm_of_decode v hbase
  exact ⟨hcomplete, .member hlook (.node hform)
    (.member (stringMember_eq_ok_iff.1 hproperty) (.text property) .done)⟩
termination_by sizeOf members
decreasing_by exact hlt

theorem treeForms_of_decodeItems : (items : List Json) → {path : String} → {i : Nat} →
    {es : List Expr} → decodeItems items path i = .ok es →
    areComplete es = true ∧ TreeForms items (forms es)
  | [], _, _, _, h => by
      rw [decodeItems] at h
      cases h
      exact ⟨rfl, .nil⟩
  | v :: rest, _, _, _, h => by
      rw [decodeItems] at h
      obtain ⟨head, hhead, h⟩ := bind_eq_ok_iff.1 h
      obtain ⟨tail, htail, h⟩ := bind_eq_ok_iff.1 h
      cases h
      obtain ⟨hch, hformh⟩ := treeForm_of_decode v hhead
      obtain ⟨hct, hformt⟩ := treeForms_of_decodeItems rest htail
      exact ⟨by rw [areComplete, hch, hct]; rfl, .cons hformh hformt⟩
termination_by items => sizeOf items
decreasing_by all_goals simp only [List.cons.sizeOf_spec]; omega

end

mutual

/-- **What has the format is decoded**, to a tree whose form is the value without the members that
the format does not name. -/
theorem decode_of_treeForm : (j : Json) → {w : Json} → TreeForm j w → ∀ path,
    ∃ e, decode j path = .ok e ∧ e.form = w
  | .object members, w, h, path => by
      have child {asked : List String} {key : String} {v w : Json}
          (hlook : Json.look members asked key = some v) (hv : TreeForm v w) :
          ∃ c, childWith members (fun v _ place => decode v place) asked key path = .ok c ∧
            c.form = w := by
        have hlt := Json.sizeOf_look_lt hlook
        rw [childWith_of_look hlook]
        exact decode_of_treeForm v hv _
      have list {asked : List String} {key : String} {vs ws : List Json}
          (hlook : Json.look members asked key = some (.array vs)) (hvs : TreeForms vs ws) :
          ∃ cs, listWith members (fun items _ place => decodeItems items place 0) asked key path =
            .ok cs ∧ forms cs = ws := by
        have hlt := Json.sizeOf_items_lt hlook
        rw [listWith_of_look hlook]
        exact decodeItems_of_treeForms vs hvs _ _
      cases h with
      | @node _ ws kind hkind hknown hmembers =>
          have hname := (ofName_kindText_iff hknown).2 hkind
          rw [decode]
          simp only [hname]
          cases kind with
          | invalid => exact absurd rfl hknown
          | program =>
              simp only [Kind.format, membersForm_cons_iff, membersForm_nil_iff,
                slotForm_nodes_iff] at hmembers
              obtain ⟨_, hlook, _, ⟨vs, ws, rfl, rfl, hforms⟩, _, rfl, rfl⟩ := hmembers
              obtain ⟨body, hbody, rfl⟩ := list hlook hforms
              rw [hbody]
              exact ⟨_, rfl, rfl⟩
          | statement =>
              simp only [Kind.format, membersForm_cons_iff, membersForm_nil_iff,
                slotForm_node_iff] at hmembers
              obtain ⟨v, hlook, w, hform, _, rfl, rfl⟩ := hmembers
              obtain ⟨e, he, rfl⟩ := child hlook hform
              rw [he]
              exact ⟨_, rfl, rfl⟩
          | string =>
              simp only [Kind.format, membersForm_cons_iff, membersForm_nil_iff,
                slotForm_text_iff] at hmembers
              obtain ⟨_, hlook, _, ⟨value, rfl, rfl⟩, _, rfl, rfl⟩ := hmembers
              rw [stringMember_of_look hlook]
              exact ⟨_, rfl, rfl⟩
          | number =>
              simp only [Kind.format, membersForm_cons_iff, membersForm_nil_iff,
                slotForm_text_iff] at hmembers
              obtain ⟨_, hlook, _, ⟨literal, rfl, rfl⟩, _, rfl, rfl⟩ := hmembers
              rw [stringMember_of_look hlook]
              exact ⟨_, rfl, rfl⟩
          | boolean =>
              simp only [Kind.format, membersForm_cons_iff, membersForm_nil_iff,
                slotForm_flag_iff] at hmembers
              obtain ⟨_, hlook, _, ⟨value, rfl, rfl⟩, _, rfl, rfl⟩ := hmembers
              rw [boolMember_of_look hlook]
              exact ⟨_, rfl, rfl⟩
          | null =>
              simp only [Kind.format, membersForm_nil_iff] at hmembers
              rw [hmembers]
              exact ⟨_, rfl, rfl⟩
          | identifier =>
              simp only [Kind.format, membersForm_cons_iff, membersForm_nil_iff,
                slotForm_text_iff] at hmembers
              obtain ⟨_, hlook, _, ⟨name, rfl, rfl⟩, _, rfl, rfl⟩ := hmembers
              rw [stringMember_of_look hlook]
              exact ⟨_, rfl, rfl⟩
          | member =>
              obtain ⟨base, property, hmember, rfl⟩ :=
                decodeMember_of_membersForm members hmembers path
              rw [hmember]
              exact ⟨_, rfl, rfl⟩
          | binary =>
              simp only [Kind.format, membersForm_cons_iff, membersForm_nil_iff, slotForm_text_iff,
                slotForm_node_iff] at hmembers
              obtain ⟨_, hop, _, ⟨op, rfl, rfl⟩, _, ⟨vl, hlookl, wl, hforml, _,
                ⟨vr, hlookr, wr, hformr, _, rfl, rfl⟩, rfl⟩, rfl⟩ := hmembers
              obtain ⟨left, hleft, rfl⟩ := child hlookl hforml
              obtain ⟨right, hright, rfl⟩ := child hlookr hformr
              refine ⟨.binary op left right, ?_, rfl⟩
              simp only [List.cons_append, List.nil_append] at hleft hright
              rw [stringMember_of_look hop, ok_bind, hleft, ok_bind, hright]
              rfl
          | unary =>
              simp only [Kind.format, membersForm_cons_iff, membersForm_nil_iff, slotForm_token_iff,
                slotForm_node_iff] at hmembers
              obtain ⟨_, hlook, _, ⟨op, hop, rfl, rfl⟩, _, ⟨v, hlookv, w, hform, _, rfl, rfl⟩,
                rfl⟩ := hmembers
              obtain ⟨operand, hoperand, rfl⟩ := child hlookv hform
              refine ⟨.unary op operand, ?_, rfl⟩
              simp only [List.cons_append, List.nil_append] at hoperand
              simp only [stringMember_of_look hlook, ok_bind, ofToken?_token (isKnown_iff.2 hop),
                hoperand]
          | array =>
              simp only [Kind.format, membersForm_cons_iff, membersForm_nil_iff,
                slotForm_nodes_iff] at hmembers
              obtain ⟨_, hlook, _, ⟨vs, ws, rfl, rfl, hforms⟩, _, rfl, rfl⟩ := hmembers
              obtain ⟨elements, helements, rfl⟩ := list hlook hforms
              rw [helements]
              exact ⟨_, rfl, rfl⟩
          | call =>
              simp only [Kind.format, membersForm_cons_iff, membersForm_nil_iff,
                slotForm_nodes_iff] at hmembers
              obtain ⟨_, hlookc, _, hcallee, _, ⟨_, hlooka, _, ⟨vs, ws, rfl, rfl, hforms⟩, _, rfl,
                rfl⟩, rfl⟩ := hmembers
              cases hcallee with
              | @callee callee ws hkindc hmember =>
                  have hlt := Json.sizeOf_members_lt hlookc
                  obtain ⟨field, method, hfield, rfl⟩ :=
                    decodeMember_of_membersForm callee hmember (path ++ ".callee")
                  obtain ⟨args, hargs, rfl⟩ := list hlooka hforms
                  refine ⟨.call field method args, ?_, rfl⟩
                  simp only [List.cons_append, List.nil_append] at hargs
                  have hmember := (ofName_kindText_iff (by decide)).2 hkindc
                  rw [calleeWith_of_look hlookc hmember, hfield, ok_bind]
                  simp only [hargs]
                  rfl
          | assign =>
              simp only [Kind.format, membersForm_cons_iff, membersForm_nil_iff, slotForm_text_iff,
                slotForm_node_iff] at hmembers
              obtain ⟨_, hop, _, ⟨op, rfl, rfl⟩, _, ⟨vt, hlookt, wt, hformt, _,
                ⟨vv, hlookv, wv, hformv, _, rfl, rfl⟩, rfl⟩, rfl⟩ := hmembers
              obtain ⟨target, htarget, rfl⟩ := child hlookt hformt
              obtain ⟨value, hvalue, rfl⟩ := child hlookv hformv
              refine ⟨.assign op target value, ?_, rfl⟩
              simp only [List.cons_append, List.nil_append] at htarget hvalue
              rw [stringMember_of_look hop, ok_bind, htarget, ok_bind, hvalue]
              rfl
          | sequence =>
              simp only [Kind.format, membersForm_cons_iff, membersForm_nil_iff,
                slotForm_node_iff] at hmembers
              obtain ⟨vl, hlookl, wl, hforml, _, ⟨vr, hlookr, wr, hformr, _, rfl, rfl⟩, rfl⟩ :=
                hmembers
              obtain ⟨left, hleft, rfl⟩ := child hlookl hforml
              obtain ⟨right, hright, rfl⟩ := child hlookr hformr
              refine ⟨.sequence left right, ?_, rfl⟩
              simp only [List.cons_append, List.nil_append] at hright
              rw [hleft, ok_bind, hright]
              rfl
  | .null, _, h, _ => by cases h
  | .bool _, _, h, _ => by cases h
  | .number _, _, h, _ => by cases h
  | .string _, _, h, _ => by cases h
  | .array _, _, h, _ => by cases h
termination_by j => sizeOf j
decreasing_by all_goals simp only [Json.object.sizeOf_spec]; omega

theorem decodeMember_of_membersForm (members : List (String × Json)) {ws : List (String × Json)}
    (h : MembersForm members ["kind"] Kind.member.format ws) (path : String) :
    ∃ base property, decodeMember members path = .ok (base, property) ∧
      [("object", base.form), ("property", .string property)] = ws := by
  simp only [Kind.format, membersForm_cons_iff, membersForm_nil_iff, slotForm_text_iff,
    slotForm_node_iff] at h
  obtain ⟨v, hlook, w, hform, _, ⟨_, hproperty, _, ⟨property, rfl, rfl⟩, _, rfl, rfl⟩, rfl⟩ := h
  have hlt := Json.sizeOf_look_lt hlook
  obtain ⟨base, hbase, rfl⟩ := decode_of_treeForm v hform (path ++ "." ++ "object")
  refine ⟨base, property, ?_, rfl⟩
  simp only [List.cons_append, List.nil_append] at hproperty
  rw [decodeMember, childWith_of_look hlook, hbase, ok_bind, stringMember_of_look hproperty]
  rfl
termination_by sizeOf members
decreasing_by exact hlt

theorem decodeItems_of_treeForms : (items : List Json) → {ws : List Json} → TreeForms items ws →
    ∀ path i, ∃ es, decodeItems items path i = .ok es ∧ forms es = ws
  | [], _, h, path, i => by
      cases h
      exact ⟨[], by rw [decodeItems], rfl⟩
  | v :: rest, _, h, path, i => by
      cases h with
      | cons hhead htail =>
          obtain ⟨e, he, rfl⟩ := decode_of_treeForm v hhead (path ++ "[" ++ toString i ++ "]")
          obtain ⟨es, hes, rfl⟩ := decodeItems_of_treeForms rest htail path (i + 1)
          refine ⟨e :: es, ?_, rfl⟩
          rw [decodeItems, he, ok_bind, hes]
          rfl
termination_by items => sizeOf items
decreasing_by all_goals simp only [List.cons.sizeOf_spec]; omega

end

/-- A value has one form at most. -/
theorem TreeForm.unique {v w w' : Json} (h : TreeForm v w) (h' : TreeForm v w') : w' = w := by
  obtain ⟨e, he, rfl⟩ := decode_of_treeForm v h "$"
  obtain ⟨e', he', rfl⟩ := decode_of_treeForm v h' "$"
  rw [he] at he'
  cases he'
  rfl

/-! ### Forms in the format -/

theorem exists_treeForm_of_mem {es : List Expr} {ws : List Json} (h : TreeForms (forms es) ws) :
    ∀ e ∈ es, ∃ w, TreeForm e.form w := by
  induction es generalizing ws with
  | nil => simp
  | cons e rest ih =>
      cases h with
      | cons hhead htail => exact List.forall_mem_cons.2 ⟨⟨_, hhead⟩, ih htail⟩

theorem exists_membersForm {kind : Kind} {members : List (String × Json)} {w : Json}
    (h : TreeForm (nodeObject kind members) w) :
    ∃ ws, MembersForm (("kind", .string kind.name) :: members) ["kind"] kind.format ws := by
  cases h with
  | @node _ ws found hkind hknown hmembers =>
      have hfound := (ofName_kindText_iff hknown).2 hkind
      rw [kindText_node, ofName_name] at hfound
      exact ⟨ws, hfound ▸ hmembers⟩

/-- The number of an unknown prefix operator is no token of the four. -/
theorem isKnown_of_token {op known : UnaryOp} (hknown : known ∈ UnaryOp.all)
    (h : op.token = known.token) : op.isKnown = true := by
  cases op with
  | other code =>
      have hlist := congrArg String.toList h
      simp only [UnaryOp.all, List.mem_cons, List.not_mem_nil, or_false] at hknown
      rcases hknown with rfl | rfl | rfl | rfl <;> simp [UnaryOp.token] at hlist
  | _ => rfl

/-- The callee in the form of a call has the format exactly when the field has it. -/
theorem slotForm_callee_form_iff {field : Expr} {method : String} {w : Json} :
    SlotForm .callee
        (nodeObject .member [("object", field.form), ("property", .string method)]) w ↔
      ∃ w', w = nodeObject .member [("object", w'), ("property", .string method)] ∧
        TreeForm field.form w' := by
  simp [nodeObject, Kind.format, Json.look, Json.lookWritten]

/-- The form of a node has the format only when the node is there and is no unknown prefix operator,
and only when the forms of its children have it. -/
theorem children_of_treeForm {e : Expr} {w : Json} (h : TreeForm e.form w) :
    (e.isPresent = true ∧ e.isRegular = true) ∧ ∀ c ∈ e.children, ∃ w, TreeForm c.form w := by
  cases e with
  | hole => cases h
  | detachedCall args => cases h
  | program body =>
      obtain ⟨ws, hmembers⟩ := exists_membersForm h
      obtain ⟨ws, hforms, -⟩ : ∃ ws', TreeForms (forms body) ws' ∧ ws = [("body", .array ws')] := by
        simpa [Kind.format, Json.look, Json.lookWritten] using hmembers
      exact ⟨⟨rfl, rfl⟩, exists_treeForm_of_mem hforms⟩
  | array elements =>
      obtain ⟨ws, hmembers⟩ := exists_membersForm h
      obtain ⟨ws, hforms, -⟩ :
          ∃ ws', TreeForms (forms elements) ws' ∧ ws = [("elements", .array ws')] := by
        simpa [Kind.format, Json.look, Json.lookWritten] using hmembers
      exact ⟨⟨rfl, rfl⟩, exists_treeForm_of_mem hforms⟩
  | unary op operand =>
      obtain ⟨ws, hmembers⟩ := exists_membersForm h
      obtain ⟨known, ⟨hknown, htoken⟩, w, hform, -⟩ : ∃ known,
          (known ∈ UnaryOp.all ∧ op.token = known.token) ∧ ∃ w, TreeForm operand.form w ∧
            ws = [("operator", .string known.token), ("operand", w)] := by
        simpa [Kind.format, Json.look, Json.lookWritten] using hmembers
      exact ⟨⟨rfl, isKnown_of_token hknown htoken⟩, by simpa [children] using ⟨w, hform⟩⟩
  | statement inner =>
      obtain ⟨ws, hmembers⟩ := exists_membersForm h
      obtain ⟨w, hform, -⟩ : ∃ w, TreeForm inner.form w ∧ ws = [("expression", w)] := by
        simpa [Kind.format, Json.look, Json.lookWritten] using hmembers
      exact ⟨⟨rfl, rfl⟩, by simpa [children] using ⟨w, hform⟩⟩
  | member base property =>
      obtain ⟨ws, hmembers⟩ := exists_membersForm h
      obtain ⟨w, hform, -⟩ : ∃ w, TreeForm base.form w ∧
          ws = [("object", w), ("property", .string property)] := by
        simpa [Kind.format, Json.look, Json.lookWritten] using hmembers
      exact ⟨⟨rfl, rfl⟩, by simpa [children] using ⟨w, hform⟩⟩
  | binary op left right =>
      obtain ⟨ws, hmembers⟩ := exists_membersForm h
      obtain ⟨wl, wr, ⟨hleft, hright⟩, -⟩ : ∃ wl wr, (TreeForm left.form wl ∧
          TreeForm right.form wr) ∧
            ws = [("operator", .string op), ("left", wl), ("right", wr)] := by
        simpa [Kind.format, Json.look, Json.lookWritten] using hmembers
      exact ⟨⟨rfl, rfl⟩, by simpa [children] using ⟨⟨wl, hleft⟩, wr, hright⟩⟩
  | call field method args =>
      obtain ⟨ws, hmembers⟩ := exists_membersForm h
      obtain ⟨w, hfield, ws, hargs, -⟩ : ∃ w, TreeForm field.form w ∧
          ∃ ws', TreeForms (forms args) ws' ∧
            ws = [("callee", nodeObject .member [("object", w), ("property", .string method)]),
              ("arguments", .array ws')] := by
        simpa [Kind.format, Json.look, Json.lookWritten, slotForm_callee_form_iff,
          -slotForm_callee_iff] using hmembers
      exact ⟨⟨rfl, rfl⟩, List.forall_mem_cons.2 ⟨⟨w, hfield⟩, exists_treeForm_of_mem hargs⟩⟩
  | assign op target value =>
      obtain ⟨ws, hmembers⟩ := exists_membersForm h
      obtain ⟨wt, wv, ⟨htarget, hvalue⟩, -⟩ : ∃ wt wv, (TreeForm target.form wt ∧
          TreeForm value.form wv) ∧
            ws = [("operator", .string op), ("target", wt), ("value", wv)] := by
        simpa [Kind.format, Json.look, Json.lookWritten] using hmembers
      exact ⟨⟨rfl, rfl⟩, by simpa [children] using ⟨⟨wt, htarget⟩, wv, hvalue⟩⟩
  | sequence left right =>
      obtain ⟨ws, hmembers⟩ := exists_membersForm h
      obtain ⟨wl, hleft, wr, hright, -⟩ : ∃ wl, TreeForm left.form wl ∧ ∃ wr,
          TreeForm right.form wr ∧ ws = [("left", wl), ("right", wr)] := by
        simpa [Kind.format, Json.look, Json.lookWritten] using hmembers
      exact ⟨⟨rfl, rfl⟩, by simpa [children] using ⟨⟨wl, hleft⟩, wr, hright⟩⟩
  | string | number | bool | null | identifier => exact ⟨⟨rfl, rfl⟩, by simp [children]⟩

/-- **Where the form of a tree is decoded, the tree is complete.** -/
theorem isComplete_of_treeForm (e : Expr) :
    ∀ {w : Json}, TreeForm e.form w → e.isComplete = true := by
  induction e using childInduction with
  | step e ih =>
      intro w h
      obtain ⟨hroot, hchildren⟩ := children_of_treeForm h
      refine (isComplete_children_iff e).2 ⟨hroot, fun c hc => ?_⟩
      obtain ⟨w, hc'⟩ := hchildren c hc
      exact ih c hc hc'

/-! ### The codec -/

theorem forall_isPresent_iff {e : Expr} :
    (∀ x, e.Contains x → x.isPresent = true) ↔
      ¬(e.Contains .hole ∨ ∃ args, e.Contains (.detachedCall args)) := by
  constructor
  · rintro h (hhole | ⟨args, hcall⟩)
    · exact absurd (h _ hhole) (by decide)
    · exact absurd (h _ hcall) Bool.false_ne_true
  · intro h x hx
    cases x with
    | hole => exact absurd (Or.inl hx) h
    | detachedCall args => exact absurd (Or.inr ⟨args, hx⟩) h
    | _ => rfl

theorem forall_isRegular_iff {e : Expr} :
    (∀ x, e.Contains x → x.isRegular = true) ↔
      ∀ op operand, e.Contains (.unary op operand) → op ∈ UnaryOp.all := by
  constructor
  · intro h op operand hx
    exact isKnown_iff.1 (h _ hx)
  · intro h x hx
    cases x with
    | unary op operand => exact isKnown_iff.2 (h op operand hx)
    | _ => rfl

/-- The encoder fails exactly where a node or a callee is missing. -/
theorem encode_eq_error_iff (e : Expr) :
    (∃ fault, e.encode = .error fault) ↔
      e.Contains .hole ∨ ∃ args, e.Contains (.detachedCall args) := by
  rw [← not_iff_not, ← forall_isPresent_iff, ← exists_encode_iff]
  cases e.encode <;> simp

/-- **Encoding, then decoding**: the tree comes back exactly when its prefix operators are known. -/
theorem decode_encoded_iff {e : Expr} {v : Json} (h : e.encode = .ok v) (path : String) :
    (decode v path = .ok e ↔
      ∀ op operand, e.Contains (.unary op operand) → op ∈ UnaryOp.all) ∧
    ((∃ fault, decode v path = .error fault) ↔
      ¬∀ op operand, e.Contains (.unary op operand) → op ∈ UnaryOp.all) := by
  have hpresent := (exists_encode_iff e).1 ⟨v, h⟩
  have hform := form_of_encode e h
  -- whatever is decoded from the form, the tree is complete, so it is what is decoded
  have hcomplete : (∃ e', decode v path = .ok e') ↔
      ∀ op operand, e.Contains (.unary op operand) → op ∈ UnaryOp.all := by
    rw [← forall_isRegular_iff]
    constructor
    · rintro ⟨e', he'⟩ x hx
      rw [← hform] at he'
      have hcomplete := isComplete_of_treeForm e (treeForm_of_decode e.form he').2
      exact ((isComplete_iff e).1 hcomplete x hx).2
    · intro hregular
      have hcomplete := (isComplete_iff e).2 fun x hx => ⟨hpresent x hx, hregular x hx⟩
      exact ⟨e, hform ▸ decode_form e hcomplete path⟩
  rw [← hcomplete]
  constructor
  · constructor
    · exact fun hdecode => ⟨e, hdecode⟩
    · intro hdecode
      have hregular := forall_isRegular_iff.2 (hcomplete.1 hdecode)
      have hcomplete := (isComplete_iff e).2 fun x hx => ⟨hpresent x hx, hregular x hx⟩
      exact hform ▸ decode_form e hcomplete path
  · cases decode v path <;> simp

/-- **Decoding, then encoding**: the decoded tree is encoded as the one form of the value. -/
theorem encode_decoded {v : Json} {path : String} {e : Expr} (h : decode v path = .ok e) :
    (∀ x, e.Contains x → x.isPresent = true) ∧
      ∃ w, e.encode = .ok w ∧ TreeForm v w ∧ ∀ w', TreeForm v w' → w' = w := by
  obtain ⟨hcomplete, hform⟩ := treeForm_of_decode v h
  exact ⟨fun x hx => ((isComplete_iff e).1 hcomplete x hx).1,
    e.form, encode_eq_form e hcomplete, hform, fun w' hw' => hform.unique hw'⟩

/-- **The tree codec is exact.** A tree is encoded unless a node or a callee is missing, and what it
is encoded as is decoded to the tree itself, or to nothing where a prefix operator is none of the
four. A value is decoded exactly when it has the tree format; no node of the tree is missing then,
and the tree is encoded as the value without the members that the format does not name. -/
theorem tree_codec_exact :
    (∀ e : Expr,
      ((∃ fault, e.encode = .error fault) ↔
        e.Contains .hole ∨ ∃ args, e.Contains (.detachedCall args)) ∧
      ∀ v, e.encode = .ok v → ∀ path,
        (decode v path = .ok e ↔
          ∀ op operand, e.Contains (.unary op operand) → op ∈ UnaryOp.all) ∧
        ((∃ fault, decode v path = .error fault) ↔
          ¬∀ op operand, e.Contains (.unary op operand) → op ∈ UnaryOp.all)) ∧
    ∀ (v : Json) (path : String),
      ((∃ e, decode v path = .ok e) ↔ ∃ w, TreeForm v w) ∧
      ∀ e, decode v path = .ok e →
        ¬(e.Contains .hole ∨ ∃ args, e.Contains (.detachedCall args)) ∧
        ∃ w, e.encode = .ok w ∧ TreeForm v w ∧ ∀ w', TreeForm v w' → w' = w := by
  refine ⟨fun e => ⟨encode_eq_error_iff e, fun v h path => decode_encoded_iff h path⟩, ?_⟩
  intro v path
  refine ⟨⟨?_, ?_⟩, ?_⟩
  · rintro ⟨e, h⟩
    exact ⟨e.form, (treeForm_of_decode v h).2⟩
  · rintro ⟨w, h⟩
    obtain ⟨e, he, -⟩ := decode_of_treeForm v h path
    exact ⟨e, he⟩
  · intro e h
    obtain ⟨hpresent, hform⟩ := encode_decoded h
    exact ⟨forall_isPresent_iff.1 hpresent, hform⟩

/-- A member that no node has is dropped, and the others come back in the order of the format. -/
theorem stray_member_dropped :
    ∃ e, decode (.object [("operand", .object [("name", .string "a"),
        ("kind", .string "Identifier")]), ("line", .number "1"), ("operator", .string "!"),
          ("kind", .string "UnaryExpression")]) "$" = .ok e ∧
      e.encode = .ok (nodeObject .unary [("operator", .string "!"),
        ("operand", nodeObject .identifier [("name", .string "a")])]) := by
  have hoperand : TreeForm (.object [("name", .string "a"), ("kind", .string "Identifier")])
      (nodeObject .identifier [("name", .string "a")]) :=
    .node rfl (by decide) (.member rfl (.text "a") .done)
  have hform : TreeForm (.object [("operand", .object [("name", .string "a"),
      ("kind", .string "Identifier")]), ("line", .number "1"), ("operator", .string "!"),
        ("kind", .string "UnaryExpression")])
      (nodeObject .unary [("operator", .string "!"),
        ("operand", nodeObject .identifier [("name", .string "a")])]) :=
    .node rfl (by decide) (.member rfl (.token (show UnaryOp.not ∈ UnaryOp.all by decide))
      (.member rfl (.node hoperand) .done))
  obtain ⟨haccepted, hdecoded⟩ := tree_codec_exact.2 _ "$"
  obtain ⟨e, he⟩ := haccepted.2 ⟨_, hform⟩
  obtain ⟨-, w, hw, -, hunique⟩ := hdecoded e he
  exact ⟨e, he, by rw [hw, hunique _ hform]⟩

end Expr

end DocQuery
