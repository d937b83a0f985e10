import DocQuery.Expr.Encode
import DocQuery.Proofs.Compiler
import DocQuery.Proofs.WrittenJson

/-!
# DocQuery.Proofs.TreeFormat

**The JSON form of a tree.** `form` is the encoder without its failures: a tree that is complete
(`isComplete`: no node is missing, and every prefix operator is one of the four) is encoded as its
form, and the decoder gives the tree back (`decode_form`). So the form determines the tree.

A change to the texts of a tree (`mapTexts`) is a change to the strings of its form, and the nesting
of a tree (`nesting`) is the depth of its form.
-/

namespace DocQuery.Expr

/-! ### Complete trees and their forms -/

mutual

/-- Whether no node is missing and every prefix operator is one of the four. -/
def isComplete : Expr → Bool
  | .hole => false
  | .program body => areComplete body
  | .statement e => e.isComplete
  | .member base _ => base.isComplete
  | .binary _ left right => left.isComplete && right.isComplete
  | .unary op operand => op.isKnown && operand.isComplete
  | .array elements => areComplete elements
  | .call field _ args => field.isComplete && areComplete args
  | .detachedCall _ => false
  | .assign _ target value => target.isComplete && value.isComplete
  | .sequence left right => left.isComplete && right.isComplete
  | _ => true

/-- Whether the trees of a list are complete. -/
def areComplete : List Expr → Bool
  | [] => true
  | e :: rest => e.isComplete && areComplete rest

end

mutual

/-- The JSON form of a complete tree. -/
def form : Expr → Json
  | .hole => .null
  | .program body => nodeObject .program [("body", .array (forms body))]
  | .statement e => nodeObject .statement [("expression", e.form)]
  | .string value => nodeObject .string [("value", .string value)]
  | .number literal => nodeObject .number [("literal", .string literal)]
  | .bool value => nodeObject .boolean [("value", .bool value)]
  | .null => nodeObject .null []
  | .identifier name => nodeObject .identifier [("name", .string name)]
  | .member base property =>
    nodeObject .member [("object", base.form), ("property", .string property)]
  | .binary op left right =>
    nodeObject .binary [("operator", .string op), ("left", left.form), ("right", right.form)]
  | .unary op operand =>
    nodeObject .unary [("operator", .string op.token), ("operand", operand.form)]
  | .array elements => nodeObject .array [("elements", .array (forms elements))]
  | .call field method args =>
    nodeObject .call
      [("callee", nodeObject .member [("object", field.form), ("property", .string method)]),
        ("arguments", .array (forms args))]
  | .detachedCall _ => .null
  | .assign op target value =>
    nodeObject .assign [("operator", .string op), ("target", target.form), ("value", value.form)]
  | .sequence left right => nodeObject .sequence [("left", left.form), ("right", right.form)]

/-- The JSON forms of complete trees. -/
def forms : List Expr → List Json
  | [] => []
  | e :: rest => e.form :: forms rest

end

mutual

/-- **A complete tree is encoded as its form.** -/
theorem encode_eq_form : (e : Expr) → e.isComplete = true → e.encode = .ok e.form
  | .hole, h => by cases h
  | .program body, h => by rw [encode, encodeAll_eq_forms body h]; rfl
  | .statement e, h => by rw [encode, encode_eq_form e h]; rfl
  | .string _, _ => rfl
  | .number _, _ => rfl
  | .bool _, _ => rfl
  | .null, _ => rfl
  | .identifier _, _ => rfl
  | .member base _, h => by rw [encode, encode_eq_form base h]; rfl
  | .binary _ left right, h => by
      rw [isComplete, Bool.and_eq_true] at h
      rw [encode, encode_eq_form left h.1, encode_eq_form right h.2]
      rfl
  | .unary op operand, h => by
      rw [isComplete, Bool.and_eq_true] at h
      rw [encode, encode_eq_form operand h.2]
      rfl
  | .array elements, h => by rw [encode, encodeAll_eq_forms elements h]; rfl
  | .call field _ args, h => by
      rw [isComplete, Bool.and_eq_true] at h
      rw [encode, encode_eq_form field h.1, encodeAll_eq_forms args h.2]
      rfl
  | .detachedCall _, h => by cases h
  | .assign _ target value, h => by
      rw [isComplete, Bool.and_eq_true] at h
      rw [encode, encode_eq_form target h.1, encode_eq_form value h.2]
      rfl
  | .sequence left right, h => by
      rw [isComplete, Bool.and_eq_true] at h
      rw [encode, encode_eq_form left h.1, encode_eq_form right h.2]
      rfl

theorem encodeAll_eq_forms : (es : List Expr) → areComplete es = true → encodeAll es = .ok (forms es)
  | [], _ => rfl
  | e :: rest, h => by
      rw [areComplete, Bool.and_eq_true] at h
      rw [encodeAll, encode_eq_form e h.1, encodeAll_eq_forms rest h.2]
      rfl

end

/-! ### Decoding a form -/

theorem kindText_node (kind : Kind) (members : List (String × Json)) :
    kindText (("kind", .string kind.name) :: members) = kind.name := by
  simp [kindText, Json.look, Json.lookWritten]

theorem ofName_name (kind : Kind) : Kind.ofName kind.name = kind := by
  cases kind <;> rfl

theorem ofToken?_token {op : UnaryOp} (h : op.isKnown = true) :
    UnaryOp.ofToken? op.token = some op := by
  cases op with
  | other code => cases h
  | _ => rfl

theorem stringMember_of_look {members : List (String × Json)} {asked : List String}
    {key path s : String} (h : Json.look members asked key = some (.string s)) :
    stringMember members asked key path = .ok s := by
  rw [stringMember, h]

theorem boolMember_of_look {members : List (String × Json)} {asked : List String}
    {key path : String} {b : Bool} (h : Json.look members asked key = some (.bool b)) :
    boolMember members asked key path = .ok b := by
  rw [boolMember, h]

mutual

/-- **The decoder gives a complete tree back from its form.** -/
theorem decode_form : (e : Expr) → e.isComplete = true → ∀ path, decode e.form path = .ok e
  | .hole, h, _ => by cases h
  | .program body, h, path => by
      rw [form, nodeObject, decode]
      simp only [kindText_node, ofName_name]
      rw [listWith_of_look rfl, decodeItems_forms body h]
      rfl
  | .statement e, h, path => by
      rw [form, nodeObject, decode]
      simp only [kindText_node, ofName_name]
      rw [childWith_of_look rfl, decode_form e h]
      rfl
  | .string value, _, path => by
      rw [form, nodeObject, decode]
      simp only [kindText_node, ofName_name]
      rw [stringMember_of_look rfl]
      rfl
  | .number literal, _, path => by
      rw [form, nodeObject, decode]
      simp only [kindText_node, ofName_name]
      rw [stringMember_of_look rfl]
      rfl
  | .bool value, _, path => by
      rw [form, nodeObject, decode]
      simp only [kindText_node, ofName_name]
      rw [boolMember_of_look rfl]
      rfl
  | .null, _, path => by
      rw [form, nodeObject, decode]
      simp only [kindText_node, ofName_name]
  | .identifier name, _, path => by
      rw [form, nodeObject, decode]
      simp only [kindText_node, ofName_name]
      rw [stringMember_of_look rfl]
      rfl
  | .member base property, h, path => by
      rw [form, nodeObject, decode]
      simp only [kindText_node, ofName_name]
      rw [decodeMember, childWith_of_look rfl, decode_form base h, stringMember_of_look rfl]
      rfl
  | .binary op left right, h, path => by
      rw [isComplete, Bool.and_eq_true] at h
      rw [form, nodeObject, decode]
      simp only [kindText_node, ofName_name]
      rw [stringMember_of_look rfl, childWith_of_look (v := left.form) rfl, decode_form left h.1,
        childWith_of_look (v := right.form) rfl, decode_form right h.2]
      rfl
  | .unary op operand, h, path => by
      rw [isComplete, Bool.and_eq_true] at h
      rw [form, nodeObject, decode]
      simp only [kindText_node, ofName_name]
      rw [stringMember_of_look rfl, ok_bind, ofToken?_token h.1]
      simp only
      rw [childWith_of_look rfl, decode_form operand h.2]
      rfl
  | .array elements, h, path => by
      rw [form, nodeObject, decode]
      simp only [kindText_node, ofName_name]
      rw [listWith_of_look rfl, decodeItems_forms elements h]
      rfl
  | .call field method args, h, path => by
      rw [isComplete, Bool.and_eq_true] at h
      -- a callee is decoded as a member access, without a tree of its own
      have hcallee : Kind.ofName (kindText [("kind", .string Kind.member.name),
          ("object", field.form), ("property", .string method)]) = .member := by
        rw [kindText_node, ofName_name]
      rw [form, nodeObject, nodeObject, decode]
      simp only [kindText_node, ofName_name]
      rw [calleeWith_of_look rfl hcallee, decodeMember, childWith_of_look rfl,
        decode_form field h.1, stringMember_of_look rfl]
      simp only [ok_bind]
      rw [listWith_of_look rfl, decodeItems_forms args h.2]
      rfl
  | .detachedCall _, h, _ => by cases h
  | .assign op target value, h, path => by
      rw [isComplete, Bool.and_eq_true] at h
      rw [form, nodeObject, decode]
      simp only [kindText_node, ofName_name]
      rw [stringMember_of_look rfl, childWith_of_look (v := target.form) rfl, decode_form target h.1,
        childWith_of_look (v := value.form) rfl, decode_form value h.2]
      rfl
  | .sequence left right, h, path => by
      rw [isComplete, Bool.and_eq_true] at h
      rw [form, nodeObject, decode]
      simp only [kindText_node, ofName_name]
      rw [childWith_of_look (v := left.form) rfl, decode_form left h.1,
        childWith_of_look (v := right.form) rfl, decode_form right h.2]
      rfl

theorem decodeItems_forms : (es : List Expr) → areComplete es = true →
    ∀ path i, decodeItems (forms es) path i = .ok es
  | [], _, path, i => by rw [forms, decodeItems]
  | e :: rest, h, path, i => by
      rw [areComplete, Bool.and_eq_true] at h
      rw [forms, decodeItems, decode_form e h.1, decodeItems_forms rest h.2]
      rfl

end

/-- A form determines its tree. -/
theorem form_inj {e e' : Expr} (he : e.isComplete = true) (he' : e'.isComplete = true)
    (h : e.form = e'.form) : e = e' := by
  have hdecode := decode_form e he "$"
  rw [h, decode_form e' he'] at hdecode
  exact (Except.ok.inj hdecode).symm

/-! ### The texts of a tree -/

mutual

/-- The texts that a tree holds: literals, names and operators. -/
def texts : Expr → List String
  | .program body => textsAll body
  | .statement e => e.texts
  | .string value => [value]
  | .number literal => [literal]
  | .identifier name => [name]
  | .member base property => property :: base.texts
  | .binary op left right => op :: (left.texts ++ right.texts)
  | .unary _ operand => operand.texts
  | .array elements => textsAll elements
  | .call field method args => method :: (field.texts ++ textsAll args)
  | .assign op target value => op :: (target.texts ++ value.texts)
  | .sequence left right => left.texts ++ right.texts
  | _ => []

/-- The texts of a list of trees. -/
def textsAll : List Expr → List String
  | [] => []
  | e :: rest => e.texts ++ textsAll rest

end

mutual

/-- Change the texts of a tree. -/
def mapTexts (f : String → String) : Expr → Expr
  | .program body => .program (mapTextsAll f body)
  | .statement e => .statement (e.mapTexts f)
  | .string value => .string (f value)
  | .number literal => .number (f literal)
  | .identifier name => .identifier (f name)
  | .member base property => .member (base.mapTexts f) (f property)
  | .binary op left right => .binary (f op) (left.mapTexts f) (right.mapTexts f)
  | .unary op operand => .unary op (operand.mapTexts f)
  | .array elements => .array (mapTextsAll f elements)
  | .call field method args => .call (field.mapTexts f) (f method) (mapTextsAll f args)
  | .assign op target value => .assign (f op) (target.mapTexts f) (value.mapTexts f)
  | .sequence left right => .sequence (left.mapTexts f) (right.mapTexts f)
  | e => e

/-- Change the texts of a list of trees. -/
def mapTextsAll (f : String → String) : List Expr → List Expr
  | [] => []
  | e :: rest => e.mapTexts f :: mapTextsAll f rest

end

mutual

/-- How deep the JSON form of a tree is nested: a literal or a name is an object that holds strings,
and a list adds a level of its own. -/
def nesting : Expr → Nat
  | .hole => 1
  | .program body => nestingAll body + 2
  | .statement e => e.nesting + 1
  | .member base _ => base.nesting + 1
  | .binary _ left right => max left.nesting right.nesting + 1
  | .unary _ operand => operand.nesting + 1
  | .array elements => nestingAll elements + 2
  | .call field _ args => max field.nesting (nestingAll args) + 2
  | .detachedCall _ => 1
  | .assign _ target value => max target.nesting value.nesting + 1
  | .sequence left right => max left.nesting right.nesting + 1
  | _ => 2

/-- The deepest nesting of a list of trees. -/
def nestingAll : List Expr → Nat
  | [] => 0
  | e :: rest => max e.nesting (nestingAll rest)

end

mutual

theorem mapTexts_eq_self_iff (f : String → String) :
    (e : Expr) → (e.mapTexts f = e ↔ ∀ s ∈ e.texts, f s = s)
  | .hole => by simp [mapTexts, texts]
  | .program body => by simp [mapTexts, texts, mapTextsAll_eq_self_iff f body]
  | .statement e => by simp [mapTexts, texts, mapTexts_eq_self_iff f e]
  | .string value => by simp [mapTexts, texts]
  | .number literal => by simp [mapTexts, texts]
  | .bool value => by simp [mapTexts, texts]
  | .null => by simp [mapTexts, texts]
  | .identifier name => by simp [mapTexts, texts]
  | .member base property => by
      simp [mapTexts, texts, mapTexts_eq_self_iff f base, and_comm]
  | .binary op left right => by
      simp [mapTexts, texts, mapTexts_eq_self_iff f left, mapTexts_eq_self_iff f right,
        or_imp, forall_and]
  | .unary op operand => by simp [mapTexts, texts, mapTexts_eq_self_iff f operand]
  | .array elements => by simp [mapTexts, texts, mapTextsAll_eq_self_iff f elements]
  | .call field method args => by
      simp [mapTexts, texts, mapTexts_eq_self_iff f field, mapTextsAll_eq_self_iff f args,
        or_imp, forall_and, and_left_comm]
  | .detachedCall args => by simp [mapTexts, texts]
  | .assign op target value => by
      simp [mapTexts, texts, mapTexts_eq_self_iff f target, mapTexts_eq_self_iff f value,
        or_imp, forall_and]
  | .sequence left right => by
      simp [mapTexts, texts, mapTexts_eq_self_iff f left, mapTexts_eq_self_iff f right,
        or_imp, forall_and]

theorem mapTextsAll_eq_self_iff (f : String → String) :
    (es : List Expr) → (mapTextsAll f es = es ↔ ∀ s ∈ textsAll es, f s = s)
  | [] => by simp [mapTextsAll, textsAll]
  | e :: rest => by
      simp [mapTextsAll, textsAll, mapTexts_eq_self_iff f e, mapTextsAll_eq_self_iff f rest,
        or_imp, forall_and]

end

/-! ### Forms as JSON values -/

mutual

/-- A form holds no numbers, and no key of it needs escapes. -/
theorem isTextual_form : (e : Expr) → e.form.isTextual = true
  | .hole => rfl
  | .program body => by
      simp +decide [form, nodeObject, Json.isTextual, Json.haveTextual, areTextual_forms body]
  | .statement e => by
      simp +decide [form, nodeObject, Json.isTextual, Json.haveTextual, isTextual_form e]
  | .string _ => rfl
  | .number _ => rfl
  | .bool _ => rfl
  | .null => rfl
  | .identifier _ => rfl
  | .member base _ => by
      simp +decide [form, nodeObject, Json.isTextual, Json.haveTextual, isTextual_form base]
  | .binary _ left right => by
      simp +decide [form, nodeObject, Json.isTextual, Json.haveTextual, isTextual_form left,
        isTextual_form right]
  | .unary _ operand => by
      simp +decide [form, nodeObject, Json.isTextual, Json.haveTextual, isTextual_form operand]
  | .array elements => by
      simp +decide [form, nodeObject, Json.isTextual, Json.haveTextual, areTextual_forms elements]
  | .call field _ args => by
      simp +decide [form, nodeObject, Json.isTextual, Json.haveTextual, isTextual_form field,
        areTextual_forms args]
  | .detachedCall _ => rfl
  | .assign _ target value => by
      simp +decide [form, nodeObject, Json.isTextual, Json.haveTextual, isTextual_form target,
        isTextual_form value]
  | .sequence left right => by
      simp +decide [form, nodeObject, Json.isTextual, Json.haveTextual, isTextual_form left,
        isTextual_form right]

theorem areTextual_forms : (es : List Expr) → Json.areTextual (forms es) = true
  | [] => rfl
  | e :: rest => by
      rw [forms, Json.areTextual, isTextual_form e, areTextual_forms rest]
      rfl

end

theorem nesting_pos (e : Expr) : 0 < e.nesting := by
  cases e <;> simp [nesting]

/-- The depth of a node is one more than the deepest of its members; its kind is a string. -/
theorem depth_nodeObject (kind : Kind) (members : List (String × Json)) :
    (nodeObject kind members).depth = max 1 (Json.depthMembers members) + 1 := rfl

mutual

/-- **The nesting of a tree is the depth of its form.** -/
theorem depth_form : (e : Expr) → e.form.depth = e.nesting
  | .hole => rfl
  | .program body => by
      simp only [form, depth_nodeObject, Json.depthMembers, Json.depth, depthAll_forms body, nesting]
      omega
  | .statement e => by
      have := e.nesting_pos
      simp only [form, depth_nodeObject, Json.depthMembers, depth_form e, nesting]
      omega
  | .string _ => rfl
  | .number _ => rfl
  | .bool _ => rfl
  | .null => rfl
  | .identifier _ => rfl
  | .member base _ => by
      have := base.nesting_pos
      simp only [form, depth_nodeObject, Json.depthMembers, Json.depth, depth_form base, nesting]
      omega
  | .binary _ left right => by
      have := left.nesting_pos
      simp only [form, depth_nodeObject, Json.depthMembers, Json.depth, depth_form left,
        depth_form right, nesting]
      omega
  | .unary _ operand => by
      have := operand.nesting_pos
      simp only [form, depth_nodeObject, Json.depthMembers, Json.depth, depth_form operand, nesting]
      omega
  | .array elements => by
      simp only [form, depth_nodeObject, Json.depthMembers, Json.depth, depthAll_forms elements,
        nesting]
      omega
  | .call field _ args => by
      have := field.nesting_pos
      simp only [form, depth_nodeObject, Json.depthMembers, Json.depth, depth_form field,
        depthAll_forms args, nesting]
      omega
  | .detachedCall _ => rfl
  | .assign _ target value => by
      have := target.nesting_pos
      simp only [form, depth_nodeObject, Json.depthMembers, Json.depth, depth_form target,
        depth_form value, nesting]
      omega
  | .sequence left right => by
      have := left.nesting_pos
      simp only [form, depth_nodeObject, Json.depthMembers, depth_form left, depth_form right,
        nesting]
      omega

theorem depthAll_forms : (es : List Expr) → Json.depthAll (forms es) = nestingAll es
  | [] => rfl
  | e :: rest => by rw [forms, Json.depthAll, nestingAll, depth_form e, depthAll_forms rest]

end

/-- A change of texts that leaves the names of kinds and operators alone. -/
structure KeepsNames (f : String → String) : Prop where
  /-- The names of kinds stay. -/
  kind : ∀ k : Kind, f k.name = k.name
  /-- The tokens of the four prefix operators stay. -/
  token : ∀ op : UnaryOp, op.isKnown = true → f op.token = op.token

section Changed

variable {f : String → String}

theorem mapStrings_nodeObject (hf : KeepsNames f) (kind : Kind) (members : List (String × Json)) :
    (nodeObject kind members).mapStrings f = nodeObject kind (Json.mapStringsMembers f members) := by
  simp only [nodeObject, Json.mapStrings, Json.mapStringsMembers, hf.kind]

mutual

/-- **A change to the texts of a tree is a change to the strings of its form.** -/
theorem form_mapTexts (hf : KeepsNames f) :
    (e : Expr) → e.isComplete = true → (e.mapTexts f).form = e.form.mapStrings f
  | .hole, h => by cases h
  | .program body, h => by
      simp only [mapTexts, form, mapStrings_nodeObject hf, Json.mapStringsMembers, Json.mapStrings,
        forms_mapTexts hf body h]
  | .statement e, h => by
      simp only [mapTexts, form, mapStrings_nodeObject hf, Json.mapStringsMembers,
        form_mapTexts hf e h]
  | .string _, _ => by
      simp only [mapTexts, form, mapStrings_nodeObject hf, Json.mapStringsMembers, Json.mapStrings]
  | .number _, _ => by
      simp only [mapTexts, form, mapStrings_nodeObject hf, Json.mapStringsMembers, Json.mapStrings]
  | .bool _, _ => by
      simp only [mapTexts, form, mapStrings_nodeObject hf, Json.mapStringsMembers, Json.mapStrings]
  | .null, _ => by
      simp only [mapTexts, form, mapStrings_nodeObject hf, Json.mapStringsMembers]
  | .identifier _, _ => by
      simp only [mapTexts, form, mapStrings_nodeObject hf, Json.mapStringsMembers, Json.mapStrings]
  | .member base _, h => by
      simp only [mapTexts, form, mapStrings_nodeObject hf, Json.mapStringsMembers, Json.mapStrings,
        form_mapTexts hf base h]
  | .binary _ left right, h => by
      rw [isComplete, Bool.and_eq_true] at h
      simp only [mapTexts, form, mapStrings_nodeObject hf, Json.mapStringsMembers, Json.mapStrings,
        form_mapTexts hf left h.1, form_mapTexts hf right h.2]
  | .unary op operand, h => by
      rw [isComplete, Bool.and_eq_true] at h
      simp only [mapTexts, form, mapStrings_nodeObject hf, Json.mapStringsMembers, Json.mapStrings,
        hf.token op h.1, form_mapTexts hf operand h.2]
  | .array elements, h => by
      simp only [mapTexts, form, mapStrings_nodeObject hf, Json.mapStringsMembers, Json.mapStrings,
        forms_mapTexts hf elements h]
  | .call field _ args, h => by
      rw [isComplete, Bool.and_eq_true] at h
      simp only [mapTexts, form, mapStrings_nodeObject hf, Json.mapStringsMembers, Json.mapStrings,
        form_mapTexts hf field h.1, forms_mapTexts hf args h.2]
  | .detachedCall _, h => by cases h
  | .assign _ target value, h => by
      rw [isComplete, Bool.and_eq_true] at h
      simp only [mapTexts, form, mapStrings_nodeObject hf, Json.mapStringsMembers, Json.mapStrings,
        form_mapTexts hf target h.1, form_mapTexts hf value h.2]
  | .sequence left right, h => by
      rw [isComplete, Bool.and_eq_true] at h
      simp only [mapTexts, form, mapStrings_nodeObject hf, Json.mapStringsMembers,
        form_mapTexts hf left h.1, form_mapTexts hf right h.2]

theorem forms_mapTexts (hf : KeepsNames f) :
    (es : List Expr) → areComplete es = true →
      forms (mapTextsAll f es) = Json.mapStringsAll f (forms es)
  | [], _ => rfl
  | e :: rest, h => by
      rw [areComplete, Bool.and_eq_true] at h
      rw [mapTextsAll, forms, forms, Json.mapStringsAll, form_mapTexts hf e h.1,
        forms_mapTexts hf rest h.2]

end

mutual

theorem isComplete_mapTexts : (e : Expr) → (e.mapTexts f).isComplete = e.isComplete
  | .hole => rfl
  | .program body => by simp only [mapTexts, isComplete, areComplete_mapTexts body]
  | .statement e => by simp only [mapTexts, isComplete, isComplete_mapTexts e]
  | .string _ => rfl
  | .number _ => rfl
  | .bool _ => rfl
  | .null => rfl
  | .identifier _ => rfl
  | .member base _ => by simp only [mapTexts, isComplete, isComplete_mapTexts base]
  | .binary _ left right => by
      simp only [mapTexts, isComplete, isComplete_mapTexts left, isComplete_mapTexts right]
  | .unary _ operand => by simp only [mapTexts, isComplete, isComplete_mapTexts operand]
  | .array elements => by simp only [mapTexts, isComplete, areComplete_mapTexts elements]
  | .call field _ args => by
      simp only [mapTexts, isComplete, isComplete_mapTexts field, areComplete_mapTexts args]
  | .detachedCall _ => rfl
  | .assign _ target value => by
      simp only [mapTexts, isComplete, isComplete_mapTexts target, isComplete_mapTexts value]
  | .sequence left right => by
      simp only [mapTexts, isComplete, isComplete_mapTexts left, isComplete_mapTexts right]

theorem areComplete_mapTexts : (es : List Expr) → areComplete (mapTextsAll f es) = areComplete es
  | [] => rfl
  | e :: rest => by
      simp only [mapTextsAll, areComplete, isComplete_mapTexts e, areComplete_mapTexts rest]

end

end Changed

end DocQuery.Expr
