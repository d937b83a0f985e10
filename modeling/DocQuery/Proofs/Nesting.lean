import DocQuery.Json.Payload
import DocQuery.Proofs.ValueText

/-!
# DocQuery.Proofs.Nesting

**How deep a text may nest that is copied into an envelope or laid out.** The check of such a text
counts the brackets that are open, outside strings. It passes a JSON text for a value exactly when
the value nests no deeper than the limit (`checkPayload_eq_ok_iff`); the escapes of a JSON text never
stop it.

`Nests` says how deep brackets nest in a piece of text, as the check sees it: what the piece needs
beyond the depth at which it starts, and that the check is back at that depth behind it. Pieces side
by side need the larger of what both need, and brackets around a piece need one more.
-/

namespace DocQuery

namespace Value

mutual

/-- How deep arrays and documents nest. -/
def nesting : Value → Nat
  | .array items => nestingItems items + 1
  | .document d => nestingElements d + 1
  | _ => 0

/-- How deep the items of an array nest. -/
def nestingItems : List Value → Nat
  | [] => 0
  | v :: rest => max v.nesting (nestingItems rest)

/-- How deep the values of a document nest. -/
def nestingElements : List (String × Value) → Nat
  | [] => 0
  | (_, v) :: rest => max v.nesting (nestingElements rest)

end

end Value

namespace Json

/-- A piece of text in which brackets nest `n` deep. From a depth that leaves room for them the
check goes on behind it at the same depth, and from any other depth it fails. -/
def Nests (t : List Char) (n : Nat) : Prop :=
  ∀ depth rest, depth ≤ maxNesting →
    (depth + n ≤ maxNesting →
      checkPayloadFrom false depth (t ++ rest) = checkPayloadFrom false depth rest) ∧
    (maxNesting < depth + n → checkPayloadFrom false depth (t ++ rest) = .error .tooDeep)

theorem nests_nil : Nests [] 0 :=
  fun _ _ _ => ⟨fun _ => rfl, fun h => by omega⟩

theorem Nests.append {t t' : List Char} {n n' : Nat} (h : Nests t n) (h' : Nests t' n') :
    Nests (t ++ t') (max n n') := by
  intro depth rest hdepth
  obtain ⟨hpass, hfail⟩ := h depth (t' ++ rest) hdepth
  obtain ⟨hpass', hfail'⟩ := h' depth rest hdepth
  rw [List.append_assoc]
  refine ⟨fun hroom => ?_, fun hnone => ?_⟩
  · rw [hpass (by omega), hpass' (by omega)]
  · by_cases hroom : depth + n ≤ maxNesting
    · rw [hpass hroom]
      exact hfail' (by omega)
    · exact hfail (by omega)

/-- A character that is neither a bracket nor a quote. -/
theorem nests_char {c : Char} (h : c ∉ ['"', '[', ']', Char.ofNat 0x7b, Char.ofNat 0x7d]) :
    Nests [c] 0 := by
  simp only [List.mem_cons, List.not_mem_nil, or_false, not_or] at h
  obtain ⟨hquote, hopen, hclose, hopen', hclose'⟩ := h
  have hbrace : ∀ n, c ≠ Char.ofNat n → c.toNat ≠ n := fun n hne hn => hne (eq_ofNat_of_toNat hn)
  intro depth rest _
  have hskip : checkPayloadFrom false depth (c :: rest) = checkPayloadFrom false depth rest := by
    rw [checkPayloadFrom, if_neg (by simp [hbrace _ hopen', hopen]),
      if_neg (by simp [hbrace _ hclose', hclose]), beq_eq_false_iff_ne.2 hquote]
  exact ⟨fun _ => hskip, fun _ => by omega⟩

theorem nests_chars {t : List Char}
    (h : ∀ c ∈ t, c ∉ ['"', '[', ']', Char.ofNat 0x7b, Char.ofNat 0x7d]) : Nests t 0 := by
  induction t with
  | nil => exact nests_nil
  | cons c t ih =>
      rw [List.forall_mem_cons] at h
      exact (nests_char h.1).append (ih h.2)

/-- Brackets around a piece of text nest one deeper than it. -/
theorem Nests.bracketed {t : List Char} {n : Nat} (h : Nests t n) {opening close : Char}
    (hopening : opening = '[' ∨ opening = Char.ofNat 0x7b)
    (hclose : close = ']' ∨ close = Char.ofNat 0x7d) :
    Nests (opening :: (t ++ [close])) (n + 1) := by
  intro depth rest hdepth
  have henter : checkPayloadFrom false depth (opening :: (t ++ [close]) ++ rest) =
      if depth < maxNesting then checkPayloadFrom false (depth + 1) (t ++ close :: rest)
      else .error .tooDeep := by
    rw [List.cons_append, List.append_assoc]
    rcases hopening with rfl | rfl <;> rfl
  have hleave : checkPayloadFrom false (depth + 1) (close :: rest) =
      checkPayloadFrom false depth rest := by
    rcases hclose with rfl | rfl <;> rfl
  rw [henter]
  by_cases hlimit : depth < maxNesting
  · obtain ⟨hpass, hfail⟩ := h (depth + 1) (close :: rest) hlimit
    rw [if_pos hlimit]
    exact ⟨fun hroom => by rw [hpass (by omega), hleave], fun hnone => hfail (by omega)⟩
  · rw [if_neg hlimit]
    exact ⟨fun hroom => by omega, fun _ => rfl⟩

/-! #### Strings -/

theorem isEscapeLetter_of_meaning {x c : Char} (h : escapeMeaning? x = some c) :
    isEscapeLetter x = true := by
  unfold escapeMeaning? at h
  split at h <;> first | rfl | cases h

/-- **A scanner inside a string** that treats escapes and plain characters one after another treats
all of the string so, up to the quote that ends it. -/
theorem scan_body {β : Type} (emit : Char → β → β) {inside outside : List Char → β}
    (hescape : ∀ x rest, isEscapeLetter x = true →
      inside ('\\' :: x :: rest) = emit '\\' (emit x (inside rest)))
    (hplain : ∀ c rest, c ≠ '"' → c ≠ '\\' → inside (c :: rest) = emit c (inside rest))
    (hend : ∀ rest, inside ('"' :: rest) = emit '"' (outside rest)) {body : List Char}
    {us : List Nat} (h : BodySpells body us) (rest : List Char) :
    inside (body ++ '"' :: rest) = body.foldr emit (emit '"' (outside rest)) := by
  induction h with
  | nil => exact hend rest
  | plain _ hquote hbackslash _ ih =>
      rw [List.cons_append, hplain _ _ hquote hbackslash, ih, List.foldr_cons]
  | letter hx _ ih =>
      rw [List.cons_append, List.cons_append, hescape _ _ (isEscapeLetter_of_meaning hx), ih,
        List.foldr_cons, List.foldr_cons]
  | @code a b c d n body us hn _ ih =>
      have hdigit : ∀ x ∈ [a, b, c, d], x ≠ '"' ∧ x ≠ '\\' := fun x hx =>
        ne_of_mem_hexLetters (mem_hexLetters_of_hexNumber? hn x hx)
      simp only [List.mem_cons, List.not_mem_nil, or_false, forall_eq_or_imp, forall_eq] at hdigit
      obtain ⟨ha, hb, hc, hd⟩ := hdigit
      simp only [List.cons_append, List.foldr_cons]
      rw [hescape _ _ (by decide), hplain _ _ ha.1 ha.2, hplain _ _ hb.1 hb.2, hplain _ _ hc.1 hc.2,
        hplain _ _ hd.1 hd.2, ih]

/-- The inside of a string is passed over. -/
theorem checkPayloadFrom_body {body : List Char} {us : List Nat} (h : BodySpells body us)
    (depth : Nat) (rest : List Char) :
    checkPayloadFrom true depth (body ++ '"' :: rest) = checkPayloadFrom false depth rest := by
  have hescape : ∀ x rest, isEscapeLetter x = true →
      checkPayloadFrom true depth ('\\' :: x :: rest) = checkPayloadFrom true depth rest := by
    intro x rest hx
    rw [checkPayloadFrom, if_pos hx]
  have hplain : ∀ c rest, c ≠ '"' → c ≠ '\\' →
      checkPayloadFrom true depth (c :: rest) = checkPayloadFrom true depth rest := by
    intro c rest hquote hbackslash
    rw [checkPayloadFrom, bne_iff_ne.2 hquote]
    intro _ _ heq
    exact absurd heq hbackslash
  have hend : ∀ rest,
      checkPayloadFrom true depth ('"' :: rest) = checkPayloadFrom false depth rest := by
    intro rest
    rw [checkPayloadFrom]
    · rfl
    · intro _ _ heq
      exact absurd heq (by decide)
  rw [scan_body (fun _ b => b) hescape hplain hend h rest, List.foldr_fixed]

theorem nests_string {t : List Char} {s : String} (h : StringMeans t s) : Nests t 0 := by
  obtain ⟨body, hbody, rfl⟩ := h
  intro depth rest _
  have hskip : checkPayloadFrom false depth ('"' :: (body ++ ['"']) ++ rest) =
      checkPayloadFrom false depth rest := by
    rw [List.cons_append, List.append_assoc]
    exact checkPayloadFrom_body hbody depth rest
  exact ⟨fun _ => hskip, fun _ => by omega⟩

/-! #### Values -/

theorem nests_blank {b : List Char} (h : BlankText b) : Nests b 0 := by
  refine nests_chars fun c hc => ?_
  have hblank := h c hc
  simp only [List.mem_cons, List.not_mem_nil, or_false] at hblank
  rcases hblank with rfl | rfl | rfl | rfl <;> decide

/-- Entries nest as deep as the deepest of them. -/
theorem ListMeans.nests {α : Type} {Item : List Char → α → Prop} (depthOf : α → Nat)
    (deepest : List α → Nat) (hnil : deepest [] = 0)
    (hcons : ∀ x xs, deepest (x :: xs) = max (depthOf x) (deepest xs)) {cs : List Char}
    {xs : List α} (h : ListMeans Item cs xs)
    (hitem : ∀ t x, t.length ≤ cs.length → Item t x → Nests t (depthOf x)) :
    Nests cs (deepest xs) := by
  induction h with
  | @last a t b x ha hx hb =>
      have hnests := hitem t x (by simp; omega) hx
      have hall := (nests_blank ha).append (hnests.append (nests_blank hb))
      simpa [hnil, hcons] using hall
  | @more a t b rest x xs ha hx hb _ ih =>
      have hnests := hitem t x (by simp; omega) hx
      have hrest := ih fun t x ht => hitem t x (by simp; omega)
      have hcomma : Nests [','] 0 := nests_char (by decide)
      have hall := (nests_blank ha).append (hnests.append ((nests_blank hb).append
        (hcomma.append hrest)))
      simpa [hcons] using hall

theorem MemberMeans.nests {Held : List Char → Value → Prop} {t : List Char} {e : String × Value}
    (h : MemberMeans Held t e)
    (hheld : ∀ t' v, t'.length ≤ t.length → Held t' v → Nests t' v.nesting) :
    Nests t e.2.nesting := by
  cases h with
  | @mk key b c t' k v hkey hb hc hv =>
      have hvalue := hheld t' v (by simp; omega) hv
      have hcolon : Nests [':'] 0 := nests_char (by decide)
      have hall := (nests_string hkey).append ((nests_blank hb).append (hcolon.append
        ((nests_blank hc).append hvalue)))
      simpa using hall

/-- **A JSON text for a value nests as deep as the value.** -/
theorem Means.nests {t : List Char} {v : Value} (h : Means t v) : Nests t v.nesting := by
  -- an entry of an array or a document is shorter than its text
  induction hn : t.length using Nat.strong_induction_on generalizing t v with
  | _ n ih =>
      have hshorter : ∀ cs : List Char, cs.length < n →
          ∀ t x, t.length ≤ cs.length → Means t x → Nests t x.nesting := by
        intro cs hcs t x ht hx
        exact ih t.length (by omega) hx rfl
      cases h with
      | null => exact nests_chars (by simp)
      | true => exact nests_chars (by simp)
      | false => exact nests_chars (by simp)
      | number h =>
          refine nests_chars fun c hc => ?_
          have hnumber := h.isNumberChar c hc
          intro hmem
          simp only [List.mem_cons, List.not_mem_nil, or_false] at hmem
          rcases hmem with rfl | rfl | rfl | rfl | rfl <;> cases hnumber
      | string h => exact nests_string h
      | emptyArray hws => exact (nests_blank hws).bracketed (Or.inl rfl) (Or.inl rfl)
      | @array cs items h =>
          have hitems := ListMeans.nests Value.nesting Value.nestingItems rfl (fun _ _ => rfl) h
            (hshorter cs (by simp at hn; omega))
          exact hitems.bracketed (Or.inl rfl) (Or.inl rfl)
      | emptyDocument hws => exact (nests_blank hws).bracketed (Or.inr rfl) (Or.inr rfl)
      | @document cs d h =>
          have hlt : cs.length < n := by
            simp at hn
            omega
          have hmembers := ListMeans.nests (fun e : String × Value => e.2.nesting)
            Value.nestingElements rfl (fun _ _ => rfl) h fun t e ht he =>
              MemberMeans.nests he fun t' v ht' => hshorter cs hlt t' v (by omega)
          exact hmembers.bracketed (Or.inr rfl) (Or.inr rfl)

/-- The text of a value that nests too deep is refused for its depth. -/
theorem checkPayload_eq_error {t : List Char} {v : Value} (h : Means t v)
    (hdeep : maxNesting < v.nesting) : checkPayload t = .error .tooDeep := by
  obtain ⟨-, hfail⟩ := h.nests 0 [] (Nat.zero_le _)
  rw [List.append_nil, Nat.zero_add] at hfail
  exact hfail hdeep

/-- **The check passes exactly the texts of values that nest no deeper than the limit.** -/
theorem checkPayload_eq_ok_iff {t : List Char} {v : Value} (h : Means t v) :
    checkPayload t = .ok () ↔ v.nesting ≤ maxNesting := by
  constructor
  · intro hok
    by_contra hdeep
    rw [checkPayload_eq_error h (not_le.1 hdeep)] at hok
    cases hok
  · intro hroom
    obtain ⟨hpass, -⟩ := h.nests 0 [] (Nat.zero_le _)
    rw [List.append_nil, Nat.zero_add] at hpass
    rw [checkPayload, hpass hroom]
    rfl

end Json

/-! ### Lists within lists -/

/-- The value of nested lists, `n + 1` of them. -/
def nestedValue : Nat → Value
  | 0 => .array []
  | n + 1 => .array [nestedValue n]

theorem nesting_nestedValue (n : Nat) : (nestedValue n).nesting = n + 1 := by
  induction n with
  | zero => rfl
  | succ n ih => rw [nestedValue, Value.nesting, Value.nestingItems, Value.nestingItems, ih]; simp

theorem isRenderable_nestedValue (n : Nat) : (nestedValue n).isRenderable = true := by
  induction n with
  | zero => rfl
  | succ n ih => rw [nestedValue, Value.isRenderable, Value.areRenderable, ih]; rfl

end DocQuery
