import DocQuery.Proofs.TreeStrings

/-!
# DocQuery.Proofs.WrittenJson

**What is read of a JSON value that was written.** Tree files hold no numbers, and their keys need no
escapes (`isTextual`). Of such a value the reader gives back everything but the contents of its
strings, which it rereads one by one (`mapStrings readBack`), and it does so exactly as long as the
nesting of the value (`depth`) stays within the bound (`readValue_write`).

The text of such a value is a JSON text exactly when nothing is lost in its strings
(`jsonText_write_iff`).
-/

namespace DocQuery.Json

/-! ### Depth, strings and numbers of a value -/

mutual

/-- How deep a value is nested; a scalar counts as one. -/
def depth : Json → Nat
  | .array items => depthAll items + 1
  | .object members => depthMembers members + 1
  | _ => 1

/-- How deep the items of an array are nested. -/
def depthAll : List Json → Nat
  | [] => 0
  | v :: rest => max v.depth (depthAll rest)

/-- How deep the members of an object are nested. -/
def depthMembers : List (String × Json) → Nat
  | [] => 0
  | (_, v) :: rest => max v.depth (depthMembers rest)

end

mutual

/-- Change the strings of a value; keys stay. -/
def mapStrings (f : String → String) : Json → Json
  | .string s => .string (f s)
  | .array items => .array (mapStringsAll f items)
  | .object members => .object (mapStringsMembers f members)
  | v => v

/-- Change the strings of the items of an array. -/
def mapStringsAll (f : String → String) : List Json → List Json
  | [] => []
  | v :: rest => v.mapStrings f :: mapStringsAll f rest

/-- Change the strings of the members of an object. -/
def mapStringsMembers (f : String → String) : List (String × Json) → List (String × Json)
  | [] => []
  | (key, v) :: rest => (key, v.mapStrings f) :: mapStringsMembers f rest

end

mutual

/-- Whether a value holds no numbers, and keys that need no escapes. -/
def isTextual : Json → Bool
  | .number _ => false
  | .array items => areTextual items
  | .object members => haveTextual members
  | _ => true

/-- Whether the items of an array are textual. -/
def areTextual : List Json → Bool
  | [] => true
  | v :: rest => v.isTextual && areTextual rest

/-- Whether the members of an object are textual. -/
def haveTextual : List (String × Json) → Bool
  | [] => true
  | (key, v) :: rest => !needsEscapes key.toList && v.isTextual && haveTextual rest

end

theorem depth_pos (j : Json) : 0 < j.depth := by
  cases j <;> simp [depth]

/-! ### The writer, one value at a time -/

theorem writeItems_succ (i : Nat) (items : List Json) :
    writeItems (i + 1) items = writeItems 1 items := by
  induction items generalizing i with
  | nil => rfl
  | cons v rest ih =>
      rw [writeItems, writeItems, ih (i + 1), ih 1]
      rfl

theorem writeItems_singleton (v : Json) : writeItems 0 [v] = v.write := by
  simp [writeItems, Value.separator]

theorem writeItems_cons_cons (v w : Json) (rest : List Json) :
    writeItems 0 (v :: w :: rest) = v.write ++ ',' :: writeItems 0 (w :: rest) := by
  rw [writeItems, writeItems, writeItems, writeItems_succ 1, writeItems_succ 0]
  simp [Value.separator]

theorem writeMembers_succ (i : Nat) (members : List (String × Json)) :
    writeMembers (i + 1) members = writeMembers 1 members := by
  induction members generalizing i with
  | nil => rfl
  | cons m rest ih =>
      rw [writeMembers, writeMembers, ih (i + 1), ih 1]
      rfl

/-- A member whose key needs no escapes. -/
def writeMember (key : String) (v : Json) : List Char :=
  '"' :: (key.toList ++ '"' :: ':' :: v.write)

theorem writeTreeString_of_plain {cs : List Char} (h : needsEscapes cs = false) :
    writeTreeString cs = '"' :: (cs ++ ['"']) := by
  rw [writeTreeString_eq, writtenBody, h]
  rfl

theorem writeMembers_singleton {key : String} (h : needsEscapes key.toList = false) (v : Json) :
    writeMembers 0 [(key, v)] = writeMember key v := by
  simp [writeMembers, Value.separator, writeTreeString_of_plain h, writeMember]

theorem writeMembers_cons_cons {key : String} (h : needsEscapes key.toList = false) (v : Json)
    (m : String × Json) (rest : List (String × Json)) :
    writeMembers 0 ((key, v) :: m :: rest) =
      writeMember key v ++ ',' :: writeMembers 0 (m :: rest) := by
  rw [writeMembers, writeMembers, writeMembers, writeMembers_succ 1, writeMembers_succ 0]
  simp [Value.separator, writeTreeString_of_plain h, writeMember]

/-- The first character of a textual value: none of them is white space, a digit or a sign. -/
def openers : List Char := ['n', 't', 'f', '"', '[', Char.ofNat 0x7b]

theorem of_mem_openers {c : Char} (h : c ∈ openers) :
    isSpace c = false ∧ c ≠ ']' ∧ c ∉ [' ', '\t', '\n', '\r'] := by
  simp only [openers, List.mem_cons, List.not_mem_nil, or_false] at h
  rcases h with rfl | rfl | rfl | rfl | rfl | rfl <;> decide

theorem exists_write_eq_cons {j : Json} (h : j.isTextual = true) :
    ∃ c cs, j.write = c :: cs ∧ c ∈ openers := by
  cases j with
  | null => exact ⟨_, _, rfl, by decide⟩
  | bool b => cases b <;> exact ⟨_, _, rfl, by decide⟩
  | number text => cases h
  | string s => exact ⟨_, _, writeTreeString_eq _, by decide⟩
  | array items => exact ⟨_, _, rfl, by decide⟩
  | object members => exact ⟨_, _, rfl, by decide⟩

/-! ### Reading what was written

Only whether a text is read, and as what, is followed here (`toOption`): the faults of the reader
carry the constructs they were found in, which plays no part. -/

theorem skipSpace_cons {c : Char} (h : isSpace c = false) (rest : List Char) :
    skipSpace (c :: rest) = c :: rest := by
  rw [skipSpace, List.dropWhile_cons, h]
  rfl

theorem skipSpace_write {j : Json} (h : j.isTextual = true) (rest : List Char) :
    skipSpace (j.write ++ rest) = j.write ++ rest := by
  obtain ⟨c, cs, hwrite, hc⟩ := exists_write_eq_cons h
  rw [hwrite]
  exact skipSpace_cons (of_mem_openers hc).1 (cs ++ rest)

theorem exists_writeItems_eq_cons {v : Json} {items : List Json}
    (h : areTextual (v :: items) = true) (rest : List Char) :
    ∃ c cs, writeItems 0 (v :: items) ++ rest = c :: cs ∧ c ∈ openers := by
  rw [areTextual, Bool.and_eq_true] at h
  obtain ⟨c, cs, hwrite, hc⟩ := exists_write_eq_cons h.1
  exact ⟨c, cs ++ writeItems 1 items ++ rest, by simp [writeItems, Value.separator, hwrite], hc⟩

theorem exists_writeMembers_eq_cons (m : String × Json) (members : List (String × Json))
    (rest : List Char) : ∃ cs, writeMembers 0 (m :: members) ++ rest = '"' :: cs := by
  rw [writeMembers, writeTreeString_eq]
  exact ⟨_, rfl⟩

/-- An array whose first item follows its bracket directly. -/
theorem toOption_readValue_bracket (n : Nat) {c : Char} {cs : List Char} (hspace : isSpace c = false)
    (hclose : c ≠ ']') :
    (readValue (n + 1) ('[' :: c :: cs)).toOption =
      (readItems (readValue n) (c :: cs).length (c :: cs)).toOption.map (Prod.map .array id) := by
  simp only [readValue, skipSpace_cons hspace]
  rw [if_neg (by decide), if_pos (by decide)]
  split
  · next heq => cases heq
  · next heq =>
    cases heq
    exact absurd rfl hclose
  · cases readItems (readValue n) (c :: cs).length (c :: cs) with
    | ok found => rfl
    | error f => rfl

/-- An object whose first member follows its brace directly. -/
theorem toOption_readValue_brace (n : Nat) {c : Char} {cs : List Char} (hspace : isSpace c = false)
    (hclose : c.toNat ≠ 0x7d) :
    (readValue (n + 1) (Char.ofNat 0x7b :: c :: cs)).toOption =
      (readMembers (readValue n) (c :: cs).length (c :: cs)).toOption.map
        (Prod.map .object id) := by
  have hclose' : (c.toNat == 0x7d) = false := beq_eq_false_iff_ne.2 hclose
  simp only [readValue, skipSpace_cons hspace, hclose']
  rw [if_pos (by decide), if_neg Bool.false_ne_true]
  cases readMembers (readValue n) (c :: cs).length (c :: cs) with
  | ok found => rfl
  | error f => rfl

/-- One round of an array: an item, and what follows it. -/
theorem toOption_readItems {value : List Char → Outcome Json} (rounds : Nat) {cs rest : List Char}
    {c : Char} {x : Option Json} (hspace : isSpace c = false)
    (hvalue : (value (skipSpace cs)).toOption = x.map (·, c :: rest)) :
    (readItems value (rounds + 1) cs).toOption =
      x.bind fun v =>
        if c = ',' then (readItems value rounds rest).toOption.map (Prod.map (v :: ·) id)
        else if c = ']' then some ([v], rest)
        else none := by
  cases hread : value (skipSpace cs) with
  | error f =>
      rw [hread] at hvalue
      cases x with
      | none => simp only [readItems, hread]; rfl
      | some v => cases hvalue
  | ok found =>
      rw [hread] at hvalue
      cases x with
      | none => cases hvalue
      | some v =>
          cases hvalue
          simp only [readItems, hread, skipSpace_cons hspace, Option.bind_some]
          split
          · next heq => cases heq
          · next more heq =>
            cases heq
            rw [if_pos rfl]
            cases readItems value rounds rest with
            | ok tail => rfl
            | error f => rfl
          · next more heq =>
            cases heq
            rw [if_neg (by decide), if_pos rfl]
            rfl
          · next hcomma hclose =>
            rw [if_neg fun hc => hcomma rest (by rw [hc]), if_neg fun hc => hclose rest (by rw [hc])]
            rfl

/-- One round of an object: a member, and what follows it. -/
theorem toOption_readMembers {value : List Char → Outcome Json} {key : String}
    (hkey : needsEscapes key.toList = false) (rounds : Nat) {j : Json} (hj : j.isTextual = true)
    {rest : List Char} {c : Char} {x : Option Json} (hspace : isSpace c = false)
    (hvalue : (value (j.write ++ c :: rest)).toOption = x.map (·, c :: rest)) :
    (readMembers value (rounds + 1) (writeMember key j ++ c :: rest)).toOption =
      x.bind fun v =>
        if c = ',' then (readMembers value rounds rest).toOption.map (Prod.map ((key, v) :: ·) id)
        else if c.toNat = 0x7d then some ([(key, v)], rest)
        else none := by
  have hsplit := splitString_writtenBody key.toList (':' :: (j.write ++ c :: rest))
  rw [writtenBody, hkey, if_neg Bool.false_ne_true] at hsplit
  have hquote : skipSpace (writeMember key j ++ c :: rest) =
      '"' :: (key.toList ++ '"' :: ':' :: (j.write ++ c :: rest)) := by
    simp only [writeMember, List.cons_append, List.append_assoc]
    exact skipSpace_cons (by decide) _
  have hcolon : skipSpace (':' :: (j.write ++ c :: rest)) = ':' :: (j.write ++ c :: rest) :=
    skipSpace_cons (by decide) _
  cases hread : value (j.write ++ c :: rest) with
  | error f =>
      rw [hread] at hvalue
      cases x with
      | none =>
          simp only [readMembers, hquote, readWritten, hsplit, hcolon, skipSpace_write hj, hread]
          rfl
      | some v => cases hvalue
  | ok found =>
      rw [hread] at hvalue
      cases x with
      | none => cases hvalue
      | some v =>
          cases hvalue
          simp only [readMembers, hquote, readWritten, hsplit, hcolon, skipSpace_write hj, hread,
            skipSpace_cons hspace, Option.bind_some, String.ofList_toList, beq_iff_eq]
          split
          · cases readMembers value rounds rest with
            | ok tail => rfl
            | error f => rfl
          · split
            · rfl
            · rfl

/-- The first of several constructs and the others are within a bound when the deepest is. -/
theorem bind_within {α β γ : Type} {n a b : Nat} {x : α} {y : β} (g : α → β → γ)
    (rest : List Char) :
    ((if a ≤ n then some x else none).bind fun v =>
      ((if b ≤ n then some y else none).map (·, rest)).map (Prod.map (g v) id)) =
      (if max a b ≤ n then some (g x y) else none).map (·, rest) := by
  by_cases ha : a ≤ n
  · by_cases hb : b ≤ n
    · rw [if_pos ha, if_pos hb, if_pos (Nat.max_le.2 ⟨ha, hb⟩)]
      rfl
    · rw [if_pos ha, if_neg hb, if_neg fun h => hb (Nat.max_le.1 h).2]
      rfl
  · rw [if_neg ha, if_neg fun h => ha (Nat.max_le.1 h).1]
    rfl

mutual

/-- **A written value is read back**, with its strings reread, exactly when it is not nested deeper
than the bound. -/
theorem readValue_write (n : Nat) (j : Json) (h : j.isTextual = true) (rest : List Char) :
    (readValue n (j.write ++ rest)).toOption =
      (if j.depth ≤ n then some (j.mapStrings readBack) else none).map (·, rest) := by
  cases n with
  | zero =>
      -- a bound of zero refuses every text but the empty one, and no value is written as that
      obtain ⟨c, cs, hwrite, -⟩ := exists_write_eq_cons h
      have hdepth : ¬j.depth ≤ 0 := Nat.not_le.2 j.depth_pos
      rw [if_neg hdepth, hwrite]
      rfl
  | succ n =>
      cases j with
      | null => rfl
      | bool b => cases b <;> rfl
      | number text => cases h
      | string s =>
          have hsplit := splitString_writtenBody s.toList rest
          simp [write, writeTreeString_eq, readValue, readWritten, hsplit, depth, mapStrings,
            readBack, Except.toOption]
      | array items =>
          cases items with
          | nil => rfl
          | cons v items =>
              have ih := readItems_write n v items h _ rest le_rfl
              obtain ⟨c, cs, hcs, hc⟩ := exists_writeItems_eq_cons h (']' :: rest)
              have hwrite : (array (v :: items)).write ++ rest =
                  '[' :: (writeItems 0 (v :: items) ++ ']' :: rest) := by
                simp [write]
              rw [hcs] at ih hwrite
              have hopen := of_mem_openers hc
              rw [hwrite, toOption_readValue_bracket n hopen.1 hopen.2.1, ih]
              simp only [depth, Nat.add_le_add_iff_right]
              split
              · rfl
              · rfl
      | object members =>
          cases members with
          | nil => rfl
          | cons m members =>
              cases m with
              | mk key v =>
                  have ih := readMembers_write n key v members h _ rest le_rfl
                  obtain ⟨cs, hcs⟩ :=
                    exists_writeMembers_eq_cons (key, v) members (Char.ofNat 0x7d :: rest)
                  have hwrite : (object ((key, v) :: members)).write ++ rest = Char.ofNat 0x7b ::
                      (writeMembers 0 ((key, v) :: members) ++ Char.ofNat 0x7d :: rest) := by
                    simp [write]
                  rw [hcs] at ih hwrite
                  rw [hwrite, toOption_readValue_brace n (by decide) (by decide), ih]
                  simp only [depth, Nat.add_le_add_iff_right]
                  split
                  · rfl
                  · rfl
termination_by sizeOf j
decreasing_by
  all_goals
    subst_vars
    simp only [Json.array.sizeOf_spec, Json.object.sizeOf_spec]
    omega

/-- Items are read back up to their closing bracket. -/
theorem readItems_write (n : Nat) (v : Json) (items : List Json)
    (h : areTextual (v :: items) = true) (rounds : Nat) (rest : List Char)
    (hrounds : (writeItems 0 (v :: items) ++ ']' :: rest).length ≤ rounds) :
    (readItems (readValue n) rounds (writeItems 0 (v :: items) ++ ']' :: rest)).toOption =
      (if depthAll (v :: items) ≤ n then some (mapStringsAll readBack (v :: items))
        else none).map (·, rest) := by
  have h' : v.isTextual = true ∧ areTextual items = true := by simpa [areTextual] using h
  cases rounds with
  | zero => simp at hrounds
  | succ rounds =>
      cases items with
      | nil =>
          rw [writeItems_singleton, toOption_readItems rounds (c := ']') (by decide)
            (by rw [skipSpace_write h'.1]; exact readValue_write n v h'.1 (']' :: rest))]
          simp only [depthAll, Nat.max_zero]
          split
          · rfl
          · rfl
      | cons w items =>
          -- each round takes at least the comma away from the text that bounds the rounds
          have hlength : (writeItems 0 (w :: items) ++ ']' :: rest).length ≤ rounds := by
            rw [writeItems_cons_cons] at hrounds
            simp only [List.length_append, List.length_cons] at hrounds ⊢
            omega
          have ih := readItems_write n w items h'.2 rounds rest hlength
          rw [writeItems_cons_cons, List.append_assoc, List.cons_append,
            toOption_readItems rounds (c := ',') (by decide)
              (by rw [skipSpace_write h'.1]; exact readValue_write n v h'.1 _)]
          simp only [if_true, ih]
          exact bind_within _ rest
termination_by sizeOf (v :: items)
decreasing_by
  all_goals
    subst_vars
    simp only [List.cons.sizeOf_spec]
    omega

/-- Members are read back up to their closing brace. -/
theorem readMembers_write (n : Nat) (key : String) (v : Json) (members : List (String × Json))
    (h : haveTextual ((key, v) :: members) = true) (rounds : Nat) (rest : List Char)
    (hrounds : (writeMembers 0 ((key, v) :: members) ++ Char.ofNat 0x7d :: rest).length ≤ rounds) :
    (readMembers (readValue n) rounds
        (writeMembers 0 ((key, v) :: members) ++ Char.ofNat 0x7d :: rest)).toOption =
      (if depthMembers ((key, v) :: members) ≤ n
        then some (mapStringsMembers readBack ((key, v) :: members)) else none).map (·, rest) := by
  have h' : (needsEscapes key.toList = false ∧ v.isTextual = true) ∧ haveTextual members = true := by
    simpa [haveTextual] using h
  cases rounds with
  | zero => simp at hrounds
  | succ rounds =>
      cases members with
      | nil =>
          rw [writeMembers_singleton h'.1.1, toOption_readMembers h'.1.1 rounds h'.1.2 (by decide)
            (readValue_write n v h'.1.2 _)]
          simp only [depthMembers, Nat.max_zero]
          split
          · rfl
          · rfl
      | cons m members =>
          cases m with
          | mk next w =>
              have hlength : (writeMembers 0 ((next, w) :: members) ++ Char.ofNat 0x7d :: rest).length ≤
                  rounds := by
                rw [writeMembers_cons_cons h'.1.1] at hrounds
                simp only [List.length_append, List.length_cons] at hrounds ⊢
                omega
              have ih := readMembers_write n next w members h'.2 rounds rest hlength
              rw [writeMembers_cons_cons h'.1.1, List.append_assoc, List.cons_append,
                toOption_readMembers h'.1.1 rounds h'.1.2 (by decide)
                  (readValue_write n v h'.1.2 _)]
              simp only [if_true, ih]
              exact bind_within (fun v ms => (key, v) :: ms) rest
termination_by sizeOf ((key, v) :: members)
decreasing_by
  all_goals
    subst_vars
    simp only [List.cons.sizeOf_spec, Prod.mk.sizeOf_spec]
    omega

end

/-- **What is read of the text of a textual value.** -/
theorem toOption_parse_toText {j : Json} (h : j.isTextual = true) :
    (parse j.toText).toOption =
      if j.depth ≤ maxDepth then some (j.mapStrings readBack) else none := by
  have hread := readValue_write maxDepth j h []
  have hspace := skipSpace_write h []
  rw [List.append_nil] at hread hspace
  unfold parse toText
  rw [String.toList_ofList, hspace]
  cases hvalue : readValue maxDepth j.write with
  | ok found =>
      rw [hvalue] at hread
      split at hread
      · next hdepth =>
        cases hread
        rw [if_pos hdepth]
        rfl
      · cases hread
  | error f =>
      rw [hvalue] at hread
      split at hread
      · cases hread
      · next hdepth =>
        rw [if_neg hdepth]
        rfl

/-! ### Texts that are JSON texts -/

theorem NumberText.exists_head {cs : List Char} (h : NumberText cs) :
    ∃ c more, cs = c :: more ∧ (c = '-' ∨ c.isDigit = true) := by
  obtain ⟨sign, whole, fraction, exponent, rfl, rfl | rfl, hwhole, -, -⟩ := h
  · cases hwhole with
    | zero => exact ⟨_, _, rfl, Or.inr rfl⟩
    | digits hd _ _ => exact ⟨_, _, rfl, Or.inr hd⟩
  · exact ⟨_, _, rfl, Or.inl rfl⟩

theorem NumberText.append_ne {v rest cs : List Char} {c : Char} (h : NumberText v)
    (hc : ¬(c = '-' ∨ c.isDigit = true)) : v ++ rest ≠ c :: cs := by
  obtain ⟨d, more, rfl, hd⟩ := h.exists_head
  intro heq
  cases heq
  exact hc hd

theorem BlankText.eq_nil {a rest cs : List Char} {c : Char} (ha : BlankText a)
    (hc : c ∉ [' ', '\t', '\n', '\r']) (h : a ++ rest = c :: cs) : a = [] := by
  cases a with
  | nil => rfl
  | cons d a =>
      cases h
      exact absurd (ha c List.mem_cons_self) hc

theorem ValueText.of_quote {v rest cs : List Char} (hv : ValueText v) (h : v ++ rest = '"' :: cs) :
    StringText v := by
  cases hv with
  | string hs => exact hs
  | number hn => exact absurd h (hn.append_ne (by decide))
  | _ => simp at h

theorem ValueText.of_bracket {v rest cs : List Char} (hv : ValueText v) (h : v ++ rest = '[' :: cs) :
    ∃ inner, v = '[' :: (inner ++ [']']) ∧ (BlankText inner ∨ ItemsText inner) := by
  cases hv with
  | emptyArray hws => exact ⟨_, rfl, Or.inl hws⟩
  | array hitems => exact ⟨_, rfl, Or.inr hitems⟩
  | number hn => exact absurd h (hn.append_ne (by decide))
  | string hs =>
      obtain ⟨body, -, rfl⟩ := hs
      simp at h
  | _ => simp at h

theorem ValueText.of_brace {v rest cs : List Char} (hv : ValueText v)
    (h : v ++ rest = Char.ofNat 0x7b :: cs) :
    ∃ inner, v = Char.ofNat 0x7b :: (inner ++ [Char.ofNat 0x7d]) ∧
      (BlankText inner ∨ MembersText inner) := by
  cases hv with
  | emptyObject hws => exact ⟨_, rfl, Or.inl hws⟩
  | object hmembers => exact ⟨_, rfl, Or.inr hmembers⟩
  | number hn => exact absurd h (hn.append_ne (by decide))
  | string hs =>
      obtain ⟨body, -, rfl⟩ := hs
      simp at h
  | _ => simp at h

/-- No value starts with the bracket that closes an array. -/
theorem ValueText.append_ne_close {v rest cs : List Char} (hv : ValueText v) :
    v ++ rest ≠ ']' :: cs := by
  intro h
  cases hv with
  | number hn => exact absurd h (hn.append_ne (by decide))
  | string hs =>
      obtain ⟨body, -, rfl⟩ := hs
      simp at h
  | _ => simp at h

/-- A body that the grammar derives and one that was written end at the same quote. -/
theorem BodyText.eq_of_append {body cs rest rest' : List Char} (hbody : BodyText body)
    (h : body ++ '"' :: rest = writtenBody cs ++ '"' :: rest') :
    body = writtenBody cs ∧ rest = rest' := by
  have hsplit := hbody.splitString rest
  rw [h, splitString_writtenBody] at hsplit
  cases hsplit
  exact ⟨rfl, rfl⟩

theorem ValueText.of_word {w v rest rest' : List Char}
    (hw : w = ['n', 'u', 'l', 'l'] ∨ w = ['t', 'r', 'u', 'e'] ∨ w = ['f', 'a', 'l', 's', 'e'])
    (hv : ValueText v) (h : v ++ rest = w ++ rest') : rest = rest' := by
  cases hv with
  | number hn =>
      rcases hw with rfl | rfl | rfl
      all_goals exact absurd h (hn.append_ne (by decide))
  | string hs =>
      obtain ⟨body, -, rfl⟩ := hs
      rcases hw with rfl | rfl | rfl
      all_goals simp at h
  | _ =>
      rcases hw with rfl | rfl | rfl
      all_goals simp at h
      all_goals exact h

/-- The first item of an array, and what follows it. -/
theorem ItemsText.exists_first {cs : List Char} (h : ItemsText cs) :
    ∃ a v b tail, cs = a ++ (v ++ (b ++ tail)) ∧ BlankText a ∧ ValueText v ∧ BlankText b ∧
      (tail = [] ∨ ∃ more, tail = ',' :: more ∧ ItemsText more) := by
  cases h with
  | last ha hv hb => exact ⟨_, _, _, [], by rw [List.append_nil], ha, hv, hb, Or.inl rfl⟩
  | more ha hv hb hmore => exact ⟨_, _, _, _, rfl, ha, hv, hb, Or.inr ⟨_, rfl, hmore⟩⟩

/-- The first member of an object, and what follows it. -/
theorem MembersText.exists_first {cs : List Char} (h : MembersText cs) :
    ∃ a key b c v d tail, cs = a ++ (key ++ (b ++ ':' :: (c ++ (v ++ (d ++ tail))))) ∧
      BlankText a ∧ StringText key ∧ BlankText b ∧ BlankText c ∧ ValueText v ∧ BlankText d ∧
      (tail = [] ∨ ∃ more, tail = ',' :: more ∧ MembersText more) := by
  cases h with
  | last ha hkey hb hc hv hd =>
      exact ⟨_, _, _, _, _, _, [], by rw [List.append_nil], ha, hkey, hb, hc, hv, hd, Or.inl rfl⟩
  | more ha hkey hb hc hv hd hmore =>
      exact ⟨_, _, _, _, _, _, _, rfl, ha, hkey, hb, hc, hv, hd, Or.inr ⟨_, rfl, hmore⟩⟩

/-- The value of a member stands directly behind its key and its colon. -/
theorem behind_key {key : String} (hkey : needsEscapes key.toList = false) {x : Json}
    (hx : x.isTextual = true) {body b c rest rest' : List Char} (hbody : BodyText body)
    (hb : BlankText b) (hc : BlankText c)
    (h : '"' :: (body ++ '"' :: (b ++ ':' :: (c ++ rest))) = writeMember key x ++ rest') :
    rest = x.write ++ rest' := by
  -- the two keys end at the same quote, and behind it no white space was written
  have hplain : writtenBody key.toList = key.toList := by rw [writtenBody, hkey]; rfl
  have hclose : body ++ '"' :: (b ++ ':' :: (c ++ rest)) =
      writtenBody key.toList ++ '"' :: ':' :: (x.write ++ rest') := by
    rw [hplain]
    simpa [writeMember] using h
  have hcolon := (hbody.eq_of_append hclose).2
  rw [hb.eq_nil (by decide) hcolon] at hcolon
  have hvalue : c ++ rest = x.write ++ rest' := (List.cons.inj hcolon).2
  obtain ⟨o, more, hwrite, ho⟩ := exists_write_eq_cons hx
  rw [hwrite] at hvalue ⊢
  rw [hc.eq_nil (of_mem_openers ho).2.2 hvalue] at hvalue
  exact hvalue

mutual

/-- **A JSON value that a text starts with is the value that was written there**, and nothing of it
was lost. -/
theorem restored_of_valueText (j : Json) (hj : j.isTextual = true) {v rest rest' : List Char}
    (hv : ValueText v) (h : v ++ rest = j.write ++ rest') :
    rest = rest' ∧ j.mapStrings readBack = j := by
  cases j with
  | null => exact ⟨hv.of_word (Or.inl rfl) h, rfl⟩
  | bool b =>
      cases b with
      | true => exact ⟨hv.of_word (Or.inr (Or.inl rfl)) h, rfl⟩
      | false => exact ⟨hv.of_word (Or.inr (Or.inr rfl)) h, rfl⟩
  | number text => cases hj
  | string s =>
      rw [write, writeTreeString_eq] at h
      obtain ⟨body, hbody, rfl⟩ := hv.of_quote h
      have h' : body ++ '"' :: rest = writtenBody s.toList ++ '"' :: rest' := by simpa using h
      obtain ⟨rfl, hrest⟩ := hbody.eq_of_append h'
      have hback : readBack s = s := (readBack_eq_self_iff s).2 ((bodyText_writtenBody_iff s).1 hbody)
      exact ⟨hrest, by rw [mapStrings, hback]⟩
  | array items =>
      obtain ⟨inner, rfl, hinner⟩ := hv.of_bracket h
      have h' : inner ++ ']' :: rest = writeItems 0 items ++ ']' :: rest' := by simpa [write] using h
      -- blanks may stand in a JSON text, but none was written: what follows is never white space
      cases items with
      | nil =>
          rcases hinner with hblank | hitems
          · have hnil := hblank.eq_nil (by decide) h'
            rw [hnil] at h'
            exact ⟨(List.cons.inj h').2, rfl⟩
          · obtain ⟨a, v, b, tail, rfl, ha, hv, -, -⟩ := hitems.exists_first
            simp only [List.append_assoc] at h'
            rw [ha.eq_nil (by decide) h'] at h'
            exact absurd h' hv.append_ne_close
      | cons x items =>
          rcases hinner with hblank | hitems
          · obtain ⟨c, cs, hwrite, hc⟩ := exists_writeItems_eq_cons hj (']' :: rest')
            rw [hwrite] at h'
            rw [hblank.eq_nil (of_mem_openers hc).2.2 h'] at h'
            cases h'
            exact absurd hc (by decide)
          · obtain ⟨hrest, hback⟩ := restored_of_itemsText x items hj hitems h'
            exact ⟨hrest, by rw [mapStrings, hback]⟩
  | object members =>
      obtain ⟨inner, rfl, hinner⟩ := hv.of_brace h
      have h' : inner ++ Char.ofNat 0x7d :: rest =
          writeMembers 0 members ++ Char.ofNat 0x7d :: rest' := by
        simpa [write] using h
      cases members with
      | nil =>
          rcases hinner with hblank | hmembers
          · have hnil := hblank.eq_nil (by decide) h'
            rw [hnil] at h'
            exact ⟨(List.cons.inj h').2, rfl⟩
          · obtain ⟨a, key, b, c, v, d, tail, rfl, ha, ⟨body, -, rfl⟩, -⟩ := hmembers.exists_first
            simp only [List.append_assoc] at h'
            rw [ha.eq_nil (by decide) h'] at h'
            simp [writeMembers] at h'
      | cons m members =>
          rcases hinner with hblank | hmembers
          · obtain ⟨cs, hwrite⟩ := exists_writeMembers_eq_cons m members (Char.ofNat 0x7d :: rest')
            rw [hwrite] at h'
            rw [hblank.eq_nil (by decide) h'] at h'
            simp at h'
          · cases m with
            | mk key x =>
                obtain ⟨hrest, hback⟩ := restored_of_membersText key x members hj hmembers h'
                exact ⟨hrest, by rw [mapStrings, hback]⟩
termination_by sizeOf j
decreasing_by
  all_goals
    subst_vars
    simp only [Json.array.sizeOf_spec, Json.object.sizeOf_spec]
    omega

theorem restored_of_itemsText (x : Json) (items : List Json) (hj : areTextual (x :: items) = true)
    {cs rest rest' : List Char} (hcs : ItemsText cs)
    (h : cs ++ ']' :: rest = writeItems 0 (x :: items) ++ ']' :: rest') :
    rest = rest' ∧ mapStringsAll readBack (x :: items) = x :: items := by
  have hj' : x.isTextual = true ∧ areTextual items = true := by simpa [areTextual] using hj
  obtain ⟨a, v, b, tail, rfl, ha, hv, hb, htail⟩ := hcs.exists_first
  obtain ⟨c, more, hwrite, hc⟩ := exists_writeItems_eq_cons hj (']' :: rest')
  simp only [List.append_assoc] at h
  rw [ha.eq_nil (of_mem_openers hc).2.2 (h.trans hwrite), List.nil_append] at h
  cases items with
  | nil =>
      rw [writeItems_singleton] at h
      obtain ⟨hbehind, hback⟩ := restored_of_valueText x hj'.1 hv h
      rw [hb.eq_nil (by decide) hbehind, List.nil_append] at hbehind
      rcases htail with rfl | ⟨more, rfl, -⟩
      · exact ⟨(List.cons.inj hbehind).2, by rw [mapStringsAll, hback]; rfl⟩
      · simp at hbehind
  | cons y items =>
      rw [writeItems_cons_cons, List.append_assoc] at h
      obtain ⟨hbehind, hback⟩ := restored_of_valueText x hj'.1 hv h
      rw [hb.eq_nil (by decide) hbehind, List.nil_append] at hbehind
      rcases htail with rfl | ⟨more, rfl, hmore⟩
      · simp at hbehind
      · obtain ⟨hrest, hbacks⟩ :=
          restored_of_itemsText y items hj'.2 hmore (List.cons.inj hbehind).2
        exact ⟨hrest, by rw [mapStringsAll, hback, hbacks]⟩
termination_by sizeOf (x :: items)
decreasing_by
  all_goals
    subst_vars
    simp only [List.cons.sizeOf_spec]
    omega

theorem restored_of_membersText (key : String) (x : Json) (members : List (String × Json))
    (hj : haveTextual ((key, x) :: members) = true) {cs rest rest' : List Char}
    (hcs : MembersText cs)
    (h : cs ++ Char.ofNat 0x7d :: rest =
      writeMembers 0 ((key, x) :: members) ++ Char.ofNat 0x7d :: rest') :
    rest = rest' ∧ mapStringsMembers readBack ((key, x) :: members) = (key, x) :: members := by
  have hj' : (needsEscapes key.toList = false ∧ x.isTextual = true) ∧ haveTextual members = true := by
    simpa [haveTextual] using hj
  obtain ⟨a, k, b, c, v, d, tail, rfl, ha, ⟨body, hbody, rfl⟩, hb, hc, hv, hd, htail⟩ :=
    hcs.exists_first
  obtain ⟨more, hwrite⟩ := exists_writeMembers_eq_cons (key, x) members (Char.ofNat 0x7d :: rest')
  simp only [List.append_assoc, List.cons_append, List.nil_append] at h
  rw [ha.eq_nil (by decide) (h.trans hwrite), List.nil_append] at h
  cases members with
  | nil =>
      rw [writeMembers_singleton hj'.1.1] at h
      obtain ⟨hbehind, hback⟩ :=
        restored_of_valueText x hj'.1.2 hv (behind_key hj'.1.1 hj'.1.2 hbody hb hc h)
      rw [hd.eq_nil (by decide) hbehind, List.nil_append] at hbehind
      rcases htail with rfl | ⟨more, rfl, -⟩
      · exact ⟨(List.cons.inj hbehind).2, by rw [mapStringsMembers, hback]; rfl⟩
      · simp at hbehind
  | cons m members =>
      cases m with
      | mk next y =>
          rw [writeMembers_cons_cons hj'.1.1, List.append_assoc] at h
          obtain ⟨hbehind, hback⟩ :=
            restored_of_valueText x hj'.1.2 hv (behind_key hj'.1.1 hj'.1.2 hbody hb hc h)
          rw [hd.eq_nil (by decide) hbehind, List.nil_append] at hbehind
          rcases htail with rfl | ⟨more, rfl, hmore⟩
          · simp at hbehind
          · obtain ⟨hrest, hbacks⟩ :=
              restored_of_membersText next y members hj'.2 hmore (List.cons.inj hbehind).2
            exact ⟨hrest, by rw [mapStringsMembers, hback, hbacks]⟩
termination_by sizeOf ((key, x) :: members)
decreasing_by
  all_goals
    subst_vars
    simp only [List.cons.sizeOf_spec, Prod.mk.sizeOf_spec]
    omega

end

theorem blankText_nil : BlankText [] := by
  intro c hc
  cases hc

theorem stringText_writeTreeString {s : String} (h : readBack s = s) :
    StringText (writeTreeString s.toList) :=
  ⟨_, (bodyText_writtenBody_iff s).2 ((readBack_eq_self_iff s).1 h), writeTreeString_eq _⟩

theorem stringText_key {key : String} (h : needsEscapes key.toList = false) :
    StringText ('"' :: (key.toList ++ ['"'])) :=
  ⟨_, bodyText_of_plain (plain_of_not_needsEscapes h), rfl⟩

mutual

/-- **A value that loses nothing is written as a JSON value.** -/
theorem valueText_write (j : Json) (hj : j.isTextual = true) (h : j.mapStrings readBack = j) :
    ValueText j.write := by
  cases j with
  | null => exact .null
  | bool b =>
      cases b with
      | true => exact .true
      | false => exact .false
  | number text => cases hj
  | string s =>
      rw [mapStrings, Json.string.injEq] at h
      exact .string (stringText_writeTreeString h)
  | array items =>
      rw [mapStrings, Json.array.injEq] at h
      cases items with
      | nil => exact .emptyArray blankText_nil
      | cons x items => exact .array (itemsText_write x items hj h)
  | object members =>
      rw [mapStrings, Json.object.injEq] at h
      cases members with
      | nil => exact .emptyObject blankText_nil
      | cons m members =>
          cases m with
          | mk key x => exact .object (membersText_write key x members hj h)
termination_by sizeOf j
decreasing_by
  all_goals
    subst_vars
    simp only [Json.array.sizeOf_spec, Json.object.sizeOf_spec]
    omega

theorem itemsText_write (x : Json) (items : List Json) (hj : areTextual (x :: items) = true)
    (h : mapStringsAll readBack (x :: items) = x :: items) :
    ItemsText (writeItems 0 (x :: items)) := by
  have hj' : x.isTextual = true ∧ areTextual items = true := by simpa [areTextual] using hj
  rw [mapStringsAll, List.cons.injEq] at h
  have hx := valueText_write x hj'.1 h.1
  cases items with
  | nil =>
      have hlast := ItemsText.last blankText_nil hx blankText_nil
      rwa [List.nil_append, List.append_nil, ← writeItems_singleton] at hlast
  | cons y items =>
      have hmore := ItemsText.more blankText_nil hx blankText_nil
        (itemsText_write y items hj'.2 h.2)
      rwa [List.nil_append, List.nil_append, ← writeItems_cons_cons] at hmore
termination_by sizeOf (x :: items)
decreasing_by
  all_goals
    subst_vars
    simp only [List.cons.sizeOf_spec]
    omega

theorem membersText_write (key : String) (x : Json) (members : List (String × Json))
    (hj : haveTextual ((key, x) :: members) = true)
    (h : mapStringsMembers readBack ((key, x) :: members) = (key, x) :: members) :
    MembersText (writeMembers 0 ((key, x) :: members)) := by
  have hj' : (needsEscapes key.toList = false ∧ x.isTextual = true) ∧ haveTextual members = true := by
    simpa [haveTextual] using hj
  rw [mapStringsMembers, List.cons.injEq, Prod.mk.injEq] at h
  have hkey := stringText_key hj'.1.1
  have hx := valueText_write x hj'.1.2 h.1.2
  cases members with
  | nil =>
      have hlast := MembersText.last blankText_nil hkey blankText_nil blankText_nil hx blankText_nil
      rw [writeMembers_singleton hj'.1.1, writeMember]
      simpa using hlast
  | cons m members =>
      cases m with
      | mk next y =>
          have hmore := MembersText.more blankText_nil hkey blankText_nil blankText_nil hx
            blankText_nil (membersText_write next y members hj'.2 h.2)
          rw [writeMembers_cons_cons hj'.1.1, writeMember]
          simpa using hmore
termination_by sizeOf ((key, x) :: members)
decreasing_by
  all_goals
    subst_vars
    simp only [List.cons.sizeOf_spec, Prod.mk.sizeOf_spec]
    omega

end

/-- **The text of a textual value is a JSON text exactly when reading it back loses nothing.** -/
theorem jsonText_write_iff {j : Json} (hj : j.isTextual = true) :
    JsonText j.write ↔ j.mapStrings readBack = j := by
  constructor
  · rintro ⟨a, v, b, ha, hv, -, h⟩
    obtain ⟨c, cs, hwrite, hc⟩ := exists_write_eq_cons hj
    rw [ha.eq_nil (of_mem_openers hc).2.2 (h.symm.trans hwrite), List.nil_append] at h
    have h' : v ++ b = j.write ++ [] := by rw [List.append_nil, h]
    exact (restored_of_valueText j hj hv h').2
  · intro h
    exact ⟨[], j.write, [], blankText_nil, valueText_write j hj h, blankText_nil, by simp⟩

end DocQuery.Json
