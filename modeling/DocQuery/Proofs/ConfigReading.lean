import DocQuery.Proofs.CanonicalForm
import DocQuery.Proofs.ConfigTokens

/-!
# DocQuery.Proofs.ConfigReading

**JSON texts are configuration files.** A text that denotes a document as JSON is read as the struct
with the same fields (`parse?_of_denotes`), when the document names no field twice and the text has
no byte order mark, which configuration files refuse even inside strings.

What is left to show is that tokens are read as the value they spell (`ValueTokens.reads`). Fields
are unified one after another with those before them, and a field with a new name is added at the
end (`unifyFields_new`), so that the order of fields is that of the text.
-/

namespace DocQuery.Config

open Json (BlankText StringMeans BodySpells ListMeans MemberMeans Means Denotes)

mutual

/-- The configuration value that a value is. -/
def ofValue : Value → Config
  | .bool b => .bool b
  | .string s => .string s
  | .number text => .number text
  | .array items => .list (ofItems items)
  | .document d => .struct (ofElements d)
  | _ => .null

/-- The items of a list. -/
def ofItems : List Value → List Config
  | [] => []
  | v :: rest => ofValue v :: ofItems rest

/-- The fields of a struct. -/
def ofElements : List (String × Value) → List (String × Config)
  | [] => []
  | (name, v) :: rest => (name, ofValue v) :: ofElements rest

end

theorem ofItems_eq_map (items : List Value) : ofItems items = items.map ofValue := by
  induction items with
  | nil => rfl
  | cons v items ih => rw [ofItems, ih, List.map_cons]

theorem ofElements_eq_map (d : Document) : ofElements d = d.map fun e => (e.1, ofValue e.2) := by
  induction d with
  | nil => rfl
  | cons e d ih => rw [ofElements, ih, List.map_cons]

/-! ### Tokens are read as values -/

theorem ValueTokens.exists_cons {ts : List Token} {v : Value} (h : ValueTokens ts v) :
    ∃ t more, ts = t :: more ∧ t ≠ .mark ']' ∧ ((label? t).isSome → more = []) := by
  cases h with
  | null => exact ⟨_, _, rfl, by simp, fun _ => rfl⟩
  | true => exact ⟨_, _, rfl, by simp, fun _ => rfl⟩
  | false => exact ⟨_, _, rfl, by simp, fun _ => rfl⟩
  | number => exact ⟨_, _, rfl, by simp, fun _ => rfl⟩
  | string => exact ⟨_, _, rfl, by simp, fun _ => rfl⟩
  | emptyList => exact ⟨_, _, rfl, by simp, fun h => by cases h⟩
  | list _ => exact ⟨_, _, rfl, by simp, fun h => by cases h⟩
  | emptyStruct => exact ⟨_, _, rfl, by decide, fun h => by cases h⟩
  | struct _ => exact ⟨_, _, rfl, by decide, fun h => by cases h⟩

/-- Fields with new names are added behind the others. -/
theorem unifyFields_new {fs gs : List (String × Config)}
    (h : (fs.map Prod.fst ++ gs.map Prod.fst).Nodup) : unifyFields fs gs = some (fs ++ gs) := by
  induction gs generalizing fs with
  | nil => simp [unifyFields]
  | cons g gs ih =>
      have hnew : fs.find? (fun f => f.1 == g.1) = none := by
        rw [List.find?_eq_none]
        intro f hf heq
        rw [List.nodup_append] at h
        exact h.2.2 f.1 (List.mem_map_of_mem hf) g.1 (by simp) (eq_of_beq heq)
      have hrest : unifyFields (fs ++ [g]) gs = some (fs ++ [g] ++ gs) := ih (by simpa using h)
      rw [unifyFields, hnew]
      simpa using hrest

section Readers

variable {value : List Token → Option (Config × List Token)}

theorem readItems_close {ts : List Token} {v : Value} (h : ValueTokens ts v) {rest : List Token}
    (hread : value (ts ++ .mark ']' :: rest) = some (ofValue v, .mark ']' :: rest)) (rounds : Nat) :
    readItems value (rounds + 1) (ts ++ .mark ']' :: rest) = some ([ofValue v], rest) := by
  obtain ⟨t, more, rfl, ht, -⟩ := h.exists_cons
  rw [List.cons_append] at hread ⊢
  rw [readItems, hread]
  · rfl
  · intro ts heq
    exact ht (List.cons.inj heq).1

theorem readItems_comma {ts : List Token} {v : Value} (h : ValueTokens ts v)
    {rest after : List Token} {items : List Config} {rounds : Nat}
    (hread : value (ts ++ .mark ',' :: rest) = some (ofValue v, .mark ',' :: rest))
    (hrest : readItems value rounds rest = some (items, after)) :
    readItems value (rounds + 1) (ts ++ .mark ',' :: rest) =
      some (ofValue v :: items, after) := by
  obtain ⟨t, more, rfl, ht, -⟩ := h.exists_cons
  rw [List.cons_append] at hread ⊢
  rw [readItems, hread]
  · simp only [Option.bind_eq_bind, Option.bind_some, hrest]
    rfl
  · intro ts heq
    exact ht (List.cons.inj heq).1

/-- Items are read as a list. -/
theorem readItems_of_tokens {ts : List Token} {items : List Value}
    (h : ListTokens ValueTokens ts items)
    (hvalue : ∀ ts' v, ts'.length ≤ ts.length → v ∈ items → ValueTokens ts' v → ∀ rest,
      value (ts' ++ rest) = some (ofValue v, rest)) {rounds : Nat} (hrounds : ts.length < rounds)
    (rest : List Token) :
    readItems value rounds (ts ++ .mark ']' :: rest) = some (items.map ofValue, rest) := by
  induction h generalizing rounds with
  | @last ts v hv =>
      cases rounds with
      | zero => exact absurd hrounds (Nat.not_lt_zero _)
      | succ rounds => exact readItems_close hv (hvalue ts v (Nat.le_refl _) (by simp) hv _) rounds
  | @lastLine ts v hv =>
      match rounds, hrounds with
      | rounds + 2, _ =>
          rw [List.append_assoc]
          exact readItems_comma hv (hvalue ts v (by simp) (by simp) hv _) rfl
      | 1, hrounds => simp at hrounds
  | @more ts tail v items hv _ ih =>
      cases rounds with
      | zero => exact absurd hrounds (Nat.not_lt_zero _)
      | succ rounds =>
          rw [List.append_assoc]
          refine readItems_comma hv (hvalue ts v (by simp) (by simp) hv _) (ih ?_ ?_)
          · intro ts' w hts' hw
            exact hvalue ts' w (by simp; omega) (List.mem_cons_of_mem _ hw)
          · simp at hrounds
            omega

theorem readField_of_tokens {ts : List Token} {e : String × Value}
    (h : FieldTokens ValueTokens ts e) {c : Token} (hc : c ≠ .mark ':') {rest : List Token}
    (hvalue : ∀ ts', ts'.length ≤ ts.length → ValueTokens ts' e.2 →
      value (ts' ++ c :: rest) = some (ofValue e.2, c :: rest)) :
    readField value (ts ++ c :: rest) = some (.struct [(e.1, ofValue e.2)], c :: rest) := by
  cases h with
  | @mk ts k v hv =>
      have hread := hvalue ts (by simp; omega) hv
      obtain ⟨t, more, rfl, -, hlabel⟩ := hv.exists_cons
      -- a string is not the label of a further field, because no colon follows it
      have hlast : ∀ d ds, more ++ c :: rest = d :: ds →
          ((label? t).isSome && d == .mark ':') = false := by
        intro d ds hds
        cases hsome : (label? t).isSome with
        | false => rfl
        | true =>
            rw [hlabel hsome] at hds
            cases hds
            simpa using hc
      obtain ⟨d, ds, hds⟩ : ∃ d ds, more ++ c :: rest = d :: ds := by
        cases more with
        | nil => exact ⟨_, _, rfl⟩
        | cons d more => exact ⟨_, _, rfl⟩
      simp only [List.cons_append, hds] at hread ⊢
      rw [readField, hlast d ds hds, hread]
      rfl

theorem readFields_close {fs : List (String × Config)} (rest : List Token) (rounds : Nat) :
    readFields value (rounds + 1) (.struct fs) (.mark closeBrace :: rest) =
      some (.struct fs, rest) := by
  rw [readFields]
  rfl

/-- A field with a new name is added, and what follows it decides how to go on. -/
theorem readFields_field {ts : List Token} {e : String × Value} (h : FieldTokens ValueTokens ts e)
    {c : Char} (hc : c ≠ ':') {rest : List Token}
    (hvalue : ∀ ts', ts'.length ≤ ts.length → ValueTokens ts' e.2 →
      value (ts' ++ .mark c :: rest) = some (ofValue e.2, .mark c :: rest))
    {fs : List (String × Config)} (hkeys : (fs.map Prod.fst ++ [e.1]).Nodup) (rounds : Nat) :
    readFields value (rounds + 1) (.struct fs) (ts ++ .mark c :: rest) =
      if c = ',' then readFields value rounds (.struct (fs ++ [(e.1, ofValue e.2)])) rest
      else if c == closeBrace then some (.struct (fs ++ [(e.1, ofValue e.2)]), rest)
      else none := by
  have hfield := readField_of_tokens h (c := .mark c) (by simpa using hc) hvalue
  have hnew : unify (.struct fs) (.struct [(e.1, ofValue e.2)]) =
      some (.struct (fs ++ [(e.1, ofValue e.2)])) := by
    rw [unify, unifyFields_new (by simpa using hkeys)]
    rfl
  have hhead : ((ts ++ .mark c :: rest).head? == some (.mark closeBrace)) = false := by
    cases h with
    | mk hv => rfl
  rw [readFields, hhead, hfield]
  simp only [Bool.false_eq_true, if_false, Option.bind_eq_bind, Option.bind_some, hnew]
  by_cases hcomma : c = ','
  · subst hcomma
    rfl
  · rw [if_neg hcomma]
    split
    · next heq => simp at heq; exact absurd heq.1 hcomma
    · next heq => cases heq; rfl
    · next heq => exact absurd rfl (heq _ _)

/-- Fields with new names are added to those that were read before. -/
theorem readFields_of_tokens {ts : List Token} {d : Document}
    (h : ListTokens (FieldTokens ValueTokens) ts d)
    (hvalue : ∀ ts' e, ts'.length ≤ ts.length → e ∈ d → ValueTokens ts' e.2 → ∀ rest,
      value (ts' ++ rest) = some (ofValue e.2, rest)) {rounds : Nat} (hrounds : ts.length < rounds)
    {fs : List (String × Config)} (hkeys : (fs.map Prod.fst ++ d.keys).Nodup) (rest : List Token) :
    readFields value rounds (.struct fs) (ts ++ .mark closeBrace :: rest) =
      some (.struct (fs ++ ofElements d), rest) := by
  induction h generalizing rounds fs with
  | @last ts e he =>
      cases rounds with
      | zero => exact absurd hrounds (Nat.not_lt_zero _)
      | succ rounds =>
          rw [readFields_field he (by decide) (fun ts' hts' hv =>
            hvalue ts' e hts' (by simp) hv _) hkeys]
          rfl
  | @lastLine ts e he =>
      match rounds, hrounds with
      | rounds + 2, _ =>
          rw [List.append_assoc, List.cons_append, List.nil_append,
            readFields_field he (by decide) (fun ts' hts' hv =>
              hvalue ts' e (by simp; omega) (by simp) hv _) hkeys, if_pos rfl, readFields_close]
          rfl
      | 1, hrounds => simp at hrounds
  | @more ts tail e d he _ ih =>
      cases rounds with
      | zero => exact absurd hrounds (Nat.not_lt_zero _)
      | succ rounds =>
          have hfirst : (fs.map Prod.fst ++ [e.1]).Nodup := by
            refine hkeys.sublist (List.Sublist.append_left ?_ _)
            simp
          have htail := @ih (fun ts' w hts' hw =>
            hvalue ts' w (by simp; omega) (List.mem_cons_of_mem _ hw)) rounds
            (by simp at hrounds; omega) (fs ++ [(e.1, ofValue e.2)]) (by simpa using hkeys)
          rw [List.append_assoc, List.cons_append, readFields_field he (by decide)
            (fun ts' hts' hv => hvalue ts' e (by simp; omega) (by simp) hv _) hfirst, if_pos rfl,
            htail]
          simp [ofElements]

end Readers

/-- **The tokens of a value are read as that value.** -/
theorem ValueTokens.reads {ts : List Token} {v : Value} (h : ValueTokens ts v)
    (hkeys : v.DistinctKeys) {depth : Nat} (hdepth : ts.length ≤ depth) (rest : List Token) :
    readValue depth (ts ++ rest) = some (ofValue v, rest) := by
  -- the entries of a list or a struct have fewer tokens and are nested one level deeper
  induction depth generalizing ts v rest with
  | zero =>
      obtain ⟨t, more, rfl, -⟩ := h.exists_cons
      simp at hdepth
  | succ depth ih =>
      cases h with
      | null => rfl
      | true => rfl
      | false => rfl
      | number => rfl
      | string => rfl
      | emptyList => rfl
      | emptyStruct =>
          show readFields _ _ _ (.mark closeBrace :: rest) = _
          rw [readFields_close]
          rfl
      | @list ts items h =>
          have hitem := Value.everyKeys_array.1 hkeys
          have hlist : readItems (readValue depth) ((ts ++ .mark ']' :: rest).length + 1)
              (ts ++ .mark ']' :: rest) = some (items.map ofValue, rest) := by
            refine readItems_of_tokens h ?_ (by simp) rest
            intro ts' w hts' hw htokens
            exact ih htokens (hitem w hw) (by simp at hdepth; omega)
          rw [List.cons_append, List.append_assoc, List.cons_append, List.nil_append, readValue]
          simp only [beq_self_eq_true, if_true, hlist, Option.bind_eq_bind, Option.bind_some]
          rw [ofValue, ofItems_eq_map]
          rfl
      | @struct ts d h =>
          obtain ⟨hnodup, helement⟩ := Value.everyKeys_document.1 hkeys
          have hfields : readFields (readValue depth) ((ts ++ .mark closeBrace :: rest).length + 1)
              (.struct []) (ts ++ .mark closeBrace :: rest) =
                some (.struct ([] ++ ofElements d), rest) := by
            refine readFields_of_tokens h ?_ (by simp) (by simpa using hnodup) rest
            intro ts' e hts' he htokens
            exact ih htokens (helement e he) (by simp at hdepth; omega)
          rw [List.cons_append, List.append_assoc, List.cons_append, List.nil_append, readValue]
          exact hfields

/-! ### Files -/

theorem bodySpells_noNul {body : List Char} {us : List Nat} (h : BodySpells body us) :
    '\x00' ∉ body := by
  have hhex : '\x00' ∉ Json.hexLetters := by decide
  induction h with
  | nil => simp
  | plain hc _ _ _ ih =>
      refine List.not_mem_cons_of_ne_of_not_mem ?_ ih
      rintro rfl
      exact absurd hc (by decide)
  | letter hx _ ih =>
      refine List.not_mem_cons_of_ne_of_not_mem (by decide)
        (List.not_mem_cons_of_ne_of_not_mem ?_ ih)
      rintro rfl
      cases hx
  | @code a b c d n rest us hn _ ih =>
      have hdigits : '\x00' ∉ [a, b, c, d] := fun h =>
        hhex (Json.mem_hexLetters_of_hexNumber? hn _ h)
      have hall : '\x00' ∉ ['\\', 'u'] ++ ([a, b, c, d] ++ rest) := by
        rw [List.mem_append, List.mem_append]
        exact not_or.2 ⟨by decide, not_or.2 ⟨hdigits, ih⟩⟩
      exact hall

theorem blankText_noNul {b : List Char} (h : BlankText b) : '\x00' ∉ b :=
  fun hmem => absurd (h _ hmem) (by decide)

theorem stringMeans_noNul {t : List Char} {s : String} (h : StringMeans t s) : '\x00' ∉ t := by
  obtain ⟨body, hbody, rfl⟩ := h
  have hnul := bodySpells_noNul hbody
  simp [hnul]

theorem listMeans_noNul {α : Type} {Item : List Char → α → Prop} {cs : List Char} {xs : List α}
    (h : ListMeans Item cs xs)
    (hitem : ∀ t x, t.length ≤ cs.length → Item t x → '\x00' ∉ t) : '\x00' ∉ cs := by
  induction h with
  | last ha hx hb =>
      have hnul := hitem _ _ (by simp; omega) hx
      simp [blankText_noNul ha, blankText_noNul hb, hnul]
  | more ha hx hb _ ih =>
      have hnul := hitem _ _ (by simp; omega) hx
      have hrest := ih fun t x ht => hitem t x (by simp; omega)
      simp [blankText_noNul ha, blankText_noNul hb, hnul, hrest]

/-- No JSON text has the character zero. -/
theorem means_noNul {t : List Char} {v : Value} (h : Means t v) : '\x00' ∉ t := by
  induction hn : t.length using Nat.strong_induction_on generalizing t v with
  | _ n ih =>
      have hshorter : ∀ cs : List Char, cs.length < n →
          ∀ t x, t.length ≤ cs.length → Means t x → '\x00' ∉ t := by
        intro cs hcs t x ht hx
        exact ih t.length (by omega) hx rfl
      cases h with
      | null => decide
      | true => decide
      | false => decide
      | number h => exact fun hmem => absurd (h.isNumberChar _ hmem) (by decide)
      | string h => exact stringMeans_noNul h
      | emptyArray hws => simp [blankText_noNul hws]
      | @array cs _ h =>
          have hnul := listMeans_noNul h (hshorter cs (by simp at hn; omega))
          simp [hnul]
      | emptyDocument hws => simp +decide [blankText_noNul hws]
      | @document cs _ h =>
          have hnul : '\x00' ∉ cs := by
            refine listMeans_noNul h ?_
            intro t e ht he
            cases he with
            | mk hkey hb hc hv =>
                have hheld := hshorter cs (by simp at hn; omega) _ _ (by simp at ht; omega) hv
                simp [stringMeans_noNul hkey, blankText_noNul hb, blankText_noNul hc, hheld]
          simp +decide [hnul]

/-- White space at the end of a file counts as one comma after a value. -/
theorem lexes_blank_end {b : List Char} (hb : BlankText b) : Lexes true b [.mark ','] := by
  rw [← List.append_nil b]
  by_cases hline : '\n' ∈ b
  · exact lexes_blank_line hb hline rfl lexes_nil
  · exact lexes_blank hb hline lexes_nil

theorem dropMark_of_not_mem {cs : List Char} (h : byteOrderMark ∉ cs) : dropMark cs = cs := by
  cases cs with
  | nil => rfl
  | cons c cs =>
      have hc : (c == byteOrderMark) = false := by
        rw [beq_eq_false_iff_ne]
        rintro rfl
        exact h List.mem_cons_self
      rw [dropMark, hc]
      rfl

theorem listTokens_label {Held : List Token → Value → Prop} {ts : List Token} {d : Document}
    (h : ListTokens (FieldTokens Held) ts d) : ∃ k more, ts = .string k :: more := by
  cases h with
  | last hx =>
      cases hx
      exact ⟨_, _, rfl⟩
  | lastLine hx =>
      cases hx
      exact ⟨_, _, rfl⟩
  | more hx _ =>
      cases hx
      exact ⟨_, _, rfl⟩

/-- A struct in braces is no field: no colon follows its brace. -/
theorem readField_struct {ts : List Token} {d : Document} (h : ValueTokens ts (.document d))
    (value : List Token → Option (Config × List Token)) (rest : List Token) :
    readField value (ts ++ rest) = value (ts ++ rest) := by
  obtain ⟨first, more, rfl, hcolon⟩ : ∃ first more, ts = .mark openBrace :: first :: more ∧
      first ≠ .mark ':' := by
    cases h with
    | emptyStruct => exact ⟨_, _, rfl, by decide⟩
    | struct h =>
        obtain ⟨k, more, rfl⟩ := listTokens_label h
        exact ⟨_, _, rfl, by simp⟩
  rw [List.cons_append, List.cons_append, readField]
  · rfl
  · intro next colon ts heq
    exact hcolon (List.cons.inj heq).1

/-- **A struct in braces is a file with the fields of the struct.** -/
theorem readFields_file {ts : List Token} {d : Document} (h : ValueTokens ts (.document d))
    (hkeys : (Value.document d).DistinctKeys) {rounds : Nat} (hrounds : ts.length + 2 ≤ rounds) :
    readFields (readValue rounds) rounds (.struct []) (ts ++ [.mark ',', .mark closeBrace]) =
      some (ofValue (.document d), []) := by
  have hread := h.reads hkeys (by omega : ts.length ≤ rounds) [.mark ',', .mark closeBrace]
  have hnodup : ((ofElements d).map Prod.fst).Nodup := by
    have hmap : (ofElements d).map Prod.fst = d.keys := by
      rw [ofElements_eq_map, List.map_map]
      rfl
    rw [hmap]
    exact (Value.everyKeys_document.1 hkeys).1
  have hunify : unify (.struct []) (ofValue (.document d)) = some (ofValue (.document d)) := by
    rw [ofValue, unify, unifyFields_new (by simpa using hnodup)]
    rfl
  have hhead :
      ((ts ++ [Token.mark ',', .mark closeBrace]).head? == some (.mark closeBrace)) = false := by
    cases h with
    | emptyStruct => rfl
    | struct _ => rfl
  match rounds, hrounds with
  | rounds + 2, _ =>
      rw [readFields, hhead, readField_struct h, hread]
      simp only [Bool.false_eq_true, if_false, Option.bind_eq_bind, Option.bind_some, hunify]
      exact readFields_close [] rounds

/-- **A JSON text for a document is a configuration file with the fields of the document.** -/
theorem parse?_of_denotes {text : String} {d : Document}
    (h : Denotes text.toList (.document d)) (hkeys : (Value.document d).DistinctKeys)
    (hmark : byteOrderMark ∉ text.toList) : parse? text = some (ofValue (.document d)) := by
  obtain ⟨a, t, b, ha, ht, hb, hcs⟩ := h
  obtain ⟨ts, hts, hlex⟩ := Means.lexes ht
  have hstops : Stops b := by
    rw [← List.append_nil b]
    exact stops_blank hb fun _ _ h => by cases h
  have hlexes : Lexes false text.toList (ts ++ [.mark ',']) := by
    rw [hcs]
    exact lexes_blank_inside ha (hlex false b _ hstops (lexes_blank_end hb))
  have hrefused : text.toList.any isRefused = false := by
    have hnul : '\x00' ∉ text.toList := by
      rw [hcs]
      simp [blankText_noNul ha, blankText_noNul hb, means_noNul ht]
    rw [List.any_eq_false]
    intro c hc hrefused
    simp only [isRefused, Bool.or_eq_true, beq_iff_eq] at hrefused
    rcases hrefused with rfl | rfl
    · exact hnul hc
    · exact hmark hc
  have hfields : readFields (readValue (ts.length + 3)) (ts.length + 3) (.struct [])
      (ts ++ [.mark ',', .mark closeBrace]) = _ := readFields_file hts hkeys (by omega)
  have hts := hlexes (text.toList.length + 2) (by omega)
  rw [parse?, dropMark_of_not_mem hmark]
  simp only [hrefused, Bool.false_eq_true, if_false, hts, Option.bind_eq_bind, Option.bind_some,
    List.append_assoc, List.cons_append, List.nil_append, List.length_append, List.length_cons,
    List.length_nil, hfields]
  rfl

end DocQuery.Config
