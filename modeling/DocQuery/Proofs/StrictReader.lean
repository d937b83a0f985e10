import DocQuery.Proofs.JsonMeaning
import DocQuery.Proofs.KeyOrder
import DocQuery.Proofs.WrittenJson

/-!
# DocQuery.Proofs.StrictReader

**A reader of JSON texts, and nothing else.** `Strict.read` keeps the order of members and the text of
numbers, and it accepts a text for a value exactly when the text denotes that value
(`Strict.read_eq_some_iff`). So a text denotes at most one value (`Denotes.unique`).

The proof has the usual two halves. What a reader takes off a text is derived by the grammar
(`Sound`), and a derived text is taken off as a whole when what follows cannot extend it
(`CompleteTo`, up to a length of the text, which is what the recursion is on). Arrays and documents
share one list reader, so that each half is proved once for both.
-/

namespace DocQuery.Json

open Text

/-! ### White space and what may follow a value -/

theorem isSpace_iff {c : Char} : isSpace c = true ↔ c ∈ [' ', '\t', '\n', '\r'] := by
  simp only [isSpace, Bool.or_eq_true, beq_iff_eq, List.mem_cons, List.not_mem_nil, or_false]
  tauto

theorem exists_blank_skipSpace (cs : List Char) : ∃ a, BlankText a ∧ cs = a ++ skipSpace cs :=
  ⟨cs.takeWhile isSpace, fun _ hc => isSpace_iff.1 (List.mem_takeWhile_imp hc),
    List.takeWhile_append_dropWhile.symm⟩

theorem skipSpace_append {a : List Char} (ha : BlankText a) (cs : List Char) :
    skipSpace (a ++ cs) = skipSpace cs :=
  List.dropWhile_append_of_pos fun c hc => isSpace_iff.2 (ha c hc)

theorem skipSpace_blank {a : List Char} (ha : BlankText a) : skipSpace a = [] := by
  have h := skipSpace_append ha []
  rwa [List.append_nil] at h

/-- A text that does not go on with a number. -/
def Ends (cs : List Char) : Prop := ∀ c rest, cs = c :: rest → isNumberChar c = false

theorem ends_nil : Ends [] := fun _ _ h => by cases h

theorem ends_cons {c : Char} {rest : List Char} (h : isNumberChar c = false) : Ends (c :: rest) := by
  intro c' rest' heq
  cases heq
  exact h

theorem BlankText.ends {b rest : List Char} (hb : BlankText b) (hrest : Ends rest) :
    Ends (b ++ rest) := by
  cases b with
  | nil => exact hrest
  | cons c b =>
      refine ends_cons ?_
      have hc := hb c List.mem_cons_self
      simp only [List.mem_cons, List.not_mem_nil, or_false] at hc
      rcases hc with rfl | rfl | rfl | rfl <;> rfl

theorem isNumberChar_of_isDigit {c : Char} (h : c.isDigit = true) : isNumberChar c = true := by
  simp [isNumberChar, h]

theorem NumberText.isNumberChar {cs : List Char} (h : NumberText cs) :
    ∀ c ∈ cs, isNumberChar c = true := by
  obtain ⟨sign, whole, fraction, exponent, rfl, hsign, hwhole, hfraction, hexponent⟩ := h
  have hdigits : ∀ {ds : List Char}, (∀ c ∈ ds, c.isDigit = true) →
      ∀ c ∈ ds, Json.isNumberChar c = true :=
    fun hds c hc => isNumberChar_of_isDigit (hds c hc)
  simp only [List.mem_append]
  rintro c (hc | hc | hc | hc)
  · rcases hsign with rfl | rfl
    · cases hc
    · rw [List.mem_singleton.1 hc]
      rfl
  · cases hwhole with
    | zero =>
        rw [List.mem_singleton.1 hc]
        rfl
    | digits hd _ hds => exact hdigits (List.forall_mem_cons.2 ⟨hd, hds⟩) c hc
  · cases hfraction with
    | absent => cases hc
    | present hds =>
        rcases List.mem_cons.1 hc with rfl | hc
        · rfl
        · exact hdigits hds.2 c hc
  · cases hexponent with
    | absent => cases hc
    | unsigned he hds =>
        rcases List.mem_cons.1 hc with rfl | hc
        · rcases he with rfl | rfl <;> rfl
        · exact hdigits hds.2 c hc
    | signed he hs hds =>
        rcases List.mem_cons.1 hc with rfl | hc
        · rcases he with rfl | rfl <;> rfl
        · rcases List.mem_cons.1 hc with rfl | hc
          · rcases hs with rfl | rfl <;> rfl
          · exact hdigits hds.2 c hc

/-! ### The reader -/

namespace Strict

/-- Read the inside of a string up to its closing quote: its units, and what follows it. -/
def readUnits : List Char → Option (List Nat × List Char)
  | '"' :: rest => some ([], rest)
  | '\\' :: 'u' :: a :: b :: c :: d :: rest =>
    (hexNumber? [a, b, c, d]).bind fun n => (readUnits rest).map (Prod.map (n :: ·) id)
  | '\\' :: x :: rest =>
    (escapeMeaning? x).bind fun c => (readUnits rest).map (Prod.map (charUnits c ++ ·) id)
  | c :: rest =>
    if 0x20 ≤ c.toNat then (readUnits rest).map (Prod.map (charUnits c ++ ·) id) else none
  | [] => none

/-- The text that has some units; none has half of a pair alone. -/
def ofUnits? (us : List Nat) : Option String :=
  if units (String.ofList (ofUnits us)) = us then some (String.ofList (ofUnits us)) else none

/-- Read a string after its opening quote. -/
def readString (cs : List Char) : Option (String × List Char) :=
  (readUnits cs).bind fun (us, rest) => (ofUnits? us).map (·, rest)

/-- Read a number: all the characters that may stand in one. -/
def readNumber (cs : List Char) : Option (Value × List Char) :=
  if Decimal.isNumberChars (cs.takeWhile isNumberChar) then
    some (.number (String.ofList (cs.takeWhile isNumberChar)), cs.dropWhile isNumberChar)
  else none

/-- Read the rest of a word. -/
def readWord (word : List Char) (v : Value) (cs : List Char) : Option (Value × List Char) :=
  if cs.take word.length = word then some (v, cs.drop word.length) else none

/-- Read entries with commas between them, up to a closing character. -/
def readList {α : Type} (item : List Char → Option (α × List Char)) (close : Char) :
    (rounds : Nat) → List Char → Option (List α × List Char)
  | 0, _ => none
  | rounds + 1, cs =>
    (item (skipSpace cs)).bind fun (x, rest) =>
      match skipSpace rest with
      | [] => none
      | c :: more =>
        if c = ',' then (readList item close rounds more).map (Prod.map (x :: ·) id)
        else if c = close then some ([x], more)
        else none

/-- Read what stands between brackets, after the opening one. -/
def readBracketed {α : Type} (item : List Char → Option (α × List Char)) (close : Char)
    (cs : List Char) : Option (List α × List Char) :=
  match skipSpace cs with
  | [] => none
  | c :: rest => if c = close then some ([], rest) else readList item close cs.length cs

/-- Read a member of a document. -/
def readMember (value : List Char → Option (Value × List Char)) :
    List Char → Option ((String × Value) × List Char)
  | '"' :: cs =>
    (readString cs).bind fun (key, rest) =>
      match skipSpace rest with
      | ':' :: more => (value (skipSpace more)).map (Prod.map (key, ·) id)
      | _ => none
  | _ => none

/-- Read a value; a text of `fuel` characters nests no deeper than that. -/
def readValue : (fuel : Nat) → List Char → Option (Value × List Char)
  | 0, _ => none
  | _ + 1, [] => none
  | fuel + 1, c :: cs =>
    if c = '"' then (readString cs).map (Prod.map .string id)
    else if c = '[' then (readBracketed (readValue fuel) ']' cs).map (Prod.map .array id)
    else if c = Char.ofNat 0x7b then
      (readBracketed (readMember (readValue fuel)) (Char.ofNat 0x7d) cs).map
        (Prod.map .document id)
    else if c = 'n' then readWord ['u', 'l', 'l'] .null cs
    else if c = 't' then readWord ['r', 'u', 'e'] (.bool true) cs
    else if c = 'f' then readWord ['a', 'l', 's', 'e'] (.bool false) cs
    else readNumber (c :: cs)

/-- **Read a JSON text.** -/
def read (cs : List Char) : Option Value :=
  (readValue cs.length (skipSpace cs)).bind fun (v, rest) =>
    if skipSpace rest = [] then some v else none

/-! ### Strings -/

theorem readUnits_plain {c : Char} (hc : 0x20 ≤ c.toNat) (hquote : c ≠ '"') (hbackslash : c ≠ '\\')
    (rest : List Char) :
    readUnits (c :: rest) = (readUnits rest).map (Prod.map (charUnits c ++ ·) id) := by
  rw [readUnits, if_pos hc]
  · exact hquote
  · intro _ _ _ _ _ h
    exact absurd h hbackslash
  · intro _ _ h
    exact absurd h hbackslash

theorem readUnits_letter {x c : Char} (hx : escapeMeaning? x = some c) (rest : List Char) :
    readUnits ('\\' :: x :: rest) = (readUnits rest).map (Prod.map (charUnits c ++ ·) id) := by
  rw [readUnits, hx, Option.bind_some]
  rintro _ _ _ _ _ rfl
  cases hx

theorem readUnits_complete {body : List Char} {us : List Nat} (h : BodySpells body us)
    (rest : List Char) : readUnits (body ++ '"' :: rest) = some (us, rest) := by
  induction h with
  | nil => rfl
  | plain hc hquote hbackslash _ ih =>
      rw [List.cons_append, readUnits_plain hc hquote hbackslash, ih]
      rfl
  | letter hx _ ih =>
      rw [List.cons_append, List.cons_append, readUnits_letter hx, ih]
      rfl
  | code hn _ ih =>
      simp only [List.cons_append, readUnits, hn, ih]
      rfl

theorem readUnits_sound {cs rest : List Char} {us : List Nat} (h : readUnits cs = some (us, rest)) :
    ∃ body, cs = body ++ '"' :: rest ∧ BodySpells body us := by
  fun_induction readUnits cs generalizing us with
  | case1 cs =>
      cases h
      exact ⟨[], rfl, .nil⟩
  | case2 a b c d cs ih =>
      obtain ⟨n, hn, h⟩ := Option.bind_eq_some_iff.1 h
      obtain ⟨⟨us', rest'⟩, hread, heq⟩ := Option.map_eq_some_iff.1 h
      cases heq
      obtain ⟨body, rfl, hbody⟩ := ih hread
      exact ⟨_, rfl, .code hn hbody⟩
  | case3 x cs _ ih =>
      obtain ⟨c, hc, h⟩ := Option.bind_eq_some_iff.1 h
      obtain ⟨⟨us', rest'⟩, hread, heq⟩ := Option.map_eq_some_iff.1 h
      cases heq
      obtain ⟨body, rfl, hbody⟩ := ih hread
      exact ⟨_, rfl, .letter hc hbody⟩
  | case4 c cs hquote _ hbackslash hc ih =>
      obtain ⟨⟨us', rest'⟩, hread, heq⟩ := Option.map_eq_some_iff.1 h
      cases heq
      obtain ⟨body, rfl, hbody⟩ := ih hread
      refine ⟨_, rfl, .plain hc hquote ?_ hbody⟩
      rintro rfl
      -- a backslash escapes something, since the string goes on behind it
      cases body with
      | nil => exact hbackslash _ _ rfl rfl
      | cons x body => exact hbackslash _ _ rfl rfl
  | case5 => cases h
  | case6 => cases h

theorem ofUnits?_eq_some_iff {us : List Nat} {s : String} : ofUnits? us = some s ↔ us = units s := by
  unfold ofUnits?
  constructor
  · intro h
    split at h
    · next hus =>
      cases h
      exact hus.symm
    · cases h
  · rintro rfl
    rw [ofUnits_units, String.ofList_toList, if_pos rfl]

theorem readString_sound {cs rest : List Char} {s : String} (h : readString cs = some (s, rest)) :
    ∃ t, '"' :: cs = t ++ rest ∧ StringMeans t s := by
  obtain ⟨⟨us, rest'⟩, hread, h⟩ := Option.bind_eq_some_iff.1 h
  obtain ⟨s', hs, heq⟩ := Option.map_eq_some_iff.1 h
  cases heq
  obtain ⟨body, rfl, hbody⟩ := readUnits_sound hread
  rw [ofUnits?_eq_some_iff.1 hs] at hbody
  exact ⟨'"' :: (body ++ ['"']), by simp, body, hbody, rfl⟩

theorem readString_complete {t : List Char} {s : String} (h : StringMeans t s) :
    ∃ body, t = '"' :: body ∧ ∀ rest, readString (body ++ rest) = some (s, rest) := by
  obtain ⟨body, hbody, rfl⟩ := h
  refine ⟨body ++ ['"'], rfl, ?_⟩
  intro rest
  have hread := readUnits_complete hbody rest
  have hs : ofUnits? (units s) = some s := ofUnits?_eq_some_iff.2 rfl
  simp only [readString, List.append_assoc, List.cons_append, List.nil_append, hread,
    Option.bind_some, hs]
  rfl

/-! ### Numbers -/

theorem readNumber_complete {t : List Char} (h : NumberText t) {rest : List Char}
    (hrest : Ends rest) : readNumber (t ++ rest) = some (.number (String.ofList t), rest) := by
  have hstop : rest.takeWhile isNumberChar = [] ∧ rest.dropWhile isNumberChar = rest := by
    cases rest with
    | nil => exact ⟨rfl, rfl⟩
    | cons c rest =>
        have hc := hrest c rest rfl
        simp [hc]
  have htake : (t ++ rest).takeWhile isNumberChar = t := by
    rw [List.takeWhile_append_of_pos h.isNumberChar, hstop.1, List.append_nil]
  have hdrop : (t ++ rest).dropWhile isNumberChar = rest := by
    rw [List.dropWhile_append_of_pos h.isNumberChar, hstop.2]
  rw [readNumber, htake, hdrop, if_pos ((isNumberChars_iff t).2 h)]

theorem readNumber_sound {cs rest : List Char} {v : Value} (h : readNumber cs = some (v, rest)) :
    ∃ t, cs = t ++ rest ∧ Means t v := by
  unfold readNumber at h
  split at h
  · next hnumber =>
    cases h
    refine ⟨cs.takeWhile isNumberChar, List.takeWhile_append_dropWhile.symm, ?_⟩
    have hmeans : NumberText (String.ofList (cs.takeWhile isNumberChar)).toList →
        Means (String.ofList (cs.takeWhile isNumberChar)).toList _ := .number
    rw [String.toList_ofList] at hmeans
    exact hmeans ((isNumberChars_iff _).1 hnumber)
  · cases h

/-! ### Lists -/

/-- What a reader takes off a text is derived by the grammar. -/
def Sound {α : Type} (reader : List Char → Option (α × List Char)) (Item : List Char → α → Prop) :
    Prop :=
  ∀ cs x rest, reader cs = some (x, rest) → ∃ t, cs = t ++ rest ∧ Item t x

/-- Texts of the grammar of at most `n` characters are taken off as a whole. -/
def CompleteTo {α : Type} (n : Nat) (reader : List Char → Option (α × List Char))
    (Item : List Char → α → Prop) : Prop :=
  ∀ t x rest, t.length ≤ n → Item t x → Ends rest → reader (t ++ rest) = some (x, rest)

/-- Texts of the grammar start with a character that is neither white space nor closes anything. -/
def Opens {α : Type} (Item : List Char → α → Prop) : Prop :=
  ∀ t x, Item t x → ∃ c more, t = c :: more ∧ isSpace c = false ∧ c ≠ ']' ∧ c ≠ Char.ofNat 0x7d

section Lists

variable {α : Type} {item : List Char → Option (α × List Char)} {Item : List Char → α → Prop}
  {close : Char}

theorem readList_sound (hitem : Sound item Item) {rounds : Nat} {cs rest : List Char} {xs : List α}
    (h : readList item close rounds cs = some (xs, rest)) :
    ∃ t, cs = t ++ close :: rest ∧ ListMeans Item t xs := by
  induction rounds generalizing cs xs with
  | zero => cases h
  | succ rounds ih =>
      obtain ⟨⟨x, afterItem⟩, hread, h⟩ := Option.bind_eq_some_iff.1 h
      obtain ⟨a, ha, hcs⟩ := exists_blank_skipSpace cs
      obtain ⟨t, ht, hx⟩ := hitem _ _ _ hread
      obtain ⟨b, hb, hafter⟩ := exists_blank_skipSpace afterItem
      rw [ht, hafter] at hcs
      dsimp only at h
      cases hmore : skipSpace afterItem with
      | nil =>
          rw [hmore] at h
          cases h
      | cons c more =>
          rw [hmore] at h hcs
          dsimp only at h
          split at h
          · next hcomma =>
            obtain ⟨⟨xs', rest'⟩, hlist, heq⟩ := Option.map_eq_some_iff.1 h
            cases heq
            obtain ⟨t', rfl, hlist'⟩ := ih hlist
            refine ⟨_, ?_, .more ha hx hb hlist'⟩
            rw [hcs, hcomma]
            simp
          · split at h
            · next hclose =>
              cases h
              refine ⟨_, ?_, .last ha hx hb⟩
              rw [hcs, hclose]
              simp
            · cases h

theorem readList_complete (hopens : Opens Item) (hspace : isSpace close = false)
    (hnumber : isNumberChar close = false) (hcomma : close ≠ ',') {n : Nat}
    (hitem : CompleteTo n item Item) {cs : List Char} {xs : List α} (h : ListMeans Item cs xs)
    (hn : cs.length ≤ n) {rounds : Nat} (hrounds : cs.length < rounds) (rest : List Char) :
    readList item close rounds (cs ++ close :: rest) = some (xs, rest) := by
  induction h generalizing rounds with
  | @last a t b x ha hx hb =>
      cases rounds with
      | zero => omega
      | succ rounds =>
          obtain ⟨c, more, rfl, hc, -⟩ := hopens t x hx
          have hread := hitem (c :: more) x (b ++ close :: rest) (by simp at hn ⊢; omega) hx
            (hb.ends (ends_cons hnumber))
          have hskip : skipSpace (b ++ close :: rest) = close :: rest := by
            rw [skipSpace_append hb, skipSpace_cons hspace]
          simp only [readList, List.append_assoc, skipSpace_append ha, List.cons_append,
            skipSpace_cons hc] at hread ⊢
          simp only [hread, Option.bind_some, hskip, if_neg hcomma, if_true]
  | @more a t b cs x xs ha hx hb _ ih =>
      cases rounds with
      | zero => omega
      | succ rounds =>
          obtain ⟨c, more, rfl, hc, -⟩ := hopens t x hx
          simp only [List.length_append, List.length_cons] at hn hrounds
          have hread := hitem (c :: more) x (b ++ ',' :: (cs ++ close :: rest)) (by simp; omega) hx
            (hb.ends (ends_cons rfl))
          have hskip : skipSpace (b ++ ',' :: (cs ++ close :: rest)) = ',' :: (cs ++ close :: rest) := by
            rw [skipSpace_append hb, skipSpace_cons rfl]
          have hlist : readList item close rounds (cs ++ close :: rest) = some (xs, rest) :=
            ih (by omega) (by omega)
          simp only [readList, List.append_assoc, skipSpace_append ha, List.cons_append,
            skipSpace_cons hc] at hread ⊢
          simp only [hread, Option.bind_some, hskip, if_true, hlist]
          rfl

theorem readBracketed_sound (hitem : Sound item Item) {cs rest : List Char} {xs : List α}
    (h : readBracketed item close cs = some (xs, rest)) :
    ∃ t, cs = t ++ close :: rest ∧ (BlankText t ∧ xs = [] ∨ ListMeans Item t xs) := by
  unfold readBracketed at h
  obtain ⟨a, ha, hcs⟩ := exists_blank_skipSpace cs
  split at h
  · cases h
  · next c more hskip =>
    split at h
    · next hclose =>
      cases h
      refine ⟨a, ?_, Or.inl ⟨ha, rfl⟩⟩
      rw [hskip, hclose] at hcs
      exact hcs
    · obtain ⟨t, ht, hlist⟩ := readList_sound hitem h
      exact ⟨t, ht, Or.inr hlist⟩

theorem readBracketed_blank (hspace : isSpace close = false) {ws : List Char} (hws : BlankText ws)
    (rest : List Char) : readBracketed item close (ws ++ close :: rest) = some ([], rest) := by
  have hskip : skipSpace (ws ++ close :: rest) = close :: rest := by
    rw [skipSpace_append hws, skipSpace_cons hspace]
  simp only [readBracketed, hskip, if_true]

theorem exists_skipSpace_listMeans (hopens : Opens Item) {cs : List Char} {xs : List α}
    (h : ListMeans Item cs xs) (rest : List Char) :
    ∃ c more, skipSpace (cs ++ rest) = c :: more ∧ c ≠ ']' ∧ c ≠ Char.ofNat 0x7d := by
  cases h with
  | last ha hx _ =>
      obtain ⟨c, more, rfl, hc, hclosers⟩ := hopens _ _ hx
      rw [List.append_assoc, skipSpace_append ha]
      exact ⟨c, _, skipSpace_cons hc _, hclosers⟩
  | more ha hx _ _ =>
      obtain ⟨c, more, rfl, hc, hclosers⟩ := hopens _ _ hx
      rw [List.append_assoc, skipSpace_append ha]
      exact ⟨c, _, skipSpace_cons hc _, hclosers⟩

theorem readBracketed_complete (hopens : Opens Item) (hclose : close = ']' ∨ close = Char.ofNat 0x7d)
    {n : Nat} (hitem : CompleteTo n item Item) {cs : List Char} {xs : List α}
    (h : ListMeans Item cs xs) (hn : cs.length ≤ n) (rest : List Char) :
    readBracketed item close (cs ++ close :: rest) = some (xs, rest) := by
  obtain ⟨c, more, hskip, hclosers⟩ := exists_skipSpace_listMeans hopens h (close :: rest)
  have hne : c ≠ close := by
    rcases hclose with rfl | rfl
    · exact hclosers.1
    · exact hclosers.2
  have hfacts : isSpace close = false ∧ isNumberChar close = false ∧ close ≠ ',' := by
    rcases hclose with rfl | rfl <;> decide
  simp only [readBracketed, hskip, if_neg hne]
  exact readList_complete hopens hfacts.1 hfacts.2.1 hfacts.2.2 hitem h hn (by simp) rest

end Lists

/-! ### Members and values -/

theorem opens_means : Opens Means := by
  intro t v h
  cases h with
  | null => exact ⟨_, _, rfl, by decide⟩
  | true => exact ⟨_, _, rfl, by decide⟩
  | false => exact ⟨_, _, rfl, by decide⟩
  | number h =>
      obtain ⟨c, more, hcs, hc⟩ := h.exists_head
      refine ⟨c, more, hcs, ?_⟩
      have hnumber : isNumberChar c = true := by
        rcases hc with rfl | hc
        · rfl
        · exact isNumberChar_of_isDigit hc
      refine ⟨?_, ?_, ?_⟩
      · cases hspace : isSpace c with
        | false => rfl
        | true =>
            have hblank := isSpace_iff.1 hspace
            simp only [List.mem_cons, List.not_mem_nil, or_false] at hblank
            rcases hblank with rfl | rfl | rfl | rfl <;> cases hnumber
      · rintro rfl
        cases hnumber
      · rintro rfl
        cases hnumber
  | string h =>
      obtain ⟨body, -, rfl⟩ := h
      exact ⟨_, _, rfl, by decide⟩
  | emptyArray _ => exact ⟨_, _, rfl, by decide⟩
  | array _ => exact ⟨_, _, rfl, by decide⟩
  | emptyDocument _ => exact ⟨_, _, rfl, by decide⟩
  | document _ => exact ⟨_, _, rfl, by decide⟩

theorem opens_memberMeans {Held : List Char → Value → Prop} : Opens (MemberMeans Held) := by
  intro t m h
  cases h with
  | mk hkey _ _ _ =>
      obtain ⟨body, -, rfl⟩ := hkey
      exact ⟨_, _, rfl, by decide⟩

section Members

variable {value : List Char → Option (Value × List Char)} {Held : List Char → Value → Prop}

theorem readMember_sound (hvalue : Sound value Held) :
    Sound (readMember value) (MemberMeans Held) := by
  intro cs m rest h
  unfold readMember at h
  split at h
  · next cs =>
    obtain ⟨⟨key, afterKey⟩, hkey, h⟩ := Option.bind_eq_some_iff.1 h
    obtain ⟨t, ht, hmeans⟩ := readString_sound hkey
    obtain ⟨b, hb, hafter⟩ := exists_blank_skipSpace afterKey
    dsimp only at h
    split at h
    · next more hcolon =>
      obtain ⟨⟨v, rest'⟩, hread, heq⟩ := Option.map_eq_some_iff.1 h
      cases heq
      obtain ⟨c, hc, hmore⟩ := exists_blank_skipSpace more
      obtain ⟨t', ht', hv⟩ := hvalue _ _ _ hread
      refine ⟨_, ?_, .mk hmeans hb hc hv⟩
      rw [ht, hafter, hcolon, hmore, ht']
      simp
    · cases h
  · cases h

theorem readMember_complete {n : Nat} (hopens : Opens Held) (hvalue : CompleteTo n value Held) :
    CompleteTo n (readMember value) (MemberMeans Held) := by
  intro t m rest hn h hrest
  cases h with
  | @mk key b c t k v hkey hb hc hv =>
      obtain ⟨body, rfl, hread⟩ := readString_complete hkey
      obtain ⟨first, more, rfl, hfirst, -⟩ := hopens t v hv
      have hcolon : skipSpace (b ++ ':' :: (c ++ (first :: more ++ rest))) =
          ':' :: (c ++ (first :: more ++ rest)) := by
        rw [skipSpace_append hb, skipSpace_cons rfl]
      have hskip : skipSpace (c ++ (first :: more ++ rest)) = first :: more ++ rest := by
        rw [skipSpace_append hc, List.cons_append, skipSpace_cons hfirst]
      have hheld := hvalue (first :: more) v rest (by simp at hn ⊢; omega) hv hrest
      have htext : '"' :: body ++ (b ++ ':' :: (c ++ first :: more)) ++ rest =
          '"' :: (body ++ (b ++ ':' :: (c ++ (first :: more ++ rest)))) := by
        simp
      simp only [htext, readMember, hread, Option.bind_some, hcolon, hskip, hheld]
      rfl

end Members

theorem readWord_sound {word cs rest : List Char} {v w : Value}
    (h : readWord word v cs = some (w, rest)) : w = v ∧ cs = word ++ rest := by
  unfold readWord at h
  split at h
  · next htake =>
    cases h
    have hparts := List.take_append_drop word.length cs
    rw [htake] at hparts
    exact ⟨rfl, hparts.symm⟩
  · cases h

theorem readWord_append (word : List Char) (v : Value) (rest : List Char) :
    readWord word v (word ++ rest) = some (v, rest) := by
  simp [readWord]

theorem readValue_sound (fuel : Nat) : Sound (readValue fuel) Means := by
  induction fuel with
  | zero =>
      intro cs v rest h
      cases h
  | succ fuel ih =>
      intro cs v rest h
      cases cs with
      | nil => cases h
      | cons c cs =>
          simp only [readValue] at h
          split at h
          · next hc =>
            obtain ⟨⟨s, rest'⟩, hread, heq⟩ := Option.map_eq_some_iff.1 h
            cases heq
            obtain ⟨t, ht, hmeans⟩ := readString_sound hread
            rw [hc]
            exact ⟨t, ht, .string hmeans⟩
          split at h
          · next hc =>
            obtain ⟨⟨items, rest'⟩, hread, heq⟩ := Option.map_eq_some_iff.1 h
            cases heq
            obtain ⟨t, rfl, hblank | hlist⟩ := readBracketed_sound ih hread
            · obtain ⟨hws, rfl⟩ := hblank
              exact ⟨'[' :: (t ++ [']']), by simp [hc], .emptyArray hws⟩
            · exact ⟨'[' :: (t ++ [']']), by simp [hc], .array hlist⟩
          split at h
          · next hc =>
            obtain ⟨⟨d, rest'⟩, hread, heq⟩ := Option.map_eq_some_iff.1 h
            cases heq
            obtain ⟨t, rfl, hblank | hlist⟩ := readBracketed_sound (readMember_sound ih) hread
            · obtain ⟨hws, rfl⟩ := hblank
              exact ⟨_ :: (t ++ [Char.ofNat 0x7d]), by simp [hc], .emptyDocument hws⟩
            · exact ⟨_ :: (t ++ [Char.ofNat 0x7d]), by simp [hc], .document hlist⟩
          split at h
          · next hc =>
            obtain ⟨rfl, rfl⟩ := readWord_sound h
            exact ⟨_, by rw [hc]; rfl, .null⟩
          split at h
          · next hc =>
            obtain ⟨rfl, rfl⟩ := readWord_sound h
            exact ⟨_, by rw [hc]; rfl, .true⟩
          split at h
          · next hc =>
            obtain ⟨rfl, rfl⟩ := readWord_sound h
            exact ⟨_, by rw [hc]; rfl, .false⟩
          · exact readNumber_sound h

theorem readValue_bracket (fuel : Nat) (cs : List Char) :
    readValue (fuel + 1) ('[' :: cs) =
      (readBracketed (readValue fuel) ']' cs).map (Prod.map .array id) := rfl

theorem readValue_brace (fuel : Nat) (cs : List Char) :
    readValue (fuel + 1) (Char.ofNat 0x7b :: cs) =
      (readBracketed (readMember (readValue fuel)) (Char.ofNat 0x7d) cs).map
        (Prod.map .document id) := rfl

theorem readValue_of_number {c : Char} (hc : c = '-' ∨ c.isDigit = true) (fuel : Nat)
    (cs : List Char) : readValue (fuel + 1) (c :: cs) = readNumber (c :: cs) := by
  have hne : ∀ d : Char, (d == '-' || d.isDigit) = false → c ≠ d := by
    rintro d hd rfl
    rcases hc with rfl | hc
    · cases hd
    · rw [hc, Bool.or_true] at hd
      cases hd
  simp only [readValue, if_neg (hne '"' rfl), if_neg (hne '[' rfl),
    if_neg (hne (Char.ofNat 0x7b) rfl), if_neg (hne 'n' rfl), if_neg (hne 't' rfl),
    if_neg (hne 'f' rfl)]

theorem readValue_complete (fuel : Nat) : CompleteTo fuel (readValue fuel) Means := by
  induction fuel with
  | zero =>
      intro t v rest hn h _
      obtain ⟨c, more, rfl, -⟩ := opens_means t v h
      cases hn
  | succ fuel ih =>
      intro t v rest hn h hrest
      cases h with
      | null => exact readWord_append ['u', 'l', 'l'] .null rest
      | true => exact readWord_append ['r', 'u', 'e'] (.bool true) rest
      | false => exact readWord_append ['a', 'l', 's', 'e'] (.bool false) rest
      | @number text h =>
          obtain ⟨c, more, hcs, hc⟩ := h.exists_head
          have hread := readNumber_complete h hrest
          rw [String.ofList_toList] at hread
          rw [hcs] at hread ⊢
          exact (readValue_of_number hc fuel _).trans hread
      | string h =>
          obtain ⟨body, rfl, hread⟩ := readString_complete h
          simp only [List.cons_append, readValue, if_true, hread]
          rfl
      | @emptyArray ws hws =>
          have hread : readBracketed (readValue fuel) ']' (ws ++ ']' :: rest) = some ([], rest) :=
            readBracketed_blank rfl hws rest
          rw [List.cons_append, List.append_assoc, readValue_bracket]
          exact congrArg _ hread
      | @array cs items h =>
          have hread := readBracketed_complete opens_means (Or.inl rfl) ih h (by simp at hn; omega) rest
          rw [List.cons_append, List.append_assoc, readValue_bracket]
          exact congrArg _ hread
      | @emptyDocument ws hws =>
          have hread : readBracketed (readMember (readValue fuel)) (Char.ofNat 0x7d)
              (ws ++ Char.ofNat 0x7d :: rest) = some ([], rest) :=
            readBracketed_blank rfl hws rest
          rw [List.cons_append, List.append_assoc, readValue_brace]
          exact congrArg _ hread
      | @document cs d h =>
          have hread := readBracketed_complete opens_memberMeans (Or.inr rfl)
            (readMember_complete opens_means ih) h (by simp at hn; omega) rest
          rw [List.cons_append, List.append_assoc, readValue_brace]
          exact congrArg _ hread

/-- **The reader accepts a text for a value exactly when the text denotes that value.** -/
theorem read_eq_some_iff {cs : List Char} {v : Value} : read cs = some v ↔ Denotes cs v := by
  constructor
  · intro h
    obtain ⟨⟨w, rest⟩, hread, h⟩ := Option.bind_eq_some_iff.1 h
    obtain ⟨a, ha, hcs⟩ := exists_blank_skipSpace cs
    obtain ⟨t, ht, hmeans⟩ := readValue_sound _ _ _ _ hread
    obtain ⟨b, hb, hrest⟩ := exists_blank_skipSpace rest
    dsimp only at h
    split at h
    · next hend =>
      cases h
      rw [hend, List.append_nil] at hrest
      exact ⟨a, t, b, ha, hmeans, hb, by rw [hcs, ht, hrest]⟩
    · cases h
  · rintro ⟨a, t, b, ha, hmeans, hb, rfl⟩
    obtain ⟨c, more, rfl, hc, -⟩ := opens_means t v hmeans
    have hends : Ends b := by
      have h := hb.ends ends_nil
      rwa [List.append_nil] at h
    have hskip : skipSpace (a ++ (c :: more ++ b)) = c :: more ++ b := by
      rw [skipSpace_append ha, List.cons_append, skipSpace_cons hc]
    have hlength : (c :: more).length ≤ (a ++ (c :: more ++ b)).length := by
      simp
      omega
    have hread : readValue (a ++ (c :: more ++ b)).length (c :: more ++ b) = some (v, b) :=
      readValue_complete _ _ _ _ hlength hmeans hends
    simp only [read, hskip, hread, Option.bind_some, skipSpace_blank hb, if_true]

end Strict

/-- **A text denotes at most one value.** -/
theorem Denotes.unique {cs : List Char} {v w : Value} (hv : Denotes cs v) (hw : Denotes cs w) :
    v = w := by
  rw [← Strict.read_eq_some_iff] at hv hw
  exact Option.some.inj (hv.symm.trans hw)

theorem Denotes.iff_eq {cs : List Char} {v : Value} (hv : Denotes cs v) (w : Value) :
    Denotes cs w ↔ w = v := by
  constructor
  · intro hw
    exact hw.unique hv
  · rintro rfl
    exact hv

end DocQuery.Json
