import DocQuery.Proofs.Renderers

/-!
# DocQuery.Proofs.IndentedText

**Indented text is compact text with white space.** The layout of a compact text is made by a
scanner that knows brackets, commas, colons and where a string ends, and nothing of the value that
the text was written for. Deleting the white space outside strings (`squeeze`) gives the compact text
back, and the indented text means the same value.

The argument follows the value. `Indents` says of a piece of compact text what it is laid out as at
a level: a piece that is squeezed back to it, and that has the meaning the piece should have. The
state of the scanner enters in one place only: behind an opening bracket the line break is still
waited for, and it stands in front of whatever piece comes next, unless the bracket closes at once.
-/

namespace DocQuery

namespace Json

/-! ### Deleting white space -/

/-- Delete the white space outside strings; `inString` tells whether the text starts inside one. -/
def squeezeFrom : (inString : Bool) → List Char → List Char
  | _, [] => []
  | true, '\\' :: c :: rest => '\\' :: c :: squeezeFrom true rest
  | true, c :: rest => c :: squeezeFrom (c != '"') rest
  | false, c :: rest =>
    if c ∈ [' ', '\t', '\n', '\r'] then squeezeFrom false rest
    else c :: squeezeFrom (c == '"') rest

theorem squeezeFrom_outside (c : Char) (rest : List Char) :
    squeezeFrom false (c :: rest) =
      if c ∈ [' ', '\t', '\n', '\r'] then squeezeFrom false rest
      else c :: squeezeFrom (c == '"') rest := by
  rw [squeezeFrom]

theorem squeezeFrom_escape (c : Char) (rest : List Char) :
    squeezeFrom true ('\\' :: c :: rest) = '\\' :: c :: squeezeFrom true rest := rfl

theorem squeezeFrom_quote (rest : List Char) :
    squeezeFrom true ('"' :: rest) = '"' :: squeezeFrom false rest := rfl

theorem squeezeFrom_plain {c : Char} (rest : List Char) (hquote : c ≠ '"') (hbackslash : c ≠ '\\') :
    squeezeFrom true (c :: rest) = c :: squeezeFrom true rest := by
  rw [squeezeFrom, bne_iff_ne.2 hquote]
  intro _ _ heq
  exact absurd heq hbackslash

/-- Delete the white space outside strings. -/
def squeeze (cs : List Char) : List Char := squeezeFrom false cs

/-- A piece of text that is squeezed to another one, whatever stands behind it. -/
def Squeezes (t cs : List Char) : Prop :=
  ∀ rest, squeezeFrom false (t ++ rest) = cs ++ squeezeFrom false rest

theorem Squeezes.append {t t' cs cs' : List Char} (h : Squeezes t cs) (h' : Squeezes t' cs') :
    Squeezes (t ++ t') (cs ++ cs') := by
  intro rest
  rw [List.append_assoc, h, h', List.append_assoc]

theorem squeezes_blank {t : List Char} (h : BlankText t) : Squeezes t [] := by
  intro rest
  induction t with
  | nil => rfl
  | cons c t ih =>
      rw [BlankText, List.forall_mem_cons] at h
      rw [List.cons_append, squeezeFrom_outside, if_pos h.1, ih h.2]

theorem squeezes_char {c : Char} (hblank : c ∉ [' ', '\t', '\n', '\r']) (hquote : c ≠ '"') :
    Squeezes [c] [c] := by
  intro rest
  rw [List.singleton_append, squeezeFrom_outside, if_neg hblank, beq_eq_false_iff_ne.2 hquote,
    List.singleton_append]

theorem squeezes_opening {c : Char} (h : c = '[' ∨ c = Char.ofNat 0x7b) : Squeezes [c] [c] := by
  rcases h with rfl | rfl
  · exact squeezes_char (by simp) (by simp)
  · exact squeezes_char (by simp) (by simp)

theorem squeezes_close {c : Char} (h : c = ']' ∨ c = Char.ofNat 0x7d) : Squeezes [c] [c] := by
  rcases h with rfl | rfl
  · exact squeezes_char (by simp) (by simp)
  · exact squeezes_char (by simp) (by simp)

/-- A piece between two characters that stand for themselves. -/
theorem Squeezes.enclosed {first last : Char} {t cs : List Char}
    (hfirst : Squeezes [first] [first]) (h : Squeezes t cs) (hlast : Squeezes [last] [last]) :
    Squeezes (first :: (t ++ [last])) (first :: (cs ++ [last])) :=
  hfirst.append (h.append hlast)

/-! ### Strings are copied -/

theorem quoted_append (body rest : List Char) :
    '"' :: (body ++ ['"']) ++ rest = '"' :: (body ++ '"' :: rest) := by
  rw [List.cons_append, List.append_assoc, List.singleton_append]

theorem squeezes_string {t : List Char} {s : String} (h : StringMeans t s) : Squeezes t t := by
  obtain ⟨body, hbody, rfl⟩ := h
  intro rest
  have hcopy := scan_body List.cons (fun c rest _ => squeezeFrom_escape c rest)
    (fun _ rest => squeezeFrom_plain rest) squeezeFrom_quote hbody rest
  rw [List.foldr_cons_eq_append'] at hcopy
  rw [quoted_append, quoted_append]
  exact congrArg ('"' :: ·) hcopy

/-! ### Pieces of a layout -/

section Layout

variable {w : Indentation} {level : Nat}

/-- A piece of compact text that is laid out as another at a level, behind the line break that is
still waited for. No such piece begins with a closing bracket. -/
def LaysOutAs (w : Indentation) (level : Nat) (cs t : List Char) : Prop :=
  ∀ (s : LayoutState) (rest : List Char), s.level = level →
    layoutFrom w false s (cs ++ rest) =
      s.lead w ++ (t ++ layoutFrom w false { depth := level, pending := false } rest)

theorem LaysOutAs.append {cs cs' t t' : List Char} (h : LaysOutAs w level cs t)
    (h' : LaysOutAs w level cs' t') : LaysOutAs w level (cs ++ cs') (t ++ t') := by
  intro s rest hs
  -- behind the first piece nothing is waited for
  have hrest := h' { depth := level, pending := false } rest rfl
  rw [List.append_assoc, h s (cs' ++ rest) hs, hrest, List.append_assoc]
  rfl

/-- The scanner goes by the code of a brace. -/
theorem toNat_beq_of_ne {c : Char} {n : Nat} (h : c ≠ Char.ofNat n) : (c.toNat == n) = false :=
  beq_eq_false_iff_ne.2 fun hn => h (eq_ofNat_of_toNat hn)

/-- The characters at which a layout differs from the text, and the quote. -/
def marks : List Char := ['"', '[', ']', ',', ':', Char.ofNat 0x7b, Char.ofNat 0x7d]

theorem laysOutAs_char {c : Char} (h : c ∉ marks) : LaysOutAs w level [c] [c] := by
  simp only [marks, List.mem_cons, List.not_mem_nil, or_false, not_or] at h
  obtain ⟨hquote, hopen, hclose, hcomma, hcolon, hopen', hclose'⟩ := h
  intro s rest hs
  rw [List.singleton_append, layoutFrom, toNat_beq_of_ne hopen', toNat_beq_of_ne hclose',
    beq_eq_false_iff_ne.2 hopen, beq_eq_false_iff_ne.2 hclose, beq_eq_false_iff_ne.2 hcomma,
    beq_eq_false_iff_ne.2 hcolon, beq_eq_false_iff_ne.2 hquote, hs]
  rfl

theorem laysOutAs_comma : LaysOutAs w level [','] (',' :: w.newline level) := by
  intro s rest hs
  rw [List.singleton_append, layoutFrom_comma, hs]

theorem laysOutAs_colon : LaysOutAs w level [':'] [':', ' '] := by
  intro s rest hs
  rw [List.singleton_append, layoutFrom_colon, hs]
  rfl

theorem laysOutAs_string {t : List Char} {s : String} (h : StringMeans t s) :
    LaysOutAs w level t t := by
  obtain ⟨body, hbody, rfl⟩ := h
  intro s rest hs
  have hcopy := scan_body List.cons
    (fun c rest _ => layoutFrom_escape w { depth := level, pending := false } rest c)
    (fun _ rest => layoutFrom_plain w _ rest) (layoutFrom_quote w _) hbody rest
  rw [List.foldr_cons_eq_append'] at hcopy
  rw [quoted_append, quoted_append, layoutFrom_string, hs, hcopy]

/-- Brackets that close at once stay as they are. -/
theorem laysOutAs_closed {opening close : Char}
    (hopening : opening = '[' ∨ opening = Char.ofNat 0x7b)
    (hclose : close = ']' ∨ close = Char.ofNat 0x7d) :
    LaysOutAs w level [opening, close] [opening, close] := by
  intro s rest hs
  rw [List.cons_append, List.singleton_append, layoutFrom_opening w s _ hopening, hs,
    layoutFrom_close_pending w rest hclose]
  rfl

/-- Brackets around a piece open and close on lines of their own, and the piece stands one level
deeper. -/
theorem LaysOutAs.bracketed {cs t : List Char} (h : LaysOutAs w (level + 1) cs t)
    {opening close : Char} (hopening : opening = '[' ∨ opening = Char.ofNat 0x7b)
    (hclose : close = ']' ∨ close = Char.ofNat 0x7d) :
    LaysOutAs w level (opening :: (cs ++ [close]))
      (opening :: ((w.newline (level + 1) ++ (t ++ w.newline level)) ++ [close])) := by
  intro s rest hs
  -- the line break in front of the piece is the one that the opening bracket waits for
  have hlead : LayoutState.lead w { depth := level, pending := true } = w.newline (level + 1) := rfl
  have hpiece := h { depth := level, pending := true } (close :: rest) rfl
  rw [hlead, layoutFrom_close w rest hclose, Nat.add_sub_cancel] at hpiece
  rw [List.cons_append, List.append_assoc, List.singleton_append,
    layoutFrom_opening w s _ hopening, hs, hpiece]
  simp only [List.cons_append, List.append_assoc, List.nil_append]

/-! ### What is laid out keeps its meaning -/

theorem BlankText.append {a b : List Char} (ha : BlankText a) (hb : BlankText b) :
    BlankText (a ++ b) :=
  List.forall_mem_append.2 ⟨ha, hb⟩

/-- White space in front of entries belongs to the first of them. -/
theorem ListMeans.blank_append {α : Type} {Item : List Char → α → Prop} {a t : List Char}
    {xs : List α} (ha : BlankText a) (h : ListMeans Item t xs) : ListMeans Item (a ++ t) xs := by
  cases h with
  | last ha' hx hb =>
      rw [← List.append_assoc]
      exact .last (ha.append ha') hx hb
  | more ha' hx hb hrest =>
      rw [← List.append_assoc]
      exact .more (ha.append ha') hx hb hrest

/-- White space behind entries belongs to the last of them. -/
theorem ListMeans.append_blank {α : Type} {Item : List Char → α → Prop} {t b : List Char}
    {xs : List α} (h : ListMeans Item t xs) (hb : BlankText b) : ListMeans Item (t ++ b) xs := by
  induction h with
  | last ha hx hb' =>
      rw [List.append_assoc, List.append_assoc]
      exact .last ha hx (hb'.append hb)
  | more ha hx hb' _ ih =>
      rw [List.append_assoc, List.append_assoc, List.append_assoc, List.cons_append]
      exact .more ha hx hb' ih

/-- A piece of compact text is laid out at a level as a text that is squeezed back to it and has a
meaning. -/
def Indents (w : Indentation) (level : Nat) (Meaning : List Char → Prop) (cs : List Char) : Prop :=
  ∃ t, LaysOutAs w level cs t ∧ Squeezes t cs ∧ Meaning t

/-- A margin and a step of white space. -/
def Indentation.IsBlank (w : Indentation) : Prop :=
  BlankText w.margin.toList ∧ BlankText w.step.toList

theorem blankText_newline (hw : w.IsBlank) (level : Nat) : BlankText (w.newline level) := by
  intro c hc
  rw [Indentation.newline, List.cons_append, List.mem_cons, List.mem_append, List.mem_flatten] at hc
  rcases hc with rfl | hc | ⟨step, hstep, hc⟩
  · decide
  · exact hw.1 c hc
  · rw [List.eq_of_mem_replicate hstep] at hc
    exact hw.2 c hc

/-- Characters that are no marks and no white space are copied. -/
theorem indents_chars {Meaning : List Char → Prop} {t : List Char} (hne : t ≠ [])
    (hplain : ∀ c ∈ t, c ∉ marks ∧ c ∉ [' ', '\t', '\n', '\r']) (h : Meaning t) :
    Indents w level Meaning t := by
  refine ⟨t, ?_, ?_, h⟩
  · clear h
    induction t with
    | nil => exact absurd rfl hne
    | cons c t ih =>
        rw [List.forall_mem_cons] at hplain
        cases t with
        | nil => exact laysOutAs_char hplain.1.1
        | cons d t => exact (laysOutAs_char hplain.1.1).append (ih (by simp) hplain.2)
  · clear h hne
    induction t with
    | nil => exact squeezes_blank blankText_nil
    | cons c t ih =>
        rw [List.forall_mem_cons] at hplain
        have hquote : c ≠ '"' := by
          rintro rfl
          exact hplain.1.1 (by decide)
        exact (squeezes_char hplain.1.2 hquote).append (ih hplain.2)

theorem indents_string {t : List Char} {s : String} (h : StringMeans t s) :
    Indents w level (StringMeans · s) t :=
  ⟨t, laysOutAs_string h, squeezes_string h, h⟩

/-- A member is laid out as its key, a colon, a blank and its value. -/
theorem Indents.member {key cs : List Char} {k : String} {v : Value}
    (hkey : Indents w level (StringMeans · k) key) (hv : Indents w level (Means · v) cs) :
    Indents w level (MemberMeans Means · (k, v)) (key ++ ':' :: cs) := by
  obtain ⟨key', hkeyOut, hkeyBack, hkeyMeans⟩ := hkey
  obtain ⟨t, hout, hback, hmeans⟩ := hv
  have hblank : BlankText [' '] := by simp [BlankText]
  have hcolon : Squeezes [':', ' '] [':'] :=
    (squeezes_char (by simp) (by simp)).append (squeezes_blank hblank)
  exact ⟨key' ++ ([':', ' '] ++ t), hkeyOut.append (laysOutAs_colon.append hout),
    hkeyBack.append (hcolon.append hback), .mk hkeyMeans blankText_nil hblank hmeans⟩

section Entries

variable {α : Type} {Item : List Char → α → Prop}

theorem Indents.last {cs : List Char} {x : α} (h : Indents w level (Item · x) cs) :
    Indents w level (ListMeans Item · [x]) cs := by
  obtain ⟨t, hout, hback, hmeans⟩ := h
  have hlast := ListMeans.last blankText_nil hmeans blankText_nil
  rw [List.nil_append, List.append_nil] at hlast
  exact ⟨t, hout, hback, hlast⟩

/-- Behind a comma the next entry stands on a line of its own. -/
theorem Indents.more (hw : w.IsBlank) {cs rest : List Char} {x : α} {xs : List α}
    (h : Indents w level (Item · x) cs) (hrest : Indents w level (ListMeans Item · xs) rest) :
    Indents w level (ListMeans Item · (x :: xs)) (cs ++ ',' :: rest) := by
  obtain ⟨t, hout, hback, hmeans⟩ := h
  obtain ⟨ts, houts, hbacks, hlist⟩ := hrest
  have hbreak := blankText_newline hw level
  have hcomma : Squeezes (',' :: w.newline level) [','] :=
    (squeezes_char (by simp) (by simp)).append (squeezes_blank hbreak)
  refine ⟨t ++ ((',' :: w.newline level) ++ ts), hout.append (laysOutAs_comma.append houts),
    hback.append (hcomma.append hbacks), ?_⟩
  exact .more blankText_nil hmeans blankText_nil (hlist.blank_append hbreak)

/-- Entries in brackets. -/
theorem Indents.bracketed (hw : w.IsBlank) {Meaning : List Char → Prop} {cs : List Char}
    {xs : List α} {opening close : Char} (hopening : opening = '[' ∨ opening = Char.ofNat 0x7b)
    (hclose : close = ']' ∨ close = Char.ofNat 0x7d)
    (hmeaning : ∀ t, ListMeans Item t xs → Meaning (opening :: (t ++ [close])))
    (h : Indents w (level + 1) (ListMeans Item · xs) cs) :
    Indents w level Meaning (opening :: (cs ++ [close])) := by
  obtain ⟨t, hout, hback, hlist⟩ := h
  have hfirst := blankText_newline hw (level + 1)
  have hlast := blankText_newline hw level
  refine ⟨_, hout.bracketed hopening hclose, ?_,
    hmeaning _ ((hlist.append_blank hlast).blank_append hfirst)⟩
  have hinside := (squeezes_blank hfirst).append (hback.append (squeezes_blank hlast))
  rw [List.nil_append, List.append_nil] at hinside
  exact (squeezes_opening hopening).enclosed hinside (squeezes_close hclose)

end Entries

/-- Brackets without entries. -/
theorem indents_closed {Meaning : List Char → Prop} {opening close : Char}
    (hopening : opening = '[' ∨ opening = Char.ofNat 0x7b)
    (hclose : close = ']' ∨ close = Char.ofNat 0x7d) (h : Meaning [opening, close]) :
    Indents w level Meaning [opening, close] := by
  have hback := (squeezes_opening hopening).append (squeezes_close hclose)
  exact ⟨_, laysOutAs_closed hopening hclose, hback, h⟩

end Layout

end Json

/-! ### Indented text of values -/

namespace Value

open Json

variable {w : Indentation}

/-- Entries that can each be laid out are laid out on lines of their own. -/
theorem Joined.indents {α : Type} {Entry Item : List Char → α → Prop} (hw : w.IsBlank) {level : Nat}
    {body : List Char} {xs : List α} (h : Joined Entry body xs)
    (hitem : ∀ x ∈ xs, ∀ t, Entry t x → Indents w level (Item · x) t) :
    Indents w level (ListMeans Item · xs) body := by
  induction h with
  | last hx => exact (hitem _ (List.mem_singleton_self _) _ hx).last
  | more hx _ ih =>
      rw [List.forall_mem_cons] at hitem
      exact (hitem.1 _ hx).more hw (ih hitem.2)

/-- **The compact text of a value is laid out at every level** as a text that means the value. -/
theorem indents_writeJson (hw : w.IsBlank) (level : Nat) {v : Value} {cs : List Char}
    (h : v.writeJson = .ok cs) : Indents w level (Means · v) cs := by
  induction v using nestedInduction generalizing level cs with
  | null =>
      cases h
      exact indents_chars (by simp) (by simp [marks]) .null
  | bool b =>
      cases b with
      | true =>
          cases h
          exact indents_chars (by simp) (by simp [marks]) .true
      | false =>
          cases h
          exact indents_chars (by simp) (by simp [marks]) .false
  | string s =>
      cases h
      have hstring : Indents w level (StringMeans · s) (writeString s.toList) :=
        indents_string (stringMeans_writeString s)
      obtain ⟨t, hout, hback, hmeans⟩ := hstring
      exact ⟨t, hout, hback, .string hmeans⟩
  | number number =>
      rw [writeJson, writeWith] at h
      split at h
      · next hnumber =>
        cases h
        have htext := (isNumberChars_iff _).1 hnumber
        refine indents_chars ?_ (fun c hc => ?_) (.number htext)
        · intro hnil
          rw [Decimal.isNumber, hnil] at hnumber
          cases hnumber
        · have hchar := htext.isNumberChar c hc
          have hno : ∀ c ∈ marks ++ [' ', '\t', '\n', '\r'], isNumberChar c = false := by
            simp [marks, isNumberChar]
          refine ⟨fun hmem => ?_, fun hmem => ?_⟩
          · rw [hno c (List.mem_append_left _ hmem)] at hchar
            cases hchar
          · rw [hno c (List.mem_append_right _ hmem)] at hchar
            cases hchar
      · cases h
  | array items ih =>
      simp only [writeJson, writeWith, bind_eq_ok_iff, Except.ok.injEq] at h
      obtain ⟨body, hbody, rfl⟩ := h
      cases items with
      | nil =>
          cases hbody
          exact indents_closed (Or.inl rfl) (Or.inl rfl) (.emptyArray blankText_nil)
      | cons v items =>
          obtain ⟨_, rfl, hjoined⟩ := joined_writeItems hbody (by simp)
          have hlist : Indents w (level + 1) (ListMeans Means · (v :: items)) body :=
            hjoined.indents hw fun x hx t ht => ih x hx (level + 1) ht
          exact hlist.bracketed hw (Or.inl rfl) (Or.inl rfl) fun _ ht => .array ht
  | document d ih =>
      simp only [writeJson, writeWith, bind_eq_ok_iff, Except.ok.injEq] at h
      obtain ⟨body, hbody, rfl⟩ := h
      cases d with
      | nil =>
          cases hbody
          exact indents_closed (Or.inr rfl) (Or.inr rfl) (.emptyDocument blankText_nil)
      | cons e d =>
          obtain ⟨_, rfl, hjoined⟩ := joined_writeElements hbody (by simp)
          have hlist : Indents w (level + 1) (ListMeans (MemberMeans Means) · (e :: d)) body := by
            refine hjoined.indents hw ?_
            rintro x hx _ ⟨head, hhead, rfl⟩
            exact (indents_string (stringMeans_writeString x.1)).member (ih x hx (level + 1) hhead)
          exact hlist.bracketed hw (Or.inr rfl) (Or.inr rfl) fun _ ht => .document ht
  | absentDocument => cases h
  | absent => cases h

end Value

/-- **Indented text is compact text with white space.** A value that has a compact text has an
indented one with every margin and step of white space, unless it nests too deep. Without the white
space outside strings that text is the compact one, and it denotes the same value and no other: the
same keys in the same order, the same number texts and the same strings. A value that nests too deep
is refused for its depth. -/
theorem indented_text_squeezes {w : Json.Indentation} (hmargin : Json.BlankText w.margin.toList)
    (hstep : Json.BlankText w.step.toList) {v : Value} {text : String}
    (h : v.toJson = .ok text) :
    (v.nesting ≤ Json.maxNesting →
      ∃ laid, v.toIndentedJson w = .ok laid ∧ Json.squeeze laid.toList = text.toList ∧
        Json.JsonText laid.toList ∧ (∀ u, Json.Denotes laid.toList u ↔ u = v) ∧
        ∀ u, Json.Denotes text.toList u ↔ u = v) ∧
    (Json.maxNesting < v.nesting → v.toIndentedJson w = .error (.layout .tooDeep)) := by
  obtain ⟨cs, hcs, rfl⟩ := Value.map_eq_ok_iff.1 h
  refine ⟨fun hroom => ?_, Value.toIndentedJson_of_lt_nesting w hcs⟩
  have hblank : w.IsBlank := ⟨hmargin, hstep⟩
  obtain ⟨laid, hlaid, hback, hmeans⟩ := Value.indents_writeJson hblank 0 hcs
  have hlayout : Json.layoutFrom w false { depth := 0, pending := false } cs = laid := by
    have hwhole := hlaid { depth := 0, pending := false } [] rfl
    rw [List.append_nil] at hwhole
    rw [hwhole, Json.layoutFrom, List.append_nil]
    rfl
  have hsqueeze : Json.squeeze laid = cs := by
    have hwhole := hback []
    have hend : Json.squeezeFrom false [] = [] := rfl
    rwa [List.append_nil, hend, List.append_nil] at hwhole
  rw [String.toList_ofList]
  refine ⟨String.ofList laid, ?_, ?_, ?_, ?_, (Json.means_writeJson hcs).denotes.iff_eq⟩
  · rw [Value.toIndentedJson_of_nesting_le w hcs hroom, hlayout]
  · rw [String.toList_ofList, hsqueeze]
  · rw [String.toList_ofList]
    exact hmeans.denotes.jsonText
  · rw [String.toList_ofList]
    exact hmeans.denotes.iff_eq

theorem quoted_punctuation_squeezes :
    let w : Json.Indentation := { margin := "\t", step := " \r" }
    let v : Value := .document [("a\"[", .array [.string "\\\", \x7b:", .number "1e5"]),
      ("", .array []), ("d", .document [])]
    let text : String := "\x7b\"a\\\"[\":[\"\\\\\\\", \x7b:\",1e5],\"\":[],\"d\":\x7b\x7d\x7d"
    (Json.BlankText w.margin.toList ∧ Json.BlankText w.step.toList ∧ v.toJson = .ok text ∧
      v.nesting ≤ Json.maxNesting ∧
      ∃ laid, v.toIndentedJson w = .ok laid ∧ Json.squeeze laid.toList = text.toList ∧
        Json.JsonText laid.toList ∧ (∀ u, Json.Denotes laid.toList u ↔ u = v) ∧
        ∀ u, Json.Denotes text.toList u ↔ u = v) ∧
    Json.maxNesting < (nestedValue Json.maxNesting).nesting ∧
    ∃ deep, (nestedValue Json.maxNesting).toJson = .ok deep ∧
      (nestedValue Json.maxNesting).toIndentedJson w = .error (.layout .tooDeep) := by
  intro w v text
  have hmargin : Json.BlankText w.margin.toList := by simp [w, Json.BlankText]
  have hstep : Json.BlankText w.step.toList := by simp [w, Json.BlankText]
  have htext : v.toJson = .ok text := by cbv
  have hroom : v.nesting ≤ Json.maxNesting := by decide
  refine ⟨⟨hmargin, hstep, htext, hroom, (indented_text_squeezes hmargin hstep htext).1 hroom⟩, ?_⟩
  have hdeep : Json.maxNesting < (nestedValue Json.maxNesting).nesting := by
    rw [nesting_nestedValue]
    exact Nat.lt_succ_self _
  obtain ⟨deep, htext'⟩ := (Value.exists_toJson_iff _).2 (isRenderable_nestedValue Json.maxNesting)
  exact ⟨hdeep, deep, htext', (indented_text_squeezes hmargin hstep htext').2 hdeep⟩

end DocQuery
