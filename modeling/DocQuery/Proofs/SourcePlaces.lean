import DocQuery.Compile.Error
import DocQuery.Proofs.ErrorPlaces

/-!
# DocQuery.Proofs.SourcePlaces

**Places and offsets are the same thing, and source lines hold the bytes at the columns.** Newlines
are counted in three ways: all of them before an offset (`position`), one after another up to a line
(`offsetOf`), and by splitting the text (`sourceLine`). The three meet at the start of a line. The
bytes before an offset are whole lines, each with its newline, and a last piece without one
(`exists_line`); `position` is the number of the lines and the length of the piece, `offsetOf` finds
where the lines end, and the text of the line is what follows up to the next newline.

The caret below a source line is another matter. A column counts bytes, and so does the white space
in front of the caret, one blank for each byte; a line is read by its characters. The caret stands
below the character that the column denotes exactly when all characters before it are of one byte
(`caret_below_character_iff`).
-/

namespace DocQuery.Text

/-! ### Whole lines and a piece -/

/-- Bytes are whole lines and a piece without a newline, which is as long as one can look back
without meeting a newline. -/
theorem exists_wholeLines (bs : List UInt8) :
    ∃ lines piece, bs = lines ++ piece ∧ WholeLines lines ∧ newlineByte ∉ piece ∧
      (bs.reverse.takeWhile (· != newlineByte)).length = piece.length := by
  refine ⟨(bs.reverse.dropWhile (· != newlineByte)).reverse,
    (bs.reverse.takeWhile (· != newlineByte)).reverse, ?_, ?_, ?_, (List.length_reverse).symm⟩
  · rw [← List.reverse_append, List.takeWhile_append_dropWhile, List.reverse_reverse]
  · rcases dropWhile_bne_cases newlineByte bs.reverse with h | ⟨more, h⟩
    · exact .inl (by rw [h]; rfl)
    · exact .inr ⟨more.reverse, by rw [h, List.reverse_cons]⟩
  · intro hmem
    have := List.mem_takeWhile_imp (List.mem_reverse.1 hmem)
    simp at this

variable {src : String}

/-- **The place of an offset** is given by the whole lines before it and by the piece of its own
line before it. -/
theorem exists_line (src : String) (offset : Int) :
    ∃ lines piece rest, bytes src = lines ++ (piece ++ rest) ∧ WholeLines lines ∧
      newlineByte ∉ piece ∧ lines.length + piece.length = clamp (bytes src).length offset ∧
      position src offset = ⟨lines.count newlineByte + 1, piece.length + 1⟩ := by
  have hle : clamp (bytes src).length offset ≤ (bytes src).length := Nat.min_le_right _ _
  obtain ⟨lines, piece, hsplit, hlines, hpiece, hlength⟩ :=
    exists_wholeLines ((bytes src).take (clamp (bytes src).length offset))
  refine ⟨lines, piece, (bytes src).drop (clamp (bytes src).length offset), ?_, hlines, hpiece, ?_,
    ?_⟩
  · rw [← List.append_assoc, ← hsplit, List.take_append_drop]
  · rw [← List.length_append, ← hsplit, List.length_take, Nat.min_eq_left hle]
  · simp only [position, hlength]
    rw [hsplit, List.count_append, List.count_eq_zero.2 hpiece, Nat.add_zero]

/-! ### From an offset to its place and back -/

/-- **The place of an offset denotes that offset.** -/
theorem offsetOf_position (src : String) (offset : Int) :
    offsetOf src (position src offset) = clamp (bytes src).length offset := by
  obtain ⟨lines, piece, rest, hsrc, hlines, -, hoffset, hplace⟩ := exists_line src offset
  have hle : clamp (bytes src).length offset ≤ (bytes src).length := Nat.min_le_right _ _
  have hstart : lineBytes (lines.count newlineByte) (bytes src) = some lines.length := by
    rw [hsrc]
    exact lineBytes_count hlines _
  rw [hplace, offsetOf, Nat.add_sub_cancel, hstart]
  simp only
  omega

/-- One place stands before another: in an earlier line, or in the same line and further left. -/
def Place.Before (p q : Place) : Prop := p.line < q.line ∨ p.line = q.line ∧ p.column < q.column

instance (p q : Place) : Decidable (p.Before q) := inferInstanceAs (Decidable (_ ∨ _ ∧ _))

theorem Place.Before.irrefl (p : Place) : ¬ p.Before p := by
  unfold Place.Before
  omega

theorem Place.Before.asymm {p q : Place} (h : p.Before q) : ¬ q.Before p := by
  unfold Place.Before at h ⊢
  omega

/-- Places come in the order of their offsets. -/
theorem position_before {offset offset' : Int}
    (h : clamp (bytes src).length offset < clamp (bytes src).length offset') :
    (position src offset).Before (position src offset') := by
  have hlines : (position src offset).line ≤ (position src offset').line := by
    have hsub := (List.take_prefix_take_left (l := bytes src) h.le).sublist
    exact Nat.succ_le_succ (hsub.count_le newlineByte)
  rcases hlines.lt_or_eq with hlt | heq
  · exact .inl hlt
  · -- in one line both columns count from the same start
    have hback := offsetOf_position src offset
    have hback' := offsetOf_position src offset'
    refine .inr ⟨heq, ?_⟩
    rw [offsetOf] at hback hback'
    rw [heq] at hback
    cases hstart : lineBytes ((position src offset').line - 1) (bytes src) with
    | none =>
        rw [hstart] at hback hback'
        simp only at hback hback'
        omega
    | some start =>
        rw [hstart] at hback hback'
        simp only at hback hback'
        omega

theorem position_before_iff {offset offset' : Int} :
    (position src offset).Before (position src offset') ↔
      clamp (bytes src).length offset < clamp (bytes src).length offset' := by
  refine ⟨?_, position_before⟩
  intro h
  rcases Nat.lt_trichotomy (clamp (bytes src).length offset) (clamp (bytes src).length offset') with
    hlt | heq | hgt
  · exact hlt
  · have hsame : position src offset = position src offset' := by rw [position, position, heq]
    rw [hsame] at h
    exact absurd h (Place.Before.irrefl _)
  · exact absurd (position_before hgt) h.asymm

/-! ### Bytes of source lines -/

/-- The carriage return byte. -/
def returnByte : UInt8 := 13

/-- The byte at an offset is a carriage return with the end of its line behind it. -/
def ReturnAtLineEnd (bs : List UInt8) (o : Nat) : Prop :=
  bs[o]? = some returnByte ∧ (bs[o + 1]? = none ∨ bs[o + 1]? = some newlineByte)

/-- A text with `n` newlines or more has a place where the line after `n` newlines starts. -/
theorem exists_atLineStart {n : Nat} {cs : List Char} (h : n ≤ cs.count '\n') :
    ∃ before rest, cs = before ++ rest ∧ before.count '\n' = n ∧ AtLineStart before := by
  induction cs generalizing n with
  | nil => exact ⟨[], [], rfl, (Nat.le_zero.1 h).symm, .inl rfl⟩
  | cons c cs ih =>
      cases n with
      | zero => exact ⟨[], c :: cs, rfl, rfl, .inl rfl⟩
      | succ n =>
          by_cases hc : c = '\n'
          · subst hc
            rw [List.count_cons_self] at h
            obtain ⟨before, rest, rfl, hcount, hstart⟩ := ih (Nat.le_of_succ_le_succ h)
            refine ⟨'\n' :: before, rest, rfl, by rw [List.count_cons_self, hcount], .inr ?_⟩
            rcases hstart with rfl | ⟨lines, rfl⟩
            · exact ⟨[], rfl⟩
            · exact ⟨'\n' :: lines, rfl⟩
          · rw [List.count_cons_of_ne hc] at h
            obtain ⟨before, rest, rfl, hcount, hstart⟩ := ih h
            refine ⟨c :: before, rest, rfl, by rw [List.count_cons_of_ne hc, hcount], .inr ?_⟩
            rcases hstart with rfl | ⟨lines, rfl⟩
            · cases hcount
            · exact ⟨c :: lines, rfl⟩

/-- Whole lines of bytes are whole lines of characters. -/
theorem exists_of_wholeLines {cs : List Char} {lines more : List UInt8}
    (hcs : cs.flatMap charBytes = lines ++ more) (hlines : WholeLines lines) :
    ∃ before rest, cs = before ++ rest ∧ before.count '\n' = lines.count newlineByte ∧
      AtLineStart before ∧ rest.flatMap charBytes = more := by
  have hle : lines.count newlineByte ≤ cs.count '\n' := by
    rw [← count_newlineByte, hcs, List.count_append]
    exact Nat.le_add_right _ _
  obtain ⟨before, rest, rfl, hcount, hstart⟩ := exists_atLineStart hle
  refine ⟨before, rest, rfl, hcount, hstart, ?_⟩
  -- the same number of newlines leads to the same offset
  have hfound := lineBytes_of_count hcount hstart rest
  rw [hcs, lineBytes_count hlines, Option.some.injEq, ← length_flatMap_charBytes] at hfound
  rw [List.flatMap_append] at hcs
  exact (List.append_inj hcs hfound.symm).2

/-- What follows the first line of a text starts with its newline, if there is one. -/
theorem getElem?_zero_dropWhile (cs : List Char) :
    ((cs.dropWhile (· != '\n')).flatMap charBytes)[0]? = none ∨
      ((cs.dropWhile (· != '\n')).flatMap charBytes)[0]? = some newlineByte := by
  rcases dropWhile_bne_cases '\n' cs with h | ⟨rest, h⟩
  · exact .inl (by rw [h]; rfl)
  · exact .inr (by rw [h]; rfl)

/-- The bytes in front of the first newline byte are those of the first line. -/
theorem getElem?_takeWhile {cs : List Char} {piece rest : List UInt8} {b : UInt8}
    (hcs : cs.flatMap charBytes = piece ++ b :: rest) (hpiece : newlineByte ∉ piece)
    (hb : b ≠ newlineByte) :
    ((cs.takeWhile (· != '\n')).flatMap charBytes)[piece.length]? = some b := by
  have hsplit : cs.flatMap charBytes = (cs.takeWhile (· != '\n')).flatMap charBytes ++
      (cs.dropWhile (· != '\n')).flatMap charBytes := by
    rw [← List.flatMap_append, List.takeWhile_append_dropWhile]
  -- what is behind the first line does not start with a byte of the piece, nor with `b`
  have hend : ∀ {x : UInt8} {more : List UInt8}, x ≠ newlineByte →
      (cs.dropWhile (· != '\n')).flatMap charBytes ≠ x :: more := by
    intro x more hx hback
    have hfirst := getElem?_zero_dropWhile cs
    rw [hback] at hfirst
    rcases hfirst with h | h
    · cases h
    · exact hx (Option.some.inj h)
  rw [hsplit, List.append_eq_append_iff] at hcs
  rcases hcs with ⟨cut, hfront, hback⟩ | ⟨cut, hfront, hback⟩
  · cases cut with
    | nil => exact absurd hback (hend hb)
    | cons x cut =>
        refine absurd hback (hend ?_)
        rintro rfl
        exact hpiece (by rw [hfront]; simp)
  · cases cut with
    | nil => exact absurd hback.symm (hend hb)
    | cons x cut =>
        rw [List.cons_append] at hback
        obtain ⟨rfl, -⟩ := List.cons.inj hback
        rw [hfront, List.getElem?_append_right (Nat.le_refl _), Nat.sub_self]
        rfl

theorem charBytes_return : charBytes '\r' = [returnByte] := by decide

/-- A carriage return is taken off the end of a line and changes nothing before it. -/
theorem getElem?_dropReturn {line : List Char} {k : Nat} {b : UInt8}
    (h : (line.flatMap charBytes)[k]? = some b)
    (hk : b = returnByte → k + 1 ≠ (line.flatMap charBytes).length) :
    ((dropReturn line).flatMap charBytes)[k]? = some b := by
  by_cases hlast : line.getLast? = some '\r'
  · obtain ⟨text, rfl⟩ := List.getLast?_eq_some_iff.1 hlast
    rw [dropReturn_concat_return]
    rw [List.flatMap_append, List.flatMap_singleton, charBytes_return] at h hk
    by_cases hlt : k < (text.flatMap charBytes).length
    · rwa [List.getElem?_append_left hlt] at h
    · -- the only byte left is that of the carriage return
      rw [List.getElem?_append_right (Nat.le_of_not_lt hlt), List.getElem?_singleton] at h
      split at h
      · next hzero =>
        refine absurd ?_ (hk (Option.some.inj h).symm)
        rw [List.length_append, List.length_singleton]
        omega
      · cases h
  · rwa [dropReturn, if_neg hlast]

/-- **Source lines hold the bytes at the columns**, but for line ends. -/
theorem getElem?_sourceLine {offset : Int} {b : UInt8}
    (h : (bytes src)[clamp (bytes src).length offset]? = some b) (hb : b ≠ newlineByte)
    (hreturn : ¬ ReturnAtLineEnd (bytes src) (clamp (bytes src).length offset)) :
    (bytes (sourceLine src (position src offset).line))[(position src offset).column - 1]? =
      some b := by
  obtain ⟨lines, piece, rest, hsrc, hlines, hpiece, hoffset, hplace⟩ := exists_line src offset
  have hbyte := h
  -- the byte is the one behind the piece
  rw [← hoffset, hsrc, ← List.append_assoc, ← List.length_append,
    List.getElem?_append_right (Nat.le_refl _), Nat.sub_self] at h
  obtain ⟨rest, rfl⟩ : ∃ more, rest = b :: more := by
    cases rest with
    | nil => cases h
    | cons c more => exact ⟨more, by rw [Option.some.inj h]⟩
  rw [bytes_eq_flatMap] at hsrc
  obtain ⟨before, after, hchars, hcount, hstart, hafter⟩ := exists_of_wholeLines hsrc hlines
  have hline : sourceLine src (lines.count newlineByte + 1) =
      String.ofList (dropReturn (after.takeWhile (· != '\n'))) := by
    rw [sourceLine, if_neg (Nat.succ_ne_zero _), Nat.add_sub_cancel, hchars,
      getElem?_splitLines hcount hstart, Option.getD_some]
  rw [hplace, hline, bytes_eq_flatMap, String.toList_ofList, Nat.add_sub_cancel]
  refine getElem?_dropReturn (getElem?_takeWhile hafter hpiece hb) ?_
  rintro rfl hlength
  -- a carriage return that is the last byte of the line ends it
  have hbytes : bytes src = lines ++ ((after.takeWhile (· != '\n')).flatMap charBytes ++
      (after.dropWhile (· != '\n')).flatMap charBytes) := by
    rw [bytes_eq_flatMap, hsrc, ← hafter, ← List.flatMap_append, List.takeWhile_append_dropWhile]
  have hnext : (bytes src)[clamp (bytes src).length offset + 1]? =
      ((after.dropWhile (· != '\n')).flatMap charBytes)[0]? := by
    rw [← hoffset, Nat.add_assoc, hlength, hbytes, ← List.append_assoc, ← List.length_append,
      List.getElem?_append_right (Nat.le_refl _), Nat.sub_self]
  refine hreturn ⟨hbyte, ?_⟩
  rw [hnext]
  exact getElem?_zero_dropWhile after

/-- **Places and offsets are the same thing.** For an offset that is first moved into the source,
line and column are at least one, the place denotes the offset, places come in the order of their
offsets, and the source line has at the column the byte at the offset, unless that is a newline, a
carriage return in front of one or of the end, or the end itself. -/
theorem position_exact (src : String) (offset : Int) :
    1 ≤ (position src offset).line ∧ 1 ≤ (position src offset).column ∧
      offsetOf src (position src offset) = clamp (bytes src).length offset ∧
      (∀ other, (position src offset).Before (position src other) ↔
        clamp (bytes src).length offset < clamp (bytes src).length other) ∧
      ∀ b, (bytes src)[clamp (bytes src).length offset]? = some b → b ≠ newlineByte →
        ¬ ReturnAtLineEnd (bytes src) (clamp (bytes src).length offset) →
        (bytes (sourceLine src (position src offset).line))[(position src offset).column - 1]? =
          some b :=
  ⟨Nat.le_add_left 1 _, Nat.le_add_left 1 _, offsetOf_position src offset,
    fun _ => position_before_iff, fun _ => getElem?_sourceLine⟩

/-- The second byte of an accented letter in the second line, behind a carriage return that stays in
the line because another one ends it. -/
theorem accented_letter_behind_return :
    let src : String := "a\n\r\u00e9\r\r\nb"
    (bytes src)[4]? = some 0xa9 ∧ position src 4 = ⟨2, 3⟩ ∧ offsetOf src ⟨2, 3⟩ = 4 ∧
      (position src 4).Before (position src 8) ∧ sourceLine src 2 = "\r\u00e9\r" ∧
      (bytes (sourceLine src 2))[2]? = some 0xa9 := by
  intro src
  have hbyte : (bytes src)[4]? = some 0xa9 := by decide +kernel
  have hplace : position src 4 = ⟨2, 3⟩ := by decide +kernel
  have hclamp : clamp (bytes src).length 4 = 4 := by decide +kernel
  have hclamp' : clamp (bytes src).length 8 = 8 := by decide +kernel
  have hreturn : ¬ ReturnAtLineEnd (bytes src) 4 := by
    rintro ⟨h, -⟩
    rw [hbyte] at h
    exact absurd h (by decide)
  obtain ⟨-, -, hback, hbefore, hline⟩ := position_exact src 4
  rw [hplace, hclamp] at hback hline
  refine ⟨hbyte, hplace, hback, (hbefore 8).2 (by rw [hclamp, hclamp']; decide),
    by decide +kernel, hline _ hbyte (by decide) hreturn⟩

end DocQuery.Text

/-! ### Carets -/

namespace DocQuery

open Text

/-- The white space that leads up to the end of a text when it is written below it: a tab where the
text has one, and a space for every other character. -/
def blanksBelow (cs : List Char) : List Char := cs.map fun c => if c = '\t' then '\t' else ' '

/-- What stands in front of a caret for one character of the line. -/
def caretBlanks (c : Char) : List Char :=
  if c = '\t' then ['\t'] else List.replicate c.utf8Size ' '

theorem length_caretBlanks (c : Char) : (caretBlanks c).length = c.utf8Size := by
  unfold caretBlanks
  split
  · next hc =>
    subst hc
    rfl
  · exact List.length_replicate

theorem length_flatMap_caretBlanks (cs : List Char) :
    (cs.flatMap caretBlanks).length = byteLength cs := by
  induction cs with
  | nil => rfl
  | cons c cs ih =>
      rw [List.flatMap_cons, List.length_append, ih, length_caretBlanks, byteLength_cons]

/-- The white space in front of a caret goes up to the column, byte by byte. -/
theorem caretPad_eq {line : String} {before after : List Char}
    (hline : line.toList = before ++ after) :
    caretPad line (byteLength before + 1) = String.ofList (before.flatMap caretBlanks) := by
  have hblanks : (fun c : Char => if c == '\t' then ['\t'] else List.replicate c.utf8Size ' ') =
      caretBlanks := by
    funext c
    simp only [caretBlanks, beq_iff_eq]
  have hcolumn :
      ((byteLength before : Int) + 1 - 1).toNat = (before.flatMap caretBlanks).length := by
    rw [length_flatMap_caretBlanks]
    omega
  simp only [caretPad, hblanks, hline, List.flatMap_append, hcolumn, List.take_left]

theorem length_le_byteLength (cs : List Char) : cs.length ≤ byteLength cs := by
  induction cs with
  | nil => exact Nat.le_refl _
  | cons c cs ih =>
      have := c.utf8Size_pos
      rw [List.length_cons, byteLength_cons]
      omega

theorem byteLength_eq_length_iff (cs : List Char) :
    byteLength cs = cs.length ↔ ∀ c ∈ cs, c.utf8Size = 1 := by
  induction cs with
  | nil => simp
  | cons c cs ih =>
      have hpos := c.utf8Size_pos
      have hle := length_le_byteLength cs
      rw [List.forall_mem_cons, ← ih, List.length_cons, byteLength_cons]
      omega

/-- Blanks for bytes are blanks for characters exactly when every character is one byte. -/
theorem flatMap_caretBlanks_eq_iff (cs : List Char) :
    cs.flatMap caretBlanks = blanksBelow cs ↔ ∀ c ∈ cs, c.utf8Size = 1 := by
  constructor
  · intro h
    rw [← byteLength_eq_length_iff, ← length_flatMap_caretBlanks, h, blanksBelow, List.length_map]
  · intro h
    rw [blanksBelow, ← List.flatMap_singleton' (List.map _ cs), List.flatMap_map]
    refine List.flatMap_congr fun c hc => ?_
    rw [caretBlanks, h c hc]
    split
    · rfl
    · rfl

/-! #### The text of an error -/

theorem splitLines_cons_line {line : List Char} (hline : '\n' ∉ line) (rest : List Char) :
    splitLines (line ++ '\n' :: rest) = line :: splitLines rest := by
  induction line with
  | nil => rw [List.nil_append, splitLines, if_pos rfl]
  | cons c line ih =>
      rw [List.mem_cons, not_or] at hline
      rw [List.cons_append, splitLines, if_neg (Ne.symm hline.1), ih hline.2]

theorem splitLines_line {line : List Char} (hline : '\n' ∉ line) : splitLines line = [line] := by
  induction line with
  | nil => rfl
  | cons c line ih =>
      rw [List.mem_cons, not_or] at hline
      rw [splitLines, if_neg (Ne.symm hline.1), ih hline.2]

/-- The lines behind a newline are the last lines of a text. -/
theorem exists_splitLines_append (before rest : List Char) :
    ∃ above, splitLines (before ++ '\n' :: rest) = above ++ splitLines rest := by
  refine ⟨(splitLines (before ++ '\n' :: rest)).take (before.count '\n' + 1), ?_⟩
  rw [← drop_splitLines before rest, List.take_append_drop]

/-- A line of the text of an error that is set in. -/
def setIn (line : List Char) : List Char := ' ' :: ' ' :: line

theorem setIn_newline {line : List Char} (h : '\n' ∉ line) : '\n' ∉ setIn line := by
  simp [setIn, h]

/-- The text of an error ends with the source line and the line of the caret. -/
theorem exists_splitLines_text {e : SourceError} (hline : '\n' ∉ e.sourceLine.toList)
    (hpad : '\n' ∉ (caretPad e.sourceLine e.column).toList) :
    ∃ above, splitLines e.text.toList = above ++ [setIn e.sourceLine.toList,
      setIn ((caretPad e.sourceLine e.column).toList ++ ['^'])] := by
  have htext : e.text.toList =
      (e.message ++ " at line " ++ toString e.line ++ ":" ++ toString e.column ++
        " in expression:\n").toList ++ '\n' ::
      (setIn e.sourceLine.toList ++ '\n' ::
        setIn ((caretPad e.sourceLine e.column).toList ++ ['^'])) := by
    simp [SourceError.text, setIn]
  have hcaret : '\n' ∉ (caretPad e.sourceLine e.column).toList ++ ['^'] := by
    simp [hpad]
  obtain ⟨above, habove⟩ := exists_splitLines_append
    (e.message ++ " at line " ++ toString e.line ++ ":" ++ toString e.column ++
      " in expression:\n").toList
    (setIn e.sourceLine.toList ++ '\n' :: setIn ((caretPad e.sourceLine e.column).toList ++ ['^']))
  refine ⟨above, ?_⟩
  rw [htext, habove, splitLines_cons_line (setIn_newline hline),
    splitLines_line (setIn_newline hcaret)]

/-- There is nothing but tabs and spaces in front of a caret. -/
theorem not_mem_flatMap_caretBlanks {x : Char} (htab : x ≠ '\t') (hspace : x ≠ ' ')
    (cs : List Char) : x ∉ cs.flatMap caretBlanks := by
  intro h
  obtain ⟨c, -, hx⟩ := List.mem_flatMap.1 h
  unfold caretBlanks at hx
  split at hx
  · exact htab (List.mem_singleton.1 hx)
  · exact hspace (List.eq_of_mem_replicate hx)

/-- The caret stands behind as many characters as the text before the column has bytes. -/
theorem idxOf_caret (before : List Char) :
    (setIn (before.flatMap caretBlanks ++ ['^'])).idxOf '^' =
      (setIn before).length + (byteLength before - before.length) := by
  have hcaret : '^' ∉ setIn (before.flatMap caretBlanks) := by
    simp only [setIn, List.mem_cons, not_or]
    exact ⟨by decide, by decide, not_mem_flatMap_caretBlanks (by decide) (by decide) before⟩
  have happend : setIn (before.flatMap caretBlanks ++ ['^']) =
      setIn (before.flatMap caretBlanks) ++ ['^'] := rfl
  have hle := length_le_byteLength before
  rw [happend, List.idxOf_append_of_notMem hcaret, List.idxOf_cons_self]
  simp only [setIn, List.length_cons, length_flatMap_caretBlanks]
  omega

/-- **Where the caret of an error stands.** For every character of the line before the column there
are as many blanks as the character has bytes, a tab for a tab. So the caret stands below the
character at the column, with the white space of the line in front of it, exactly when all
characters before it are of one byte; otherwise it stands too far to the right. -/
theorem caret_below_character_iff {e : SourceError} {before after : List Char}
    (hline : e.sourceLine.toList = before ++ after) (hcolumn : e.column = byteLength before + 1) :
    (caretPad e.sourceLine e.column).toList = before.flatMap caretBlanks ∧
    ((caretPad e.sourceLine e.column).toList = blanksBelow before ↔
      ∀ c ∈ before, c.utf8Size = 1) ∧
    ('\n' ∉ before ++ after → ∃ above below,
      splitLines e.text.toList = above ++ [setIn (before ++ after), below] ∧
      below.idxOf '^' = (setIn before).length + (byteLength before - before.length) ∧
      (below.idxOf '^' = (setIn before).length ↔ ∀ c ∈ before, c.utf8Size = 1)) := by
  have hpad : (caretPad e.sourceLine e.column).toList = before.flatMap caretBlanks := by
    rw [hcolumn, caretPad_eq hline, String.toList_ofList]
  refine ⟨hpad, by rw [hpad, flatMap_caretBlanks_eq_iff], ?_⟩
  intro hnewline
  rw [← hline] at hnewline
  have hpadnewline : '\n' ∉ (caretPad e.sourceLine e.column).toList := by
    rw [hpad]
    exact not_mem_flatMap_caretBlanks (by decide) (by decide) before
  obtain ⟨above, habove⟩ := exists_splitLines_text hnewline hpadnewline
  rw [hpad, hline] at habove
  refine ⟨above, _, habove, idxOf_caret before, ?_⟩
  have hle := length_le_byteLength before
  rw [idxOf_caret, ← byteLength_eq_length_iff]
  omega

/-- An accented letter before the column moves the caret: it stands one character to the right of
the closing parenthesis that is complained about. -/
theorem accented_letter_shifts_caret :
    let e : SourceError :=
      { message := "Unexpected token )", line := 1, column := 7, offset := 6,
        sourceLine := "\u00e9 == )" }
    let before : List Char := ['\u00e9', ' ', '=', '=', ' ']
    e.sourceLine.toList = before ++ [')'] ∧ e.column = byteLength before + 1 ∧
      caretPad e.sourceLine e.column = "      " ∧ blanksBelow before = "     ".toList ∧
      (caretPad e.sourceLine e.column).toList ≠ blanksBelow before ∧
      ∃ above below, splitLines e.text.toList = above ++ [setIn (before ++ [')']), below] ∧
        below.idxOf '^' = (setIn before).length + 1 := by
  intro e before
  have hline : e.sourceLine.toList = before ++ [')'] := by decide +kernel
  have hcolumn : e.column = byteLength before + 1 := by decide +kernel
  obtain ⟨hpad, hblanks, htext⟩ := caret_below_character_iff hline hcolumn
  obtain ⟨above, below, hlines, hcaret, -⟩ := htext (by decide)
  refine ⟨hline, hcolumn, String.toList_inj.1 (hpad.trans (by decide +kernel)),
    by decide +kernel, ?_, above, below, hlines, hcaret⟩
  rw [Ne, hblanks]
  intro h
  exact absurd (h '\u00e9' (by simp [before])) (by decide)

end DocQuery
