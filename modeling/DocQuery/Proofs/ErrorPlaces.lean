import DocQuery.Proofs.SourceBytes
import DocQuery.Script.Convert

/-!
# DocQuery.Proofs.ErrorPlaces

**Where syntax errors are.** A syntax error has a line and a column in the lines of *scripts*, which
five line ends close (`scriptLines`), and that place denotes the offset of what was complained about
(`scriptOffset_scriptPosition`). The byte offset and the source line of the error are worked out
from the place once more, by functions that know *newlines* only.

The two counts agree about the start of a line exactly when every line end before it has a newline
in it (`NewlinesBefore`). So the offset of an error is right exactly then, or at the end of the
source, where every offset that is too large ends up; and the source line is then right exactly when
there is no line end in it (`syntax_error_place`). A lone carriage return is enough to lose both
(`lone_return_misplaced`).
-/

namespace DocQuery.Text

/-! ### The lines of a script -/

/-- A line of a script: its text, and the line end that closes it, which the last line lacks. -/
structure Line where
  /-- The text. -/
  text : List Char
  /-- The line end. -/
  ending : List Char
deriving Repr, DecidableEq

/-- A line as it stands in the script. -/
def Line.written (line : Line) : List Char := line.text ++ line.ending

/-- Lines as they stand in the script. -/
def writtenLines (lines : List Line) : List Char := lines.flatMap Line.written

/-- The line ends of scripts. -/
def lineEnds : List (List Char) :=
  [['\n'], ['\r', '\n'], ['\r'], [Char.ofNat 0x2028], [Char.ofNat 0x2029]]

/-- The lines of a script. A carriage return and a newline are one line end. -/
def scriptLines : List Char → List Line
  | [] => [⟨[], []⟩]
  | '\r' :: '\n' :: rest => ⟨[], ['\r', '\n']⟩ :: scriptLines rest
  | c :: rest =>
    if isLineEnd c then ⟨[], [c]⟩ :: scriptLines rest
    else match scriptLines rest with
      | [] => [⟨[c], []⟩]
      | line :: lines => { line with text := c :: line.text } :: lines

/-- The byte offset that a place denotes in the lines of a script, at most that of the end. -/
def scriptOffset (src : String) (p : Place) : Nat :=
  min (byteLength (writtenLines ((scriptLines src.toList).take (p.line - 1))) + (p.column - 1))
    (byteLength src.toList)

/-- The text of a line of a script, counted from one; empty when there is no such line. -/
def scriptLine (src : String) (n : Nat) : String :=
  String.ofList (((scriptLines src.toList)[n - 1]?.map (·.text)).getD [])

/-- Every line end before a line of a script has a newline in it. -/
def NewlinesBefore (src : String) (n : Nat) : Prop :=
  ∀ line ∈ (scriptLines src.toList).take (n - 1), '\n' ∈ line.ending

instance (src : String) (n : Nat) : Decidable (NewlinesBefore src n) :=
  inferInstanceAs (Decidable (∀ line ∈ _, _))

/-- A line that is closed before `rest`. -/
structure Line.Closed (line : Line) (rest : List Char) : Prop where
  /-- There is no line end in the text. -/
  text : ∀ c ∈ line.text, isLineEnd c = false
  /-- The line end is one of the five. -/
  ending : line.ending ∈ lineEnds
  /-- A carriage return that is the line end has no newline after it. -/
  lone : line.ending = ['\r'] → rest.head? ≠ some '\n'

theorem mem_lineEnds_of_isLineEnd {c : Char} (h : isLineEnd c = true) : [c] ∈ lineEnds := by
  have hchar (n : Nat) (hn : c.toNat = n) : c = Char.ofNat n := by rw [← hn, Char.ofNat_toNat]
  simp only [isLineEnd, Bool.or_eq_true, beq_iff_eq] at h
  rcases h with ((h | h) | h) | h
  · subst h; decide
  · subst h; decide
  · rw [hchar _ h]; decide
  · rw [hchar _ h]; decide

/-- A script is one line without a line end, or a closed line and the lines that follow. -/
theorem scriptLines_cases (cs : List Char) :
    ((∀ c ∈ cs, isLineEnd c = false) ∧ scriptLines cs = [⟨cs, []⟩]) ∨
      ∃ line rest, cs = line.written ++ rest ∧ line.Closed rest ∧
        scriptLines cs = line :: scriptLines rest := by
  fun_induction scriptLines cs with
  | case1 => exact Or.inl ⟨by simp, rfl⟩
  | case2 rest ih =>
      exact Or.inr ⟨⟨[], ['\r', '\n']⟩, rest, rfl, ⟨by simp, by decide, by simp⟩, rfl⟩
  | case3 c rest hpair hc ih =>
      refine Or.inr ⟨⟨[], [c]⟩, rest, rfl, ⟨by simp, mem_lineEnds_of_isLineEnd hc, ?_⟩, rfl⟩
      intro hreturn hnewline
      obtain rfl : c = '\r' := by simpa using hreturn
      obtain ⟨more, rfl⟩ : ∃ more, rest = '\n' :: more := by
        cases rest with
        | nil => simp at hnewline
        | cons d more => exact ⟨more, by simpa using hnewline⟩
      exact hpair more rfl rfl
  | case4 c rest hpair hc hnil ih =>
      rcases ih with ⟨-, h⟩ | ⟨line, more, -, -, h⟩
      · rw [hnil] at h; cases h
      · rw [hnil] at h; cases h
  | case5 c rest hpair hc line lines hlines ih =>
      rw [Bool.not_eq_true] at hc
      rcases ih with ⟨hplain, h⟩ | ⟨first, more, hrest, hclosed, h⟩
      · rw [hlines] at h
        cases h
        exact Or.inl ⟨List.forall_mem_cons.2 ⟨hc, hplain⟩, rfl⟩
      · rw [hlines] at h
        cases h
        refine Or.inr ⟨{ line with text := c :: line.text }, more, ?_, ?_, rfl⟩
        · rw [hrest]
          rfl
        · exact ⟨List.forall_mem_cons.2 ⟨hc, hclosed.text⟩, hclosed.ending, hclosed.lone⟩

/-- A line inside a script, and what stands before and after its start. -/
theorem exists_rest_of_scriptLines {i : Nat} {cs : List Char} (hi : i < (scriptLines cs).length) :
    ∃ rest, cs = writtenLines ((scriptLines cs).take i) ++ rest ∧
      (scriptLines cs).drop i = scriptLines rest := by
  induction i generalizing cs with
  | zero => exact ⟨cs, rfl, rfl⟩
  | succ i ih =>
      rcases scriptLines_cases cs with ⟨-, h⟩ | ⟨line, more, hcs, -, h⟩
      · rw [h] at hi
        simp at hi
      · rw [h, List.length_cons] at hi
        obtain ⟨rest, hmore, hdrop⟩ := ih (Nat.lt_of_succ_lt_succ hi)
        refine ⟨rest, ?_, ?_⟩
        · rw [h, List.take_succ_cons, writtenLines, List.flatMap_cons, List.append_assoc,
            ← writtenLines, ← hmore]
          exact hcs
        · rw [h, List.drop_succ_cons, hdrop]

/-- The lines before the last one are closed. -/
theorem closed_of_mem_take {i : Nat} {cs : List Char} (hi : i < (scriptLines cs).length)
    {line : Line} (hline : line ∈ (scriptLines cs).take i) : ∃ rest, line.Closed rest := by
  induction i generalizing cs with
  | zero => simp at hline
  | succ i ih =>
      rcases scriptLines_cases cs with ⟨-, h⟩ | ⟨first, more, -, hclosed, h⟩
      · rw [h] at hi
        simp at hi
      · rw [h, List.length_cons] at hi
        rw [h, List.take_succ_cons, List.mem_cons] at hline
        rcases hline with rfl | hline
        · exact ⟨more, hclosed⟩
        · exact ih (Nat.lt_of_succ_lt_succ hi) hline

/-! ### From an offset to a place and back -/

/-- Walking over text without a line end moves the column only. -/
theorem scriptPositionFrom_text {text : List Char} (htext : ∀ c ∈ text, isLineEnd c = false)
    (p : Place) (left : Nat) (rest : List Char) :
    scriptPositionFrom p left (text ++ rest) =
      if left < byteLength text then { p with column := p.column + left }
      else scriptPositionFrom { p with column := p.column + byteLength text }
        (left - byteLength text) rest := by
  induction text generalizing p left with
  | nil => simp
  | cons c text ih =>
      rw [List.forall_mem_cons] at htext
      have hreturn : c ≠ '\r' := by
        rintro rfl
        exact absurd htext.1 (by decide)
      rw [List.cons_append, scriptPositionFrom, htext.1, byteLength_cons]
      · by_cases hleft : left < c.utf8Size
        · rw [if_pos hleft, if_pos (by omega)]
        · rw [if_neg hleft, if_neg Bool.false_ne_true, ih htext.2]
          by_cases hrest : left - c.utf8Size < byteLength text
          · rw [if_pos hrest, if_pos (by omega)]
            simp only [Place.mk.injEq, true_and]
            omega
          · rw [if_neg hrest, if_neg (by omega), Nat.add_assoc, Nat.sub_sub]
      · intro _ h
        exact absurd h hreturn

/-- Walking over a line end leads to the next line. -/
theorem scriptPositionFrom_ending {ending rest : List Char} (hending : ending ∈ lineEnds)
    (hlone : ending = ['\r'] → rest.head? ≠ some '\n') (p : Place) (left : Nat) :
    scriptPositionFrom p left (ending ++ rest) =
      if left < byteLength ending then { p with column := p.column + left }
      else scriptPositionFrom { line := p.line + 1, column := 1 } (left - byteLength ending) rest
    := by
  have hsingle {c : Char} (hc : isLineEnd c = true)
      (hpair : ∀ more, c = '\r' → rest = '\n' :: more → False) :
      scriptPositionFrom p left ([c] ++ rest) =
        if left < byteLength [c] then { p with column := p.column + left }
        else scriptPositionFrom { line := p.line + 1, column := 1 } (left - byteLength [c]) rest
      := by
    have hbytes : byteLength [c] = c.utf8Size := rfl
    rw [hbytes, List.singleton_append, scriptPositionFrom, if_pos hc]
    exact hpair
  simp only [lineEnds, List.mem_cons, List.not_mem_nil, or_false] at hending
  rcases hending with rfl | rfl | rfl | rfl | rfl
  · exact hsingle (by decide) fun _ h _ => absurd h (by decide)
  · exact scriptPositionFrom.eq_2 p left rest
  · refine hsingle (by decide) fun more _ hrest => hlone rfl ?_
    rw [hrest]
    rfl
  · exact hsingle (by decide) fun _ h _ => absurd h (by decide)
  · exact hsingle (by decide) fun _ h _ => absurd h (by decide)

/-- Walking `left` bytes over a text leads into one of its lines, to the column that makes up for
the lines passed over. Only in the first line do columns go on from where the walk began. -/
theorem scriptPositionFrom_eq (p : Place) (left : Nat) (cs : List Char) :
    ∃ i j, i < (scriptLines cs).length ∧
      scriptPositionFrom p left cs = ⟨p.line + i, (if i = 0 then p.column else 1) + j⟩ ∧
      byteLength (writtenLines ((scriptLines cs).take i)) + j = min left (byteLength cs) := by
  rcases scriptLines_cases cs with ⟨hplain, h⟩ | ⟨line, rest, hcs, hclosed, h⟩
  · -- the only line
    refine ⟨0, min left (byteLength cs), by rw [h]; simp, ?_, by simp [writtenLines]⟩
    have hwalk := scriptPositionFrom_text hplain p left []
    rw [List.append_nil] at hwalk
    rw [hwalk]
    split
    · rw [Nat.min_eq_left (by omega)]
      rfl
    · rw [Nat.min_eq_right (by omega), scriptPositionFrom]
      rfl
  · have hlength : byteLength cs =
        byteLength line.text + (byteLength line.ending + byteLength rest) := by
      rw [hcs, Line.written, byteLength_append, byteLength_append, Nat.add_assoc]
    have hwalk : scriptPositionFrom p left cs =
        if left < byteLength line.text then { p with column := p.column + left }
        else if left - byteLength line.text < byteLength line.ending then
          { p with column := p.column + byteLength line.text + (left - byteLength line.text) }
        else scriptPositionFrom { line := p.line + 1, column := 1 }
          (left - byteLength line.text - byteLength line.ending) rest := by
      rw [hcs, Line.written, List.append_assoc, scriptPositionFrom_text hclosed.text,
        scriptPositionFrom_ending hclosed.ending hclosed.lone]
    by_cases hleft : left < byteLength line.text + byteLength line.ending
    · -- the walk ends in the first line or in its line end
      refine ⟨0, left, by rw [h]; simp, ?_, ?_⟩
      · rw [hwalk]
        split
        · rfl
        · rw [if_pos (by omega)]
          simp only [Nat.add_zero, if_true, Place.mk.injEq, true_and]
          omega
      · rw [List.take_zero, Nat.min_eq_left (by omega)]
        exact Nat.zero_add left
    · -- it goes on behind the line end
      have hshorter : rest.length < cs.length := by
        have hne : line.ending ≠ [] := by
          intro hnil
          have := hclosed.ending
          rw [hnil] at this
          revert this
          decide
        have := List.length_pos_iff.2 hne
        rw [hcs, Line.written, List.length_append, List.length_append]
        omega
      obtain ⟨i, j, hi, hplace, hbytes⟩ := scriptPositionFrom_eq { line := p.line + 1, column := 1 }
        (left - byteLength line.text - byteLength line.ending) rest
      refine ⟨i + 1, j, by rw [h, List.length_cons]; omega, ?_, ?_⟩
      · rw [hwalk, if_neg (by omega), if_neg (by omega), hplace]
        simp only [Nat.add_one_ne_zero, if_false, ite_self, Place.mk.injEq, and_true]
        omega
      · rw [h, List.take_succ_cons, writtenLines, List.flatMap_cons, byteLength_append,
          ← writtenLines, Nat.add_assoc, hbytes, Line.written, byteLength_append]
        omega
termination_by cs.length

variable {src : String}

/-- The place of an offset: it is in one of the lines, at the column that the lines before leave. -/
theorem exists_scriptPosition (src : String) (offset : Nat) :
    ∃ i j, i < (scriptLines src.toList).length ∧ scriptPosition src offset = ⟨i + 1, j + 1⟩ ∧
      byteLength (writtenLines ((scriptLines src.toList).take i)) + j =
        min offset (byteLength src.toList) := by
  obtain ⟨i, j, hi, hplace, hbytes⟩ := scriptPositionFrom_eq ⟨1, 1⟩ offset src.toList
  refine ⟨i, j, hi, ?_, hbytes⟩
  rw [scriptPosition, hplace]
  simp only [ite_self, Nat.add_comm 1]

/-- **The place of an offset denotes that offset**, moved into the text. -/
theorem scriptOffset_scriptPosition (src : String) (offset : Nat) :
    scriptOffset src (scriptPosition src offset) = min offset (byteLength src.toList) := by
  obtain ⟨i, j, -, hplace, hbytes⟩ := exists_scriptPosition src offset
  rw [scriptOffset, hplace, Nat.add_sub_cancel, Nat.add_sub_cancel, hbytes]
  omega

/-! ### Counting newlines instead of line ends -/

/-- A closed line has one newline or none. -/
theorem Line.Closed.count_newline {line : Line} {rest : List Char} (h : line.Closed rest) :
    line.written.count '\n' = if '\n' ∈ line.ending then 1 else 0 := by
  have htext : '\n' ∉ line.text := fun hmem => absurd (h.text _ hmem) (by decide)
  have hone : ∀ ending ∈ lineEnds, ending.count '\n' = if '\n' ∈ ending then 1 else 0 := by decide
  rw [Line.written, List.count_append, List.count_eq_zero.2 htext, Nat.zero_add, hone _ h.ending]

/-- Closed lines have a newline each exactly when all their line ends do, and fewer otherwise. -/
theorem count_newline_writtenLines {lines : List Line}
    (hclosed : ∀ line ∈ lines, ∃ rest, line.Closed rest) :
    ((∀ line ∈ lines, '\n' ∈ line.ending) → (writtenLines lines).count '\n' = lines.length) ∧
      (¬(∀ line ∈ lines, '\n' ∈ line.ending) → (writtenLines lines).count '\n' < lines.length) := by
  induction lines with
  | nil => simp [writtenLines]
  | cons line lines ih =>
      rw [List.forall_mem_cons] at hclosed ⊢
      obtain ⟨⟨rest, hline⟩, hlines⟩ := hclosed
      have hcount : (writtenLines (line :: lines)).count '\n' =
          (if '\n' ∈ line.ending then 1 else 0) + (writtenLines lines).count '\n' := by
        rw [writtenLines, List.flatMap_cons, List.count_append, hline.count_newline, writtenLines]
      obtain ⟨hall, hsome⟩ := ih hlines
      rw [hcount, List.length_cons]
      refine ⟨?_, ?_⟩
      · rintro ⟨hfirst, hrest⟩
        rw [if_pos hfirst, hall hrest, Nat.add_comm]
      · intro hnot
        by_cases hrest : ∀ line ∈ lines, '\n' ∈ line.ending
        · rw [if_neg fun hfirst => hnot ⟨hfirst, hrest⟩, hall hrest]
          omega
        · have := hsome hrest
          split <;> omega

/-- Lines that all end with a newline end where a line starts. -/
theorem atLineStart_writtenLines {lines : List Line}
    (hclosed : ∀ line ∈ lines, ∃ rest, line.Closed rest)
    (hnewline : ∀ line ∈ lines, '\n' ∈ line.ending) : AtLineStart (writtenLines lines) := by
  have hlast : ∀ ending ∈ lineEnds, '\n' ∈ ending → ending = ending.dropLast ++ ['\n'] := by decide
  rcases List.eq_nil_or_concat lines with rfl | ⟨lines, line, rfl⟩
  · exact Or.inl rfl
  · obtain ⟨rest, hline⟩ := hclosed line (by simp)
    refine Or.inr ⟨writtenLines lines ++ (line.text ++ line.ending.dropLast), ?_⟩
    rw [writtenLines, List.concat_eq_append, List.flatMap_append, List.flatMap_singleton,
      Line.written, hlast _ hline.ending (hnewline line (by simp))]
    simp [writtenLines]

/-- **When the offset of a place in the lines of a script is found by counting newlines**: when
every line end before the line has one, or at the end of the text. -/
theorem offsetOf_eq_scriptOffset_iff {p : Place} (hline : 1 ≤ p.line) (hcolumn : 1 ≤ p.column)
    (hlines : p.line ≤ (scriptLines src.toList).length) :
    offsetOf src p = scriptOffset src p ↔
      NewlinesBefore src p.line ∨ scriptOffset src p = byteLength src.toList := by
  have hi : p.line - 1 < (scriptLines src.toList).length := by omega
  obtain ⟨rest, hsrc, -⟩ := exists_rest_of_scriptLines hi
  have hlength : ((scriptLines src.toList).take (p.line - 1)).length = p.line - 1 := by
    rw [List.length_take]
    omega
  obtain ⟨hall, hsome⟩ := count_newline_writtenLines fun _ hline => closed_of_mem_take hi hline
  rw [hlength] at hall hsome
  have hbytes : bytes src = (writtenLines ((scriptLines src.toList).take (p.line - 1)) ++
      rest).flatMap charBytes := by rw [bytes_eq_flatMap, ← hsrc]
  by_cases hbefore : NewlinesBefore src p.line
  · -- both counts find the start of the line
    have hstart := atLineStart_writtenLines (fun _ hline => closed_of_mem_take hi hline) hbefore
    refine iff_of_true ?_ (Or.inl hbefore)
    rw [offsetOf, length_bytes, hbytes, lineBytes_of_count (hall hbefore) hstart]
    simp only [scriptOffset]
    omega
  · -- counting newlines goes too far, which only the end of the text makes up for
    rw [or_iff_right hbefore, offsetOf, length_bytes]
    cases hfound : lineBytes (p.line - 1) (bytes src) with
    | none => exact eq_comm
    | some s =>
        rw [hbytes] at hfound
        have hfar := lineBytes_beyond (hsome hbefore) rest hfound
        simp only [scriptOffset]
        omega

/-! ### Source lines -/

theorem splitLines_eq_cons (cs : List Char) :
    ∃ lines, splitLines cs = cs.takeWhile (· != '\n') :: lines := by
  induction cs with
  | nil => exact ⟨[], rfl⟩
  | cons c cs ih =>
      obtain ⟨lines, hlines⟩ := ih
      by_cases hc : c = '\n'
      · exact ⟨splitLines cs, by rw [splitLines, if_pos hc, hc]; rfl⟩
      · refine ⟨lines, ?_⟩
        rw [splitLines, if_neg hc, hlines, List.takeWhile_cons_of_pos (by simpa using hc)]

theorem drop_splitLines (before rest : List Char) :
    (splitLines (before ++ '\n' :: rest)).drop (before.count '\n' + 1) = splitLines rest := by
  induction before with
  | nil => rw [List.nil_append, splitLines, if_pos rfl]; rfl
  | cons c before ih =>
      rw [List.cons_append, splitLines]
      by_cases hc : c = '\n'
      · rw [if_pos hc, hc, List.count_cons_self, List.drop_succ_cons, ih]
      · obtain ⟨lines, hlines⟩ := splitLines_eq_cons (before ++ '\n' :: rest)
        rw [hlines] at ih
        rw [if_neg hc, List.count_cons_of_ne hc, hlines]
        exact ih

/-- Behind a text that ends with its `n`-th newline the line with the number `n` starts. -/
theorem getElem?_splitLines {before : List Char} {n : Nat} (hcount : before.count '\n' = n)
    (hstart : AtLineStart before) (rest : List Char) :
    (splitLines (before ++ rest))[n]? = some (rest.takeWhile (· != '\n')) := by
  obtain ⟨lines, hlines⟩ := splitLines_eq_cons rest
  rcases hstart with rfl | ⟨before, rfl⟩
  · subst hcount
    rw [List.nil_append, List.count_nil, hlines]
    rfl
  · rw [List.count_append, List.count_singleton_self] at hcount
    have hget : (splitLines (before ++ '\n' :: rest))[n]? = (splitLines rest)[0]? := by
      rw [← drop_splitLines before rest, List.getElem?_drop, hcount]
    rw [List.append_assoc, List.singleton_append, hget, hlines]
    rfl

theorem scriptLines_eq_cons (cs : List Char) :
    ∃ ending lines, scriptLines cs = ⟨cs.takeWhile (!isLineEnd ·), ending⟩ :: lines := by
  rcases scriptLines_cases cs with ⟨hplain, h⟩ | ⟨line, rest, hcs, hclosed, h⟩
  · refine ⟨[], [], ?_⟩
    rw [h, List.takeWhile_eq_self_iff.2 (by simpa using hplain)]
  · refine ⟨line.ending, scriptLines rest, ?_⟩
    have hends : (line.ending ++ rest).takeWhile (!isLineEnd ·) = [] := by
      have hfirst : ∀ ending ∈ lineEnds, ∃ c more, ending = c :: more ∧ isLineEnd c = true := by
        simp [lineEnds, isLineEnd]
      obtain ⟨c, more, hcons, hc⟩ := hfirst _ hclosed.ending
      rw [hcons, List.cons_append, List.takeWhile_cons_of_neg (by simp [hc])]
    rw [h, hcs, Line.written, List.append_assoc,
      List.takeWhile_append_of_pos (by simpa using hclosed.text),
      hends, List.append_nil]

theorem dropReturn_concat_return (text : List Char) : dropReturn (text ++ ['\r']) = text := by
  rw [dropReturn, if_pos (by simp), List.dropLast_concat]

theorem mem_of_mem_dropReturn {line : List Char} {c : Char} (h : c ∈ dropReturn line) :
    c ∈ line := by
  unfold dropReturn at h
  split at h
  · exact List.mem_of_mem_dropLast h
  · exact h

/-- What is left of a text behind its first line starts with a newline, unless nothing is left. -/
theorem takeWhile_dropWhile_newline (cs : List Char) :
    (cs.dropWhile (· != '\n')).takeWhile (!isLineEnd ·) = [] := by
  rcases dropWhile_bne_cases '\n' cs with h | ⟨rest, h⟩
  · rw [h]
    rfl
  · rw [h]
    rfl

/-- Up to its first newline, a carriage return at the end apart, a text is its first script line
exactly when there is no line end in that. -/
theorem dropReturn_takeWhile_eq_iff (cs : List Char) :
    dropReturn (cs.takeWhile (· != '\n')) = cs.takeWhile (!isLineEnd ·) ↔
      ∀ c ∈ dropReturn (cs.takeWhile (· != '\n')), isLineEnd c = false := by
  constructor
  · intro h c hc
    rw [h] at hc
    simpa using List.mem_takeWhile_imp hc
  · intro h
    have hrest := takeWhile_dropWhile_newline cs
    conv => rhs; rw [← List.takeWhile_append_dropWhile (p := (· != '\n')) (l := cs)]
    generalize cs.takeWhile (· != '\n') = line at h ⊢
    by_cases hlast : line.getLast? = some '\r'
    · -- the carriage return is where the script line ends
      obtain ⟨text, rfl⟩ := List.getLast?_eq_some_iff.1 hlast
      rw [dropReturn_concat_return] at h ⊢
      rw [List.append_assoc, List.takeWhile_append_of_pos (by simpa using h)]
      exact (List.append_nil text).symm
    · rw [dropReturn, if_neg hlast] at h ⊢
      rw [List.takeWhile_append_of_pos (by simpa using h), hrest, List.append_nil]

/-- Where every line end of a script has a newline in it, no line end is left in its first line. -/
theorem isLineEnd_of_mem_dropReturn {cs : List Char}
    (hcs : ∀ line ∈ scriptLines cs, line.ending = [] ∨ '\n' ∈ line.ending) :
    ∀ c ∈ dropReturn (cs.takeWhile (· != '\n')), isLineEnd c = false := by
  rcases scriptLines_cases cs with ⟨hplain, -⟩ | ⟨line, rest, rfl, hclosed, h⟩
  · intro c hc
    exact hplain c ((List.takeWhile_prefix _).subset (mem_of_mem_dropReturn hc))
  · have htext : ∀ c ∈ line.text, (c != '\n') = true := by
      intro c hc
      rw [bne_iff_ne]
      rintro rfl
      exact absurd (hclosed.text _ hc) (by decide)
    have hnewline : ∀ ending ∈ lineEnds, ending = [] ∨ '\n' ∈ ending →
        ending = ['\n'] ∨ ending = ['\r', '\n'] := by decide
    rw [Line.written, List.append_assoc, List.takeWhile_append_of_pos htext]
    rcases hnewline _ hclosed.ending (hcs line (by rw [h]; simp)) with hending | hending
    · rw [hending, List.singleton_append, List.takeWhile_cons_of_neg (by simp), List.append_nil]
      intro c hc
      exact hclosed.text c (mem_of_mem_dropReturn hc)
    · rw [hending]
      change ∀ c ∈ dropReturn (line.text ++ ['\r']), isLineEnd c = false
      rw [dropReturn_concat_return]
      exact hclosed.text

/-- A line of a script, and what is found of it by splitting at newlines where every line end before
it has one: both start at the same place. -/
theorem exists_line_start {n : Nat} (hn : 1 ≤ n) (hlines : n ≤ (scriptLines src.toList).length)
    (hbefore : NewlinesBefore src n) :
    ∃ rest, scriptLine src n = String.ofList (rest.takeWhile (!isLineEnd ·)) ∧
      sourceLine src n = String.ofList (dropReturn (rest.takeWhile (· != '\n'))) ∧
      (scriptLines src.toList).drop (n - 1) = scriptLines rest := by
  have hi : n - 1 < (scriptLines src.toList).length := by omega
  obtain ⟨rest, hsrc, hdrop⟩ := exists_rest_of_scriptLines hi
  have hclosed : ∀ line ∈ (scriptLines src.toList).take (n - 1), ∃ rest, line.Closed rest :=
    fun _ hline => closed_of_mem_take hi hline
  have hcount : (writtenLines ((scriptLines src.toList).take (n - 1))).count '\n' = n - 1 := by
    rw [(count_newline_writtenLines hclosed).1 hbefore, List.length_take]
    omega
  refine ⟨rest, ?_, ?_, hdrop⟩
  · obtain ⟨ending, more, hcons⟩ := scriptLines_eq_cons rest
    have hget : (scriptLines src.toList)[n - 1]? =
        some ⟨rest.takeWhile (!isLineEnd ·), ending⟩ := by
      have hfirst : ((scriptLines src.toList).drop (n - 1))[0]? =
          (scriptLines src.toList)[n - 1 + 0]? := List.getElem?_drop
      rw [hdrop, hcons] at hfirst
      exact hfirst.symm
    rw [scriptLine, hget]
    rfl
  · have hget := getElem?_splitLines hcount (atLineStart_writtenLines hclosed hbefore) rest
    rw [← hsrc] at hget
    rw [sourceLine, if_neg (by omega), hget]
    rfl

/-- **When the text of a line of a script is found by splitting at newlines**: where every line end
before the line has a newline, exactly when no line end is left in the text. -/
theorem sourceLine_eq_scriptLine_iff {n : Nat} (hn : 1 ≤ n)
    (hlines : n ≤ (scriptLines src.toList).length) (hbefore : NewlinesBefore src n) :
    sourceLine src n = scriptLine src n ↔ ∀ c ∈ (sourceLine src n).toList, isLineEnd c = false := by
  obtain ⟨rest, hscript, hsource, -⟩ := exists_line_start hn hlines hbefore
  rw [hsource, hscript, String.toList_ofList, ← dropReturn_takeWhile_eq_iff, String.ofList_inj]

/-- Where every line end of a source has a newline in it, its lines are those of the script. -/
theorem sourceLine_eq_scriptLine {n : Nat} (hn : 1 ≤ n)
    (hlines : n ≤ (scriptLines src.toList).length) (hbefore : NewlinesBefore src n)
    (hsrc : ∀ line ∈ scriptLines src.toList, line.ending = [] ∨ '\n' ∈ line.ending) :
    sourceLine src n = scriptLine src n := by
  obtain ⟨rest, hscript, hsource, hdrop⟩ := exists_line_start hn hlines hbefore
  have hrest : ∀ line ∈ scriptLines rest, line.ending = [] ∨ '\n' ∈ line.ending := by
    intro line hline
    rw [← hdrop] at hline
    exact hsrc line (List.mem_of_mem_drop hline)
  rw [hsource, hscript,
    (dropReturn_takeWhile_eq_iff rest).2 (isLineEnd_of_mem_dropReturn hrest)]

/-- Only the last line of a source lacks a line end. -/
theorem newlinesBefore_of_all {n : Nat} (hlines : n ≤ (scriptLines src.toList).length) (hn : 1 ≤ n)
    (hsrc : ∀ line ∈ scriptLines src.toList, line.ending = [] ∨ '\n' ∈ line.ending) :
    NewlinesBefore src n := by
  intro line hline
  obtain ⟨rest, hclosed⟩ := closed_of_mem_take (by omega) hline
  refine (hsrc line (List.mem_of_mem_take hline)).resolve_left ?_
  intro hnil
  have hempty : ([] : List Char) ∈ lineEnds := hnil ▸ hclosed.ending
  exact absurd hempty (by decide)

end DocQuery.Text

namespace DocQuery.Script

open Text

/-- **Where a syntax error is reported.** Line and column are at least one and denote, in the lines
of scripts, the offset of the complaint. The reported offset is that offset exactly when every line
end before the line has a newline in it, or at the end of the source. Where the line ends before the
line have newlines, the reported source line is the line exactly when there is no line end in it. So
both are right where every line end of the source is a newline, maybe after a carriage return. -/
theorem syntax_error_place {src : String} {e : SyntaxError}
    (h : parse src = .error (.syntaxError e)) :
    1 ≤ e.place.line ∧ 1 ≤ e.place.column ∧
    (∃ fault, read src = .error fault ∧ e.message = fault.complaint.message ∧
      scriptOffset src e.place = min fault.start (byteLength src.toList)) ∧
    (e.offset = scriptOffset src e.place ↔
      NewlinesBefore src e.place.line ∨ scriptOffset src e.place = byteLength src.toList) ∧
    (NewlinesBefore src e.place.line →
      (e.sourceLine = scriptLine src e.place.line ↔
        ∀ c ∈ e.sourceLine.toList, isLineEnd c = false)) ∧
    ((∀ line ∈ scriptLines src.toList, line.ending = [] ∨ '\n' ∈ line.ending) →
      e.offset = scriptOffset src e.place ∧ e.sourceLine = scriptLine src e.place.line) := by
  obtain ⟨fault, hread, rfl⟩ : ∃ fault, read src = .error fault ∧ fault.report src = e := by
    unfold parse at h
    split at h
    · next fault hread => exact ⟨fault, hread, by simpa using h⟩
    · split at h <;> cases h
  obtain ⟨i, j, hi, hplace, -⟩ := exists_scriptPosition src fault.start
  have hline : 1 ≤ (scriptPosition src fault.start).line := by
    rw [hplace]
    exact Nat.le_add_left 1 i
  have hcolumn : 1 ≤ (scriptPosition src fault.start).column := by
    rw [hplace]
    exact Nat.le_add_left 1 j
  have hlines : (scriptPosition src fault.start).line ≤ (scriptLines src.toList).length := by
    rw [hplace]
    exact hi
  have hoffset := offsetOf_eq_scriptOffset_iff hline hcolumn hlines
  refine ⟨hline, hcolumn, ⟨fault, hread, rfl, scriptOffset_scriptPosition src fault.start⟩, hoffset,
    sourceLine_eq_scriptLine_iff hline hlines, ?_⟩
  intro hsrc
  have hbefore := newlinesBefore_of_all hlines hline hsrc
  exact ⟨hoffset.2 (Or.inl hbefore), sourceLine_eq_scriptLine hline hlines hbefore hsrc⟩

/-- The syntax error of a source that has one. -/
def syntaxError? (src : String) : Option SyntaxError :=
  match parse src with
  | .error (.syntaxError e) => some e
  | _ => none

theorem syntaxError?_eq_some_iff {src : String} {e : SyntaxError} :
    syntaxError? src = some e ↔ parse src = .error (.syntaxError e) := by
  unfold syntaxError?
  split
  · next found hparse => simp [hparse]
  · next hother =>
    constructor
    · intro h
      cases h
    · intro h
      exact absurd h (hother e)

/-- Behind a lone carriage return both the offset and the source line are lost: the closing
parenthesis in the second line of this source is the byte with the offset one, and the report says
that the source ends there and that the line is empty. -/
theorem lone_return_misplaced :
    ∃ e, parse "\r)" = .error (.syntaxError e) ∧ e.place = ⟨2, 1⟩ ∧
      scriptOffset "\r)" e.place = 1 ∧ e.offset ≠ scriptOffset "\r)" e.place ∧
      scriptLine "\r)" e.place.line = ")" ∧ e.sourceLine = "" := by
  have hparse : parse "\r)" = .error (.syntaxError
      { message := "Unexpected token )", place := ⟨2, 1⟩, offset := 2, sourceLine := "" }) :=
    syntaxError?_eq_some_iff.1 (by decide +kernel)
  obtain ⟨-, -, -, hoffset, -⟩ := syntax_error_place hparse
  have hlost : ¬(NewlinesBefore "\r)" 2 ∨ scriptOffset "\r)" ⟨2, 1⟩ =
      byteLength "\r)".toList) := by decide +kernel
  exact ⟨_, hparse, rfl, by decide +kernel, fun h => hlost (hoffset.1 h), by decide +kernel, rfl⟩

end DocQuery.Script
