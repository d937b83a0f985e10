import DocQuery.Text.Normal.Tables

/-!
# DocQuery.Text.Normal.Basic

Canonical composition of text (Unicode normalisation form C). A text is decomposed character by
character, runs of combining marks are put in the order of their classes, and what composes is put
together again.

Design points:

* Hangul syllables decompose and compose by arithmetic, everything else by table;
* reordering is a stable insertion of each mark before the marks of a higher class that precede it;
* composition keeps the last starter and the class of the last mark kept after it, which is what
  decides whether a later mark is blocked from that starter.
-/

namespace DocQuery.Text.Normal

/-- The combining class of a character; zero for a starter. -/
def combiningClass (c : Char) : Nat :=
  let i := rank classRuns (c.toNat <<< 42 ||| (1 <<< 42 - 1))
  if i = 0 then 0
  else
    let run := classRuns.getD (i - 1) 0
    if c.toNat < (run >>> 21) &&& 0x1fffff then run &&& 0x1fffff else 0

/-- The entry of a table whose most significant field, above `bits` bits, is `key`. -/
def lookUp? (table : Array Nat) (bits key : Nat) : Option Nat :=
  let i := rank table (key <<< bits ||| (1 <<< bits - 1))
  if i = 0 then none
  else
    let entry := table.getD (i - 1) 0
    if entry >>> bits = key then some (entry &&& (1 <<< bits - 1)) else none

/-- The parts of a Hangul syllable. -/
def hangulParts? (n : Nat) : Option (List Char) :=
  if 0xac00 ≤ n && n < 0xac00 + 11172 then
    let s := n - 0xac00
    let parts := [Char.ofNat (0x1100 + s / 588), Char.ofNat (0x1161 + s % 588 / 28)]
    some (if s % 28 = 0 then parts else parts ++ [Char.ofNat (0x11a7 + s % 28)])
  else none

/-- The full canonical decomposition of a character. No chain in the table is longer than four
steps, which bounds the unfolding. -/
def decomposeChar : (steps : Nat) → Char → List Char
  | 0, c => [c]
  | steps + 1, c =>
    match hangulParts? c.toNat with
    | some parts => parts
    | none =>
      match lookUp? decompositions 42 c.toNat with
      | none => [c]
      | some entry =>
        let first := decomposeChar steps (Char.ofNat (entry >>> 21))
        let second := entry &&& 0x1fffff
        if second = 0 then first else first ++ [Char.ofNat second]

/-- Put a mark of class `cls` in its place: before the marks of a higher class at the end of the
text, which is held in reverse. -/
def insertMark (cls : Nat) (c : Char) : List (Nat × Char) → List (Nat × Char)
  | [] => [(cls, c)]
  | (k, d) :: rest =>
    if cls < k then (k, d) :: insertMark cls c rest else (cls, c) :: (k, d) :: rest

/-- A decomposed text in canonical order, each character with its class. -/
def reorder (cs : List Char) : List (Nat × Char) :=
  (cs.foldl (fun done c =>
    let cls := combiningClass c
    if cls = 0 then (0, c) :: done else insertMark cls c done) []).reverse

/-- The composition of two characters, if they compose. -/
def composePair? (a b : Char) : Option Char :=
  let x := a.toNat
  let y := b.toNat
  if 0x1100 ≤ x && x < 0x1113 && 0x1161 ≤ y && y < 0x1176 then
    some (Char.ofNat (0xac00 + ((x - 0x1100) * 21 + (y - 0x1161)) * 28))
  else if 0xac00 ≤ x && x < 0xac00 + 11172 && (x - 0xac00) % 28 = 0 && 0x11a8 ≤ y && y < 0x11c3 then
    some (Char.ofNat (x + (y - 0x11a7)))
  else (lookUp? compositions 21 (x <<< 21 ||| y)).map Char.ofNat

/-- Where composition stands: what is finished, in reverse, the last starter with the marks kept
after it, in reverse, and the class of the last of these. -/
structure Composer where
  /-- Text that nothing can change any more, in reverse. -/
  done : List Char
  /-- The last starter, if there was one. -/
  starter : Option Char
  /-- The characters kept after the starter, in reverse. -/
  marks : List Char
  /-- The class of the last character kept after the starter. -/
  last : Nat

/-- Close the current starter and begin with `c`. -/
def Composer.begin (s : Composer) (c : Char) : Composer :=
  { done := s.marks ++ s.starter.toList ++ s.done, starter := some c, marks := [], last := 0 }

/-- Read one character of the ordered decomposition. -/
def Composer.read (s : Composer) : Nat × Char → Composer
  | (cls, c) =>
    match s.starter with
    | none => if cls = 0 then s.begin c else { s with marks := c :: s.marks, last := cls }
    | some a =>
      let blocked := !s.marks.isEmpty && (s.last == 0 || cls ≤ s.last)
      match if blocked then none else composePair? a c with
      | some composed => { s with starter := some composed }
      | none => if cls = 0 then s.begin c else { s with marks := c :: s.marks, last := cls }

/-- The composed text. -/
def Composer.text (s : Composer) : List Char :=
  (s.marks ++ s.starter.toList ++ s.done).reverse

/-- Canonical composition of a text. -/
def compose (cs : List Char) : List Char :=
  ((reorder (cs.flatMap (decomposeChar 8))).foldl Composer.read
    { done := [], starter := none, marks := [], last := 0 }).text

end DocQuery.Text.Normal
