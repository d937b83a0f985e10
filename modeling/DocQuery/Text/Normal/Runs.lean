import DocQuery.Text.Normal.Basic

/-!
# DocQuery.Text.Normal.Runs

Normal form with bounded runs. A text may pile any number of marks on one letter, and ordering and
composing such a pile needs all of it at once. A normalised text has no more than thirty of them in
a row: a longer run is broken with a grapheme joiner, which is a starter that nothing composes with.

Design points:

* a character *joins* what precedes it when it has a combining class, or is a starter that may
  compose with the character before it, such as a Hangul vowel;
* runs are counted in fully decomposed text, where compatibility variants count as what they are
  variants of, so that the breaks do not depend on which normal form is wanted;
* the counts of a variant are listed, those of any other character follow from its decomposition.
-/

namespace DocQuery.Text.Normal

/-- Starters that may compose with a character before them. -/
def joiningStarters : RangeTable := .ofBounds #[
  0x9be, 0x9bf, 0x9d7, 0x9d8, 0xb3e, 0xb3f, 0xb56, 0xb58, 0xbbe, 0xbbf, 0xbd7, 0xbd8, 0xcc2, 0xcc3,
  0xcd5, 0xcd7, 0xd3e, 0xd3f, 0xd57, 0xd58, 0xdcf, 0xdd0, 0xddf, 0xde0, 0x102e, 0x102f, 0x1161,
  0x1176, 0x11a7, 0x11c3, 0x1b35, 0x1b36, 0x11127, 0x11128, 0x1133e, 0x1133f, 0x11357, 0x11358,
  0x114b0, 0x114b1, 0x114ba, 0x114bb, 0x114bd, 0x114be, 0x115af, 0x115b0, 0x11930, 0x11931]

/-- Variants, of another width or form, of one character that joins what precedes it. -/
def joiningVariants : RangeTable := .ofBounds #[
  0x3133, 0x3134, 0x3135, 0x3137, 0x313a, 0x3140, 0x314f, 0x3164, 0xff9e, 0xffa0, 0xffa3, 0xffa4,
  0xffa5, 0xffa7, 0xffaa, 0xffb0, 0xffc2, 0xffc8, 0xffca, 0xffd0, 0xffd2, 0xffd8, 0xffda, 0xffdd]

/-- Variants of a starter with one joining character after it. -/
def oneMarkVariants : RangeTable := .ofBounds #[
  0xa8, 0xa9, 0xaf, 0xb0, 0xb4, 0xb5, 0xb8, 0xb9, 0x1c4, 0x1c7, 0x2d8, 0x2de, 0x37a, 0x37b, 0x384,
  0x385, 0x1fbd, 0x1fbe, 0x1fbf, 0x1fc1, 0x1ffd, 0x1fff, 0x2017, 0x2018, 0x203e, 0x203f, 0x309b,
  0x309d, 0x326e, 0x327f, 0x3304, 0x3305, 0x3307, 0x3308, 0x3310, 0x3311, 0x331e, 0x331f, 0x3321,
  0x3322, 0x3332, 0x3333, 0x333b, 0x333c, 0x3340, 0x3341, 0x334b, 0x334c, 0x334e, 0x334f, 0xfba4,
  0xfba6, 0xfbb0, 0xfbb2, 0xfc5b, 0xfc5e, 0xfc90, 0xfc91, 0xfcd9, 0xfcda, 0xfd3c, 0xfd3e, 0xfe49,
  0xfe4d, 0xfe70, 0xfe73, 0xfe74, 0xfe75, 0xfe76, 0xfe80, 0xfe81, 0xfe8d, 0xfef5, 0xfefb, 0xffe3,
  0xffe4, 0x1f213, 0x1f214]

/-- Variants of a starter with two joining characters after it. -/
def twoMarkVariants : RangeTable := .ofBounds #[
  0x385, 0x386, 0xf77, 0xf78, 0xf79, 0xf7a, 0x1fc1, 0x1fc2, 0x1fcd, 0x1fd0, 0x1fdd, 0x1fe0, 0x1fed,
  0x1fef, 0xfc5e, 0xfc64, 0xfcf2, 0xfcf5]

/-- Whether a character joins what precedes it. -/
def joins (c : Char) : Bool :=
  combiningClass c != 0 || joiningStarters.contains c.toNat

/-- How many joining characters a character begins with. -/
def leadingJoins (c : Char) : Nat :=
  if joiningVariants.contains c.toNat then 1 else ((decomposeChar 8 c).takeWhile joins).length

/-- How many joining characters a character ends with. -/
def trailingJoins (c : Char) : Nat :=
  if twoMarkVariants.contains c.toNat then 2
  else if oneMarkVariants.contains c.toNat then 1
  else ((decomposeChar 8 c).reverse.takeWhile joins).length

/-- The length of the longest run that is left whole. -/
def longestRun : Nat := 30

/-- The character that breaks a run. -/
def graphemeJoiner : Char := Char.ofNat 0x34f

/-- Break long runs of joining characters; `run` is the length of the current one. -/
def breakRuns : (run : Nat) → List Char → List Char
  | _, [] => []
  | run, c :: cs =>
    let n := leadingJoins c
    if n = 0 then c :: breakRuns (trailingJoins c) cs
    else if longestRun < run + n then graphemeJoiner :: c :: breakRuns n cs
    else c :: breakRuns (run + n) cs

/-- The normal form of a text: its long runs broken, then composed. -/
def normalForm (cs : List Char) : List Char := compose (breakRuns 0 cs)

end DocQuery.Text.Normal
