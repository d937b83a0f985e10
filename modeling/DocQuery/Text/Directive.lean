/-!
# DocQuery.Text.Directive

Messages as templates. A percent sign starts a directive: flags, an index in brackets, a width, a
precision, and a letter that says how a value is shown. `expand` is the text of a template that is
given no values, so that each directive reports what it lacks; two percent signs are one.

Design points:

* `Directive` is what has been read of a directive up to its letter; each of its functions reads one
  part, in the order in which the parts stand;
* a width or a precision may be a star, which asks for a value and reports at once that there is
  none.
-/

namespace DocQuery.Text

/-- A directive before its letter. -/
structure Directive where
  /-- What follows the part that has been read. -/
  rest : List Char
  /-- What has been reported so far. -/
  notes : List Char := []
  /-- Whether no index was out of place or out of range. -/
  goodIndex : Bool := true
  /-- Whether the last part was an index with a number. -/
  afterIndex : Bool := false

/-- What stands in front of every report. -/
def reportMark : List Char := ['%', '!']

/-- Whether a character is a flag of directives. -/
def isFlag (c : Char) : Bool := c == '#' || c == '0' || c == '+' || c == '-' || c == ' '

namespace Directive

/-- Read the flags. -/
def flags (d : Directive) : Directive := { d with rest := d.rest.dropWhile isFlag }

/-- Read an index in brackets. Without values every index is out of range. -/
def index (d : Directive) : Directive :=
  match d.rest with
  | '[' :: cs =>
    let digits := cs.takeWhile (· != ']')
    if cs.length < 2 || digits.length = cs.length then
      { d with rest := cs, goodIndex := false, afterIndex := false }
    else
      { d with
        rest := cs.drop (digits.length + 1)
        goodIndex := false
        afterIndex := !digits.isEmpty && digits.all Char.isDigit }
  | _ => { d with afterIndex := false }

/-- Read a width. -/
def width (d : Directive) : Directive :=
  match d.rest with
  | '*' :: cs =>
    let notes := d.notes ++ reportMark ++ "(BADWIDTH)".toList
    { d with rest := cs, notes, afterIndex := false }
  | cs =>
    let wide := cs.head?.any Char.isDigit
    { d with
      rest := cs.dropWhile Char.isDigit, goodIndex := d.goodIndex && !(d.afterIndex && wide) }

/-- Read a precision. -/
def precision (d : Directive) : Directive :=
  match d.rest with
  | '.' :: cs =>
    let d := index { d with rest := cs, goodIndex := d.goodIndex && !d.afterIndex }
    match d.rest with
    | '*' :: cs =>
      let notes := d.notes ++ reportMark ++ "(BADPREC)".toList
      { d with rest := cs, notes, afterIndex := false }
    | cs => { d with rest := cs.dropWhile Char.isDigit }
  | _ => d

/-- Read an index, unless there was one just now. -/
def lastIndex (d : Directive) : Directive := if d.afterIndex then d else d.index

/-- Read a directive after its percent sign up to its letter. -/
def read (cs : List Char) : Directive :=
  { rest := cs : Directive }.flags.index.width.precision.lastIndex

/-- The report of a directive, with its letter, and how many characters it has after its percent
sign. -/
def report (cs : List Char) : List Char × Nat :=
  let d := read cs
  match d.rest with
  | [] => (d.notes ++ reportMark ++ "(NOVERB)".toList, cs.length)
  | letter :: after =>
    let text :=
      if letter == '%' then ['%']
      else reportMark ++ letter :: (if d.goodIndex then "(MISSING)" else "(BADINDEX)").toList
    (d.notes ++ text, cs.length - after.length)

end Directive

/-- Expand a template from which `skip` characters are left out first. -/
def expandFrom : (skip : Nat) → List Char → List Char
  | _, [] => []
  | skip + 1, _ :: cs => expandFrom skip cs
  | 0, c :: cs =>
    if c == '%' then (Directive.report cs).1 ++ expandFrom (Directive.report cs).2 cs
    else c :: expandFrom 0 cs

/-- The text of a template that is given no values. -/
def expand (s : String) : String := String.ofList (expandFrom 0 s.toList)

end DocQuery.Text
