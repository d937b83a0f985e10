import DocQuery.Text.Utf8
import DocQuery.Yaml.Node

/-!
# DocQuery.Yaml.Emitter

Block YAML text of a node. The emitter is a pen: it knows the column it stands in, whether the last
character was white space and whether only indentation stands before it on the line, and every rule
of the layout is a movement of that pen.

Design points:

* lines are never folded, so a style is chosen by the text alone (`analyze`);
* an empty sequence or mapping is written `[]` or `\x7b\x7d`, every other one in block style;
* content nested in a sequence item is indented by the width of its dash, everything else goes to
  the next multiple of the indentation step;
* a line ends only when something follows on the next one, or at the end of the document.
-/

namespace DocQuery.Yaml

/-! ## What a text allows -/

/-- Whether YAML lets a character stand as it is. -/
def isPrintable (c : Char) : Bool :=
  let n := c.toNat
  n == 0x0a || (0x20 ≤ n && n ≤ 0x7e) || (0xa0 ≤ n && n ≤ 0xd7ff) ||
    (0xe000 ≤ n && n ≤ 0xfffd && n != 0xfeff)

/-- Whether a character ends a line. -/
def isBreak (c : Char) : Bool :=
  let n := c.toNat
  n == 0x0a || n == 0x0d || n == 0x85 || n == 0x2028 || n == 0x2029

/-- Whether a character is a space or a tab. -/
def isBlank (c : Char) : Bool := c == ' ' || c == '\t'

/-- Characters that a plain scalar may not start with. -/
def isIndicator (c : Char) : Bool :=
  c ∈ ['#', ',', '[', ']', Char.ofNat 0x7b, Char.ofNat 0x7d, '&', '*', '!', '|', '>', '\'', '"',
    '%', '@', Char.ofNat 0x60]

/-- The styles that a text allows. -/
structure Allowed where
  /-- Whether the text has line ends. -/
  multiline : Bool
  /-- Plain, in block context. -/
  plain : Bool
  /-- In single quotes. -/
  singleQuoted : Bool
  /-- As a literal block. -/
  block : Bool
deriving Repr, DecidableEq

/-- Whether some pair of neighbours satisfies `p`. -/
def anyNeighbours (p : Char → Char → Bool) : List Char → Bool
  | a :: b :: rest => p a b || anyNeighbours p (b :: rest)
  | _ => false

/-- Whether a text holds what a plain scalar may not: an indicator at its start, a colon before a
blank or the end, a number sign after a blank, a document mark. -/
def hasIndicators (cs : List Char) : Bool :=
  let start := match cs with
    | [] => false
    | [c] => isIndicator c || c == '?' || c == ':' || c == '-'
    | c :: d :: _ => isIndicator c || ((c == '?' || c == ':' || c == '-') && isBlank d)
  let colon := cs.getLast? == some ':' || anyNeighbours (fun a b => a == ':' && isBlank b) cs
  let sign := anyNeighbours
    (fun a b => b == '#' && (isBlank a || isBreak a || a.toNat == 0)) cs
  let mark := cs.take 3 == ['-', '-', '-'] || cs.take 3 == ['.', '.', '.']
  start || colon || sign || mark

/-- What a text allows. -/
def analyze (cs : List Char) : Allowed :=
  match cs with
  | [] => { multiline := false, plain := true, singleQuoted := true, block := false }
  | first :: _ =>
    let last := cs.getLast?.getD first
    let edge := first == ' ' || isBreak first || last == ' ' || isBreak last
    let breaks := cs.any isBreak
    let tabs := cs.contains '\t'
    let special := cs.any fun c => c != '\t' && !isPrintable c
    let breakSpace := anyNeighbours (fun a b => isBreak a && b == ' ') cs
    let spaceBreak := anyNeighbours (fun a b => a == ' ' && isBreak b) cs
    { multiline := breaks
      plain := !(edge || breakSpace || spaceBreak || tabs || special || breaks || hasIndicators cs)
      singleQuoted := !(breakSpace || spaceBreak || tabs || special)
      block := !(last == ' ' || spaceBreak || special) }

/-! ## The pen -/

/-- Where the pen stands. -/
structure Pen where
  /-- What was written, in reverse. -/
  written : List Char
  /-- Characters on the current line. -/
  column : Nat
  /-- The current indentation; none before the outermost collection. -/
  indent : Option Nat
  /-- Whether white space was written last. -/
  whitespace : Bool
  /-- Whether only indentation stands on the current line. -/
  indention : Bool

namespace Pen

/-- A pen before the first character. -/
def start : Pen :=
  { written := [], column := 0, indent := none, whitespace := true, indention := true }

/-- Write one character. -/
def put (p : Pen) (c : Char) : Pen :=
  { p with written := c :: p.written, column := p.column + 1 }

/-- Write characters. -/
def putAll (p : Pen) (cs : List Char) : Pen := cs.foldl put p

/-- End the line. -/
def newline (p : Pen) (c : Char) : Pen :=
  { p with written := c :: p.written, column := 0, indention := true }

/-- Write punctuation, after a space if it needs one. -/
def indicator (p : Pen) (cs : List Char) (needSpace isSpace keepIndention : Bool) : Pen :=
  let p := if needSpace && !p.whitespace then p.put ' ' else p
  let p := p.putAll cs
  { p with whitespace := isSpace, indention := p.indention && keepIndention }

/-- Go to the indentation of the current level, on a new line unless the pen can still reach it on
this one. -/
def toIndent (p : Pen) : Pen :=
  let indent := p.indent.getD 0
  let p :=
    if !p.indention || indent < p.column || (p.column == indent && !p.whitespace) then
      p.newline '\n'
    else p
  let p := p.putAll (List.replicate (indent - p.column) ' ')
  { p with whitespace := true }

/-- The indentation one level deeper. `step` is the indentation step, `inSequence` whether the
level belongs to a sequence item, `flow` whether it is the inside of a scalar or an empty
collection. -/
def deeper (p : Pen) (step : Nat) (flow inSequence : Bool) : Option Nat :=
  match p.indent with
  | none => some (if flow then step else 0)
  | some n => some (if inSequence then n + 2 else step * ((n + step) / step))

end Pen

/-! ## Scalars -/

/-- The upper-case hexadecimal digits of a number. -/
def upperHex (width n : Nat) : List Char := (Text.hexDigits width n).map Char.toUpper

/-- One character inside double quotes. -/
def escapeChar (c : Char) : List Char :=
  let n := c.toNat
  if isPrintable c && !isBreak c && c != '"' && c != '\\' then [c]
  else
    '\\' :: match n with
      | 0x00 => ['0']
      | 0x07 => ['a']
      | 0x08 => ['b']
      | 0x09 => ['t']
      | 0x0a => ['n']
      | 0x0b => ['v']
      | 0x0c => ['f']
      | 0x0d => ['r']
      | 0x1b => ['e']
      | 0x22 => ['"']
      | 0x5c => ['\\']
      | 0x85 => ['N']
      | 0x2028 => ['L']
      | 0x2029 => ['P']
      | _ =>
        if n ≤ 0xff then 'x' :: upperHex 2 n
        else if n ≤ 0xffff then 'u' :: upperHex 4 n
        else 'U' :: upperHex 8 n

/-- Write a plain scalar. -/
def writePlain (p : Pen) (cs : List Char) : Pen :=
  let p := if !cs.isEmpty && !p.whitespace then p.put ' ' else p
  let p := p.putAll cs
  if cs.isEmpty then p else { p with whitespace := false, indention := false }

/-- Write the inside of single quotes; `breaks` says that a line has just ended. -/
def writeSingleBody : (breaks : Bool) → Pen → List Char → Pen
  | _, p, [] => p
  | breaks, p, c :: rest =>
    if isBreak c then
      let p := if !breaks && c == '\n' then p.newline '\n' else p
      writeSingleBody true (p.newline c) rest
    else if c == ' ' then writeSingleBody breaks (p.put c) rest
    else
      let p := if breaks then p.toIndent else p
      let p := if c == '\'' then p.put '\'' else p
      writeSingleBody false { p.put c with indention := false } rest

/-- Write a single-quoted scalar. -/
def writeSingleQuoted (p : Pen) (cs : List Char) : Pen :=
  let p := p.indicator ['\''] true false false
  let p := writeSingleBody false p cs
  let p := p.indicator ['\''] false false false
  { p with whitespace := false, indention := false }

/-- Write a double-quoted scalar. -/
def writeDoubleQuoted (p : Pen) (cs : List Char) : Pen :=
  let p := p.indicator ['"'] true false false
  let p := p.putAll (cs.flatMap escapeChar)
  let p := p.indicator ['"'] false false false
  { p with whitespace := false, indention := false }

/-- The marks of a literal block: the indentation step when the text starts with white space, and
what becomes of its last line ends. -/
def blockHints (step : Nat) (cs : List Char) : List Char :=
  let indent := match cs with
    | c :: _ => if c == ' ' || isBreak c then (toString step).toList else []
    | [] => []
  let chomp := match cs.reverse with
    | [] => ['-']
    | last :: before =>
      if !isBreak last then ['-']
      else match before with
        | [] => ['+']
        | c :: _ => if isBreak c then ['+'] else []
  indent ++ chomp

/-- Write the lines of a literal block; `breaks` says that a line is about to start. -/
def writeLiteralBody : (breaks : Bool) → Pen → List Char → Pen
  | _, p, [] => p
  | breaks, p, c :: rest =>
    if isBreak c then writeLiteralBody true (p.newline c) rest
    else
      let p := if breaks then p.toIndent else p
      writeLiteralBody false { p.put c with indention := false } rest

/-- Write a literal block. -/
def writeLiteral (p : Pen) (step : Nat) (cs : List Char) : Pen :=
  let p := p.indicator ['|'] true false false
  let p := p.indicator (blockHints step cs) false false false
  writeLiteralBody true { p with whitespace := true } cs

/-- Write a scalar. `simpleKey` is the key of a one-line entry, which cannot hold a block. -/
def writeScalar (p : Pen) (step : Nat) (inSequence simpleKey : Bool) (s : Scalar) : Pen :=
  let cs := s.text.toList
  let allowed := analyze cs
  let p := match s.tag with
    | none => p
    | some tag =>
      let p := if p.whitespace then p else p.put ' '
      { p.putAll ('!' :: '!' :: tag.name.toList) with whitespace := false, indention := false }
  let outer := p.indent
  let p := { p with indent := p.deeper step true inSequence }
  let p := match s.style with
    | .doubleQuoted => writeDoubleQuoted p cs
    | .literal =>
      if allowed.block && !simpleKey then writeLiteral p step cs else writeDoubleQuoted p cs
    | .plain =>
      if simpleKey && allowed.multiline then writeDoubleQuoted p cs
      else if allowed.plain && !(cs.isEmpty && simpleKey) then writePlain p cs
      else if allowed.singleQuoted then writeSingleQuoted p cs
      else writeDoubleQuoted p cs
  { p with indent := outer }

/-! ## Collections -/

/-- Whether a key fits on the line of its value. -/
def isSimpleKey (s : Scalar) : Bool :=
  !(analyze s.text.toList).multiline && s.text.utf8ByteSize ≤ 128

/-- Write an empty collection. -/
def writeEmpty (p : Pen) (opening closing : Char) : Pen :=
  (p.indicator [opening] true true false).indicator [closing] false false false

mutual

/-- Write a node. -/
def writeNode (step : Nat) (inSequence : Bool) (p : Pen) : Node → Pen
  | .scalar s => writeScalar p step inSequence false s
  | .sequence [] => writeEmpty p '[' ']'
  | .sequence (item :: items) =>
    let inner := { p with indent := p.deeper step false inSequence }
    { writeItems step inner (item :: items) with indent := p.indent }
  | .mapping [] => writeEmpty p (Char.ofNat 0x7b) (Char.ofNat 0x7d)
  | .mapping (entry :: entries) =>
    let inner := { p with indent := p.deeper step false inSequence }
    { writeEntries step inner (entry :: entries) with indent := p.indent }

/-- Write the items of a sequence, each after a dash. -/
def writeItems (step : Nat) (p : Pen) : List Node → Pen
  | [] => p
  | item :: rest =>
    let p := p.toIndent.indicator ['-'] true false true
    writeItems step (writeNode step true p item) rest

/-- Write the entries of a mapping. A key that does not fit on the line of its value is marked by a
question mark, and its value by a colon on a line of its own. -/
def writeEntries (step : Nat) (p : Pen) : List (Scalar × Node) → Pen
  | [] => p
  | (key, value) :: rest =>
    let p := p.toIndent
    let p :=
      if isSimpleKey key then
        (writeScalar p step false true key).indicator [':'] false false false
      else
        let p := p.indicator ['?'] true false true
        (writeScalar p step false false key).toIndent.indicator [':'] true false true
    writeEntries step (writeNode step false p value) rest

end

/-- The text of a document with one node, indented by `step`. -/
def emit (step : Nat) (n : Node) : String :=
  let p := writeNode step false Pen.start n
  String.ofList ({ p with indent := none }.toIndent.written.reverse)

end DocQuery.Yaml

namespace DocQuery.Value

/-- The YAML text of a value, indented by two spaces. -/
def toYaml (v : Value) : Except RenderError String :=
  (Yaml.Node.ofValue v).map (Yaml.emit 2)

end DocQuery.Value
