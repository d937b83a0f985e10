import DocQuery.Command.Output
import DocQuery.Text.Quoted

/-!
# DocQuery.Command.Arguments

The arguments of a run: which command it is, its flags and its operands.

Flags may stand before and after the name of the command, as `--name value` or `--name=value`, and
two dashes end them. To find the name of the command before it is known which flags there are, a
flag that is not known to be a switch is taken to have a value.
-/

namespace DocQuery.Command

/-- The commands. -/
inductive Verb where
  /-- Compile an expression or a tree. -/
  | compile
  /-- Print the tree of an expression. -/
  | parse
  /-- List the tables. -/
  | tables
deriving Repr, DecidableEq

namespace Verb

/-- All commands. -/
def all : List Verb := [.compile, .parse, .tables]

/-- The name of a command. -/
def name : Verb → String
  | .compile => "compile"
  | .parse => "parse"
  | .tables => "tables"

/-- The command with a name. -/
def ofName? (s : String) : Option Verb := all.find? fun v => v.name == s

end Verb

/-- The name of the program. -/
def programName : String := "mongoexpr"

/-- The settings that flags make. -/
structure Settings where
  /-- Whether help is asked for. -/
  help : Bool := false
  /-- Whether the run is logged. -/
  verbose : Bool := false
  /-- The name of the output format. -/
  format : String := "text"
  /-- The table file; empty for the standard tables. -/
  tables : String := ""
  /-- The tree file; empty for none. -/
  tree : String := ""
  /-- Whether documents are printed as Extended JSON. -/
  extended : Bool := false
deriving Repr, DecidableEq

/-- What is wrong with arguments. -/
inductive ArgumentError where
  /-- A command that there is not. -/
  | unknownCommand (name : String) (suggestions : List String)
  /-- An operand of a command that takes none. -/
  | unexpectedOperand (verb : Verb) (operand : String)
  /-- More operands than a command takes. -/
  | tooMany (limit received : Nat)
  /-- Another number of operands than a command takes. -/
  | wrongCount (wanted received : Nat)
  /-- A flag that there is not. -/
  | unknownFlag (name : String)
  /-- A letter that is no flag. -/
  | unknownLetter (letter : Char) (letters : String)
  /-- A flag without its value. -/
  | missingValue (flag : String)
  /-- Dashes that no flag follows. -/
  | badFlag (written : String)
  /-- A switch with a value that is no boolean. -/
  | badSwitch (value flag : String)
  /-- A format that there is not. -/
  | badFormat (name : String)
deriving Repr, DecidableEq

/-- A character in single quotes. -/
def quoteLetter (c : Char) : String :=
  let body := if c == '\'' then ['\\', '\''] else if c == '"' then ['"'] else Text.quoteChar c
  "'" ++ String.ofList body ++ "'"

/-- The text of an argument error. -/
def ArgumentError.text : ArgumentError → String
  | .unknownCommand name suggestions =>
    "unknown command " ++ Text.quote name ++ " for " ++ Text.quote programName ++
      if suggestions.isEmpty then ""
      else "\n\nDid you mean this?\n" ++ String.join (suggestions.map fun s => "\t" ++ s ++ "\n")
  | .unexpectedOperand verb operand =>
    "unknown command " ++ Text.quote operand ++ " for " ++
      Text.quote (programName ++ " " ++ verb.name)
  | .tooMany limit received =>
    "accepts at most " ++ toString limit ++ " arg(s), received " ++ toString received
  | .wrongCount wanted received =>
    "accepts " ++ toString wanted ++ " arg(s), received " ++ toString received
  | .unknownFlag name => "unknown flag: --" ++ name
  | .unknownLetter letter letters =>
    "unknown shorthand flag: " ++ quoteLetter letter ++ " in -" ++ letters
  | .missingValue flag => "flag needs an argument: " ++ flag
  | .badFlag written => "bad flag syntax: " ++ written
  | .badSwitch value flag =>
    "invalid argument " ++ Text.quote value ++ " for " ++ Text.quote flag ++
      " flag: strconv.ParseBool: parsing " ++ Text.quote value ++ ": invalid syntax"
  | .badFormat name =>
    "invalid format " ++ Text.quote name ++ ": must be one of [" ++
      String.intercalate " " (Format.all.map Format.name) ++ "]"

/-- What is printed about an argument error: an unknown command is announced. -/
def ArgumentError.printed : ArgumentError → String
  | .unknownCommand name suggestions =>
    "Error: " ++ (ArgumentError.unknownCommand name suggestions).text ++ "\nRun '" ++ programName ++
      " --help' for usage.\n"
  | _ => ""

/-! ## Flags -/

/-- A flag. -/
structure Flag where
  /-- Its name. -/
  name : String
  /-- Its letter, if it has one. -/
  letter : Option Char
  /-- Whether it is a switch, which needs no value. -/
  isSwitch : Bool
  /-- Set it to a value; nothing when the value is no boolean. -/
  set : String → Settings → Option Settings

/-- The boolean that a value of a switch stands for. -/
def switchValue? (s : String) : Option Bool :=
  if s ∈ ["1", "t", "T", "TRUE", "true", "True"] then some true
  else if s ∈ ["0", "f", "F", "FALSE", "false", "False"] then some false
  else none

/-- The flags of every command. -/
def commonFlags : List Flag :=
  [ { name := "verbose", letter := some 'v', isSwitch := true
      set := fun s o => (switchValue? s).map fun b => { o with verbose := b } },
    { name := "format", letter := none, isSwitch := false
      set := fun s o => some { o with format := s } },
    { name := "tables", letter := none, isSwitch := false
      set := fun s o => some { o with tables := s } } ]

/-- The flag that asks for help. It is not known while the name of the command is looked for. -/
def helpFlag : Flag :=
  { name := "help", letter := some 'h', isSwitch := true
    set := fun s o => (switchValue? s).map fun b => { o with help := b } }

/-- The flags of a command. -/
def Verb.flags : Verb → List Flag
  | .compile =>
    helpFlag :: commonFlags ++
    [ { name := "tree", letter := none, isSwitch := false
        set := fun s o => some { o with tree := s } },
      { name := "extjson", letter := none, isSwitch := true
        set := fun s o => (switchValue? s).map fun b => { o with extended := b } } ]
  | .parse => helpFlag :: commonFlags
  | .tables => helpFlag :: commonFlags

/-- How a flag is written in messages. -/
def Flag.shown (f : Flag) : String :=
  match f.letter with
  | some c => "-" ++ String.singleton c ++ ", --" ++ f.name
  | none => "--" ++ f.name

/-- Set a flag to a value. -/
def Flag.apply (f : Flag) (value : String) (o : Settings) : Except ArgumentError Settings :=
  match f.set value o with
  | some o => .ok o
  | none => .error (.badSwitch value f.shown)

/-! ## Finding the command -/

/-- Whether an argument is taken to be a flag whose value is the next argument. -/
def takesNext (flags : List Flag) (s : String) : Bool :=
  if s.contains '=' then false
  else if s.startsWith "--" then
    !flags.any fun f => "--" ++ f.name == s && f.isSwitch
  else if s.startsWith "-" && s.utf8ByteSize == 2 then
    !flags.any fun f => f.isSwitch && f.letter.any fun c => "-" ++ String.singleton c == s
  else false

/-- The arguments that are neither flags nor values of flags. A flag before the last two arguments
hides what follows it. -/
def plainWords (flags : List Flag) : List String → List String
  | [] => []
  | s :: rest =>
    if s == "--" then []
    else if takesNext flags s then
      match rest with
      | _ :: next :: more => plainWords flags (next :: more)
      | _ => []
    else if s != "" && !s.startsWith "-" then s :: plainWords flags rest
    else plainWords flags rest

/-- The arguments without the first plain word that is the given one. -/
def withoutWord (flags : List Flag) (word : String) : List String → List String
  | [] => []
  | s :: rest =>
    if s == "--" then s :: rest
    else if takesNext flags s then
      match rest with
      | value :: more => s :: value :: withoutWord flags word more
      | [] => [s]
    else if !s.startsWith "-" && s == word then rest
    else s :: withoutWord flags word rest

/-- One row of the table of edit distances: the distances of `a` from the starts of the other word,
given the row before. -/
def distanceRow (a : UInt8) (diagonal left : Nat) : List UInt8 → List Nat → List Nat
  | b :: bs, above :: row =>
    let d := min (min (above + 1) (left + 1)) (if a == b then diagonal else diagonal + 1)
    d :: distanceRow a above d bs row
  | _, _ => []

/-- How many bytes have to be inserted, deleted or replaced to get from one word to the other. -/
def editDistance (a b : List UInt8) : Nat :=
  let step (row : List Nat) (x : UInt8) : List Nat :=
    let diagonal := row.headD 0
    (diagonal + 1) :: distanceRow x diagonal (diagonal + 1) b (row.drop 1)
  (a.foldl step (List.range (b.length + 1))).getLastD 0

/-- The names that may be meant by an unknown command: those at most two edits away, and those that
begin with it. -/
def suggestionsFor (typed : String) : List String :=
  let typed := typed.toLower
  (Verb.all.map Verb.name ++ ["completion"]).filter fun name =>
    editDistance typed.toUTF8.toList name.toUTF8.toList ≤ 2 || name.startsWith typed

/-! ## Requests -/

/-- A request: a command with its settings and operands. -/
structure Request where
  /-- The command. -/
  verb : Verb
  /-- The settings. -/
  settings : Settings
  /-- The operands. -/
  operands : List String
deriving Repr, DecidableEq

/-- What arguments ask for. -/
inductive Asked where
  /-- Help. -/
  | help
  /-- A command. -/
  | run (request : Request)
deriving Repr, DecidableEq

/-- The first byte of a character, as a character. -/
def firstByte (c : Char) : Char := Char.ofNat ((Text.charBytes c).headD 0).toNat

/-- What starts the letters that are passed over: they are meant for a test runner. -/
def passedOver : List Char := "test.".toList

/-- Read letters after a single dash. -/
def readLetters (flags : List Flag) : Settings → List Char → Except ArgumentError Settings
  | o, [] => .ok o
  | o, c :: cs =>
    if passedOver.isPrefixOf (c :: cs) then .ok o
    else
      match flags.find? fun f => f.letter == some c with
      | none => .error (.unknownLetter (firstByte c) (String.ofList (c :: cs)))
      | some f =>
        match cs with
        | '=' :: d :: ds => f.apply (String.ofList (d :: ds)) o
        | cs => do readLetters flags (← f.apply "true" o) cs

/-- Split a flag at its first equals sign. -/
def splitFlag (s : List Char) : String × Option String :=
  let name := String.ofList (s.takeWhile (· != '='))
  match s.dropWhile (· != '=') with
  | _ :: value => (name, some (String.ofList value))
  | [] => (name, none)

/-- Read flags and operands. -/
def readFlags (flags : List Flag) : Settings → (operands : List String) → List String →
    Except ArgumentError (Settings × List String)
  | o, operands, [] => .ok (o, operands.reverse)
  | o, operands, s :: rest =>
    match s.toList with
    | '-' :: '-' :: [] => .ok (o, operands.reverse ++ rest)
    | '-' :: '-' :: c :: cs =>
      if c == '-' || c == '=' then .error (.badFlag s)
      else
        let (name, value) := splitFlag (c :: cs)
        match flags.find? fun f => f.name == name with
        | none => .error (.unknownFlag name)
        | some f =>
          match value, f.isSwitch, rest with
          | some v, _, rest => do readFlags flags (← f.apply v o) operands rest
          | none, true, rest => do readFlags flags (← f.apply "true" o) operands rest
          | none, false, v :: rest => do readFlags flags (← f.apply v o) operands rest
          | none, false, [] => .error (.missingValue s)
    | '-' :: c :: cs => do readFlags flags (← readLetters flags o (c :: cs)) operands rest
    | _ => readFlags flags o (s :: operands) rest

/-- Check the number of operands of a command. -/
def checkCount (verb : Verb) (operands : List String) : Except ArgumentError Unit :=
  match verb, operands with
  | .compile, _ :: _ :: _ => .error (.tooMany 1 operands.length)
  | .parse, [_] => .ok ()
  | .parse, _ => .error (.wrongCount 1 operands.length)
  | .tables, operand :: _ => .error (.unexpectedOperand .tables operand)
  | _, _ => .ok ()

/-- Read the arguments of a run. Flags are read before anything is made of them, so that a wrong one
is told even where help is asked for. -/
def readArguments (args : List String) : Except ArgumentError Asked :=
  match plainWords commonFlags args with
  | [] => do
    let _ ← readFlags (helpFlag :: commonFlags) {} [] args
    return .help
  | word :: _ =>
    match Verb.ofName? word with
    | none =>
      if word == "help" || word == "completion" then .ok .help
      else .error (.unknownCommand word (suggestionsFor word))
    | some verb => do
      let (settings, operands) ← readFlags verb.flags {} [] (withoutWord commonFlags word args)
      if settings.help then return .help
      else
        checkCount verb operands
        return .run { verb, settings, operands }

end DocQuery.Command
