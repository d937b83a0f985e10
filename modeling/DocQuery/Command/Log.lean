import DocQuery.Text.Quoted

/-!
# DocQuery.Command.Log

Lines of the log that a verbose run writes. A line is a list of keys and values; a value is quoted
when it would not stand out as one word.
-/

namespace DocQuery.Command

/-- Whether a value has to be quoted. -/
def needsQuotes (s : String) : Bool :=
  s == "" || s.toList.any fun c =>
    if c.toNat < 0x80 then c == ' ' || c == '=' || c == '"' || c.toNat < 0x20
    else c.toNat == 0xfffd || !Text.isPrintable c

/-- A value of a log line. -/
def logValue (s : String) : String := if needsQuotes s then Text.quote s else s

/-- A line of the log. -/
def logLine (message : String) (values : List (String × String)) : String :=
  let members := ("level", "DEBUG") :: ("msg", message) :: values
  String.intercalate " " (members.map fun (key, value) => key ++ "=" ++ logValue value) ++ "\n"

end DocQuery.Command
