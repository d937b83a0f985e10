import DocQuery.Command.Run

/-!
# DocQuery.Main

The command line: it reads the files a request names, carries the request out and prints what came
of it.
-/

namespace DocQuery.Command

/-- The text of a file; nothing when it cannot be read. -/
def readFile? (file : String) : IO (Option String) := do
  try return some (← IO.FS.readFile file) catch _ => return none

/-- A fresh identifier for a run. -/
def freshTraceId : IO String := do
  let digits (width bound : Nat) : IO String := do
    return String.ofList (Text.hexDigits width (← IO.rand 0 (bound - 1)))
  let now := String.ofList (Text.hexDigits 12 (← IO.monoMsNow))
  let low ← digits 3 0x1000
  let middle := String.ofList (Text.hexDigits 4 (0x8000 + (← IO.rand 0 0x3fff)))
  let high ← digits 12 0x1000000000000
  return (now.take 8).toString ++ "-" ++ (now.drop 8).toString ++ "-7" ++ low ++ "-" ++ middle ++
    "-" ++ high

end DocQuery.Command

open DocQuery.Command

/-- Run the program. -/
def main (args : List String) : IO UInt32 := do
  let wanted := match readArguments args with
    | .ok (.run request) => request.files
    | _ => []
  let files ← wanted.mapM fun file => return (file, ← readFile? file)
  let stdin ← if args.contains "-" then (← IO.getStdin).readToEnd else pure ""
  let inputs : Inputs :=
    { stdin
      file? := fun name => (files.find? fun f => f.1 == name).bind (·.2)
      traceId := ← freshTraceId }
  let outcome := run args inputs
  IO.print outcome.stdout
  IO.eprint outcome.stderr
  return UInt32.ofNat outcome.ending.exitCode.toNat
