import BattleItems.Command.Run

/-!
# BattleItems.Main

The command line: reads files, prints outcomes and decides nothing.
-/

namespace BattleItems

/-- Why the system did not give a file. -/
def readFailure : IO.Error → ReadFailure
  | .noFileOrDirectory .. => .missing
  | .permissionDenied .. => .denied
  | .inappropriateType _ _ details =>
    if details = "not a directory" then .notADirectory else .isADirectory
  | error => .other (toString error)

/-- Reads a file from disk. -/
def readFile : FileReader IO := fun path => do
  try
    let bytes ← IO.FS.readBinFile path
    match String.fromUTF8? bytes with
    | some text => pure (.ok text)
    | none => pure (.error .notText)
  catch error => pure (.error (readFailure error))

def usageText : String :=
  "usage: validate-catalog FILE [-q]\n" ++
  "       simulate -c FILE -i ITEM --context FILE [-t TRIGGER] [-s SEED] [--config FILE]\n" ++
  "                [--times N] [-f summary|json]"

end BattleItems

open BattleItems

def main (arguments : List String) : IO UInt32 := do
  let outcome ← Command.runArguments readFile arguments
  IO.print outcome.output
  match outcome with
  | .refused => IO.eprintln usageText
  | .panicked cause => IO.eprintln s!"panicked: {cause.text}"
  | _ =>
    match outcome.error? with
    | some text => IO.eprintln text
    | none => pure ()
  pure (UInt32.ofNat outcome.exitCode)
