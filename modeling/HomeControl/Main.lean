import HomeControl.CommandLine.Outcome

/-!
# The executable

The first word of the command line chooses the program, the others are its own.
-/

namespace HomeControl.CommandLine

def Program.finish (program : Program) (outcome : Outcome) : IO UInt32 := do
  match outcome with
  | .help => IO.println program.usage
  | .version => IO.println program.versionLine
  | .refused cause => IO.eprintln ("error: " ++ cause.message ++ "\n" ++ program.usage)
  | .failed message => IO.eprintln ("Error: " ++ message)
  return outcome.exitCode

def run (words : List String) : IO UInt32 := do
  match words.head?.bind Program.ofWord? with
  | some program => program.finish (program.outcome (words.drop 1))
  | none =>
    IO.eprintln "Usage: gate|send ..."
    return 2

end HomeControl.CommandLine

def main (words : List String) : IO UInt32 := HomeControl.CommandLine.run words
