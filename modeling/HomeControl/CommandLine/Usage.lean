/-!
# Usage

What can be wrong with a command line, and the words that are looked for in one.
-/

namespace HomeControl.CommandLine

inductive ValueFault where
  /-- The value is not one of those that are listed for the argument. -/
  | unlisted
  /-- The value is no number, or one out of range. -/
  | badNumber
  /-- The value is nothing where something is needed. -/
  | empty
  deriving DecidableEq, Repr

inductive UsageError where
  | unknownArgument (word : String)
  /-- The word is much like one of the commands. -/
  | unknownCommand (word : String)
  | missingValue (argument : String)
  | badValue (argument value : String) (fault : ValueFault)
  | valueOnFlag (flag value : String)
  | repeated (argument : String)
  | missingArgument (argument : String)
  | missingCommand
  /-- Nothing at all is given where something is needed. -/
  | nothingGiven
  deriving DecidableEq, Repr

/-- Why the reading of a command line ends before its settings are known. -/
inductive Halt where
  | help
  | version
  | refused (cause : UsageError)
  deriving DecidableEq, Repr

namespace UsageError

def message : UsageError → String
  | unknownArgument word => "unexpected argument '" ++ word ++ "'"
  | unknownCommand word => "unknown command '" ++ word ++ "'"
  | missingValue argument => "a value is required for '" ++ argument ++ "'"
  | badValue argument value _ => "invalid value '" ++ value ++ "' for '" ++ argument ++ "'"
  | valueOnFlag flag value => "unexpected value '" ++ value ++ "' for '" ++ flag ++ "'"
  | repeated argument => "'" ++ argument ++ "' is given twice"
  | missingArgument argument => "'" ++ argument ++ "' is required"
  | missingCommand => "a command is required"
  | nothingGiven => "arguments are required"

end UsageError

/-- A word of a command line by its form. -/
inductive Word where
  /-- From here on every word is a value. -/
  | terminator
  | long (name : String) (value : Option String)
  | short (letter : Char)
  | plain
  deriving DecidableEq, Repr

/-- The name of a long option, and the value behind its equals sign. -/
def Word.ofLong (body : List Char) : Word :=
  let value :=
    match body.dropWhile (· != '=') with
    | [] => none
    | _ :: value => some (String.ofList value)
  .long (String.ofList (body.takeWhile (· != '='))) value

/-- The form of a word; of short options that stand together, the first one counts. -/
def Word.ofText (text : String) : Word :=
  match text.toList with
  | ['-', '-'] => .terminator
  | '-' :: '-' :: body => .ofLong body
  | '-' :: letter :: _ => .short letter
  | _ => .plain

end HomeControl.CommandLine
