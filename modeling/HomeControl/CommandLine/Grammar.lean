import HomeControl.CommandLine.Usage
import HomeControl.Text.Similarity

/-!
# Grammars of command lines

A grammar lists the arguments of a program, and what each does to a draft of its settings.
The value of an argument is read only when the next argument begins or the line ends, so
an argument that is unknown is reported before a bad value in front of it.
-/

namespace HomeControl.CommandLine

/-- An argument with a value, and the change that the value makes. -/
structure Parameter (σ : Type) where
  name : String
  read : String → Except ValueFault (σ → σ)

inductive NamedOption (σ : Type) where
  | flag (name : String) (set : σ → σ)
  | valued (parameter : Parameter σ)

/-- A command word, and how the line goes on behind it. -/
structure Subcommand (σ : Type) where
  word : String
  read : List String → Except Halt (σ → σ)

structure Grammar (σ : Type) where
  options : List (NamedOption σ) := []
  positionals : List (Parameter σ) := []
  commands : List (Subcommand σ) := []
  hasVersion : Bool := false

/-- An argument whose value has not been read yet. -/
inductive Pending (σ : Type) where
  | nothing
  | awaiting (parameter : Parameter σ)
  | holding (parameter : Parameter σ) (value : String)

structure Draft (σ : Type) where
  settings : σ
  given : List String := []
  pending : Pending σ := .nothing

namespace NamedOption

variable {σ : Type}

def name : NamedOption σ → String
  | flag name _ => name
  | valued parameter => parameter.name

end NamedOption

namespace Draft

variable {σ : Type}

/-- Record an argument with the change that it makes; none may be given twice. -/
def record (draft : Draft σ) (name : String) (change : Except UsageError (σ → σ)) :
    Except Halt (Draft σ) :=
  if draft.given.contains name then .error (.refused (.repeated name))
  else
    match change with
    | .ok set => .ok { draft with settings := set draft.settings, given := name :: draft.given }
    | .error cause => .error (.refused cause)

def readValue (draft : Draft σ) (parameter : Parameter σ) (value : String) :
    Except Halt (Draft σ) :=
  draft.record parameter.name
    ((parameter.read value).mapError fun fault => .badValue parameter.name value fault)

def settle (draft : Draft σ) : Except Halt (Draft σ) :=
  match draft.pending with
  | .nothing => .ok draft
  | .awaiting parameter => .error (.refused (.missingValue parameter.name))
  | .holding parameter value => { draft with pending := .nothing }.readValue parameter value

end Draft

namespace Grammar

variable {σ : Type}

def readLong (grammar : Grammar σ) (draft : Draft σ) (name : String) (value : Option String) :
    Except Halt (Draft σ) :=
  match grammar.options.find? fun option => option.name == name with
  | some (.valued parameter) => do
    let settled ← draft.settle
    match value with
    | some value => settled.readValue parameter value
    | none => return { settled with pending := .awaiting parameter }
  | some (.flag name set) =>
    match value with
    | some value => .error (.refused (.valueOnFlag name value))
    | none => do (← draft.settle).record name (.ok set)
  | none =>
    if name == "help" || (grammar.hasVersion && name == "version") then
      match value with
      | some value => .error (.refused (.valueOnFlag name value))
      | none => do
        let _ ← draft.settle
        .error (if name == "help" then .help else .version)
    else .error (.refused (.unknownArgument name))

/-- Read a short option; there are none but those for help and for the version. -/
def readShort (grammar : Grammar σ) (draft : Draft σ) (letter : Char) : Except Halt (Draft σ) :=
  if letter == 'h' then do
    let _ ← draft.settle
    .error .help
  else if letter == 'V' && grammar.hasVersion then do
    let _ ← draft.settle
    .error .version
  else .error (.refused (.unknownArgument letter.toString))

def helpWord : String := "help"

def commandWords (grammar : Grammar σ) : List String :=
  grammar.commands.map Subcommand.word ++ if grammar.commands.isEmpty then [] else [helpWord]

/-- Answer a request for help on a command; the commands have none of their own. -/
def readHelp (grammar : Grammar σ) : List String → Halt
  | [] => .help
  | word :: rest =>
    if grammar.commandWords.contains word then
      match rest with
      | [] => .help
      | further :: _ => .refused (.unknownCommand further)
    else .refused (.unknownCommand word)

def misplaced (grammar : Grammar σ) (trailing : Bool) (word : String) : UsageError :=
  if trailing && grammar.commandWords.contains word then .unknownArgument word
  else if grammar.commandWords.any (Text.areSimilar word) then .unknownCommand word
  else .unknownArgument word

/-- Read a command and the line behind it, and then the value that was pending before it. -/
def readCommand (draft : Draft σ) (command : Subcommand σ) (rest : List String) :
    Except Halt (Draft σ) := do
  let set ← command.read rest
  let settled ← draft.settle
  return { settled with settings := set settled.settings }

/-- Read a line from a draft on; behind the terminator, every word is a positional argument. -/
def readFrom (grammar : Grammar σ) :
    (trailing : Bool) → List (Parameter σ) → Draft σ → List String → Except Halt (Draft σ)
  | _, _, draft, [] => draft.settle
  | trailing, positionals, draft, word :: rest =>
    let place : Except Halt (Draft σ) :=
      match positionals with
      | parameter :: further => do
        let settled ← draft.settle
        readFrom grammar trailing further { settled with pending := .holding parameter word } rest
      | [] => .error (.refused (grammar.misplaced trailing word))
    if trailing then place
    else
      match Word.ofText word with
      | .terminator => readFrom grammar true positionals draft rest
      | .long name value => do
        readFrom grammar false positionals (← grammar.readLong draft name value) rest
      | .short letter => do
        readFrom grammar false positionals (← grammar.readShort draft letter) rest
      | .plain =>
        match draft.pending with
        | .awaiting parameter =>
          readFrom grammar false positionals { draft with pending := .holding parameter word } rest
        | _ =>
          match grammar.commands.find? fun command => command.word == word with
          | some command => readCommand draft command rest
          | none =>
            if grammar.commandWords.contains word then .error (grammar.readHelp rest) else place

def read (grammar : Grammar σ) (blank : σ) (words : List String) : Except Halt (Draft σ) :=
  grammar.readFrom false grammar.positionals { settings := blank } words

end Grammar

end HomeControl.CommandLine
