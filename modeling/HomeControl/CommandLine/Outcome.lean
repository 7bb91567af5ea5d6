import HomeControl.CommandLine.Gate
import HomeControl.CommandLine.Help
import HomeControl.CommandLine.Send

/-!
# Outcomes

How a program ends that finds no broker: it shows what it was asked for, refuses its
command line, or fails with a message.
-/

namespace HomeControl.CommandLine

inductive Outcome where
  | help
  | version
  | refused (cause : UsageError)
  | failed (message : String)
  deriving DecidableEq, Repr

namespace Outcome

def ofHalt : Halt → Outcome
  | .help => .help
  | .version => .version
  | .refused cause => .refused cause

def exitCode : Outcome → UInt32
  | help | version => 0
  | refused _ => 2
  | failed _ => 1

end Outcome

def GateSettings.outcome (words : List String) : Outcome :=
  match GateSettings.ofWords words with
  | .error halt => .ofHalt halt
  | .ok settings => .failed settings.broker.unreachable

/-- How a sender ends: a request that no controller understands is not sent at all. -/
def SendSettings.outcome (words : List String) : Outcome :=
  match SendSettings.ofWords words with
  | .error halt => .ofHalt halt
  | .ok settings =>
    match settings.request.encode with
    | .error cause => .failed cause.message
    | .ok _ => .failed settings.broker.unreachable

def Program.outcome : Program → List String → Outcome
  | gate => GateSettings.outcome
  | send => SendSettings.outcome

end HomeControl.CommandLine
