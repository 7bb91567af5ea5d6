import HomeControl.Bank
import HomeControl.Text.Uppercase

/-!
# Roles

The kinds of controller that a house is run by, with the names they go by unless they are
given others.
-/

namespace HomeControl

inductive Role where
  | inputButton
  | outputRelay
  | outputLights
  | outputDimmer
  | outputVentilator
  | lightSimulator
  deriving DecidableEq, Repr

namespace Role

def all : List Role :=
  [inputButton, outputRelay, outputLights, outputDimmer, outputVentilator, lightSimulator]

def text : Role → String
  | inputButton => "input-button"
  | outputRelay => "output-relay"
  | outputLights => "output-lights"
  | outputDimmer => "output-dimmer"
  | outputVentilator => "output-ventilator"
  | lightSimulator => "light-simulator"

def ofText? (word : String) : Option Role := all.find? fun role => role.text == word

def defaultName (role : Role) : String :=
  "RPI_" ++ Text.upper (String.ofList (role.text.toList.filter (· != '-')))

def outputPlan? : Role → Option OutputPlan
  | outputRelay => some ⟨"Relay", .relay, .pulsed⟩
  | outputLights => some ⟨"Light", .pin, .toggle⟩
  | outputDimmer => some ⟨"Dimmer", .pin, .dimmer⟩
  | outputVentilator => some ⟨"Relay", .relay, .timedRun⟩
  | inputButton | lightSimulator => none

end Role

/-- The queue that a controller takes its messages from, unless it is given another one. -/
def inboxName (controller : String) : String := "IQ_" ++ Text.upper controller

end HomeControl
