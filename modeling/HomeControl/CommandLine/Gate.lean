import HomeControl.CommandLine.Broker
import HomeControl.Controller.Role

/-!
# The command line of a controller

The settings that a controller is started with: its role and its broker, and much that
has a usual value.
-/

namespace HomeControl.CommandLine

/-- The settings that have a usual value. -/
structure GateOptions where
  configPath : String := "domo-gate.yaml"
  processName : Option String := none
  inputQueue : Option String := none
  portName : String := "/dev/ttyACM0"
  baudRate : UInt32 := 115200
  boards : UInt8 := 1
  /-- Inputs and outputs stay in memory. -/
  dryRun : Bool := false
  logFile : String := "/var/log/homedomotica/domo-gate.log"
  logToFile : Bool := false
  /-- The pause after a tick. -/
  idleMilliseconds : UInt64 := 100
  deriving DecidableEq, Repr

structure GateSettings where
  role : Role
  broker : Broker
  options : GateOptions
  deriving DecidableEq, Repr

namespace GateSettings

structure Draft where
  role : Option Role := none
  broker : BrokerDraft := {}
  options : GateOptions := {}

namespace Draft

def roleName : String := "role"

def change (set : GateOptions → GateOptions) (draft : Draft) : Draft :=
  { draft with options := set draft.options }

def settings (draft : Draft) : Except Halt GateSettings := do
  return ⟨← require roleName draft.role, ← draft.broker.broker, draft.options⟩

end Draft

def grammar : Grammar Draft where
  hasVersion := true
  options :=
    [.valued (.choice Draft.roleName Role.ofText? fun role draft => { draft with role := some role }),
     .valued (.text "config-path" fun configPath =>
       Draft.change fun known => { known with configPath }),
     .valued (.text "process-name" fun name =>
       Draft.change fun known => { known with processName := some name }),
     .valued (.text "input-queue" fun queue =>
       Draft.change fun known => { known with inputQueue := some queue }),
     .valued (.text "port-name" fun portName => Draft.change fun known => { known with portName }),
     .valued (.number "baud-rate" (UInt32.size - 1) fun rate =>
       Draft.change fun known => { known with baudRate := UInt32.ofNat rate }),
     .valued (.number "boards" 255 fun boards =>
       Draft.change fun known => { known with boards := UInt8.ofNat boards }),
     .flag "dry-run" (Draft.change fun known => { known with dryRun := true }),
     .valued (.path "log-file" fun logFile => Draft.change fun known => { known with logFile }),
     .flag "log-to-file" (Draft.change fun known => { known with logToFile := true }),
     .valued (.word "idle-ms" fun pause =>
       Draft.change fun known => { known with idleMilliseconds := pause })] ++
    BrokerDraft.options fun set draft => { draft with broker := set draft.broker }

def ofWords (words : List String) : Except Halt GateSettings := do
  (← grammar.read {} words).settings.settings

def processName (settings : GateSettings) : String :=
  settings.options.processName.getD settings.role.defaultName

def inputQueue (settings : GateSettings) : String :=
  settings.options.inputQueue.getD (inboxName settings.processName)

end GateSettings

end HomeControl.CommandLine
