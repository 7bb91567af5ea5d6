import HomeControl.Message.Command
import HomeControl.Text.Uppercase

/-!
# Requests

What a person can ask of a running controller, and the message that asks for it.  A request
that the controller would not understand makes no message.
-/

namespace HomeControl

/-- A request to a controller; a log level is a text as the person wrote it. -/
inductive Request where
  | stop
  | setLogLevel (level : String)
  | printStatus
  | refresh
  | switchLogging (sink : LogSink) (enabled : Bool)
  deriving DecidableEq, Repr

namespace Request

def commandText : Request → String
  | stop => Command.stop.text
  | setLogLevel level => "SET_LOG_LEVEL;" ++ Text.upper level
  | printStatus => Command.printStatus.text
  | refresh => Command.refresh.text
  | switchLogging sink enabled => (Command.logging sink enabled).text

/-- The message of the request, unless its command is not understood. -/
def encode (request : Request) : Except MessageError String :=
  (Command.ofText request.commandText).map fun _ => "P;" ++ request.commandText

end Request

end HomeControl
