import HomeControl.Logging.Level
import HomeControl.Text.Fields
import HomeControl.Text.Quoted

/-!
# Commands

Commands to a running controller, written as a word with arguments behind semicolons.  Only
the log level takes an argument; all other commands ignore them.
-/

namespace HomeControl

inductive Command where
  | stop
  | setLogLevel (level : LogLevel)
  | logging (sink : LogSink) (enabled : Bool)
  | printStatus
  | refresh
  deriving DecidableEq, Repr

inductive MessageError where
  | empty
  | unknownTag (tag : String)
  | missingEvent (message : String)
  | json
  | unknownType (type : String)
  | unknownCommand (word : String)
  | invalidLogLevel (arguments : String)
  deriving DecidableEq, Repr

namespace MessageError

def message : MessageError → String
  | empty => "empty message"
  | unknownTag tag => "unknown message tag " ++ Text.quote tag
  | missingEvent message => "message " ++ Text.quote message ++ " has no event field"
  | json => "invalid JSON message"
  | unknownType type => "unknown message type " ++ Text.quote type
  | unknownCommand word => "unknown process command " ++ Text.quote word
  | invalidLogLevel arguments => "invalid SET_LOG_LEVEL arguments " ++ Text.quote arguments

end MessageError

namespace Command

def levelOf? : String → Option LogLevel
  | "DEBUG" => some .debug
  | "INFO" => some .info
  | "WARNING" => some .warn
  | "ERROR" => some .error
  | "CRITICAL" => some .error
  | _ => none

/-- The word for a level; the finest level has none of its own. -/
def levelWord : LogLevel → String
  | .trace | .debug => "DEBUG"
  | .info => "INFO"
  | .warn => "WARNING"
  | .error => "ERROR"

def sinkOf? : String → Option LogSink
  | "CONSOLE_LOGGING" => some .console
  | "LOGFILE_LOGGING" => some .logfile
  | "SYSLOG_LOGGING" => some .syslog
  | _ => none

def switchOf? (word : String) : Option Command :=
  match Text.cut? '_' word with
  | some ("ENABLE", sink) => (sinkOf? sink).map (.logging · true)
  | some ("DISABLE", sink) => (sinkOf? sink).map (.logging · false)
  | _ => none

/-- The log level of a list of arguments, which has to be its only one. -/
def readLevel (arguments : List String) : Except MessageError Command :=
  match arguments with
  | [word] =>
    match levelOf? word with
    | some level => .ok (.setLogLevel level)
    | none => .error (.invalidLogLevel word)
  | _ => .error (.invalidLogLevel (Text.join ";" arguments))

def ofFields (word : String) (arguments : List String) : Except MessageError Command :=
  match word with
  | "STOP" => .ok .stop
  | "PRINT_PROCESS_STATUS" => .ok .printStatus
  | "REFRESH_PROCESS_ATTRIBUTES" => .ok .refresh
  | "SET_LOG_LEVEL" => readLevel arguments
  | _ =>
    match switchOf? word with
    | some command => .ok command
    | none => .error (.unknownCommand word)

def ofText (text : String) : Except MessageError Command :=
  match Text.fields ';' text with
  | word :: arguments => ofFields word arguments
  | [] => ofFields "" []

def text : Command → String
  | stop => "STOP"
  | setLogLevel level => "SET_LOG_LEVEL;" ++ levelWord level
  | logging sink enabled =>
    (if enabled then "ENABLE" else "DISABLE") ++ "_" ++ sink.keyword ++ "_LOGGING"
  | printStatus => "PRINT_PROCESS_STATUS"
  | refresh => "REFRESH_PROCESS_ATTRIBUTES"

end Command

end HomeControl
