/-!
# Log levels and sinks

How much a controller writes to its log, and where it writes it.
-/

namespace HomeControl

/-- The importance of a log record, from the least one up. -/
inductive LogLevel where
  | trace
  | debug
  | info
  | warn
  | error
  deriving DecidableEq, Repr

def LogLevel.rank : LogLevel → Nat
  | trace => 0
  | debug => 1
  | info => 2
  | warn => 3
  | error => 4

inductive LogSink where
  | console
  | logfile
  | syslog
  deriving DecidableEq, Repr

namespace LogSink

def keyword : LogSink → String
  | console => "CONSOLE"
  | logfile => "LOGFILE"
  | syslog => "SYSLOG"

def text : LogSink → String
  | console => "console"
  | logfile => "logfile"
  | syslog => "syslog"

end LogSink

inductive LogRequest where
  | level (level : LogLevel)
  | sink (sink : LogSink) (enabled : Bool)
  deriving DecidableEq, Repr

end HomeControl
