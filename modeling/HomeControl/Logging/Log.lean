import HomeControl.Logging.Level

/-!
# The log

The log shows records from its level up on the console, in a file, or on both.  The file
lives in a directory that may be missing; it is opened whenever a sink is switched while
it is on, and records go astray once it has been removed.
-/

namespace HomeControl

inductive LogOrigin where
  | ownModule
  /-- The client that talks to the message broker. -/
  | transport
  deriving DecidableEq, Repr

structure Log where
  level : LogLevel := .debug
  console : Bool := true
  logfile : Bool := false
  /-- The directory of the log file exists. -/
  directory : Bool := true
  /-- The file that records are written to is the one in the directory. -/
  attached : Bool := false
  deriving DecidableEq, Repr

namespace Log

/-- The lowest level that is shown: the transport has one of its own. -/
def threshold (log : Log) : LogOrigin → LogLevel
  | .ownModule => log.level
  | .transport => .info

def shows (log : Log) (origin : LogOrigin) (level : LogLevel) : Bool :=
  (log.threshold origin).rank ≤ level.rank

def reachesConsole (log : Log) (origin : LogOrigin) (level : LogLevel) : Bool :=
  log.console && log.shows origin level

def reachesFile (log : Log) (origin : LogOrigin) (level : LogLevel) : Bool :=
  log.logfile && log.attached && log.shows origin level

/-- Open the sinks that are to be on, unless there is no place for the log file. -/
def openSinks? (log : Log) (console logfile : Bool) : Option Log :=
  if logfile && !log.directory then none
  else some { log with console, logfile, attached := logfile }

def request? (log : Log) : LogRequest → Option Log
  | .level level => some { log with level }
  | .sink .console enabled => log.openSinks? enabled log.logfile
  | .sink .logfile enabled => log.openSinks? log.console enabled
  | .sink .syslog _ => none

def setDirectory (log : Log) (present : Bool) : Log :=
  { log with directory := present, attached := log.attached && present }

end Log

end HomeControl
