import HomeControl.CommandLine.Broker
import HomeControl.Message.Request

/-!
# The command line of a sender

The settings of the program that sends one request to one controller: the queue of the
controller, the request, the broker, and how long to wait for it.
-/

namespace HomeControl.CommandLine

structure SendSettings where
  queue : String
  request : Request
  broker : Broker
  timeoutMilliseconds : UInt64
  deriving DecidableEq, Repr

namespace SendSettings

structure Draft where
  queue : Option String := none
  request : Option Request := none
  broker : BrokerDraft := {}
  timeoutMilliseconds : UInt64 := 5000

namespace Draft

def queueName : String := "QUEUE"

def settings (draft : Draft) : Except Halt SendSettings := do
  match draft.request with
  | none => .error (.refused .missingCommand)
  | some request =>
    return ⟨← require queueName draft.queue, request, ← draft.broker.broker,
      draft.timeoutMilliseconds⟩

end Draft

def command {τ : Type} (word : String) (grammar : Grammar τ) (blank : τ)
    (make : τ → Except Halt Request) : Subcommand Draft where
  word := word
  read rest := do
    let request ← make (← grammar.read blank rest).settings
    return fun draft => { draft with request := some request }

def plainCommand (word : String) (request : Request) : Subcommand Draft :=
  command word {} () fun _ => .ok request

def sinkOf? (word : String) : Option LogSink :=
  [LogSink.console, .logfile, .syslog].find? fun sink => sink.text == word

def sinkName : String := "SINK"

def switchCommand (word : String) (enabled : Bool) : Subcommand Draft :=
  command word { positionals := [.choice sinkName sinkOf? fun sink _ => some sink] }
    (none : Option LogSink) fun sink => do
      return .switchLogging (← require sinkName sink) enabled

/-- The commands for all requests; the level is the usual one where none is given. -/
def commands : List (Subcommand Draft) :=
  [plainCommand "stop" .stop,
   command "set-log-level" { positionals := [.text "LEVEL" fun level _ => level] } "INFO"
     fun level => .ok (.setLogLevel level),
   plainCommand "print-status" .printStatus,
   plainCommand "refresh" .refresh,
   switchCommand "enable-logging" true,
   switchCommand "disable-logging" false]

def grammar : Grammar Draft where
  hasVersion := true
  options :=
    (.valued (.word "timeout-ms" fun pause draft => { draft with timeoutMilliseconds := pause })) ::
      BrokerDraft.options fun set draft => { draft with broker := set draft.broker }
  positionals := [.text Draft.queueName fun queue draft => { draft with queue := some queue }]
  commands := commands

def ofWords (words : List String) : Except Halt SendSettings := do
  let draft ← grammar.read {} words
  if draft.given.isEmpty && draft.settings.request.isNone then .error (.refused .nothingGiven)
  else draft.settings.settings

end SendSettings

end HomeControl.CommandLine
