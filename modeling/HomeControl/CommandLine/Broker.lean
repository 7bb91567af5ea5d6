import HomeControl.CommandLine.Parameter

/-!
# The message broker

How the broker is reached that carries the messages between controllers, and the arguments
that say so.
-/

namespace HomeControl

structure BrokerAccess where
  port : UInt16 := 1883
  username : String := ""
  password : String := ""
  /-- What the topics of all queues begin with. -/
  topicBase : String := "domotica"
  deriving DecidableEq, Repr

structure Broker where
  host : String
  access : BrokerAccess
  deriving DecidableEq, Repr

namespace Broker

def unreachable (broker : Broker) : String :=
  "Unable to contact MQTT at " ++ broker.host ++ ":" ++ toString broker.access.port.toNat

end Broker

namespace CommandLine

/-- What is known of a broker while a command line is read. -/
structure BrokerDraft where
  host : Option String := none
  access : BrokerAccess := {}

namespace BrokerDraft

def hostName : String := "mqtt-host"

def broker (draft : BrokerDraft) : Except Halt Broker := do
  return ⟨← require hostName draft.host, draft.access⟩

def options {σ : Type} (modify : (BrokerDraft → BrokerDraft) → σ → σ) : List (NamedOption σ) :=
  let access := fun change : BrokerAccess → BrokerAccess =>
    modify fun draft => { draft with access := change draft.access }
  [.valued (.text hostName fun host => modify fun draft => { draft with host := some host }),
   .valued (.number "mqtt-port" 65535 fun port =>
     access fun known => { known with port := UInt16.ofNat port }),
   .valued (.text "mqtt-username" fun username => access fun known => { known with username }),
   .valued (.text "mqtt-password" fun password => access fun known => { known with password }),
   .valued (.text "topic-base" fun topicBase => access fun known => { known with topicBase })]

end BrokerDraft

end CommandLine

end HomeControl
