import HomeControl.Attributes
import HomeControl.Declaration
import HomeControl.Scenario.Moment

/-!
# Scenarios

A scenario plays the people of a house: at one moment it sends one event, at another one
a second.  Each such episode is a declaration of its own, written
`name;moment;event;moment;event;queue reference`, and those of one name make one scenario.
-/

namespace HomeControl

/-- Two events of a scenario, each with its moment, and the queues that they go to. -/
structure Episode where
  activation : Moment
  activationEvent : String
  deactivation : Moment
  deactivationEvent : String
  queues : List String
  deriving DecidableEq

structure Scenario where
  name : String
  episodes : List Episode
  deriving DecidableEq

abbrev Scenarios := OrderedMap Scenario

namespace Episode

def read (attributes : Attributes) : DeclarationReader (String × Episode) ScenarioError :=
  fun key value =>
    if (notUsed.toList.isPrefixOf value.toList) then .ok none
    else
      match Text.fields ';' value with
      | [name, activation, activationEvent, deactivation, deactivationEvent, reference] =>
        match Moment.ofText key activation with
        | .error cause => .error cause
        | .ok activation =>
          match Moment.ofText key deactivation with
          | .error cause => .error cause
          | .ok deactivation =>
            .ok (some (Text.trim name,
              { activation, activationEvent, deactivation, deactivationEvent
                queues := (attributes.queues? reference).getD [] }))
      | fields => .error (.fieldCount key fields.length)

end Episode

namespace Scenarios

/-- Add an episode as the last one of its scenario, which begins with it if it is new. -/
def add (scenarios : Scenarios) (named : String × Episode) : Scenarios :=
  scenarios.upsert named.1 fun earlier =>
    match earlier with
    | some scenario => { scenario with episodes := scenario.episodes ++ [named.2] }
    | none => ⟨named.1, [named.2]⟩

def ofEpisodes (episodes : List (String × Episode)) : Scenarios :=
  episodes.foldl add OrderedMap.empty

def compile (attributes : Attributes) : Scenarios × List ScenarioError :=
  let declared := (Episode.read attributes).compile (attributes.numbered "Simulation")
  (ofEpisodes declared.accepted, declared.diagnostics)

end Scenarios

end HomeControl
