import HomeControl.Proofs.Controller.Offers
import HomeControl.Proofs.Message.ReadBack

/-!
# Messages read by others

What a controller tells at a tick is a message of its own: the trigger of a gesture, or the event
of a job.  Every payload that it sends is read as just this message, so none of them is refused
by a reader or taken for a command.
-/

namespace HomeControl

def Delivery.read (delivery : Delivery) : String × Except MessageError Message :=
  (delivery.queue, Message.ofText delivery.payload)

namespace Controller

variable {β : Type} [Board β]

/-- What a controller has to tell at an event, with the queue that is told. -/
def tells (controller : Controller β) : Event → List (String × Message)
  | .tick now wall =>
    match controller.engine with
    | .inputs buttons =>
      buttons.flatMap fun button => (shown controller.board now button).flatMap fun gesture =>
        button.consumers.map fun queue =>
          (queue, .input (triggerOf controller.name button.point gesture))
    | .outputs _ => []
    | .simulator _ scheduler =>
      (scheduler.fireDue wall).2.flatMap fun job =>
        job.queues.map fun queue => (queue, .simulation job.event)
  | _ => []

def asMeant (told : String × Message) : String × Except MessageError Message := (told.1, .ok told.2)

theorem map_read_toAll {payload : String} {message : Message}
    (read : Message.ofText payload = .ok message) (queues : List String) :
    (toAll queues payload).map Delivery.read =
      (queues.map fun queue => (queue, message)).map asMeant := by
  unfold toAll
  rw [List.map_map, List.map_map]
  refine List.map_congr_left fun queue _ => ?_
  simp only [Function.comp_apply, Delivery.read, read, asMeant]

/-- What a controller offers is read as what it has to tell. -/
theorem map_read_offers (controller : Controller β) (event : Event) :
    (controller.offers event).map Delivery.read = (controller.tells event).map asMeant := by
  obtain ⟨role, name, board, engine⟩ := controller
  cases event with
  | handle => rfl
  | refresh => rfl
  | sense => rfl
  | tick now wall =>
      cases engine with
      | outputs => rfl
      | inputs buttons =>
          simp only [offers_inputs, tells, List.map_flatMap,
            map_read_toAll (Message.ofText_inputText_triggerOf _ _ _)]
      | simulator scenarios scheduler =>
          simp only [offers_simulator, tells, List.map_flatMap,
            map_read_toAll (Message.ofText_simulationText _)]

theorem map_read_deliver (surroundings : Surroundings) (offered : List Delivery) :
    (deliver surroundings offered).map Delivery.read =
      (offered.map Delivery.read).filter fun read => !surroundings.refuses read.1 := by
  unfold deliver
  rw [List.filter_map]
  rfl

theorem filter_map_asMeant (surroundings : Surroundings) (told : List (String × Message)) :
    ((told.map asMeant).filter fun read => !surroundings.refuses read.1) =
      (told.filter fun told => !surroundings.refuses told.1).map asMeant := by
  rw [List.filter_map]
  rfl

theorem not_command_of_tells {controller : Controller β} {event : Event}
    {told : String × Message} (member : told ∈ controller.tells event) (command : Command) :
    told.2 ≠ .command command := by
  cases event with
  | handle => cases member
  | refresh => cases member
  | sense => cases member
  | tick now wall =>
      unfold tells at member
      simp only at member
      split at member
      next =>
        obtain ⟨_, _, member⟩ := List.mem_flatMap.mp member
        obtain ⟨_, _, member⟩ := List.mem_flatMap.mp member
        obtain ⟨_, _, rfl⟩ := List.mem_map.mp member
        exact nofun
      next => cases member
      next =>
        obtain ⟨_, _, member⟩ := List.mem_flatMap.mp member
        obtain ⟨_, _, rfl⟩ := List.mem_map.mp member
        exact nofun

/--
Whatever a controller has been through, the payloads that it sends at the next event are read,
one by one and in order, as what it has to tell the queues that take them.  Every text is a
message about an event, none of them is refused, and none is a command.
-/
theorem payloads_read_as_meant (controller : Controller β) (events : List (Surroundings × Event))
    (surroundings : Surroundings) (event : Event) :
    let state := (controller.run events).1
    let sent := (state.step surroundings event).2.sent
    state.name = controller.name ∧
      sent.map Delivery.read =
        ((state.tells event).filter fun told => !surroundings.refuses told.1).map asMeant ∧
      (∀ delivery ∈ sent, ∃ message, Message.ofText delivery.payload = .ok message ∧
        ∀ command, message ≠ .command command) ∧
      ∀ text, Message.ofText (Message.simulationText text) = .ok (.simulation text) := by
  intro state sent
  have read : sent.map Delivery.read =
      ((state.tells event).filter fun told => !surroundings.refuses told.1).map asMeant := by
    simp only [sent]
    rw [sent_step, map_read_deliver, map_read_offers, filter_map_asMeant]
  refine ⟨name_run controller events, read, ?_, Message.ofText_simulationText⟩
  intro delivery member
  have found : delivery.read ∈ sent.map Delivery.read := List.mem_map_of_mem member
  rw [read] at found
  obtain ⟨told, kept, same⟩ := List.mem_map.mp found
  simp only [asMeant, Delivery.read, Prod.mk.injEq] at same
  exact ⟨told.2, same.2.symm, not_command_of_tells (List.mem_filter.mp kept).1⟩

end Controller

end HomeControl
