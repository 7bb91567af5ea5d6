import HomeControl.Controller.Session
import HomeControl.Proofs.Controller.Ticks

/-!
# The order of texts

A session handles the texts that were sent to its inbox in the order in which they were sent, each
of them once.  It ticks only when all of them have been handled and the inbox is open, and it ends
only with a text that stops the controller or with a closed inbox that has nothing left.
-/

namespace HomeControl

/-! ## What is sent -/

namespace Inbox

/-- The texts that senders send at turns, until they close the inbox. -/
def sentAt : List Turn → List String
  | [] => []
  | turn :: rest => turn.arrivals ++ if turn.closes then [] else sentAt rest

def sent (inbox : Inbox) (turns : List Turn) : List String :=
  inbox.waiting ++ if inbox.closed then [] else sentAt turns

def isClosedBy (inbox : Inbox) (turns : List Turn) : Bool := inbox.closed || turns.any Turn.closes

theorem sent_nil (inbox : Inbox) : inbox.sent [] = inbox.waiting := by
  unfold sent sentAt
  rw [ite_self, List.append_nil]

theorem sent_cons (inbox : Inbox) (turn : Turn) (rest : List Turn) :
    inbox.sent (turn :: rest) = (inbox.receive turn).sent rest := by
  unfold sent receive
  cases closed : inbox.closed with
  | true => simp [closed]
  | false => simp [sentAt]

theorem isClosedBy_nil (inbox : Inbox) : inbox.isClosedBy [] = inbox.closed :=
  Bool.or_false _

theorem isClosedBy_cons (inbox : Inbox) (turn : Turn) (rest : List Turn) :
    inbox.isClosedBy (turn :: rest) = (inbox.receive turn).isClosedBy rest := by
  unfold isClosedBy receive
  cases closed : inbox.closed with
  | true => simp [closed]
  | false => simp

end Inbox

namespace Activity

def call? (turn : Turn) : Activity → Option (Surroundings × Controller.Event)
  | handled raw _ => some (turn.surroundings, .handle raw turn.now turn.wall)
  | ticked _ => some (turn.surroundings, .tick turn.now turn.wall)
  | drained => none

def report? : Activity → Option Report
  | handled _ report | ticked report => some report
  | drained => none

def calls : List Turn → List Activity → List (Surroundings × Controller.Event)
  | turn :: turns, activity :: activities => (activity.call? turn).toList ++ calls turns activities
  | _, _ => []

theorem calls_nil (turns : List Turn) : calls turns [] = [] := by
  cases turns <;> rfl

end Activity

namespace Session

variable {β : Type} [Board β] {session : Session β} {turn : Turn}

/-! ## What a turn can do -/

inductive Acts (session : Session β) (turn : Turn) : Session β → Option Activity → Prop
  | rests (ended : session.ended = true) :
      Acts session turn { session with inbox := session.inbox.receive turn } none
  | handles (goesOn : session.ended = false) {raw : String} {rest : List String} {closed : Bool}
      (first : session.inbox.receive turn = ⟨raw :: rest, closed⟩) {next : Controller β}
      {report : Report}
      (handled : session.controller.handle turn.surroundings raw turn.now turn.wall =
        (next, report)) :
      Acts session turn ⟨next, ⟨rest, closed⟩, report.flow == .stop⟩ (some (.handled raw report))
  /-- The inbox is empty and open. -/
  | ticks (goesOn : session.ended = false) (idle : session.inbox.receive turn = ⟨[], false⟩)
      {next : Controller β} {report : Report}
      (step : session.controller.step turn.surroundings (.tick turn.now turn.wall) =
        (next, report)) :
      Acts session turn ⟨next, ⟨[], false⟩, false⟩ (some (.ticked report))
  /-- The inbox is empty and closed. -/
  | drains (goesOn : session.ended = false) (drained : session.inbox.receive turn = ⟨[], true⟩) :
      Acts session turn ⟨session.controller, ⟨[], true⟩, true⟩ (some .drained)

/-- Every turn is one of these. -/
theorem acts_of_turn {next : Session β} {activity : Option Activity}
    (turned : session.turn turn = (next, activity)) : session.Acts turn next activity := by
  unfold Session.turn at turned
  cases ended : session.ended with
  | true =>
      rw [if_pos ended] at turned
      cases turned
      exact .rests ended
  | false =>
      rw [if_neg (Bool.not_eq_true _ ▸ ended)] at turned
      cases received : session.inbox.receive turn with
      | mk waiting closed =>
          simp only [received, act] at turned
          cases waiting with
          | cons raw rest =>
              cases handled : session.controller.handle turn.surroundings raw turn.now turn.wall
              simp only [handled] at turned
              cases turned
              exact .handles ended received handled
          | nil =>
              cases closed with
              | false =>
                  cases step : session.controller.step turn.surroundings (.tick turn.now turn.wall)
                  simp only [step, Bool.false_eq_true, if_false] at turned
                  cases turned
                  exact .ticks ended received step
              | true =>
                  cases turned
                  exact .drains ended received

namespace Acts

variable {next : Session β} {activity : Option Activity}

/-- A session acts exactly if it has not ended, and only a last activity ends it. -/
theorem ended_eq (acts : session.Acts turn next activity) :
    session.ended = activity.isNone ∧
      next.ended = (session.ended || activity.any Activity.isLast) := by
  cases acts with
  | rests ended => exact ⟨ended, (Bool.or_false _).symm⟩
  | handles goesOn => exact ⟨goesOn, by rw [goesOn]; rfl⟩
  | ticks goesOn => exact ⟨goesOn, by rw [goesOn]; rfl⟩
  | drains goesOn => exact ⟨goesOn, by rw [goesOn]; rfl⟩

/-- A turn takes the text that is handled from the front of those that are sent. -/
theorem sent_eq (acts : session.Acts turn next activity) (rest : List Turn) :
    session.inbox.sent (turn :: rest) =
      activity.toList.filterMap Activity.text? ++ next.inbox.sent rest := by
  rw [Inbox.sent_cons]
  cases acts with
  | rests => rfl
  | handles _ first =>
      rw [first]
      rfl
  | ticks _ idle =>
      rw [idle]
      rfl
  | drains _ drained =>
      rw [drained]
      rfl

theorem isClosedBy_eq (acts : session.Acts turn next activity) (rest : List Turn) :
    session.inbox.isClosedBy (turn :: rest) = next.inbox.isClosedBy rest := by
  rw [Inbox.isClosedBy_cons]
  cases acts with
  | rests => rfl
  | handles _ first =>
      rw [first]
      rfl
  | ticks _ idle => rw [idle]
  | drains _ drained => rw [drained]

end Acts

/-! ## Runs -/

theorem run_cons {next : Session β} {activity : Option Activity}
    (turned : session.turn turn = (next, activity)) (rest : List Turn) :
    session.run (turn :: rest) = ((next.run rest).1, activity.toList ++ (next.run rest).2) := by
  rw [run, turned]

theorem run_append (session : Session β) (before after : List Turn) :
    session.run (before ++ after) = (((session.run before).1.run after).1,
      (session.run before).2 ++ ((session.run before).1.run after).2) := by
  induction before generalizing session with
  | nil => rfl
  | cons turn rest ih =>
      cases turned : session.turn turn with
      | mk next activity =>
          rw [List.cons_append, run_cons turned, run_cons turned, ih, List.append_assoc]

/-- What was sent is what was handled, followed by what waits. -/
theorem sent_run (session : Session β) (turns : List Turn) :
    session.inbox.sent turns =
      (session.run turns).2.filterMap Activity.text? ++ (session.run turns).1.inbox.waiting := by
  induction turns generalizing session with
  | nil => exact Inbox.sent_nil session.inbox
  | cons turn rest ih =>
      cases turned : session.turn turn with
      | mk next activity =>
          rw [(acts_of_turn turned).sent_eq, ih, run_cons turned, List.filterMap_append,
            List.append_assoc]

theorem closed_run (session : Session β) (turns : List Turn) :
    (session.run turns).1.inbox.closed = session.inbox.isClosedBy turns := by
  induction turns generalizing session with
  | nil => exact (Inbox.isClosedBy_nil session.inbox).symm
  | cons turn rest ih =>
      cases turned : session.turn turn with
      | mk next activity => rw [(acts_of_turn turned).isClosedBy_eq, run_cons turned, ih]

/-- A session has ended exactly if it has done something that is the last. -/
theorem ended_run (session : Session β) (turns : List Turn) :
    (session.run turns).1.ended =
      (session.ended || (session.run turns).2.any Activity.isLast) := by
  induction turns generalizing session with
  | nil => exact (Bool.or_false _).symm
  | cons turn rest ih =>
      cases turned : session.turn turn with
      | mk next activity =>
          rw [run_cons turned, ih, (acts_of_turn turned).ended_eq.2, List.any_append,
            Bool.or_assoc]
          cases activity <;> simp

theorem run_of_ended (ended : session.ended = true) (turns : List Turn) :
    (session.run turns).1.controller = session.controller ∧ (session.run turns).2 = [] := by
  induction turns generalizing session with
  | nil => exact ⟨rfl, rfl⟩
  | cons turn rest ih =>
      cases turned : session.turn turn with
      | mk next activity =>
          rw [run_cons turned]
          have acts := acts_of_turn turned
          have silent : activity.isNone = true := acts.ended_eq.1.symm.trans ended
          cases acts with
          | rests => exact ih ended
          | handles => cases silent
          | ticks => cases silent
          | drains => cases silent

/-- A session that goes on has done something at every turn. -/
theorem length_run {turns : List Turn} (goesOn : (session.run turns).1.ended = false) :
    (session.run turns).2.length = turns.length := by
  induction turns generalizing session with
  | nil => rfl
  | cons turn rest ih =>
      cases turned : session.turn turn with
      | mk next activity =>
          have acts := acts_of_turn turned
          rw [run_cons turned] at goesOn ⊢
          cases activity with
          | some activity => exact congrArg Nat.succ (ih goesOn)
          | none =>
              rw [ended_run, acts.ended_eq.2, acts.ended_eq.1] at goesOn
              cases goesOn

/-- The controller of a session goes through the events that the activities are for it. -/
theorem run_calls (session : Session β) (turns : List Turn) :
    session.controller.run (Activity.calls turns (session.run turns).2) =
      ((session.run turns).1.controller,
        (session.run turns).2.filterMap Activity.report?) := by
  induction turns generalizing session with
  | nil => rfl
  | cons turn rest ih =>
      cases turned : session.turn turn with
      | mk next activity =>
          have later := ih next
          cases acts_of_turn turned with
          | rests ended =>
              obtain ⟨same, silent⟩ := run_of_ended ended (turn :: rest)
              rw [silent, same, Activity.calls_nil]
              rfl
          | handles _ _ handled =>
              rw [run_cons turned, Option.toList_some, List.singleton_append, Activity.calls,
                Activity.call?, Option.toList_some, List.singleton_append, Controller.run_cons,
                Controller.step, handled, later]
              rfl
          | ticks _ _ step =>
              rw [run_cons turned, Option.toList_some, List.singleton_append, Activity.calls,
                Activity.call?, Option.toList_some, List.singleton_append, Controller.run_cons,
                step, later]
              rfl
          | drains =>
              rw [run_cons turned, Option.toList_some, List.singleton_append, Activity.calls,
                Activity.call?, Option.toList_none, List.nil_append, later]
              rfl

/-- The turn of an activity: what was done before it was done at the turns before. -/
theorem exists_turn {turns : List Turn} {lead later : List Activity} {activity : Activity}
    (done : (session.run turns).2 = lead ++ activity :: later) :
    ∃ before turn after, turns = before ++ turn :: after ∧ before.length = lead.length ∧
      (session.run before).2 = lead ∧ ∃ next,
        (session.run before).1.turn turn = (next, some activity) ∧ (next.run after).2 = later := by
  induction turns generalizing session lead with
  | nil => simp [run] at done
  | cons turn rest ih =>
      cases turned : session.turn turn with
      | mk next first =>
          rw [run_cons turned] at done
          cases first with
          | none =>
              cases acts_of_turn turned with
              | rests ended =>
                  rw [← run_cons turned, (run_of_ended ended (turn :: rest)).2] at done
                  cases lead <;> cases done
          | some first =>
              rw [Option.toList_some, List.singleton_append] at done
              cases lead with
              | nil =>
                  obtain ⟨rfl, same⟩ := List.cons.inj done
                  exact ⟨[], turn, rest, rfl, rfl, rfl, next, turned, same⟩
              | cons head lead =>
                  obtain ⟨rfl, same⟩ := List.cons.inj done
                  obtain ⟨before, here, after, split, size, earlier, next, result, rest⟩ := ih same
                  refine ⟨turn :: before, here, after, ?_, ?_, ?_, next, ?_, rest⟩
                  · rw [split, List.cons_append]
                  · rw [List.length_cons, List.length_cons, size]
                  · rw [run_cons turned, earlier]
                    rfl
                  · rw [run_cons turned]
                    exact result

/-! ## Ticks and ends -/

theorem run_concat {turns : List Turn} {next : Session β} {activity : Option Activity}
    (turned : (session.run turns).1.turn turn = (next, activity)) :
    session.run (turns ++ [turn]) = (next, (session.run turns).2 ++ activity.toList) := by
  rw [run_append, run_cons turned, run, List.append_nil]

/-- At a tick everything that was sent has been handled, and the inbox is open. -/
theorem sent_of_ticked {turns : List Turn} {lead later : List Activity} {report : Report}
    (done : (session.run turns).2 = lead ++ .ticked report :: later) :
    ∃ before turn after, turns = before ++ turn :: after ∧ before.length = lead.length ∧
      session.inbox.sent (before ++ [turn]) = lead.filterMap Activity.text? ∧
      session.inbox.isClosedBy (before ++ [turn]) = false := by
  obtain ⟨before, turn, after, split, size, rfl, next, turned, _⟩ := exists_turn done
  have sent := sent_run session (before ++ [turn])
  have closed := closed_run session (before ++ [turn])
  rw [run_concat turned] at sent closed
  refine ⟨before, turn, after, split, size, ?_, ?_⟩
  · cases acts_of_turn turned with
    | ticks =>
        rw [List.filterMap_append, List.append_assoc] at sent
        exact sent.trans (List.append_nil _)
  · cases acts_of_turn turned with
    | ticks => exact closed.symm

/-- A session that has ended did one thing that is the last, after all others. -/
theorem exists_last {turns : List Turn} (goesOn : session.ended = false)
    (ended : (session.run turns).1.ended = true) :
    ∃ lead last, (session.run turns).2 = lead ++ [last] ∧ last.isLast = true ∧
      ∀ earlier ∈ lead, earlier.isLast = false := by
  rw [ended_run, goesOn, Bool.false_or] at ended
  obtain ⟨last, member, isLast⟩ := List.any_eq_true.mp ended
  obtain ⟨lead, later, done⟩ := List.append_of_mem member
  obtain ⟨before, turn, after, _, _, rfl, next, turned, rfl⟩ := exists_turn done
  obtain ⟨goesOn', stopped⟩ := (acts_of_turn turned).ended_eq
  have silent : (next.run after).2 = [] := by
    refine (run_of_ended ?_ after).2
    rw [stopped, Option.any_some, isLast, Bool.or_true]
  refine ⟨(session.run before).2, last, ?_, isLast, ?_⟩
  · rw [done, silent]
  · rw [ended_run, goesOn, Bool.false_or] at goesOn'
    exact fun earlier member => Bool.eq_false_iff.mpr (List.any_eq_false.mp goesOn' earlier member)

/-- A session that found its inbox drained has nothing left in it, and the inbox is closed. -/
theorem waiting_of_drained {turns : List Turn} {lead : List Activity}
    (done : (session.run turns).2 = lead ++ [.drained]) :
    session.inbox.isClosedBy turns = true ∧ (session.run turns).1.inbox.waiting = [] := by
  obtain ⟨before, turn, after, rfl, _, _, next, turned, _⟩ := exists_turn done
  have final : (session.run (before ++ turn :: after)).1 = (next.run after).1 := by
    rw [run_append, run_cons turned]
  have sent := sent_run next after
  have closed := closed_run next after
  rw [← closed_run, final]
  cases acts_of_turn turned with
  | drains =>
      refine ⟨closed, ?_⟩
      exact (List.append_eq_nil_iff.mp sent.symm).2

/--
A session never loses, repeats or reorders a text.  Its controller goes through just the events that
the activities of the session are for it.  The texts that were handled are, one by one and in
order, the first of those that were sent, and the others wait.  At a tick all that was sent by then
had been handled and the inbox was open.  The session ends with a text that stops the controller,
and then exactly the texts after this one wait; or when the inbox is closed and all that was
sent has been handled.  Until then it does something at every turn.
-/
theorem texts_handled_in_order (controller : Controller β) (inbox : Inbox) (turns : List Turn) :
    let session : Session β := { controller, inbox }
    let final := (session.run turns).1
    let activities := (session.run turns).2
    controller.run (Activity.calls turns activities) =
        (final.controller, activities.filterMap Activity.report?) ∧
      inbox.sent turns = activities.filterMap Activity.text? ++ final.inbox.waiting ∧
      (∀ lead report later, activities = lead ++ .ticked report :: later →
        ∃ before turn after, turns = before ++ turn :: after ∧ before.length = lead.length ∧
          inbox.sent (before ++ [turn]) = lead.filterMap Activity.text? ∧
          inbox.isClosedBy (before ++ [turn]) = false) ∧
      (final.ended = true → ∃ lead last, activities = lead ++ [last] ∧
        (∀ earlier ∈ lead, earlier.isLast = false) ∧
        ((∃ raw report, last = .handled raw report ∧ report.flow = .stop ∧
            inbox.sent turns = lead.filterMap Activity.text? ++ raw :: final.inbox.waiting) ∨
          (last = .drained ∧ inbox.isClosedBy turns = true ∧ final.inbox.waiting = [] ∧
            inbox.sent turns = lead.filterMap Activity.text?))) ∧
      (final.ended = false → activities.length = turns.length ∧
        ∀ activity ∈ activities, activity.isLast = false) := by
  intro session final activities
  have sent : inbox.sent turns =
      activities.filterMap Activity.text? ++ final.inbox.waiting := sent_run session turns
  refine ⟨run_calls session turns, sent, ?_, ?_, ?_⟩
  · intro lead report later done
    exact sent_of_ticked done
  · intro ended
    obtain ⟨lead, last, done, isLast, earlier⟩ := exists_last rfl ended
    refine ⟨lead, last, done, earlier, ?_⟩
    rw [show activities = lead ++ [last] from done, List.filterMap_append,
      List.append_assoc] at sent
    cases last with
    | handled raw report =>
        exact .inl ⟨raw, report, rfl, beq_iff_eq.mp isLast, sent⟩
    | ticked report => cases isLast
    | drained =>
        obtain ⟨closed, empty⟩ := waiting_of_drained done
        refine .inr ⟨rfl, closed, empty, ?_⟩
        rw [show final.inbox.waiting = [] from empty] at sent
        exact sent.trans (List.append_nil _)
  · intro goesOn
    refine ⟨length_run goesOn, fun activity member => Bool.eq_false_iff.mpr ?_⟩
    exact List.any_eq_false.mp ((ended_run session turns).symm.trans goesOn) activity member

/-! ## A short day -/

open Controller

def arriving (texts : List String) (wall : DateTime) : Turn where
  arrivals := texts
  surroundings := providing garage
  now := 0
  wall := wall

/-- The garage opens, has nothing to do, and is told to stop before it opens again. -/
theorem garage_stops_with_texts_left :
    let wall := newYear 43200 (by decide)
    let bank := (Bank.build relays garage).1
    let controller := driver .outputRelay "GARAGE" (MemoryBoard.blank 1) bank
    let session : Session MemoryBoard := { controller, inbox := {} }
    let turns := [["I;OPEN"], [], ["P;STOP", "I;OPEN"], ["I;OPEN"]].map (arriving · wall)
    let final := (session.run turns).1
    let activities := (session.run turns).2
    final.ended = true ∧ activities.map Activity.text? = [some "I;OPEN", none, some "P;STOP"] ∧
      final.inbox.waiting = ["I;OPEN", "I;OPEN"] ∧
      ∃ lead raw report, activities = lead ++ [.handled raw report] ∧ report.flow = .stop ∧
        Inbox.sent {} turns = lead.filterMap Activity.text? ++ raw :: final.inbox.waiting := by
  intro wall bank controller session turns final activities
  have ended : final.ended = true := by decide +kernel
  have texts : activities.map Activity.text? = [some "I;OPEN", none, some "P;STOP"] := by
    decide +kernel
  have left : final.inbox.waiting = ["I;OPEN", "I;OPEN"] := by decide +kernel
  refine ⟨ended, texts, left, ?_⟩
  obtain ⟨_, _, _, ends, _⟩ := texts_handled_in_order controller {} turns
  obtain ⟨lead, last, done, _, ⟨raw, report, rfl, stops, sent⟩ | ⟨_, closed, _⟩⟩ := ends ended
  · exact ⟨lead, raw, report, done, stops, sent⟩
  · cases closed

end Session

end HomeControl
