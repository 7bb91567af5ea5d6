import HomeControl.Gesture
import HomeControl.Proofs.Message.WireForms

/-!
# Messages between controllers

What one controller tells another is read as what was meant.  The text about a trigger begins
with its tag and ends with a gesture, and the text about an event is a JSON object, so no
white space is lost at either end; and neither of them is ever read as a command.  An event
activates a scenario exactly if its name stands behind the one bar of the event.
-/

namespace HomeControl

namespace Gesture

/-- The word for a gesture ends in a letter. -/
theorem exists_last_text (gesture : Gesture) :
    ∃ last, gesture.text.toList.getLast? = some last ∧ Text.isBlank last = false := by
  cases gesture with
  | up => exact ⟨'P', rfl, rfl⟩
  | down => exact ⟨'N', rfl, rfl⟩
  | pressed => exact ⟨'D', rfl, rfl⟩
  | pressedLong => exact ⟨'G', rfl, rfl⟩
  | pressedDouble => exact ⟨'E', rfl, rfl⟩

end Gesture

namespace Message

/-- A text about a trigger is read as this trigger, if no white space is lost at its end. -/
theorem ofText_inputText {trigger : String} (filled : trigger ≠ "")
    (closed : Text.EndsInInk trigger) : ofText (inputText trigger) = .ok (.input trigger) := by
  have written : (inputText trigger).toList = 'I' :: ';' :: trigger.toList := by
    unfold inputText
    rw [String.toList_append]
    rfl
  obtain ⟨line, cut⟩ := ofText_tagged written rfl (by decide) (by decide) closed
  rw [line]
  unfold ofLine
  rw [cut]
  exact if_neg filled

theorem ofText_inputText_triggerOf (controller : String) (point : Point) (gesture : Gesture) :
    ofText (inputText (triggerOf controller point gesture)) =
      .ok (.input (triggerOf controller point gesture)) := by
  obtain ⟨last, word, ink⟩ := gesture.exists_last_text
  have ends : (triggerOf controller point gesture).toList.getLast? = some last := by
    unfold triggerOf
    rw [String.toList_append, List.getLast?_append, word]
    rfl
  apply ofText_inputText
  · intro empty
    rw [empty] at ends
    cases ends
  · intro other found
    cases ends.symm.trans found
    exact ink

/-- A text about an event is read as this event, whatever its characters are. -/
theorem ofText_simulationText (event : String) :
    ofText (simulationText event) = .ok (.simulation event) :=
  ofText_of_isObject (isObject_writePair "Simulation" event)

end Message

/-! ## Commands about scenarios -/

namespace ScenarioCommand

/-- An event activates the scenario that it names behind the bar, whose name has no other bar. -/
theorem ofText_eq_activate_iff {event tag : String} :
    ofText event = .ok (.activate tag) ↔ event = "ACTIVATE|" ++ tag ∧ '|' ∉ tag.toList := by
  have fields : ofText event = .ok (.activate tag) ↔
      Text.fields '|' event = ["ACTIVATE", tag] := by
    unfold ofText
    constructor
    · intro read
      split at read
      next split =>
        cases read
        exact split
      all_goals cases read
    · intro split
      simp only [split]
  have written : event.toList = "ACTIVATE".toList ++ '|' :: tag.toList ↔
      event = "ACTIVATE|" ++ tag := by
    rw [← String.toList_inj, String.toList_append]
    rfl
  rw [fields, Text.fields_eq_pair_iff, written]
  exact and_congr_right fun _ => and_iff_right (by decide)

end ScenarioCommand

end HomeControl
