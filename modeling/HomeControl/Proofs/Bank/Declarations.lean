import HomeControl.Controller.Role
import HomeControl.Proofs.Declaration
import HomeControl.Proofs.Message.ReadBack

/-!
# Declarations of actuators and timers

What the attributes of a controller declare, by the form of their names and texts alone: which of
them declare an actuator or a timer, and what they say of it.  A declaration that is malformed or
marked as not used declares nothing.
-/

namespace HomeControl

namespace Attributes

/-- A numbered name of a timer is no numbered name of an actuator. -/
theorem Numbers.not_stem {role : Role} {plan : OutputPlan} (drives : role.outputPlan? = some plan)
    {name : String} (timer : Numbers "RelayTimer" name) : ¬ Numbers plan.stem name := by
  obtain ⟨digits, _, written⟩ := timer
  rintro ⟨others, numeral, same⟩
  rw [written] at same
  -- Behind the stem of a relay there would be letters.
  have noRelay : plan.stem ≠ "Relay" := by
    intro relay
    rw [relay] at same
    have behind : "Relay".toList ++ ("Timer".toList ++ digits) = "Relay".toList ++ others := same
    rw [← List.append_cancel_left behind] at numeral
    simp [Text.allDigits, Text.isDigit] at numeral
  cases role with
  | inputButton => cases drives
  | lightSimulator => cases drives
  | outputRelay =>
      cases drives
      exact noRelay rfl
  | outputVentilator =>
      cases drives
      exact noRelay rfl
  | outputLights =>
      cases drives
      cases same
  | outputDimmer =>
      cases drives
      cases same

end Attributes

namespace Reaction

/-- A trigger and an action that can be written with a bar between them. -/
def Writable (reaction : Reaction) : Prop :=
  (reaction.trigger ≠ "" ∧ reaction.action ≠ "") ∧
    '|' ∉ reaction.trigger.toList ∧ '|' ∉ reaction.action.toList

theorem ofText?_eq_some_iff {text : String} {reaction : Reaction} :
    ofText? text = some reaction ↔ text = reaction.text ∧ reaction.Writable := by
  have written : text = reaction.text ↔
      text.toList = reaction.trigger.toList ++ '|' :: reaction.action.toList := by
    rw [← String.toList_inj, Reaction.text, String.toList_append, String.toList_append,
      List.append_assoc]
    rfl
  have parts : Text.fields '|' text = [reaction.trigger, reaction.action] ↔
      text = reaction.text ∧ '|' ∉ reaction.trigger.toList ∧ '|' ∉ reaction.action.toList := by
    rw [Text.fields_eq_pair_iff, written]
  unfold ofText?
  constructor
  · intro read
    split at read
    next trigger action split =>
      split at read
      next => cases read
      next filled =>
        cases read
        obtain ⟨same, bars⟩ := parts.mp split
        exact ⟨same, not_or.mp filled, bars⟩
    next => cases read
  · rintro ⟨same, filled, bars⟩
    simp only [parts.mpr ⟨same, bars⟩]
    exact if_neg (not_or.mpr filled)

end Reaction

namespace Rule

theorem readLogic_eq_ok_iff {key : String} {items : List String} {logic : List Reaction} :
    readLogic key items = .ok logic ↔
      items = logic.map Reaction.text ∧ ∀ reaction ∈ logic, reaction.Writable := by
  induction items generalizing logic with
  | nil =>
      constructor
      · intro read
        cases read
        exact ⟨rfl, fun _ member => absurd member List.not_mem_nil⟩
      · rintro ⟨same, _⟩
        rw [List.map_eq_nil_iff.mp same.symm]
        rfl
  | cons item rest ih =>
      constructor
      · intro read
        unfold readLogic at read
        split at read
        next => cases read
        next reaction found =>
          obtain ⟨written, writable⟩ := Reaction.ofText?_eq_some_iff.mp found
          cases others : readLogic key rest with
          | error cause =>
              rw [others] at read
              cases read
          | ok later =>
              rw [others] at read
              cases read
              obtain ⟨writtens, writables⟩ := ih.mp others
              rw [List.map_cons, ← written, ← writtens]
              exact ⟨rfl, List.forall_mem_cons.mpr ⟨writable, writables⟩⟩
      · rintro ⟨same, writable⟩
        cases logic with
        | nil => cases same
        | cons reaction later =>
            rw [List.map_cons, List.cons.injEq] at same
            obtain ⟨own, others⟩ := List.forall_mem_cons.mp writable
            have first := Reaction.ofText?_eq_some_iff.mpr ⟨same.1, own⟩
            unfold readLogic
            rw [first, ih.mpr ⟨same.2, others⟩]
            rfl

/-- The text declares the rule: its id, its description and its reactions, not marked as unused. -/
def Declares (value : String) (rule : Rule) : Prop :=
  rule.description ≠ notUsed ∧ (∀ reaction ∈ rule.logic, reaction.Writable) ∧
    ∃ id logic, Text.fields ';' value = [id, rule.description, logic] ∧ rule.id = Text.trim id ∧
      items logic = rule.logic.map Reaction.text

theorem read_eq_some_iff {key value : String} {rule : Rule} :
    read key value = .ok (some rule) ↔ Declares value rule := by
  unfold read Declares
  constructor
  · intro declared
    split at declared
    next id description logic fields =>
      split at declared
      next => cases declared
      next used =>
        cases found : readLogic key (items logic) with
        | error cause =>
            rw [found] at declared
            cases declared
        | ok reactions =>
            rw [found] at declared
            cases declared
            obtain ⟨written, writable⟩ := readLogic_eq_ok_iff.mp found
            exact ⟨used, writable, id, logic, fields, rfl, written⟩
    next => cases declared
  · rintro ⟨used, writable, id, logic, fields, own, written⟩
    have found : readLogic key (items logic) = .ok rule.logic :=
      readLogic_eq_ok_iff.mpr ⟨written, writable⟩
    simp only [fields, if_neg used, found, ← own]
    rfl

end Rule

namespace RunLimits

theorem readSeconds_eq_ok_iff {key value : String} {field : TimerField} {count : Nat} :
    readSeconds key field value = .ok count ↔
      Text.readNat? (UInt64.size - 1) (Text.trim value) = some count := by
  unfold readSeconds
  cases Text.readNat? (UInt64.size - 1) (Text.trim value) <;> simp

/-- The text declares the limits of a timed run, in seconds, behind the id of the actuator. -/
def Declares (value : String) (timer : String × RunLimits) : Prop :=
  ∃ id description lag maxRun lagSeconds maxSeconds,
    Text.fields ';' value = [id, description, lag, maxRun] ∧ description ≠ notUsed ∧
      Text.readNat? (UInt64.size - 1) (Text.trim lag) = some lagSeconds ∧
      Text.readNat? (UInt64.size - 1) (Text.trim maxRun) = some maxSeconds ∧
      timer = (Text.trim id, ofSeconds lagSeconds maxSeconds)

theorem read_eq_some_iff {key value : String} {timer : String × RunLimits} :
    read key value = .ok (some timer) ↔ Declares value timer := by
  unfold read Declares
  constructor
  · intro declared
    split at declared
    next id description lag maxRun fields =>
      split at declared
      next => cases declared
      next used =>
        cases lagRead : readSeconds key .lag lag with
        | error cause =>
            rw [lagRead] at declared
            cases declared
        | ok lagSeconds =>
            cases maxRead : readSeconds key .maxRun maxRun with
            | error cause =>
                simp only [lagRead, maxRead] at declared
                cases declared
            | ok maxSeconds =>
                simp only [lagRead, maxRead] at declared
                cases declared
                exact ⟨id, description, lag, maxRun, lagSeconds, maxSeconds, fields, used,
                  readSeconds_eq_ok_iff.mp lagRead, readSeconds_eq_ok_iff.mp maxRead, rfl⟩
    next => cases declared
  · rintro ⟨id, description, lag, maxRun, lagSeconds, maxSeconds, fields, used, lagRead, maxRead,
      rfl⟩
    simp only [fields, if_neg used, readSeconds_eq_ok_iff.mpr lagRead,
      readSeconds_eq_ok_iff.mpr maxRead]

end RunLimits

end HomeControl
