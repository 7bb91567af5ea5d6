import HomeControl.Proofs.Text.Fields
import HomeControl.Topic

/-!
# Queues on topics

A queue is found on a topic exactly if the topic is made of the base and the name of the queue, and
the name is one that a queue can have.  On a topic that was made with another base there is one only
if the topic can be made with the base at hand as well: this base is then the other one, or goes on
from it through levels that the name on the topic begins with.
-/

namespace HomeControl

variable {base text queue other name : String}

/-- A name that a queue can have on a topic: it is not empty, and on one level. -/
structure IsQueueName (queue : String) : Prop where
  filled : queue ≠ ""
  flat : '/' ∉ queue.toList

theorem toList_topic (base queue : String) :
    (topic base queue).toList = base.toList ++ '/' :: queue.toList := by
  simp [topic]

theorem queueOn?_eq_some_iff :
    queueOn? base text = some queue ↔ text = topic base queue ∧ IsQueueName queue := by
  unfold queueOn?
  constructor
  · intro found
    split at found
    next rest cut =>
      split at found
      next => cases found
      next named =>
        cases found
        rw [Bool.or_eq_true, not_or] at named
        refine ⟨?_, ?_, ?_⟩
        · rw [← String.toList_inj, toList_topic, String.toList_ofList]
          exact (List.isPrefixOf?_eq_some_iff_append_eq.mp cut).symm
        · simpa using named.1
        · simpa using named.2
    next => cases found
  · rintro ⟨rfl, filled, flat⟩
    have cut : base.toList.isPrefixOf? (topic base queue).toList = some ('/' :: queue.toList) :=
      List.isPrefixOf?_eq_some_iff_append_eq.mpr (toList_topic base queue).symm
    simp [cut, filled, flat]

/-- A topic is made with two bases exactly if they are the same, or one goes on from the other
through levels that stand in front of the queue. -/
theorem topic_eq_topic_iff (flat : '/' ∉ queue.toList) :
    topic other name = topic base queue ↔
      base = other ∧ name = queue ∨
        ∃ levels, base = topic other levels ∧ name = topic levels queue := by
  rw [← String.toList_inj, toList_topic, toList_topic, Text.append_cons_eq_append_cons_iff flat,
    String.toList_inj, String.toList_inj, eq_comm (a := other)]
  refine or_congr_right ⟨?_, ?_⟩
  · rintro ⟨between, longer, rest⟩
    refine ⟨String.ofList between, ?_, ?_⟩
    · rwa [← String.toList_inj, toList_topic, String.toList_ofList]
    · rwa [← String.toList_inj, toList_topic, String.toList_ofList]
  · rintro ⟨levels, rfl, rfl⟩
    exact ⟨levels.toList, toList_topic other levels, toList_topic levels queue⟩

/--
Topics and queues correspond.  The queue found on a text is the one whose topic the text is, so it
is found on its own topic if its name can be that of a queue.  On a topic with any other base, be it
empty or longer or with levels of its own, it is found only where this is its own topic as well.
-/
theorem topics_hold_queues (base queue : String) :
    (∀ text, queueOn? base text = some queue ↔ text = topic base queue ∧ IsQueueName queue) ∧
    (queueOn? base (topic base queue) = some queue ↔ IsQueueName queue) ∧
    ∀ other name, queueOn? base (topic other name) = some queue ↔
      IsQueueName queue ∧ (base = other ∧ name = queue ∨
        ∃ levels, base = topic other levels ∧ name = topic levels queue) := by
  refine ⟨fun text => queueOn?_eq_some_iff, ?_, ?_⟩
  · rw [queueOn?_eq_some_iff, and_iff_right rfl]
  · intro other name
    rw [queueOn?_eq_some_iff, and_comm]
    exact and_congr_right fun named => topic_eq_topic_iff named.flat

/-- A base in front of another one, letter by letter, shares no topic with it. -/
example : queueOn? "house" (topic "household" "LIGHTS") = none := by decide +kernel

end HomeControl
