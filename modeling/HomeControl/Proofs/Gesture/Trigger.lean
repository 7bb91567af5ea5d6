import HomeControl.Gesture
import HomeControl.Proofs.Text.Fields

/-!
# Names of triggers

The name of a trigger can be taken apart from its end.  Neither the word for a gesture nor a number
holds an underscore, so the last three underscores are those that were put between the parts; the
name of the controller in front of them may hold any number of them, and words that look like the
other parts.
-/

namespace HomeControl

namespace Gesture

theorem text_injective : Function.Injective text := by
  intro first second
  cases first <;> cases second <;> simp [text]

theorem underscore_not_mem_text (gesture : Gesture) : '_' ∉ gesture.text.toList := by
  cases gesture <;> decide

end Gesture

theorem Text.underscore_not_mem_toString (n : Nat) : '_' ∉ (toString n).toList := by
  rw [toList_toString]
  intro inside
  exact absurd (Nat.isDigit_of_mem_toDigits (by decide) (by decide) inside) (by decide)

variable {first second : String} {point place : Point} {gesture other : Gesture}

theorem toList_triggerOf (controller : String) (point : Point) (gesture : Gesture) :
    (triggerOf controller point gesture).toList =
      (((Text.upper controller).toList ++ '_' :: (toString point.board.toNat).toList) ++
        '_' :: (toString point.index.toNat).toList) ++ '_' :: gesture.text.toList := by
  simp [triggerOf]

/-- Two triggers have one name exactly if they are for one gesture at one point, of controllers
whose names are the same in upper case. -/
theorem triggerOf_eq_iff :
    triggerOf first point gesture = triggerOf second place other ↔
      Text.upper first = Text.upper second ∧ point = place ∧ gesture = other := by
  rw [← String.toList_inj, toList_triggerOf, toList_triggerOf,
    Text.append_cons_inj_of_not_mem gesture.underscore_not_mem_text other.underscore_not_mem_text,
    Text.append_cons_inj_of_not_mem (Text.underscore_not_mem_toString _)
      (Text.underscore_not_mem_toString _),
    Text.append_cons_inj_of_not_mem (Text.underscore_not_mem_toString _)
      (Text.underscore_not_mem_toString _)]
  obtain ⟨board, index⟩ := point
  obtain ⟨row, column⟩ := place
  simp only [String.toList_inj, Text.toString_inj, UInt8.toNat_inj, Point.mk.injEq,
    Gesture.text_injective.eq_iff, and_assoc]

end HomeControl
