import HomeControl.Message.Basic
import HomeControl.Proofs.Json.ReadBack
import HomeControl.Proofs.Text.Fields

/-!
# Lines and objects

A command can be sent as a line or in a JSON object.  However the object is spelled, with white
space or escapes or members that nobody asks for, its texts are all that is read of it.
-/

namespace HomeControl

namespace Json

theorem isBlank_of_isSpace {c : Char} (space : isSpace c = true) : Text.isBlank c = true := by
  simp only [isSpace, Bool.or_eq_true, beq_iff_eq] at space
  rcases space with ((rfl | rfl) | rfl) | rfl <;> rfl

/-- The first token of a text without white space before it is a brace only if it is written. -/
theorem head?_of_openBrace {text : List Char} {tokens : List Token}
    (ink : ∀ first, text.head? = some first → isSpace first = false)
    (read : tokens? text = some (.openBrace :: tokens)) : text.head? = some '\x7b' := by
  cases text with
  | nil => simp [tokens?] at read
  | cons first rest =>
      have noSpace : isSpace first = false := ink first rfl
      rw [tokens?] at read
      simp only [noSpace, Bool.false_eq_true, if_false] at read
      split at read
      next => split at read <;> simp at read
      next =>
        split at read
        next token mark =>
          obtain ⟨_, _, same⟩ := Option.map_eq_some_iff.mp read
          cases same
          unfold punctuation? at mark
          split at mark <;> first | rfl | cases mark
        next => split at read <;> simp at read

end Json

namespace Text

/-- No white space would be lost at the end of the text. -/
def EndsInInk (text : String) : Prop :=
  ∀ last, text.toList.getLast? = some last → isBlank last = false

end Text

namespace Message

variable {text : String} {first : Char}

theorem ofText_eq_ofLine (kept : Text.trim text = text) (starts : text.toList.head? = some first)
    (noObject : first ≠ '\x7b') : ofText text = ofLine text := by
  obtain ⟨rest, written⟩ := List.head?_eq_some_iff.mp starts
  unfold ofText
  simp only [kept, written]
  split
  next empty => cases empty
  next object =>
    cases object
    exact absurd rfl noObject
  next => rfl

/-- A line with a tag of one character is cut behind the tag, and loses nothing at its end. -/
theorem ofText_tagged {line rest : String} {tag : Char}
    (written : line.toList = tag :: ';' :: rest.toList) (ink : Text.isBlank tag = false)
    (noObject : tag ≠ '\x7b') (noCut : tag ≠ ';') (closed : Text.EndsInInk rest) :
    ofText line = ofLine line ∧ Text.cut? ';' line = some (String.ofList [tag], rest) := by
  have starts : line.toList.head? = some tag := by
    rw [written]
    rfl
  have kept : Text.trim line = line := by
    cases ends : rest.toList.getLast? with
    | none =>
        have closes : line.toList.getLast? = some ';' := by
          rw [written, List.getLast?_cons, List.getLast?_cons, ends]
          rfl
        exact Text.trim_of_ends starts closes ink rfl
    | some last =>
        have closes : line.toList.getLast? = some last := by
          rw [written, List.getLast?_cons, List.getLast?_cons, ends]
          rfl
        exact Text.trim_of_ends starts closes ink (closed last ends)
  refine ⟨ofText_eq_ofLine kept starts noObject, ?_⟩
  unfold Text.cut?
  rw [written]
  simp [Text.cutList?, noCut]

/-! ## Objects -/

/-- The text is a JSON object, and the texts of its members `Type` and `Event` are these. -/
def IsObject (raw type event : String) : Prop :=
  ∃ members, Json.membersOf? (Text.trim raw) = some members ∧
    Json.memberText? "Type" members = some type ∧ Json.memberText? "Event" members = some event

def ofMembers (type event : String) : Except MessageError Message :=
  match type with
  | "Processing" => (Command.ofText event).map .command
  | "Simulation" => .ok (.simulation event)
  | _ => .error (.unknownType type)

variable {raw type event : String}

/-- Only the two texts of an object are read of it. -/
theorem ofText_of_isObject (isObject : IsObject raw type event) :
    ofText raw = ofMembers type event := by
  obtain ⟨members, read, isType, isEvent⟩ := isObject
  have ink : ∀ first, (Text.trim raw).toList.head? = some first → Json.isSpace first = false := by
    intro first starts
    have dark := Text.isBlank_of_head?_trim starts
    rw [Bool.eq_false_iff]
    intro space
    rw [Json.isBlank_of_isSpace space] at dark
    cases dark
  have brace : (Text.trim raw).toList.head? = some '\x7b' := by
    unfold Json.membersOf? at read
    split at read
    next tokens => exact Json.head?_of_openBrace ink tokens
    next tokens => exact Json.head?_of_openBrace ink tokens
    next => cases read
  obtain ⟨rest, written⟩ := List.head?_eq_some_iff.mp brace
  unfold ofText
  simp only [written]
  unfold ofJson
  simp only [read, isType, isEvent]
  rcases eq_or_ne type "Processing" with rfl | noCommand
  · rfl
  rcases eq_or_ne type "Simulation" with rfl | noEvent
  · rfl
  unfold ofMembers
  split
  next same _ => exact absurd (Option.some.inj same) noCommand
  next same _ => exact absurd (Option.some.inj same) noEvent
  next same _ =>
    cases same
    simp only
  next missing => exact absurd rfl (missing type event rfl)

/-- An object that was written with such a type and event is one with these texts. -/
theorem isObject_writePair (type event : String) :
    IsObject (Json.writePair "Type" type "Event" event) type event := by
  have starts : (Json.writePair "Type" type "Event" event).toList.head? = some '\x7b' := by
    unfold Json.writePair
    rw [String.toList_ofList]
    rfl
  have ends : (Json.writePair "Type" type "Event" event).toList.getLast? = some '\x7d' := by
    unfold Json.writePair
    rw [String.toList_ofList]
    exact List.getLast?_concat
  refine ⟨[("Type", some type), ("Event", some event)], ?_, rfl, rfl⟩
  rw [Text.trim_of_ends starts ends rfl rfl]
  exact Json.membersOf?_writePair ..

/-- The line of a command is read as the command is. -/
theorem ofText_command {command : String} (closed : Text.EndsInInk command) :
    ofText ("P;" ++ command) = (Command.ofText command).map .command := by
  have written : ("P;" ++ command).toList = 'P' :: ';' :: command.toList := by
    rw [String.toList_append]
    rfl
  obtain ⟨line, cut⟩ := ofText_tagged written rfl (by decide) (by decide) closed
  rw [line]
  unfold ofLine
  rw [cut]
  rfl

/-- The line and the object of a command are read alike, be it to a command or to an error. -/
theorem ofText_commandLine {command object : String} (closed : Text.EndsInInk command)
    (isObject : IsObject object "Processing" command) :
    ofText ("P;" ++ command) = ofText object := by
  rw [ofText_command closed, ofText_of_isObject isObject]
  rfl

end Message

end HomeControl
