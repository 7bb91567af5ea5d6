import HomeControl.Controller.Basic
import HomeControl.Message.Request
import HomeControl.Proofs.Message.WireForms

/-!
# Requests and the commands that come of them

A message that was made of a request is obeyed as the command that the request means.  Only a log
level is free text; it means a command if its upper case is a word for a level, and nothing else
that it holds becomes a message at all.
-/

namespace HomeControl

namespace Command

variable {word argument : String} {level : LogLevel} {command : Command}

/-- The words for log levels; the highest one has two. -/
inductive Names : String → LogLevel → Prop
  | debug : Names "DEBUG" .debug
  | info : Names "INFO" .info
  | warning : Names "WARNING" .warn
  | error : Names "ERROR" .error
  | critical : Names "CRITICAL" .error

theorem Names.no_semicolon (names : Names word level) : ';' ∉ word.toList := by
  cases names <;> decide

theorem levelOf?_eq_some_iff : levelOf? word = some level ↔ Names word level := by
  constructor
  · intro found
    unfold levelOf? at found
    split at found <;> cases found
    · exact .debug
    · exact .info
    · exact .warning
    · exact .error
    · exact .critical
  · intro names
    cases names <;> rfl

theorem readLevel_eq_ok_iff {arguments : List String} :
    readLevel arguments = .ok command ↔
      ∃ word level, arguments = [word] ∧ Names word level ∧ command = .setLogLevel level := by
  constructor
  · intro read
    unfold readLevel at read
    split at read
    next word =>
      split at read
      next level found =>
        cases read
        exact ⟨word, level, rfl, levelOf?_eq_some_iff.mp found, rfl⟩
      next => cases read
    next => cases read
  · rintro ⟨word, level, rfl, names, rfl⟩
    simp only [readLevel, levelOf?_eq_some_iff.mpr names]

theorem ofText_setLogLevel (argument : String) :
    ofText ("SET_LOG_LEVEL;" ++ argument) = readLevel (Text.fields ';' argument) := by
  have joined : "SET_LOG_LEVEL;" ++ argument =
      Text.join (String.singleton ';') ["SET_LOG_LEVEL", argument] := by
    rw [← String.toList_inj]
    simp [Text.join]
  have own : Text.fields ';' "SET_LOG_LEVEL" = ["SET_LOG_LEVEL"] := by decide +kernel
  unfold ofText
  rw [joined, Text.fields_join_eq_flatMap (List.cons_ne_nil _ _), List.flatMap_cons, own,
    List.flatMap_singleton]
  rfl

/-- The command for a log level is read exactly if its argument is a word for one. -/
theorem ofText_setLogLevel_eq_ok_iff :
    ofText ("SET_LOG_LEVEL;" ++ argument) = .ok command ↔
      ∃ level, Names argument level ∧ command = .setLogLevel level := by
  rw [ofText_setLogLevel, readLevel_eq_ok_iff]
  constructor
  · rintro ⟨word, level, only, names, rfl⟩
    obtain ⟨_, rfl, _⟩ := Text.fields_eq_iff.mp only
    exact ⟨level, names, rfl⟩
  · rintro ⟨level, names, rfl⟩
    refine ⟨argument, level, ?_, names, rfl⟩
    exact Text.fields_eq_iff.mpr ⟨List.cons_ne_nil _ _, rfl,
      List.forall_mem_singleton.mpr names.no_semicolon⟩

end Command

namespace Request

variable {request : Request} {command : Command} {text : String}

/-- What a request asks for; a log level asks for something if its upper case names one. -/
inductive Means : Request → Command → Prop
  | stop : Means .stop .stop
  | setLogLevel {text : String} {level : LogLevel}
      (names : Command.Names (Text.upper text) level) :
      Means (.setLogLevel text) (.setLogLevel level)
  | printStatus : Means .printStatus .printStatus
  | refresh : Means .refresh .refresh
  | switchLogging (sink : LogSink) (enabled : Bool) :
      Means (.switchLogging sink enabled) (.logging sink enabled)

theorem Means.ofText_commandText (means : request.Means command) :
    Command.ofText request.commandText = .ok command := by
  cases means with
  | setLogLevel names => exact Command.ofText_setLogLevel_eq_ok_iff.mpr ⟨_, names, rfl⟩
  | switchLogging sink enabled => cases sink <;> cases enabled <;> decide +kernel
  | stop | printStatus | refresh => decide +kernel

/-- The text of a request is understood exactly as what the request means. -/
theorem ofText_commandText_eq_ok_iff :
    Command.ofText request.commandText = .ok command ↔ request.Means command := by
  refine ⟨fun read => ?_, Means.ofText_commandText⟩
  have meant : ∃ meaning, request.Means meaning := by
    cases request with
    | setLogLevel text =>
        obtain ⟨level, names, _⟩ := Command.ofText_setLogLevel_eq_ok_iff.mp read
        exact ⟨_, .setLogLevel names⟩
    | switchLogging sink enabled => exact ⟨_, .switchLogging sink enabled⟩
    | stop => exact ⟨_, .stop⟩
    | printStatus => exact ⟨_, .printStatus⟩
    | refresh => exact ⟨_, .refresh⟩
  obtain ⟨meaning, means⟩ := meant
  cases means.ofText_commandText.symm.trans read
  exact means

/-- The text of a request that means something ends in a letter. -/
theorem Means.endsInInk (means : request.Means command) :
    Text.EndsInInk request.commandText := by
  have closed : ∃ last,
      request.commandText.toList.getLast? = some last ∧ Text.isBlank last = false := by
    cases means with
    | @setLogLevel text level names =>
        rw [commandText]
        generalize Text.upper text = word at names
        cases names <;> exact ⟨_, rfl, rfl⟩
    | switchLogging sink enabled => cases sink <;> cases enabled <;> exact ⟨_, rfl, rfl⟩
    | stop | printStatus | refresh => exact ⟨_, rfl, rfl⟩
  obtain ⟨last, ends, ink⟩ := closed
  intro other found
  cases ends.symm.trans found
  exact ink

theorem Means.ofText_line (means : request.Means command) :
    Message.ofText ("P;" ++ request.commandText) = .ok (.command command) := by
  rw [Message.ofText_command means.endsInInk, means.ofText_commandText]
  rfl

theorem encode_eq_ok_iff :
    request.encode = .ok text ↔
      text = "P;" ++ request.commandText ∧ ∃ command, request.Means command := by
  simp only [← ofText_commandText_eq_ok_iff]
  unfold encode
  cases Command.ofText request.commandText with
  | ok command => simp [Except.map, eq_comm]
  | error cause => simp [Except.map]

/--
What is sent for a request is obeyed as what the request means, which is one command at most.  A
message is made of every request that means something, and of no other; so there is none where the
receiver would refuse it.  In particular a log level makes no message at all unless its upper case
is a word for a level, whatever else it holds.
-/
theorem requests_are_obeyed (request : Request) :
    (∀ text, request.encode = .ok text →
      text = "P;" ++ request.commandText ∧ ∃ command, request.Means command ∧
        Message.ofText text = .ok (.command command) ∧
        ∀ (β : Type) (surroundings : Surroundings) (controller : Controller β) (now : Instant)
          (wall : DateTime), controller.handle surroundings text now wall =
            controller.obey surroundings command wall) ∧
    (∀ first second, request.Means first → request.Means second → first = second) ∧
    ((∃ text, request.encode = .ok text) ↔ ∃ command, request.Means command) ∧
    ∀ cause, Message.ofText ("P;" ++ request.commandText) = .error cause →
      ∃ reason, request.encode = .error reason := by
  refine ⟨?_, ?_, ?_, ?_⟩
  · intro text sent
    obtain ⟨rfl, command, means⟩ := encode_eq_ok_iff.mp sent
    refine ⟨rfl, command, means, means.ofText_line, ?_⟩
    intro β surroundings controller now wall
    rw [Controller.handle, means.ofText_line]
  · intro first second means other
    cases means.ofText_commandText.symm.trans other.ofText_commandText
    rfl
  · simp only [encode_eq_ok_iff, exists_and_right, exists_eq, true_and]
  · intro cause refused
    cases sent : request.encode with
    | error reason => exact ⟨reason, rfl⟩
    | ok text =>
        obtain ⟨_, command, means⟩ := encode_eq_ok_iff.mp sent
        cases means.ofText_line.symm.trans refused

/-- Letters count by their upper case, and a command behind the level is part of no level. -/
theorem warning_obeyed_and_stop_refused :
    let lower : Request := .setLogLevel "warn\u0131ng"
    let crafted : Request := .setLogLevel "info\nP;STOP"
    lower.encode = .ok "P;SET_LOG_LEVEL;WARNING" ∧
      lower.Means (.setLogLevel .warn) ∧
      Message.ofText "P;SET_LOG_LEVEL;WARNING" = .ok (.command (.setLogLevel .warn)) ∧
      Message.ofText ("P;" ++ crafted.commandText) =
        .error (.invalidLogLevel "INFO\nP;STOP") ∧
      ∃ reason, crafted.encode = .error reason := by
  intro lower crafted
  have sent : lower.encode = .ok "P;SET_LOG_LEVEL;WARNING" := by decide +kernel
  have means : lower.Means (.setLogLevel .warn) := by
    have spelled : Text.upper "warn\u0131ng" = "WARNING" := by decide +kernel
    exact .setLogLevel (spelled ▸ .warning)
  have refused : Message.ofText ("P;" ++ crafted.commandText) =
      .error (.invalidLogLevel "INFO\nP;STOP") := by decide +kernel
  obtain ⟨obeyed, sole, _, _⟩ := requests_are_obeyed lower
  obtain ⟨_, command, own, read, _⟩ := obeyed _ sent
  obtain rfl := sole command _ own means
  exact ⟨sent, means, read, refused, (requests_are_obeyed crafted).2.2.2 _ refused⟩

/-- White space behind a level is refused by the sender, though the receiver would drop it. -/
example : (Request.setLogLevel "info ").encode = .error (.invalidLogLevel "INFO ") ∧
    Message.ofText "P;SET_LOG_LEVEL;INFO " = .ok (.command (.setLogLevel .info)) := by
  decide +kernel

end Request

end HomeControl
