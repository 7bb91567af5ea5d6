import HomeControl.Proofs.Calendar.Clock
import HomeControl.Proofs.Text.Blank
import HomeControl.Scenario.Moment

/-!
# Moments as they are written

A moment is read exactly from the texts whose last word is a time and whose other words, joined, are
`*` or names of days between commas.  Of several faults the first is reported, in the order in which
a text is read: too few words, the time, the first unknown day.  White space, empty names and days
that were named before make no difference to the moment.
-/

namespace HomeControl

open Text

/-! ## Days -/

namespace DaySet

variable {key text name : String} {set : DaySet} {before after : List String}

/-- The names in a list between commas; what is empty is none. -/
def names (text : String) : List String := (fields ',' text).filter (· != "")

def Known (names : List String) : Prop := ∀ name ∈ names, ∃ day, Weekday.ofName? name = some day

/-- The text stands for the days: every day, or those it names, each once, by first mention. -/
inductive Written : DaySet → String → Prop
  | every : Written .every "*"
  | days {text : String} (known : Known (names text)) :
      Written (.days ((names text).filterMap Weekday.ofName?).eraseDups) text

/-- The name is the first one in the list that is no name of a day. -/
inductive Unknown (text name : String) : Prop
  | first {before after : List String} (list : text ≠ "*")
      (split : names text = before ++ name :: after) (known : Known before)
      (unknown : Weekday.ofName? name = none) : Unknown text name

theorem readNames_of_known {list : List String} (known : Known list) :
    readNames key list = .ok (list.filterMap Weekday.ofName?) := by
  induction list with
  | nil => rfl
  | cons name rest ih =>
      obtain ⟨⟨day, named⟩, others⟩ := List.forall_mem_cons.mp known
      rw [readNames, named, ih others, List.filterMap_cons_some named]
      rfl

theorem readNames_of_unknown (known : Known before) (unknown : Weekday.ofName? name = none) :
    readNames key (before ++ name :: after) = .error (.weekday key name) := by
  induction before with
  | nil => rw [List.nil_append, readNames, unknown]
  | cons first rest ih =>
      obtain ⟨⟨day, named⟩, others⟩ := List.forall_mem_cons.mp known
      rw [List.cons_append, readNames, named, ih others]
      rfl

theorem known_or_unknown (list : List String) :
    Known list ∨ ∃ before name after, list = before ++ name :: after ∧ Known before ∧
      Weekday.ofName? name = none := by
  induction list with
  | nil => exact .inl nofun
  | cons first rest ih =>
      cases named : Weekday.ofName? first with
      | none => exact .inr ⟨[], first, rest, rfl, nofun, named⟩
      | some day =>
          rcases ih with known | ⟨before, name, after, rfl, known, unknown⟩
          · exact .inl (List.forall_mem_cons.mpr ⟨⟨day, named⟩, known⟩)
          · refine .inr ⟨first :: before, name, after, rfl, ?_, unknown⟩
            exact List.forall_mem_cons.mpr ⟨⟨day, named⟩, known⟩

theorem known_star : ¬ Known (names "*") := by
  intro known
  obtain ⟨day, named⟩ := known "*" (by decide +kernel)
  cases named

theorem ofText_of_written (written : Written set text) : ofText key text = .ok set := by
  cases written with
  | every => rfl
  | days known =>
      have list : text ≠ "*" := by
        rintro rfl
        exact known_star known
      rw [ofText, if_neg list, ← names, readNames_of_known known]
      rfl

theorem ofText_of_unknown (unknown : Unknown text name) :
    ofText key text = .error (.weekday key name) := by
  obtain ⟨list, split, known, unknown⟩ := unknown
  rw [ofText, if_neg list, ← names, split, readNames_of_unknown known unknown]
  rfl

theorem written_or_unknown (text : String) :
    (∃ set, Written set text) ∨ ∃ name, Unknown text name := by
  by_cases star : text = "*"
  · exact .inl ⟨.every, star ▸ .every⟩
  · rcases known_or_unknown (names text) with known | ⟨before, name, after, split, known, unknown⟩
    · exact .inl ⟨_, .days known⟩
    · exact .inr ⟨name, .first star split known unknown⟩

end DaySet

/-! ## Moments -/

namespace Moment

variable {key value time : String} {moment : Moment} {report : ScenarioError} {days : List String}

/-- The text is the moment: at least one word about its days, and a last one about its time. -/
inductive Written (moment : Moment) (value : String) : Prop
  | words {days : List String} {time : String} (cut : words value = days ++ [time])
      (filled : days ≠ []) (daysAre : DaySet.Written moment.days (String.join days))
      (timeIs : TimeOfDay.Written moment.time time) : Written moment value

/-- The first fault of a text that is no moment, and so the one that is reported. -/
inductive Fault (key value : String) : ScenarioError → Prop
  | few (few : (words value).length < 2) : Fault key value (.moment key value)
  | time {days : List String} {time : String} (cut : words value = days ++ [time])
      (filled : days ≠ []) (noTime : ∀ any, ¬ TimeOfDay.Written any time) :
      Fault key value (.time key time)
  | weekday {days : List String} {time name : String} {any : TimeOfDay}
      (cut : words value = days ++ [time]) (filled : days ≠ [])
      (timeIs : TimeOfDay.Written any time) (unknown : DaySet.Unknown (String.join days) name) :
      Fault key value (.weekday key name)

theorem ofText_of_few (few : (words value).length < 2) :
    ofText key value = .error (.moment key value) := by
  unfold ofText
  split
  next time day earlier reversed =>
    have many := congrArg List.length reversed
    rw [List.length_reverse, List.length_cons, List.length_cons] at many
    omega
  next => rfl

/-- What a text with enough words is read as, from its time and its days. -/
theorem ofText_of_words (cut : words value = days ++ [time]) (filled : days ≠ []) :
    ofText key value =
      match TimeOfDay.ofText? time with
      | none => .error (.time key time)
      | some time => (DaySet.ofText key (String.join days)).map fun days => ⟨days, time⟩ := by
  obtain ⟨earlier, day, rfl⟩ := (List.eq_nil_or_concat days).resolve_left filled
  have back : (day :: earlier.reverse).reverse = earlier.concat day := by
    rw [List.reverse_cons, List.reverse_reverse, List.concat_eq_append]
  have turned : (earlier.concat day ++ [time]).reverse = time :: day :: earlier.reverse := by
    rw [List.reverse_concat, List.concat_eq_append, List.reverse_concat]
  unfold ofText
  rewrite [cut, turned, ← back]
  rfl

theorem ofText_of_written (written : Written moment value) : ofText key value = .ok moment := by
  obtain ⟨cut, filled, daysAre, timeIs⟩ := written
  rw [ofText_of_words cut filled, TimeOfDay.ofText?_eq_some_iff.mpr timeIs,
    DaySet.ofText_of_written daysAre]
  rfl

theorem ofText_of_fault (fault : Fault key value report) : ofText key value = .error report := by
  cases fault with
  | few few => exact ofText_of_few few
  | time cut filled noTime =>
      rw [ofText_of_words cut filled, TimeOfDay.ofText?_eq_none_iff.mpr noTime]
  | weekday cut filled timeIs unknown =>
      rw [ofText_of_words cut filled, TimeOfDay.ofText?_eq_some_iff.mpr timeIs,
        DaySet.ofText_of_unknown unknown]
      rfl

/-- Every text is a moment or has a first fault. -/
theorem written_or_fault (key value : String) :
    (∃ moment, Written moment value) ∨ ∃ report, Fault key value report := by
  by_cases few : (words value).length < 2
  · exact .inr ⟨_, .few few⟩
  · obtain ⟨days, time, cut, filled⟩ :
        ∃ days time, words value = days ++ [time] ∧ days ≠ [] := by
      rcases List.eq_nil_or_concat (words value) with none | ⟨days, time, cut⟩
      · rw [none] at few
        exact absurd (by decide) few
      · rw [List.concat_eq_append] at cut
        refine ⟨days, time, cut, ?_⟩
        rintro rfl
        rw [cut] at few
        exact absurd Nat.one_lt_two few
    by_cases timeIs : ∃ any, TimeOfDay.Written any time
    · obtain ⟨any, timeIs⟩ := timeIs
      rcases DaySet.written_or_unknown (String.join days) with ⟨set, daysAre⟩ | ⟨name, unknown⟩
      · exact .inl ⟨⟨set, any⟩, .words cut filled daysAre timeIs⟩
      · exact .inr ⟨_, .weekday cut filled timeIs unknown⟩
    · exact .inr ⟨_, .time cut filled (not_exists.mp timeIs)⟩

theorem ofText_eq_ok_iff : ofText key value = .ok moment ↔ Written moment value := by
  refine ⟨fun read => ?_, ofText_of_written⟩
  rcases written_or_fault key value with ⟨other, written⟩ | ⟨report, fault⟩
  · cases read.symm.trans (ofText_of_written written)
    exact written
  · cases read.symm.trans (ofText_of_fault fault)

theorem ofText_eq_error_iff : ofText key value = .error report ↔ Fault key value report := by
  refine ⟨fun read => ?_, ofText_of_fault⟩
  rcases written_or_fault key value with ⟨other, written⟩ | ⟨actual, fault⟩
  · cases read.symm.trans (ofText_of_written written)
  · cases read.symm.trans (ofText_of_fault fault)
    exact fault

end Moment

/-! ## What makes no difference -/

namespace Text

theorem ink_append (front back : String) : ink (front ++ back) = ink front ++ ink back := by
  unfold ink
  rw [String.toList_append, List.filter_append, String.ofList_append]

theorem ink_join (items : List String) : ink (join "," items) = join "," (items.map ink) := by
  have comma : ink "," = "," := by decide +kernel
  unfold join
  induction items with
  | nil => rfl
  | cons first rest ih =>
      cases rest with
      | nil => rw [List.map_singleton, String.intercalate_singleton, String.intercalate_singleton]
      | cons second later =>
          rw [List.map_cons] at ih
          rw [List.map_cons, List.map_cons, String.intercalate_cons_cons,
            String.intercalate_cons_cons, ink_append, ink_append, comma, ih]

end Text

namespace DaySet

variable {items others : List String}

def listed (items : List String) : List String := items.flatMap fun item => names (ink item)

theorem names_ink_join (items : List String) : names (ink (join "," items)) = listed items := by
  unfold listed
  cases items with
  | nil => decide +kernel
  | cons first rest =>
      have cut : fields ',' (join "," ((first :: rest).map ink)) =
          ((first :: rest).map ink).flatMap (fields ',') :=
        fields_join_eq_flatMap (by simp)
      rw [ink_join, names, cut, List.filter_flatMap, List.flatMap_map]
      rfl

/--
Items of a list are restated by white space around them or in them, by empty items, and by a day
that was named before, perhaps by another name of it.
-/
inductive Restated : List String → List String → Prop
  | refl (items : List String) : Restated items items
  | symm {items others : List String} (restated : Restated items others) : Restated others items
  | trans {items others last : List String} (first : Restated items others)
      (second : Restated others last) : Restated items last
  | space (before after : List String) {item other : String} (same : ink item = ink other) :
      Restated (before ++ item :: after) (before ++ other :: after)
  | empty (before after : List String) : Restated (before ++ after) (before ++ "" :: after)
  | again {before : List String} (after : List String) {first next : String} {day : Weekday}
      (earlier : first ∈ before) (firstIs : Weekday.ofName? first = some day)
      (nextIs : Weekday.ofName? next = some day) :
      Restated (before ++ after) (before ++ next :: after)

/-- A name of a day is the one name that stands in it. -/
theorem names_ink_of_day {name : String} {day : Weekday}
    (named : Weekday.ofName? name = some day) : names (ink name) = [name] := by
  have among : name ∈ ["Monday", "Tuesday", "Wednesday", "Thursday", "Friday", "Saturday",
      "Saterday", "Sunday"] := by
    unfold Weekday.ofName? at named
    split at named <;> simp_all
  have each : ∀ name ∈ ["Monday", "Tuesday", "Wednesday", "Thursday", "Friday", "Saturday",
      "Saterday", "Sunday"], names (ink name) = [name] := by
    decide +kernel
  exact each name among

theorem eraseDups_append_cons_of_mem {before after : List Weekday} {day : Weekday}
    (earlier : day ∈ before) :
    (before ++ day :: after).eraseDups = (before ++ after).eraseDups := by
  rw [List.eraseDups_append, List.eraseDups_append]
  simp [List.removeAll, earlier]

/-- Restated items name days exactly if they did before, and then the same ones. -/
theorem Restated.keeps (restated : Restated items others) :
    (Known (listed items) ↔ Known (listed others)) ∧
      ((listed items).filterMap Weekday.ofName?).eraseDups =
        ((listed others).filterMap Weekday.ofName?).eraseDups := by
  induction restated with
  | refl => exact ⟨Iff.rfl, rfl⟩
  | symm _ ih => exact ⟨ih.1.symm, ih.2.symm⟩
  | trans _ _ first second => exact ⟨first.1.trans second.1, first.2.trans second.2⟩
  | space before after same =>
      simp only [listed, List.flatMap_append, List.flatMap_cons, same, and_self]
  | empty before after =>
      have nothing : names (ink "") = [] := by decide +kernel
      simp only [listed, List.flatMap_append, List.flatMap_cons, nothing, List.nil_append, and_self]
  | @again before after first next day earlier firstIs nextIs =>
      have named : day ∈ (listed before).filterMap Weekday.ofName? := by
        refine List.mem_filterMap.mpr ⟨first, List.mem_flatMap.mpr ⟨first, earlier, ?_⟩, firstIs⟩
        rw [names_ink_of_day firstIs]
        exact List.mem_cons_self
      have split : listed (before ++ next :: after) = listed before ++ next :: listed after := by
        rw [listed, List.flatMap_append, List.flatMap_cons, names_ink_of_day nextIs]
        rfl
      have whole : listed (before ++ after) = listed before ++ listed after :=
        List.flatMap_append
      rw [split, whole, List.filterMap_append, List.filterMap_append,
        List.filterMap_cons_some nextIs, eraseDups_append_cons_of_mem named]
      refine ⟨?_, rfl⟩
      unfold Known
      rw [List.forall_mem_append, List.forall_mem_append, List.forall_mem_cons]
      exact and_congr_right fun _ => (and_iff_right ⟨day, nextIs⟩).symm

theorem Restated.written {set : DaySet} (restated : Restated items others) (list : set ≠ .every)
    (written : Written set (ink (join "," items))) : Written set (ink (join "," others)) := by
  obtain ⟨known, days⟩ := restated.keeps
  generalize whole : ink (join "," items) = text at written
  cases written with
  | every => exact absurd rfl list
  | days named =>
      rw [← whole, names_ink_join] at named ⊢
      rw [days, ← names_ink_join]
      refine .days ?_
      rw [names_ink_join]
      exact known.mp named

end DaySet

namespace Moment

variable {key front between time : String} {moment : Moment}

/-- What stands in front of the time matters only for what is left of it without white space. -/
theorem written_timed_iff (isGap : IsGap between) (word : words time = [time]) :
    Written moment (front ++ between ++ time) ↔
      ink front ≠ "" ∧ DaySet.Written moment.days (ink front) ∧
        TimeOfDay.Written moment.time time := by
  have whole : words (front ++ between ++ time) = words front ++ [time] := by
    rw [words_append_gap isGap, word]
  rw [ne_eq, ← words_eq_nil_iff, ← join_words]
  constructor
  · rintro ⟨cut, filled, daysAre, timeIs⟩
    obtain ⟨rfl, last⟩ := List.append_inj' (whole.symm.trans cut) rfl
    cases last
    exact ⟨filled, daysAre, timeIs⟩
  · rintro ⟨filled, daysAre, timeIs⟩
    exact .words whole filled daysAre timeIs

/--
A text is read exactly as the moment that it is, and refused exactly with the first of its faults.
Restating the items of a list of days does not change the moment, as long as anything is left of
them in front of the time.
-/
theorem moments_read_as_written (key : String) :
    (∀ value moment, ofText key value = .ok moment ↔ Written moment value) ∧
    (∀ value report, ofText key value = .error report ↔ Fault key value report) ∧
    ∀ items others between gap time moment, DaySet.Restated items others →
      IsGap between → IsGap gap → words time = [time] →
        ofText key (join "," items ++ between ++ time) = .ok moment → moment.days ≠ .every →
          ink (join "," others) ≠ "" →
            ofText key (join "," others ++ gap ++ time) = .ok moment := by
  refine ⟨fun _ _ => ofText_eq_ok_iff, fun _ _ => ofText_eq_error_iff, ?_⟩
  intro items others between gap time moment restated isBetween isGap word read list filled
  obtain ⟨_, daysAre, timeIs⟩ := (written_timed_iff isBetween word).mp (ofText_eq_ok_iff.mp read)
  exact ofText_of_written
    ((written_timed_iff isGap word).mpr ⟨filled, restated.written list daysAre, timeIs⟩)

/-- A weekend is one also with white space, with empty names and with Saturday named twice. -/
theorem weekend_restated :
    let weekend : Moment := ⟨.days [.saturday, .sunday], ⟨64800, 0, by decide, by decide⟩⟩
    ofText "Simulation00" "Saturday,Sunday 18:00" = .ok weekend ∧
      ofText "Simulation00" ", Saturday ,Sunday,,Saterday\u3000\t18:00" = .ok weekend := by
  intro weekend
  have plain : ofText "Simulation00" "Saturday,Sunday 18:00" = .ok weekend := by decide +kernel
  have again : DaySet.Restated ["Saturday", "Sunday"] ["Saturday", "Sunday", "Saterday"] :=
    .again [] (List.mem_cons_self : "Saturday" ∈ ["Saturday", "Sunday"]) rfl rfl
  have empty : DaySet.Restated ["Saturday", "Sunday", "Saterday"]
      ["", "Saturday", "Sunday", "", "Saterday"] :=
    (DaySet.Restated.empty ["Saturday", "Sunday"] ["Saterday"]).trans (.empty [] _)
  have space : DaySet.Restated ["", "Saturday", "Sunday", "", "Saterday"]
      ["", " Saturday ", "Sunday", "", "Saterday"] :=
    .space [""] ["Sunday", "", "Saterday"] (by decide +kernel)
  refine ⟨plain, ?_⟩
  exact (moments_read_as_written "Simulation00").2.2 ["Saturday", "Sunday"]
    ["", " Saturday ", "Sunday", "", "Saterday"] " " "\u3000\t" "18:00" weekend
    ((again.trans empty).trans space) ⟨by decide, List.all_eq_true.mp (by decide)⟩
    ⟨by decide, List.all_eq_true.mp (by decide)⟩ (by decide +kernel) plain nofun
    (by decide +kernel)

end Moment

end HomeControl
