import CronSchedule.Session
import CronSchedule.Proofs.Outcome
import CronSchedule.Proofs.Schedule.Reading

/-!
# Histories of schedules

A schedule is in step with its text when it is read.  After that only a new text could
part them, since it is written in place, first the alternatives and then the text.

`assign` is that writing in place, and `run_assign` says what it comes to: all or
nothing.  So each step of a history, whatever it does, leaves only schedules that were
there before or that have just been read, which is what the induction over the history
needs.  The same holds of the commands of a session.
-/

namespace CronSchedule

open Outcome

namespace Schedule

variable {schedule changed : Schedule} {text : String} {february : February}

/-! ### A new text in place -/

/-- Give the schedule a new text in place.  The text is read before anything is written;
    then the alternatives are written, and the text after them. -/
def assign (text : String) : ExceptT ParseError (StateM Schedule) Unit := do
  let alternatives ← (readAlternatives text.toList).mapError (ParseError.mk text)
  modify fun schedule => { schedule with alternatives }
  modify fun schedule => { schedule with text }

/-- Both writes are made or none is: between them the schedule is out of step, but no run ends
    there. -/
theorem run_assign (schedule : Schedule) (text : String) :
    (assign text).run.run schedule =
      match schedule.reparse text with
      | .ok changed => (.ok (), changed)
      | .error error => (.error error, schedule) := by
  unfold assign reparse
  cases readAlternatives text.toList <;> rfl

theorem run_assign_of_ok (h : parse text schedule.february = .ok changed) :
    (assign text).run.run schedule = (.ok (), changed) := by
  rw [run_assign, reparse_eq_parse, h]

theorem run_assign_of_error {error : ParseError}
    (h : parse text schedule.february = .error error) :
    (assign text).run.run schedule = (.error error, schedule) := by
  rw [run_assign, reparse_eq_parse, h]

/-- What is left in place is the schedule as it was, or one that has just been read. -/
theorem run_assign_cases (schedule : Schedule) (text : String) :
    ((assign text).run.run schedule).2 = schedule ∨
      parse text schedule.february = .ok ((assign text).run.run schedule).2 := by
  cases hread : parse text schedule.february with
  | error error => exact .inl (by rw [run_assign_of_error hread])
  | ok changed => exact .inr (by rw [run_assign_of_ok hread])

theorem february_run_assign (schedule : Schedule) (text : String) :
    ((assign text).run.run schedule).2.february = schedule.february := by
  rcases run_assign_cases schedule text with hsame | hread
  · rw [hsame]
  · exact february_of_parse hread

/-! ### Histories -/

/-- What can be done with schedules.  Each has a place, in the order in which they come
    to be. -/
inductive Act where
  /-- Read a new schedule.  One that is made from its text alone has `leapAware`. -/
  | create (text : String) (february : February)
  /-- Copy the schedule at a place. -/
  | copy (place : Nat)
  /-- Give the schedule at a place a new text, if it can be read. -/
  | assign (place : Nat) (text : String)
deriving Repr

/-- The schedules after an act. -/
def Act.perform (schedules : List Schedule) : Act → List Schedule
  | create text february =>
      match parse text february with
      | .ok schedule => schedules ++ [schedule]
      | .error _ => schedules
  | copy place => schedules ++ schedules[place]?.toList
  | assign place text =>
      schedules.modify place fun schedule => ((Schedule.assign text).run.run schedule).2

/-- The schedules after a history. -/
def after (acts : List Act) : List Schedule :=
  acts.foldl Act.perform []

/-- The treatments of February that schedules are made with: the one they are created
    with, or that of the schedule they are copied from. -/
def Act.record (made : List February) : Act → List February
  | create text february =>
      match parse text february with
      | .ok _ => made ++ [february]
      | .error _ => made
  | copy place => made ++ made[place]?.toList
  | assign _ _ => made

/-- The treatment of February that the schedule at each place was made with. -/
def madeWith (acts : List Act) : List February :=
  acts.foldl Act.record []

/-- A schedule that is there after an act was there before or has just been read. -/
theorem Act.mem_perform {schedules : List Schedule} {act : Act}
    (h : schedule ∈ act.perform schedules) :
    schedule ∈ schedules ∨ ∃ text february, parse text february = .ok schedule := by
  cases act with
  | create text february =>
      simp only [perform] at h
      split at h
      · rename_i created hread
        rcases List.mem_append.mp h with hold | hnew
        · exact .inl hold
        · rw [List.mem_singleton.mp hnew]
          exact .inr ⟨text, february, hread⟩
      · exact .inl h
  | copy place =>
      rcases List.mem_append.mp h with hold | hcopy
      · exact .inl hold
      · exact .inl (List.mem_of_getElem? (Option.mem_toList.mp hcopy))
  | assign place text =>
      obtain ⟨index, hindex⟩ := List.getElem?_of_mem h
      rw [perform, List.getElem?_modify] at hindex
      obtain ⟨old, hold, hschedule⟩ := Option.map_eq_some_iff.mp hindex
      have hmem := List.mem_of_getElem? hold
      split at hschedule
      · rcases run_assign_cases old text with hsame | hread
        · rw [← hschedule, hsame]
          exact .inl hmem
        · rw [hschedule] at hread
          exact .inr ⟨text, old.february, hread⟩
      · rw [← hschedule]
        exact .inl hmem

/-- Induction over the history, with any schedules in step to begin with. -/
theorem inStep_of_mem_foldl {schedules : List Schedule} (acts : List Act)
    (h : ∀ schedule ∈ schedules, schedule.InStep) :
    ∀ schedule ∈ acts.foldl Act.perform schedules, schedule.InStep := by
  induction acts generalizing schedules with
  | nil => exact h
  | cons act rest ih =>
      refine ih fun schedule hmem => ?_
      rcases Act.mem_perform hmem with hold | ⟨text, february, hread⟩
      · exact h schedule hold
      · exact inStep_of_parse hread

theorem inStep_of_mem_after {acts : List Act} (h : schedule ∈ after acts) : schedule.InStep :=
  inStep_of_mem_foldl acts (by simp) schedule h

/-- No act but the making of a schedule has a say in its treatment of February. -/
theorem Act.map_february_perform (schedules : List Schedule) (act : Act) :
    (act.perform schedules).map (·.february) = act.record (schedules.map (·.february)) := by
  cases act with
  | create text february =>
      simp only [perform, record]
      split
      · rename_i created hread
        rw [List.map_append, List.map_singleton, february_of_parse hread]
      · rfl
  | copy place =>
      rw [perform, record, List.map_append, List.getElem?_map, Option.toList_map]
  | assign place text =>
      refine List.ext_getElem? fun index => ?_
      simp only [perform, record, List.getElem?_map, List.getElem?_modify]
      cases schedules[index]? with
      | none => rfl
      | some old =>
          by_cases hplace : place = index
          · simp [hplace, february_run_assign]
          · simp [hplace]

theorem map_february_foldl (acts : List Act) (schedules : List Schedule) :
    (acts.foldl Act.perform schedules).map (·.february) =
      acts.foldl Act.record (schedules.map (·.february)) := by
  induction acts generalizing schedules with
  | nil => rfl
  | cons act rest ih => rw [List.foldl_cons, List.foldl_cons, ih, Act.map_february_perform]

end Schedule

/-! ### Sessions -/

namespace EventStream

variable {schedule : Schedule} {zone : Zone} {instant : DateTime} {stream rest : EventStream}
  {event : ZonedTime} {events : List ZonedTime}

theorem schedule_startingAfter (h : startingAfter schedule zone instant = .ok stream) :
    stream.schedule = schedule := by
  obtain ⟨next, -, rfl⟩ := map_eq_ok.mp h
  rfl

theorem schedule_pull? (h : stream.pull? = .ok (some (event, rest))) :
    rest.schedule = stream.schedule := by
  unfold pull? at h
  split at h
  · cases h
  · obtain ⟨following, hfollowing, heq⟩ := map_eq_ok.mp h
    cases heq
    exact schedule_startingAfter hfollowing

theorem schedule_take {count : Nat} (h : stream.take count = .ok (events, rest)) :
    rest.schedule = stream.schedule := by
  induction count generalizing stream events with
  | zero =>
      cases h
      rfl
  | succ count ih =>
      obtain ⟨pulled, hpull, hpulled⟩ := bind_eq_ok.mp h
      cases pulled with
      | none =>
          cases hpulled
          rfl
      | some pulled =>
          obtain ⟨event, following⟩ := pulled
          obtain ⟨⟨later, left⟩, htake, heq⟩ := bind_eq_ok.mp hpulled
          cases heq
          exact (ih htake).trans (schedule_pull? hpull)

end EventStream

namespace Session

variable {session changed : Session} {command : Command} {reply : Reply} {schedule : Schedule}

/-- The schedule is the current one of the session, or its copy, or that of its stream. -/
def Holds (session : Session) (schedule : Schedule) : Prop :=
  session.current = some schedule ∨ session.saved = some schedule ∨
    ∃ stream, session.stream = some stream ∧ stream.schedule = schedule

theorem schedule_eq_ok_iff : session.schedule = .ok schedule ↔ session.current = some schedule := by
  unfold Session.schedule
  cases session.current with
  | none => simp
  | some current => simp

/-- All that a command does.  The current schedule is the one there was, the copy, or one that
    has just been read; only the current schedule is copied; and the stream changes only where
    one is begun or pulled from. -/
theorem slots_of_perform (h : session.perform command = .ok (reply, changed)) :
    (changed.current = session.current ∨
      ∃ schedule, changed.current = some schedule ∧
        (session.saved = some schedule ∨
          ∃ text february, Schedule.parse text february = .ok schedule)) ∧
    (changed.saved = session.saved ∨ changed.saved = session.current) ∧
    ((∀ events, reply ≠ .events events) ∧ changed.stream = session.stream ∨
      (∃ zone instant schedule stream, command = .begin zone instant ∧
        session.current = some schedule ∧
        EventStream.startingAfter schedule zone instant = .ok stream ∧
        changed.stream = some stream) ∨
      ∃ count stream events rest, command = .pull count ∧ session.stream = some stream ∧
        stream.take count = .ok (events, rest) ∧ reply = .events events ∧
        changed.stream = some rest) := by
  cases command with
  | create text february =>
      obtain ⟨created, hread, hdone⟩ := bind_eq_ok.mp h
      cases hdone
      exact ⟨.inr ⟨created, rfl, .inr ⟨text, february, mapError_eq_ok.mp hread⟩⟩, .inl rfl,
        .inl ⟨nofun, rfl⟩⟩
  | reparse text =>
      obtain ⟨current, -, hrest⟩ := bind_eq_ok.mp h
      obtain ⟨reread, hread, hdone⟩ := bind_eq_ok.mp hrest
      cases hdone
      rw [mapError_eq_ok, Schedule.reparse_eq_parse] at hread
      exact ⟨.inr ⟨reread, rfl, .inr ⟨text, current.february, hread⟩⟩, .inl rfl,
        .inl ⟨nofun, rfl⟩⟩
  | next t | isEvent t | text | equalsSaved =>
      obtain ⟨current, -, hdone⟩ := bind_eq_ok.mp h
      cases hdone
      exact ⟨.inl rfl, .inl rfl, .inl ⟨nofun, rfl⟩⟩
  | save =>
      obtain ⟨current, hcurrent, hdone⟩ := bind_eq_ok.mp h
      cases hdone
      exact ⟨.inl rfl, .inr (schedule_eq_ok_iff.mp hcurrent).symm, .inl ⟨nofun, rfl⟩⟩
  | restore =>
      obtain ⟨current, -, hrest⟩ := bind_eq_ok.mp h
      split at hrest
      · rename_i saved hsaved
        cases hrest
        exact ⟨.inr ⟨saved, rfl, .inl hsaved⟩, .inl rfl, .inl ⟨nofun, rfl⟩⟩
      · cases hrest
  | begin zone instant =>
      obtain ⟨current, hcurrent, hrest⟩ := bind_eq_ok.mp h
      obtain ⟨stream, hstream, hdone⟩ := bind_eq_ok.mp hrest
      cases hdone
      exact ⟨.inl rfl, .inl rfl, .inr (.inl ⟨zone, instant, current, stream, rfl,
        schedule_eq_ok_iff.mp hcurrent, mapError_eq_ok.mp hstream, rfl⟩)⟩
  | pull count =>
      obtain ⟨current, -, hrest⟩ := bind_eq_ok.mp h
      split at hrest
      · rename_i stream hstream
        obtain ⟨⟨events, rest⟩, htake, hdone⟩ := bind_eq_ok.mp hrest
        cases hdone
        exact ⟨.inl rfl, .inl rfl, .inr (.inr ⟨count, stream, events, rest, rfl, hstream,
          mapError_eq_ok.mp htake, rfl, rfl⟩)⟩
      · cases hrest

/-- A schedule that a session holds after a command was held before or has just been read. -/
theorem holds_of_perform (h : session.perform command = .ok (reply, changed))
    (hholds : changed.Holds schedule) :
    session.Holds schedule ∨ ∃ text february, Schedule.parse text february = .ok schedule := by
  obtain ⟨hcurrent, hsaved, hstream⟩ := slots_of_perform h
  rcases hholds with hnow | hnow | ⟨stream, hnow, rfl⟩
  · rcases hcurrent with hsame | ⟨other, hother, hsource⟩
    · exact .inl (.inl (hsame.symm.trans hnow))
    · obtain rfl := Option.some.inj (hother.symm.trans hnow)
      exact hsource.imp_left fun hcopy => .inr (.inl hcopy)
  · rcases hsaved with hsame | hcopied
    · exact .inl (.inr (.inl (hsame.symm.trans hnow)))
    · exact .inl (.inl (hcopied.symm.trans hnow))
  · rcases hstream with ⟨-, hsame⟩ | ⟨zone, instant, current, begun, -, hschedule, hbegun, hstart⟩ |
      ⟨count, before, events, rest, -, hbefore, htake, -, hleft⟩
    · exact .inl (.inr (.inr ⟨stream, hsame.symm.trans hnow, rfl⟩))
    · -- the stream has a copy of the current schedule
      obtain rfl := Option.some.inj (hstart.symm.trans hnow)
      rw [EventStream.schedule_startingAfter hbegun]
      exact .inl (.inl hschedule)
    · obtain rfl := Option.some.inj (hleft.symm.trans hnow)
      exact .inl (.inr (.inr ⟨before, hbefore, (EventStream.schedule_take htake).symm⟩))

theorem inStep_of_run (commands : List Command)
    (h : ∀ schedule, session.Holds schedule → schedule.InStep) :
    ∀ outcome ∈ session.run commands,
      ∀ schedule, outcome.2.Holds schedule → schedule.InStep := by
  induction commands generalizing session with
  | nil => simp [run]
  | cons command rest ih =>
      intro outcome hmem
      unfold run at hmem
      split at hmem
      · rename_i reply changed hperform
        have hchanged : ∀ schedule, changed.Holds schedule → schedule.InStep := by
          intro schedule hholds
          rcases holds_of_perform hperform hholds with hold | ⟨text, february, hread⟩
          · exact h schedule hold
          · exact Schedule.inStep_of_parse hread
        rcases List.mem_cons.mp hmem with rfl | hlater
        · exact hchanged
        · exact ih hchanged outcome hlater
      · -- Nothing comes after an overflow.
        obtain rfl := List.mem_singleton.mp hmem
        exact h
      · -- A command that is refused leaves the session as it was.
        rcases List.mem_cons.mp hmem with rfl | hlater
        · exact h
        · exact ih h outcome hlater

theorem not_holds_empty (schedule : Schedule) : ¬ empty.Holds schedule := by
  simp [Holds, empty]

end Session

/-- No history parts a schedule from its text.  Every schedule in it is what its text is read
    as, with the treatment of February that it was made with.  A text that is rejected leaves
    the schedule in place unchanged, and one that is accepted makes it equal to a new schedule
    with the same treatment of February.  So two schedules, whatever their histories, are equal
    if and only if their texts and their treatments of February are.  The schedules of a
    session are in step with their texts after every command. -/
theorem histories_keep_schedules_in_step (acts : List Schedule.Act) :
    (∀ schedule ∈ Schedule.after acts,
      Schedule.parse schedule.text schedule.february = .ok schedule) ∧
    (Schedule.after acts).map (·.february) = Schedule.madeWith acts ∧
    (∀ (schedule : Schedule) (text : String),
      schedule.reparse text = Schedule.parse text schedule.february ∧
      (∀ error, Schedule.parse text schedule.february = .error error →
        (Schedule.assign text).run.run schedule = (.error error, schedule)) ∧
      ∀ changed, Schedule.parse text schedule.february = .ok changed →
        (Schedule.assign text).run.run schedule = (.ok (), changed)) ∧
    (∀ others, ∀ schedule ∈ Schedule.after acts, ∀ other ∈ Schedule.after others,
      schedule = other ↔ schedule.text = other.text ∧ schedule.february = other.february) ∧
    ∀ commands, ∀ outcome ∈ Session.empty.run commands, ∀ schedule,
      outcome.2.Holds schedule →
        Schedule.parse schedule.text schedule.february = .ok schedule := by
  refine ⟨fun schedule hmem => Schedule.inStep_of_mem_after hmem,
    Schedule.map_february_foldl acts [], fun schedule text => ⟨schedule.reparse_eq_parse text, ?_, ?_⟩,
    ?_, fun commands => ?_⟩
  · exact fun error hread => Schedule.run_assign_of_error hread
  · exact fun changed hread => Schedule.run_assign_of_ok hread
  · intro others schedule hmem other hother
    exact (Schedule.inStep_of_mem_after hmem).eq_iff (Schedule.inStep_of_mem_after hother)
  · exact Session.inStep_of_run commands fun schedule hholds =>
      absurd hholds (Session.not_holds_empty schedule)

/-- A copy goes its own way: a rejected text leaves the schedule it was made from as it was,
    and an accepted one changes the copy alone, which keeps its treatment of February. -/
theorem histories_keep_schedules_in_step_of_a_copy :
    ∃ original copy,
      Schedule.after [.create "@daily" .alwaysShort, .copy 0, .assign 0 "61 * * *",
        .assign 1 "@hourly"] = [original, copy] ∧
      Schedule.parse "@daily" .alwaysShort = .ok original ∧
      Schedule.parse "@hourly" .alwaysShort = .ok copy := by
  have hafter : Schedule.after [.create "@daily" .alwaysShort, .copy 0, .assign 0 "61 * * *",
      .assign 1 "@hourly"] =
      [⟨"@daily", .alwaysShort, [⟨.items (.ofList [.value 0]), .items (.ofList [.value 0]),
          .all, .all, .omit, .all⟩]⟩,
        ⟨"@hourly", .alwaysShort, [⟨.items (.ofList [.value 0]), .all, .all, .all, .omit,
          .all⟩]⟩] := by
    decide +kernel
  have hparse := (histories_keep_schedules_in_step [.create "@daily" .alwaysShort, .copy 0,
    .assign 0 "61 * * *", .assign 1 "@hourly"]).1
  rw [hafter] at hparse
  exact ⟨_, _, hafter, hparse _ List.mem_cons_self,
    hparse _ (List.mem_cons_of_mem _ List.mem_cons_self)⟩

end CronSchedule
