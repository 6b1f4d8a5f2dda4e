import Mathlib.Data.List.SplitLengths
import CronSchedule.Session
import CronSchedule.Proofs.Schedule.History
import CronSchedule.Proofs.Zone.Stream

/-!
# Pulling from a stream

What is left of a stream after some pulls is again a stream that starts after an instant,
and its run is the rest of the run.  So it does not matter in which portions the events are
pulled, and behind the last event there is nothing, however often one asks.

Within a session other commands come between the pulls.  Each of them leaves the stream as it
was, even one that gives the schedule a new text, since the stream goes by a schedule of its
own, whether that is a copy or was handed over to it.  The pulls therefore share out the run
as if nothing had come between them.
-/

namespace CronSchedule

open Outcome

/-! ### One stream -/

namespace EventStream

/-- Pulling once and then again gives what one pull for both gives, and leaves the same. -/
theorem take_add (stream : EventStream) (first more : Nat) :
    stream.take (first + more) = (do
      let (given, rest) ← stream.take first
      let (later, left) ← rest.take more
      .ok (given ++ later, left)) := by
  induction first generalizing stream with
  | zero =>
      rw [Nat.zero_add]
      dsimp only [take, bind, Except.bind]
      cases stream.take more <;> rfl
  | succ first ih =>
      rw [Nat.add_right_comm]
      match hpull : stream.pull? with
      | .error overflow =>
          rw [take, take, hpull]
          rfl
      | .ok none =>
          rw [take_of_pull?_eq_none hpull, take_of_pull?_eq_none hpull]
          dsimp only [bind, Except.bind]
          rw [take_of_pull?_eq_none hpull]
          rfl
      | .ok (some (event, rest)) =>
          rw [take_succ_of_pull?_eq_some hpull, take_succ_of_pull?_eq_some hpull, ih rest]
          cases rest.take first with
          | error overflow => rfl
          | ok taken =>
              dsimp only [bind, Except.bind, Except.map]
              cases taken.2.take more <;> rfl

end EventStream

namespace Schedule.EventRun

variable {schedule : Schedule} {zone : Zone} {instant : DateTime} {times : List ZonedTime}

theorem nextIn?_eq_getElem?_add_one (h : schedule.EventRun zone instant times) {place : Nat}
    {time : ZonedTime} (hplace : times[place]? = some time) :
    schedule.nextIn? zone time.instant = .ok times[place + 1]? := by
  induction h generalizing place with
  | ended => cases hplace
  | event hnext rest ih =>
      cases place with
      | zero =>
          cases hplace
          rw [rest.next_eq_head?, List.getElem?_cons_succ, List.head?_eq_getElem?]
      | succ place => exact ih hplace

theorem exists_pull? (h : schedule.EventRun zone instant times) :
    ∃ pulled, EventStream.pull? ⟨schedule, zone, times.head?⟩ = .ok pulled ∧
      pulled.map (·.1) = times.head? := by
  cases h with
  | ended => exact ⟨none, rfl, rfl⟩
  | event hnext rest => exact ⟨_, rest.pull?_eq, rfl⟩

/-- One pull after `count` others. -/
theorem exists_pull?_take (h : schedule.EventRun zone instant times) (count : Nat) :
    ∃ pulled, EventStream.pull? ⟨schedule, zone, (times.drop count).head?⟩ = .ok pulled ∧
      pulled.map (·.1) = times[count]? := by
  obtain ⟨later, hrun⟩ := h.exists_drop count
  rw [← List.head?_drop]
  exact hrun.exists_pull?

end Schedule.EventRun

/-! ### Streams in sessions -/

/-- The command makes a new stream. -/
def Command.beginsStream : Command → Bool
  | .begin _ _ => true
  | _ => false

/-- How many events the command asks for, if it pulls. -/
def Command.asked? : Command → Option Nat
  | .pull count => some count
  | _ => none

/-- The events in the answer to a pull. -/
def Reply.events? : Reply → Option (List ZonedTime)
  | .events given => some given
  | _ => none

namespace Session

/-- The answers to the pulls of a run of commands, one after the other. -/
def pulled (outcomes : List (Except Refusal Reply × Session)) : List (List ZonedTime) :=
  outcomes.filterMap fun outcome => outcome.1.toOption.bind Reply.events?

variable {session changed : Session} {command : Command} {reply : Reply} {stream : EventStream}
  {outcomes : List (Except Refusal Reply × Session)}

theorem pulled_cons_events (events : List ZonedTime) (session : Session) :
    pulled ((.ok (.events events), session) :: outcomes) = events :: pulled outcomes :=
  List.filterMap_cons_some rfl

theorem pulled_cons_other (h : reply.events? = none) (session : Session) :
    pulled ((.ok reply, session) :: outcomes) = pulled outcomes :=
  List.filterMap_cons_none h

theorem pulled_cons_refused (refusal : Refusal) (session : Session) :
    pulled ((.error refusal, session) :: outcomes) = pulled outcomes :=
  List.filterMap_cons_none rfl

/-- The session has a stream at hand, which can be pulled from. -/
def Streams (session : Session) (stream : EventStream) : Prop :=
  session.current ≠ none ∧ session.stream = some stream

theorem schedule_of_current (h : session.current ≠ none) :
    ∃ schedule, session.schedule = .ok schedule := by
  obtain ⟨schedule, hschedule⟩ := Option.ne_none_iff_exists'.mp h
  exact ⟨schedule, schedule_eq_ok_iff.mpr hschedule⟩

/-- A pull takes its events from the stream and leaves the session with what is left of it. -/
theorem perform_pull {count : Nat} {events : List ZonedTime} {rest : EventStream}
    (h : session.Streams stream) (htake : stream.take count = .ok (events, rest)) :
    session.perform (.pull count) =
      .ok (.events events, { session with stream := some rest }) := by
  obtain ⟨schedule, hschedule⟩ := schedule_of_current h.1
  simp only [perform, hschedule, h.2, htake]
  rfl

/-- Any other command has no events to answer and leaves the stream as it was. -/
theorem streams_of_perform (h : session.Streams stream) (hbegins : command.beginsStream = false)
    (hasked : command.asked? = none) (hperform : session.perform command = .ok (reply, changed)) :
    reply.events? = none ∧ changed.Streams stream := by
  obtain ⟨hcurrent, -, ⟨hreply, hstream⟩ | ⟨_, _, _, _, rfl, -⟩ | ⟨_, _, _, _, rfl, -⟩⟩ :=
    slots_of_perform hperform
  · refine ⟨?_, ?_, hstream.trans h.2⟩
    · cases reply with
      | events given => exact absurd rfl (hreply given)
      | done | event | truth | text => rfl
    · rcases hcurrent with hsame | ⟨schedule, hschedule, -⟩
      · rw [hsame]
        exact h.1
      · rw [hschedule]
        exact Option.some_ne_none _
  · cases hbegins
  · cases hasked

theorem schedule_ne_overflow {overflow : Overflow} :
    session.schedule ≠ .error (.overflow overflow) := by
  unfold Session.schedule
  cases session.current <;> exact nofun

/-- Only a stream looks for events at instants. -/
theorem perform_ne_overflow {overflow : Overflow} (hbegins : command.beginsStream = false)
    (hasked : command.asked? = none) :
    session.perform command ≠ .error (.overflow overflow) := by
  intro h
  cases command with
  | create text february =>
      rcases bind_eq_error.mp h with hread | ⟨_, -, hdone⟩
      · obtain ⟨_, -, hcause⟩ := mapError_eq_error.mp hread
        cases hcause
      · cases hdone
  | reparse text =>
      rcases bind_eq_error.mp h with hcurrent | ⟨_, -, hrest⟩
      · exact schedule_ne_overflow hcurrent
      · rcases bind_eq_error.mp hrest with hread | ⟨_, -, hdone⟩
        · obtain ⟨_, -, hcause⟩ := mapError_eq_error.mp hread
          cases hcause
        · cases hdone
  | next t | isEvent t | text | save | equalsSaved =>
      rcases bind_eq_error.mp h with hcurrent | ⟨_, -, hdone⟩
      · exact schedule_ne_overflow hcurrent
      · cases hdone
  | restore =>
      rcases bind_eq_error.mp h with hcurrent | ⟨_, -, hrest⟩
      · exact schedule_ne_overflow hcurrent
      · split at hrest <;> cases hrest
  | begin zone instant => cases hbegins
  | pull count => cases hasked

variable {schedule : Schedule} {zone : Zone}

theorem pulled_run_eq_splitLengths (commands : List Command)
    (hcommands : ∀ command ∈ commands, command.beginsStream = false) {instant : DateTime}
    {times : List ZonedTime} (hrun : schedule.EventRun zone instant times)
    (h : session.Streams ⟨schedule, zone, times.head?⟩) :
    pulled (session.run commands) = (commands.filterMap Command.asked?).splitLengths times := by
  -- before each command the stream has what is left of the run
  induction commands generalizing session instant times with
  | nil => rfl
  | cons command rest ih =>
      have hrest := fun other hmem => hcommands other (List.mem_cons_of_mem _ hmem)
      cases hasked : command.asked? with
      | some count =>
          obtain rfl : command = .pull count := by
            cases command <;> cases hasked
            rfl
          obtain ⟨later, hlater⟩ := hrun.exists_drop count
          have hleft : Streams
              { session with stream := some ⟨schedule, zone, (times.drop count).head?⟩ }
              ⟨schedule, zone, (times.drop count).head?⟩ := ⟨h.1, rfl⟩
          have hpulled := ih hrest hlater hleft
          rw [List.filterMap_cons_some hasked, List.splitLengths_cons, ← hpulled, run,
            perform_pull h (hrun.take_eq count)]
          exact pulled_cons_events _ _
      | none =>
          have hbegins := hcommands command List.mem_cons_self
          rw [List.filterMap_cons_none hasked]
          unfold run
          split
          · rename_i reply changed hperform
            obtain ⟨hevents, hchanged⟩ := streams_of_perform h hbegins hasked hperform
            rw [pulled_cons_other hevents, ih hrest hrun hchanged]
          · rename_i overflow hperform
            exact absurd hperform (perform_ne_overflow hbegins hasked)
          · -- a command that is refused leaves the session as it was
            rw [pulled_cons_refused, ih hrest hrun h]

end Session

/-- A stream gives the events of its run and no others.  The run is finite: its first event is
    the next one after the instant, every other is the next one after that before it, each is
    later than the one before, and it ends where no next event is found.  The answer to every
    pull is the event at that place of the run, or none once the run has ended.  It makes no
    difference in which portions the events are pulled.  Nor does it matter what a session does
    between the pulls: with new texts for the schedule, accepted or rejected, or with other
    schedules in its place, the pulls still share out the same run.  The instant must not be so
    close to the ends of the calendar that the offsets lead beyond them. -/
theorem EventStream.pulls_give_run {text : String} {february : February} {schedule : Schedule}
    (h : Schedule.parse text february = .ok schedule) (zone : Zone) (instant : DateTime)
    (hspan : zone.KeepsInSpan instant) :
    ∃ (stream : EventStream) (times : List ZonedTime),
      startingAfter schedule zone instant = .ok stream ∧
      (schedule.nextIn? zone instant = .ok times[0]? ∧
        ∀ place time, times[place]? = some time →
          schedule.nextIn? zone time.instant = .ok times[place + 1]?) ∧
      ((∀ time ∈ times, instant < time.instant) ∧
        times.Pairwise fun early late => early.instant < late.instant) ∧
      (∀ count, ∃ rest pulled, stream.take count = .ok (times.take count, rest) ∧
        rest.pull? = .ok pulled ∧ pulled.map (·.1) = times[count]?) ∧
      (∀ first more, ∃ given rest later left, stream.take first = .ok (given, rest) ∧
        rest.take more = .ok (later, left) ∧
          stream.take (first + more) = .ok (given ++ later, left)) ∧
      ∀ (session : Session) (commands : List Command), session.current = some schedule →
        (∀ command ∈ commands, command.beginsStream = false) →
          Session.pulled (session.run (.begin zone instant :: commands)) =
            (commands.filterMap Command.asked?).splitLengths times := by
  have hwf := Schedule.wellFormed_of_parse h
  obtain ⟨times, hrun⟩ :=
    Schedule.exists_eventRun hwf zone instant (Schedule.searchable_of_keepsInSpan hspan)
  refine ⟨_, times, hrun.startingAfter_eq, ⟨?_, fun place time => hrun.nextIn?_eq_getElem?_add_one⟩,
    ⟨hrun.after hwf, hrun.ascending hwf⟩, fun count => ?_, fun first more => ?_,
    fun session commands hcurrent hcommands => ?_⟩
  · rw [hrun.next_eq_head?, List.head?_eq_getElem?]
  · obtain ⟨pulled, hpull, hpulled⟩ := hrun.exists_pull?_take count
    exact ⟨_, pulled, hrun.take_eq count, hpull, hpulled⟩
  · obtain ⟨later, hlater⟩ := hrun.exists_drop first
    refine ⟨_, _, _, _, hrun.take_eq first, hlater.take_eq more, ?_⟩
    rw [take_add, hrun.take_eq first]
    dsimp only [bind, Except.bind]
    rw [hlater.take_eq more]
  · have hbegun : session.perform (.begin zone instant) =
        .ok (.done, { session with stream := some ⟨schedule, zone, times.head?⟩ }) := by
      rw [Session.perform, Session.schedule_eq_ok_iff.mpr hcurrent]
      dsimp only [bind, Except.bind]
      rw [hrun.startingAfter_eq]
      rfl
    rw [Session.run, hbegun]
    dsimp only
    rw [Session.pulled_cons_other rfl]
    refine Session.pulled_run_eq_splitLengths commands hcommands hrun ⟨?_, rfl⟩
    rw [hcurrent]
    exact Option.some_ne_none _

/-- Half past one is given twice on the day on which clocks go back, and once on the next.  In
    between the schedule gets a new text and then a bad one. -/
theorem EventStream.pulls_give_run_through_repeated_hour :
    ∃ schedule, Schedule.parse "30 1 3,4 11 ? 2024" .leapAware = .ok schedule ∧
      easternIn2024.KeepsInSpan (fallBack2024.addSeconds (-3600)) ∧
      ∃ times : List ZonedTime,
        times.take 4 = [⟨fallBack2024.addSeconds (-1800), -14400⟩,
          ⟨fallBack2024.addSeconds 1800, -18000⟩, ⟨fallBack2024.addSeconds 88200, -18000⟩] ∧
        Session.pulled (Session.run ⟨some schedule, none, none⟩
          [.begin easternIn2024 (fallBack2024.addSeconds (-3600)), .pull 1, .reparse "@hourly",
            .pull 1, .reparse "61 * * * *", .pull 5, .pull 1]) =
          [1, 1, 5, 1].splitLengths times := by
  have hread : Schedule.parse "30 1 3,4 11 ? 2024" .leapAware = .ok ⟨"30 1 3,4 11 ? 2024",
      .leapAware, [⟨.items (.ofList [.value 30]), .items (.ofList [.value 1]),
        .items (.ofList [.value 3, .value 4]), .items (.ofList [.value 11]), .omit,
        .items (.ofList [.value 2024])⟩]⟩ := by
    decide +kernel
  have hspan : easternIn2024.KeepsInSpan (fallBack2024.addSeconds (-3600)) := by decide +kernel
  obtain ⟨stream, times, hstream, -, -, htake, -, hpulled⟩ := pulls_give_run hread easternIn2024
    (fallBack2024.addSeconds (-3600)) hspan
  obtain ⟨rest, -, hrest, -⟩ := htake 4
  have hlist : (startingAfter ⟨"30 1 3,4 11 ? 2024", .leapAware,
      [⟨.items (.ofList [.value 30]), .items (.ofList [.value 1]),
        .items (.ofList [.value 3, .value 4]), .items (.ofList [.value 11]), .omit,
        .items (.ofList [.value 2024])⟩]⟩ easternIn2024 (fallBack2024.addSeconds (-3600)) >>=
          fun stream => (stream.take 4).map (·.1)) =
        .ok [⟨fallBack2024.addSeconds (-1800), -14400⟩,
          ⟨fallBack2024.addSeconds 1800, -18000⟩, ⟨fallBack2024.addSeconds 88200, -18000⟩] := by
    decide +kernel
  rw [hstream] at hlist
  have htaken : (stream.take 4).map (·.1) = .ok (times.take 4) := by rw [hrest]; rfl
  exact ⟨_, hread, hspan, times, Except.ok.inj (htaken.symm.trans hlist),
    hpulled _ [.pull 1, .reparse "@hourly", .pull 1, .reparse "61 * * * *", .pull 5, .pull 1] rfl
      (by decide)⟩

/-- From the first point of the calendar no stream can be begun in the zone in which clocks go
    back by one hour in 2024, and a session in which it is begun has nothing to pull from. -/
theorem EventStream.pulls_break_off_at_earliest :
    Schedule.parse "30 0 1 1 ? 2025" .leapAware = .ok newYear2025 ∧
      DateTime.earliest.InSpan ∧
      (¬ ∃ stream, startingAfter newYear2025 backAtNewYear DateTime.earliest = .ok stream) ∧
      Session.pulled (Session.run ⟨some newYear2025, none, none⟩
        [.begin backAtNewYear DateTime.earliest, .pull 1]) = [] := by
  refine ⟨parse_newYear2025, by decide +kernel, ?_, by decide +kernel⟩
  rintro ⟨stream, hstream⟩
  obtain ⟨next, hnext, -⟩ := map_eq_ok.mp hstream
  rw [Schedule.nextIn?_newYear2025_from_earliest] at hnext
  cases hnext

end CronSchedule
