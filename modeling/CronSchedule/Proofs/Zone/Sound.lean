import CronSchedule.Proofs.Search.Query
import CronSchedule.Proofs.Zone.NextEvent

/-!
# What is found is an event

Either of the two searches may give the result, and the second one starts from a local
time that can be earlier than the present one.  Both read the local times that they pass
back into instants after the present one only, so in any zone, however often it shows a
local time, the result lies ahead and clocks there show a minute of the schedule.
-/

namespace CronSchedule

/-- Clocks go back by one hour at one o'clock in universal time and again at two, so that
    they show the half hour after midnight three times. -/
def backTwice : Zone where
  base := 0
  transitions := [⟨newYear2024.addSeconds 3600, -3600⟩, ⟨newYear2024.addSeconds 7200, -7200⟩]
  ascending := by decide

namespace Schedule

variable {schedule : Schedule} {zone : Zone} {instant : DateTime}

/-- What a search finds is shown later than the local time from which it starts. -/
theorem localTime_inSpan_of_nextIn? {time : ZonedTime} (hwf : schedule.WellFormed)
    (h : schedule.nextIn? zone instant = .ok (some time)) :
    (zone.localTime time.instant).InSpan := by
  obtain ⟨hshown, hshifted⟩ := startsInSpan_of_nextIn? hwf h
  obtain ⟨-, hmet, -⟩ := nextIn?_eq_some hwf h
  refine ⟨?_, DateTime.lt_beyondLatest hmet.fires.2.1⟩
  rcases hmet with hmet | ⟨hit, hhit, hoffset, hmet⟩
  · exact Std.le_trans hshown.1 (Std.le_of_lt hmet.ahead)
  · exact Std.le_trans (hshifted hit hhit hoffset).1 (Std.le_of_lt hmet.ahead)

theorem FiresIn.isEventIn {t : DateTime} (h : schedule.FiresIn zone t)
    (hspan : (zone.localTime t).InSpan) : schedule.isEventIn zone t = .ok true := by
  have hshown : (zone.zoned t).shownInSpan = .ok (zone.localTime t) :=
    ZonedTime.shownInSpan_of_inSpan hspan
  rw [Schedule.isEventIn, hshown]
  exact congrArg Except.ok (Fires.isEvent h)

/-- In every zone the next event is an instant after the present one, with the offset in
    force there; clocks show at it the start of a minute, in the last year or before, which
    one of the alternatives accepts, and the schedule says that this minute is one of its
    own. -/
theorem nextIn?_is_event_ahead {text : String} {february : February} {time : ZonedTime}
    (h : Schedule.parse text february = .ok schedule)
    (hnext : schedule.nextIn? zone instant = .ok (some time)) :
    instant < time.instant ∧ time.offset = zone.offsetAt time.instant ∧
      time.shown.second = 0 ∧ time.shown.nano.val = 0 ∧ time.shown.year ≤ lastYear ∧
        schedule.FiresIn zone time.instant ∧
          schedule.isEventIn zone time.instant = .ok true := by
  have hwf := wellFormed_of_parse h
  obtain ⟨heq, hmet, -⟩ := nextIn?_eq_some hwf hnext
  have hfires : schedule.Fires time.shown := by
    rw [heq]
    exact hmet.fires
  have hoffset : time.offset = zone.offsetAt time.instant := congrArg ZonedTime.offset heq
  exact ⟨hmet.after, hoffset, hfires.second_eq_zero, hfires.1, hfires.2.1, hmet.fires,
    hmet.fires.isEventIn (localTime_inSpan_of_nextIn? hwf hnext)⟩

/-- Half past midnight is shown for the first time before the present instant and then two
    times more; the second search, from a local time of the day before, ends at the last. -/
theorem nextIn?_is_event_ahead_third_time :
    ∃ schedule, Schedule.parse "30 0 * * ?" .leapAware = .ok schedule ∧
      schedule.nextIn? backTwice (newYear2024.addSeconds 2700) =
        .ok (some ⟨newYear2024.addSeconds 9000, -7200⟩) ∧
      newYear2024.addSeconds 2700 < newYear2024.addSeconds 9000 ∧
      schedule.FiresIn backTwice (newYear2024.addSeconds 9000) ∧
      schedule.isEventIn backTwice (newYear2024.addSeconds 9000) = .ok true := by
  have hread : Schedule.parse "30 0 * * ?" .leapAware = .ok ⟨"30 0 * * ?", .leapAware,
      [⟨.items (.ofList [.value 30]), .items (.ofList [.value 0]), .all, .all, .omit, .all⟩]⟩ := by
    decide +kernel
  have hnext : Schedule.nextIn? ⟨"30 0 * * ?", .leapAware, [⟨.items (.ofList [.value 30]),
      .items (.ofList [.value 0]), .all, .all, .omit, .all⟩]⟩ backTwice
        (newYear2024.addSeconds 2700) = .ok (some ⟨newYear2024.addSeconds 9000, -7200⟩) := by
    decide +kernel
  obtain ⟨hafter, -, -, -, -, hfires, hevent⟩ := nextIn?_is_event_ahead hread hnext
  exact ⟨_, hread, hnext, hafter, hfires, hevent⟩

end Schedule

end CronSchedule
