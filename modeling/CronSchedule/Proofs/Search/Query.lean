import CronSchedule.Proofs.Search.First

/-!
# Asking about one minute

Whether a minute is that of an event is found out by the search too: it starts at the
beginning of the minute, and has to end where it started.  A search ends where it
started exactly if nothing rejects the start, so the answer is that of the patterns
themselves, and an alternative that goes on to a later point takes nothing away from one
that stays.  The search for the next event, started one second earlier, then finds the
minute as well.
-/

namespace CronSchedule

/-- A search stays where it starts exactly if the expression accepts the start and the last
    year is not over. -/
theorem Expression.firstFrom?_eq_start_iff {expression : Expression} {february : February}
    {t : DateTime} :
    expression.firstFrom? february t = some t ↔
      t.year ≤ lastYear ∧ expression.Accepts february t := by
  constructor
  · intro h
    exact ⟨DateTime.year_le_lastYear_iff.mpr (firstFrom?_bounds h).2, firstFrom?_accepts h⟩
  · rintro ⟨hyear, haccepts⟩
    rw [firstFrom?, if_pos (DateTime.year_le_lastYear_iff.mp hyear),
      step_eq_stable_iff.mpr haccepts]

namespace Schedule

variable {schedule : Schedule} {t : DateTime}

theorem isEvent_iff_fires : schedule.isEvent t ↔ schedule.Fires (t.truncate .minute) := by
  rw [fires_iff]
  simp only [isEvent, List.any_eq_true, beq_iff_eq]
  constructor
  · rintro ⟨expression, hmem, hstays⟩
    obtain ⟨hyear, haccepts⟩ := Expression.firstFrom?_eq_start_iff.mp hstays
    exact ⟨expression, hmem, CalendarUnit.start_nano _ _, hyear, haccepts⟩
  · rintro ⟨expression, hmem, -, hyear, haccepts⟩
    exact ⟨expression, hmem, Expression.firstFrom?_eq_start_iff.mpr ⟨hyear, haccepts⟩⟩

/-- Seconds have no field of their own in an expression, so every event is at the start of
    a minute. -/
theorem Fires.second_eq_zero (h : schedule.Fires t) : t.second = 0 := by
  obtain ⟨-, -, expression, -, haccepts⟩ := h
  have hstart : (Pattern.omit).accepts .second schedule.february t := haccepts .second
  simpa [Pattern.accepts] using hstart

theorem Fires.truncate_minute (h : schedule.Fires t) : t.truncate .minute = t := by
  have hsecond := h.second_eq_zero
  have hnano : t.nano.val = 0 := h.1
  rw [DateTime.ext_iff, hnano]
  refine ⟨?_, CalendarUnit.start_nano _ _⟩
  show 60 * (t.seconds / 60) = t.seconds
  simp only [DateTime.second, DateTime.secondOfDay] at hsecond
  omega

theorem Fires.isEvent (h : schedule.Fires t) : schedule.isEvent t := by
  rw [isEvent_iff_fires, h.truncate_minute]
  exact h

/-- Between a whole second and the one before it nothing else can fire. -/
theorem next?_second_before_iff (hwf : schedule.WellFormed) (hwhole : t.nano.val = 0) :
    schedule.next? (t.addSeconds (-1)) = some t ↔ schedule.Fires t := by
  rw [next?_eq_some_iff hwf]
  refine ⟨IsFirstAfter.holds, fun hfires => ⟨hfires, ?_, fun other hother hafter => ?_⟩⟩
  · exact .inl (Int.sub_one_lt_of_le (Int.le_refl t.seconds))
  · have hsame : CalendarUnit.second.start
        (CalendarUnit.second.index (t.addSeconds (-1)) + 1) = t :=
      DateTime.ext_iff.mpr ⟨Int.neg_add_cancel_right t.seconds 1, hwhole.symm⟩
    -- another event is a whole second as well, hence not before the second after `t - 1`
    rw [← hsame]
    exact (DateTime.next_second_le hother.1).mp hafter

/-- A minute is that of an event exactly if it begins in the last year or before and all
    patterns of one of the expressions accept its beginning; and exactly if the next event
    after the second before it is its beginning. -/
theorem isEvent_iff_next?_second_before {text : String} {february : February}
    (h : Schedule.parse text february = .ok schedule) (t : DateTime) :
    (schedule.isEvent t ↔
        (t.truncate .minute).year ≤ lastYear ∧ schedule.Accepts (t.truncate .minute)) ∧
      (schedule.isEvent t ↔
        schedule.next? ((t.truncate .minute).addSeconds (-1)) = some (t.truncate .minute)) := by
  have hwhole : (t.truncate .minute).nano.val = 0 := CalendarUnit.start_nano _ _
  constructor
  · rw [isEvent_iff_fires]
    exact and_iff_right hwhole
  · rw [next?_second_before_iff (wellFormed_of_parse h) hwhole]
    exact isEvent_iff_fires

/-- On 29 February 2024 the first alternative, for which a February has 28 days, goes on to
    the end of March; the second one has its event in the minute asked about. -/
theorem isEvent_iff_next?_on_leap_day :
    ∃ schedule, Schedule.parse "0 0 L * ?|0 0 29 2 ?" .alwaysShort = .ok schedule ∧
      schedule.isEvent ((DateTime.startOfDay (Date.toDayNumber ⟨2024, 2, 29⟩)).addSeconds 42) ∧
      schedule.next? ((DateTime.startOfDay (Date.toDayNumber ⟨2024, 2, 29⟩)).addSeconds (-1)) =
        some (DateTime.startOfDay (Date.toDayNumber ⟨2024, 2, 29⟩)) := by
  have hread : Schedule.parse "0 0 L * ?|0 0 29 2 ?" .alwaysShort = .ok ⟨"0 0 L * ?|0 0 29 2 ?",
      .alwaysShort, [⟨.items (.ofList [.value 0]), .items (.ofList [.value 0]), .lastDay, .all,
        .omit, .all⟩, ⟨.items (.ofList [.value 0]), .items (.ofList [.value 0]),
        .items (.ofList [.value 29]), .items (.ofList [.value 2]), .omit, .all⟩]⟩ := by
    decide +kernel
  obtain ⟨haccepts, hnext⟩ := isEvent_iff_next?_second_before hread
    ((DateTime.startOfDay (Date.toDayNumber ⟨2024, 2, 29⟩)).addSeconds 42)
  have hevent := haccepts.mpr (by decide +kernel)
  exact ⟨_, hread, hevent, hnext.mp hevent⟩

end Schedule

end CronSchedule
