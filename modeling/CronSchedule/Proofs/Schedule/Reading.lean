import CronSchedule.Schedule

/-!
# Schedules that were read

A schedule holds its text and, beside it, what the text was read as.  That schedules are
compared, and that one can be written as its text alone, counts on the two being in step:
`Schedule.InStep`.
-/

namespace CronSchedule.Schedule

variable {schedule other : Schedule} {text : String} {february : February}

theorem parse_eq_ok_iff :
    parse text february = .ok schedule ↔
      readAlternatives text.toList = .ok schedule.alternatives ∧
        schedule.text = text ∧ schedule.february = february := by
  unfold parse
  constructor
  · intro h
    split at h
    · rename_i alternatives hread
      cases h
      exact ⟨hread, rfl, rfl⟩
    · cases h
  · rintro ⟨hread, rfl, rfl⟩
    rw [hread]

theorem february_of_parse (h : parse text february = .ok schedule) :
    schedule.february = february :=
  (parse_eq_ok_iff.mp h).2.2

theorem reparse_eq_parse (schedule : Schedule) (text : String) :
    schedule.reparse text = parse text schedule.february := by
  unfold reparse parse
  cases readAlternatives text.toList <;> rfl

/-- The alternatives are what the text is read as. -/
def InStep (schedule : Schedule) : Prop :=
  parse schedule.text schedule.february = .ok schedule

theorem inStep_of_parse (h : parse text february = .ok schedule) : schedule.InStep := by
  obtain ⟨-, htext, hfebruary⟩ := parse_eq_ok_iff.mp h
  unfold InStep
  rw [htext, hfebruary]
  exact h

/-- Of schedules that are in step, the text and the treatment of February tell all. -/
theorem InStep.eq_iff (h : schedule.InStep) (hother : other.InStep) :
    schedule = other ↔ schedule.text = other.text ∧ schedule.february = other.february := by
  constructor
  · rintro rfl
    exact ⟨rfl, rfl⟩
  · rintro ⟨htext, hfebruary⟩
    unfold InStep at h
    rw [htext, hfebruary] at h
    exact Except.ok.inj (h.symm.trans hother)

end CronSchedule.Schedule
