import CronSchedule.Calendar.Unit

/-!
# Months and their days

A month is a run of days, and the day of the month counts from the first of them.
The days that are picked out of a month, its last Friday or its first workday, are
days that it has.
-/

namespace CronSchedule

/-! ### Days and their months -/

theorem year_month_of_index (t : DateTime) :
    CalendarUnit.month.index t / 12 = t.date.year ∧
      (CalendarUnit.month.index t % 12).toNat + 1 = t.date.month := by
  have hfirst := t.date_valid.1
  have hlast := t.date_valid.2.1
  simp only [CalendarUnit.index]
  constructor <;> omega

theorem year_month_eq {t u : DateTime}
    (h : CalendarUnit.month.index u = CalendarUnit.month.index t) :
    u.date.year = t.date.year ∧ u.date.month = t.date.month := by
  have ht := year_month_of_index t
  have hu := year_month_of_index u
  rw [h] at hu
  exact ⟨hu.1.symm.trans ht.1, hu.2.symm.trans ht.2⟩

/-- Months begin in order, so a month has begun on a day if it is not after the month
    of the day. -/
theorem firstDayOfMonth_le_iff {month : Int} {t : DateTime} :
    firstDayOfMonth month ≤ t.dayNumber ↔ month ≤ CalendarUnit.month.index t := by
  rw [← CalendarUnit.startOfDay_le_iff]
  exact @CalendarUnit.start_le_iff .month month t

/-- The day of the month counts from the day on which the month began. -/
theorem DateTime.day_eq (t : DateTime) :
    (t.date.day : Int) = t.dayNumber - firstDayOfMonth (CalendarUnit.month.index t) + 1 := by
  have hnumber := t.toDayNumber_date
  obtain ⟨hyear, hmonth⟩ := year_month_of_index t
  simp only [firstDayOfMonth, hyear, hmonth]
  simp only [Date.toDayNumber] at hnumber ⊢
  omega

theorem firstDayOfMonth_next (t : DateTime) :
    firstDayOfMonth (CalendarUnit.month.index t + 1) =
      firstDayOfMonth (CalendarUnit.month.index t) + daysInMonth t.date.year t.date.month := by
  obtain ⟨hyear, hmonth⟩ := year_month_of_index t
  rw [firstDayOfMonth_succ, hyear, hmonth]

/-- The rest of a month belongs to the month. -/
theorem month_index_eq {t u : DateTime} (hle : t.dayNumber ≤ u.dayNumber)
    (hlt : u.dayNumber < firstDayOfMonth (CalendarUnit.month.index t + 1)) :
    CalendarUnit.month.index u = CalendarUnit.month.index t := by
  have hbegun := firstDayOfMonth_le_iff.mpr (Int.le_refl (CalendarUnit.month.index t))
  have hlow := firstDayOfMonth_le_iff.mp (Int.le_trans hbegun hle)
  have hhigh : ¬ CalendarUnit.month.index t + 1 ≤ CalendarUnit.month.index u := by
    intro h
    have := firstDayOfMonth_le_iff.mpr h
    omega
  omega

theorem dayOfMonth_ahead {t u : DateTime} (h : t.dayNumber ≤ u.dayNumber) :
    (t.date.day + (u.dayNumber - t.dayNumber) ≤ daysInMonth t.date.year t.date.month →
      (u.date.day : Int) = t.date.day + (u.dayNumber - t.dayNumber)) ∧
    (daysInMonth t.date.year t.date.month < t.date.day + (u.dayNumber - t.dayNumber) →
      (u.date.day : Int) ≤
        1 + (t.date.day + (u.dayNumber - t.dayNumber) - daysInMonth t.date.year t.date.month - 1)) := by
  have ht := t.day_eq
  have hu := u.day_eq
  have hnext := firstDayOfMonth_next t
  constructor
  · intro hwithin
    rw [month_index_eq h (by omega)] at hu
    omega
  · intro hbeyond
    -- the month of `u` is a later one, so it began on the first of the next month or after
    have hlater : CalendarUnit.month.index t + 1 ≤ CalendarUnit.month.index u :=
      firstDayOfMonth_le_iff.mp (by omega)
    have := firstDayOfMonth_mono hlater
    omega

/-! ### Days picked out of a month -/

theorem nthOfWeekday?_le {year : Int} {month weekday count day : Nat}
    (h : nthOfWeekday? year month weekday count = some day) : day ≤ daysInMonth year month := by
  unfold nthOfWeekday? at h
  dsimp only at h
  split at h
  · rename_i hwithin
    cases h
    exact hwithin.2
  · cases h

theorem nearestWorkday?_le {year : Int} {month target day : Nat}
    (h : nearestWorkday? year month target = some day) : day ≤ daysInMonth year month := by
  have hlength := (daysInMonth_bounds year month).1
  unfold nearestWorkday? at h
  split at h
  · rename_i hwithin
    split at h
    · cases h
      split <;> omega
    · cases h
      split <;> omega
    · cases h
      exact hwithin.2
  · cases h

/-- Under either idea of February no month is longer than it is. -/
theorem lastDayOfMonth_le (february : February) (year : Int) (month : Nat) :
    lastDayOfMonth february year month ≤ daysInMonth year month := by
  have hlength := (daysInMonth_bounds year month).1
  unfold lastDayOfMonth
  split
  · exact hlength
  · exact Nat.le_refl _

theorem lastOfWeekday_le_lastDayOfMonth (february : February) (year : Int) (month weekday : Nat) :
    lastOfWeekday february year month weekday ≤ lastDayOfMonth february year month :=
  Nat.sub_le _ _

theorem lastOfWeekday_le (february : February) (year : Int) (month weekday : Nat) :
    lastOfWeekday february year month weekday ≤ daysInMonth year month :=
  Nat.le_trans (lastOfWeekday_le_lastDayOfMonth february year month weekday)
    (lastDayOfMonth_le february year month)

theorem lastWorkdayOfMonth_le_lastDayOfMonth (february : February) (year : Int) (month : Nat) :
    lastWorkdayOfMonth february year month ≤ lastDayOfMonth february year month := by
  unfold lastWorkdayOfMonth
  dsimp only
  split
  · exact Nat.sub_le _ _
  · exact Nat.sub_le _ _
  · exact Nat.le_refl _

theorem lastWorkdayOfMonth_le (february : February) (year : Int) (month : Nat) :
    lastWorkdayOfMonth february year month ≤ daysInMonth year month :=
  Nat.le_trans (lastWorkdayOfMonth_le_lastDayOfMonth february year month)
    (lastDayOfMonth_le february year month)

end CronSchedule
