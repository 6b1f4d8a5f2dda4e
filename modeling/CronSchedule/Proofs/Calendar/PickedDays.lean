import Mathlib.Order.Bounds.Basic
import CronSchedule.Pattern.Meaning
import CronSchedule.Proofs.Calendar.Month

/-!
# Days picked out of a month

Weekdays are looked up in a month by closed formulas: from the first of the month in steps
of a week, or back from its last day, or to one side of a Saturday or a Sunday.  Here each
lookup is held against the days of the month themselves.

One fact carries all of it.  The weekdays of a month count on from day to day, so that of
every day follows from one of them, `DateTime.weekdays_count_on`; what is left is
arithmetic modulo 7.
-/

namespace CronSchedule

/-! ### The weekdays of a month -/

namespace DateTime

variable (t : DateTime)

theorem weekdayInMonth_day : t.weekdayInMonth t.day = t.weekday := by
  rw [weekdayInMonth, Int.sub_self, Int.add_zero, weekday]

/-- All weekdays of a month follow from one. -/
theorem weekdays_count_on :
    ∃ before < 7, ∀ day, t.weekdayInMonth day = (before + day) % 7 := by
  refine ⟨t.weekdayInMonth 0, weekdayOfDay_lt _, fun day => ?_⟩
  simp only [weekdayInMonth, weekdayOfDay]
  omega

/-- The closed form for the weekday of a date is right for all days of the month. -/
theorem weekdayOfDate_eq_weekdayInMonth {day : Nat}
    (h : 1 ≤ day ∧ day ≤ daysInMonth t.year t.month) :
    weekdayOfDate t.year t.month day = t.weekdayInMonth day := by
  have hvalid : Date.Valid ⟨t.year, t.month, day⟩ := ⟨t.date_valid.1, t.date_valid.2.1, h⟩
  have hnumber : Date.toDayNumber ⟨t.year, t.month, day⟩ = t.dayNumber + (day - t.day) := by
    rw [← t.toDayNumber_date]
    simp only [Date.toDayNumber, year, month, DateTime.day, date, Date.ofDayNumber]
    omega
  exact (weekdayOfDate_eq hvalid).trans (congrArg weekdayOfDay hnumber)

end DateTime

variable {t : DateTime} {february : February} {weekday count target day : Nat}

theorem lastDayOfMonth_bounds (february : February) (year : Int) (month : Nat) :
    28 ≤ lastDayOfMonth february year month ∧
      lastDayOfMonth february year month ≤ daysInMonth year month := by
  refine ⟨?_, lastDayOfMonth_le february year month⟩
  unfold lastDayOfMonth
  split
  · exact Nat.le_refl _
  · exact (daysInMonth_bounds year month).1

theorem lastDayOfMonth_eq (february : February) (year : Int) (month : Nat) :
    lastDayOfMonth february year month =
      if february = .alwaysShort ∧ month = 2 then 28 else daysInMonth year month := by
  unfold lastDayOfMonth
  split
  · exact (if_pos ⟨rfl, rfl⟩).symm
  · rename_i hother
    exact (if_neg fun ⟨hkind, hmonth⟩ => hother hkind hmonth).symm

/-- The day that is looked up is the one with which the month ends. -/
theorem DateTime.monthEndsOn_iff :
    t.MonthEndsOn february day ↔ day = lastDayOfMonth february t.year t.month := by
  rw [lastDayOfMonth_eq]
  constructor
  · intro h
    cases h with
    | short hkind hmonth => exact (if_pos ⟨hkind, hmonth⟩).symm
    | full hother => exact (if_neg hother).symm
  · rintro rfl
    split
    · rename_i hshort
      exact .short hshort.1 hshort.2
    · rename_i hother
      exact .full hother

theorem isWorkday_iff : IsWorkday weekday ↔ weekday ≠ 0 ∧ weekday ≠ 6 ∧ weekday < 7 := by
  unfold IsWorkday
  omega

/-! ### The last day of a kind -/

/-- The days up to the last of the month that are weekdays of a kind. -/
def DateTime.daysOn (t : DateTime) (february : February) (kind : Nat → Prop) : Set Nat :=
  {day | day ≤ lastDayOfMonth february t.year t.month ∧ kind (t.weekdayInMonth day)}

theorem isGreatest_daysOn_iff {kind : Nat → Prop} :
    IsGreatest (t.daysOn february kind) t.day ↔
      kind t.weekday ∧ t.day ≤ lastDayOfMonth february t.year t.month ∧
        ∀ day, t.day < day → day ≤ lastDayOfMonth february t.year t.month →
          ¬ kind (t.weekdayInMonth day) := by
  constructor
  · rintro ⟨⟨hlast, hkind⟩, hgreatest⟩
    rw [t.weekdayInMonth_day] at hkind
    refine ⟨hkind, hlast, fun day hlater hday hkind => ?_⟩
    exact absurd hlater (Nat.not_lt.mpr (hgreatest ⟨hday, hkind⟩))
  · rintro ⟨hkind, hlast, hnone⟩
    rw [← t.weekdayInMonth_day] at hkind
    refine ⟨⟨hlast, hkind⟩, fun day hday => Nat.not_lt.mp fun hlater => ?_⟩
    exact hnone day hlater hday.1 hday.2

theorem isGreatest_lastOfWeekday (t : DateTime) (february : February) (hweekday : weekday < 7) :
    IsGreatest (t.daysOn february (· = weekday)) (lastOfWeekday february t.year t.month weekday) := by
  have hlast := lastDayOfMonth_bounds february t.year t.month
  obtain ⟨before, hbefore, hcount⟩ := t.weekdays_count_on
  simp only [lastOfWeekday, t.weekdayOfDate_eq_weekdayInMonth ⟨by omega, hlast.2⟩, hcount]
  constructor
  · refine ⟨Nat.sub_le _ _, ?_⟩
    rw [hcount]
    omega
  · rintro day ⟨hday, hsame⟩
    rw [hcount] at hsame
    omega

theorem isGreatest_lastWorkdayOfMonth (t : DateTime) (february : February) :
    IsGreatest (t.daysOn february IsWorkday) (lastWorkdayOfMonth february t.year t.month) := by
  have hlast := lastDayOfMonth_bounds february t.year t.month
  obtain ⟨before, hbefore, hcount⟩ := t.weekdays_count_on
  simp only [lastWorkdayOfMonth, t.weekdayOfDate_eq_weekdayInMonth ⟨by omega, hlast.2⟩, hcount]
  split
  case h_1 | h_2 =>
    -- the month ends on a weekend, which has the last workday right before it
    constructor
    · refine ⟨Nat.sub_le _ _, ?_⟩
      simp only [hcount, IsWorkday]
      omega
    · rintro day ⟨hday, hworkday⟩
      simp only [hcount, IsWorkday] at hworkday
      omega
  case h_3 hsaturday hsunday =>
    refine ⟨⟨Nat.le_refl _, ?_⟩, fun day hday => hday.1⟩
    rw [hcount]
    exact isWorkday_iff.mpr ⟨hsunday, hsaturday, Nat.mod_lt _ (by decide)⟩

/-- The formula for the last Friday of a month, say, finds that day. -/
theorem lastOfWeekday_eq_day_iff (hweekday : weekday < 7) :
    lastOfWeekday february t.year t.month weekday = t.day ↔ MeansLastWeekday weekday february t := by
  have hfound := isGreatest_lastOfWeekday t february hweekday
  refine Iff.trans ⟨fun h => h ▸ hfound, hfound.unique⟩ ?_
  simp only [MeansLastWeekday, DateTime.monthEndsOn_iff, exists_eq_left]
  exact isGreatest_daysOn_iff

theorem day_eq_lastWorkdayOfMonth_iff :
    t.day = lastWorkdayOfMonth february t.year t.month ↔ MeansLastWorkday february t := by
  have hfound := isGreatest_lastWorkdayOfMonth t february
  refine Iff.trans ⟨fun h => h ▸ hfound, fun h => h.unique hfound⟩ ?_
  simp only [MeansLastWorkday, DateTime.monthEndsOn_iff, exists_eq_left]
  exact isGreatest_daysOn_iff

/-! ### Numbered weekdays -/

/-- How many days before `limit` are the weekday, from the first of them. -/
theorem length_filter_weekday {first : Nat} (hfirst : 1 ≤ first ∧ first ≤ 7) (limit : Nat) :
    ((List.range limit).filter fun day =>
      0 < day ∧ t.weekdayInMonth day = t.weekdayInMonth first).length = (limit + 6 - first) / 7 := by
  obtain ⟨before, hbefore, hcount⟩ := t.weekdays_count_on
  induction limit with
  | zero =>
      rw [List.range_zero, List.filter_nil, List.length_nil]
      omega
  | succ limit ih =>
      rw [List.range_succ, List.filter_append, List.length_append, ih]
      by_cases hday : 0 < limit ∧ t.weekdayInMonth limit = t.weekdayInMonth first
      · rw [List.filter_cons_of_pos (by simpa using hday), List.filter_nil, List.length_singleton]
        simp only [hcount] at hday
        omega
      · rw [List.filter_cons_of_neg (by simpa using hday), List.filter_nil, List.length_nil]
        simp only [hcount] at hday
        omega

theorem nthOfWeekday?_eq_some_iff (hweekday : weekday < 7) :
    nthOfWeekday? t.year t.month weekday count = some day ↔
      (1 ≤ day ∧ day ≤ daysInMonth t.year t.month) ∧ t.weekdayInMonth day = weekday ∧
        (day - 1) / 7 + 1 = count := by
  have hlength := (daysInMonth_bounds t.year t.month).1
  obtain ⟨before, hbefore, hcount⟩ := t.weekdays_count_on
  simp only [nthOfWeekday?, t.weekdayOfDate_eq_weekdayInMonth ⟨Nat.le_refl _, by omega⟩, hcount]
  split
  · rw [Option.some_inj]
    omega
  · simp only [reduceCtorEq, false_iff]
    omega

/-- Of the days before `t` in its month every seventh is the weekday of `t`. -/
theorem length_filter_weekday_day (t : DateTime) :
    ((List.range t.day).filter fun day =>
      0 < day ∧ t.weekdayInMonth day = t.weekday).length = (t.day - 1) / 7 := by
  have hday : 1 ≤ t.day := t.date_valid.2.2.1
  obtain ⟨before, hbefore, hcount⟩ := t.weekdays_count_on
  have hfirst : t.weekdayInMonth ((t.day - 1) % 7 + 1) = t.weekday := by
    rw [← t.weekdayInMonth_day, hcount, hcount]
    omega
  rw [← hfirst, length_filter_weekday ⟨by omega, by omega⟩]
  omega

theorem NthWeekday.accepts_iff (nth : NthWeekday) : nth.accepts t ↔ nth.Means t := by
  have hfound : nthOfWeekday? t.date.year t.date.month t.weekday nth.count = some t.date.day ↔ _ :=
    nthOfWeekday?_eq_some_iff (weekdayOfDay_lt _)
  rw [NthWeekday.accepts, Bool.and_eq_true, beq_iff_eq, beq_iff_eq, hfound, NthWeekday.Means]
  constructor
  · rintro ⟨hweekday, -, -, hcount⟩
    rw [← hweekday, length_filter_weekday_day]
    exact ⟨rfl, hcount⟩
  · rintro ⟨hweekday, hcount⟩
    rw [← hweekday, length_filter_weekday_day] at hcount
    exact ⟨hweekday, t.date_valid.2.2, t.weekdayInMonth_day, hcount⟩

/-! ### The nearest workday -/

/-- Where the search for a workday ends. -/
theorem nearestWorkday?_cases (h : nearestWorkday? t.year t.month target = some day) :
    (1 ≤ target ∧ target ≤ daysInMonth t.year t.month) ∧
      (IsWorkday (t.weekdayInMonth target) ∧ day = target ∨
        t.weekdayInMonth target = 6 ∧ (1 < target ∧ day = target - 1 ∨ target = 1 ∧ day = 3) ∨
        t.weekdayInMonth target = 0 ∧
          (target < daysInMonth t.year t.month ∧ day = target + 1 ∨
            target = daysInMonth t.year t.month ∧ day = target - 2)) := by
  unfold nearestWorkday? at h
  split at h
  · rename_i hwithin
    rw [t.weekdayOfDate_eq_weekdayInMonth hwithin] at h
    refine ⟨hwithin, ?_⟩
    split at h
    · rename_i hsunday
      cases h
      refine .inr (.inr ⟨hsunday, ?_⟩)
      split <;> omega
    · rename_i hsaturday
      cases h
      refine .inr (.inl ⟨hsaturday, ?_⟩)
      split <;> omega
    · rename_i hsunday hsaturday
      cases h
      exact .inl ⟨isWorkday_iff.mpr ⟨hsunday, hsaturday, weekdayOfDay_lt _⟩, rfl⟩
  · cases h

/-- What is found is a workday of the month, and all others are further away. -/
theorem nearestWorkday?_eq_some (h : nearestWorkday? t.year t.month target = some day) :
    (1 ≤ day ∧ day ≤ daysInMonth t.year t.month ∧ IsWorkday (t.weekdayInMonth day)) ∧
      ∀ other, 1 ≤ other → other ≤ daysInMonth t.year t.month →
        IsWorkday (t.weekdayInMonth other) → other ≠ day →
          ((day : Int) - target).natAbs < ((other : Int) - target).natAbs := by
  have hlength := (daysInMonth_bounds t.year t.month).1
  obtain ⟨before, hbefore, hcount⟩ := t.weekdays_count_on
  obtain ⟨hwithin, hcases⟩ := nearestWorkday?_cases h
  simp only [hcount, IsWorkday] at hcases ⊢
  rcases hcases with ⟨hworkday, rfl⟩ | ⟨hsaturday, ⟨hfirst, rfl⟩ | ⟨rfl, rfl⟩⟩ |
    ⟨hsunday, ⟨hlast, rfl⟩ | ⟨hlast, rfl⟩⟩
  all_goals
    refine ⟨by omega, fun other hother hend hworkday hne => ?_⟩
    omega

theorem nearestWorkday?_isSome (h : 0 < target ∧ target ≤ daysInMonth t.year t.month) :
    ∃ day, nearestWorkday? t.year t.month target = some day := by
  unfold nearestWorkday?
  rw [if_pos h]
  split
  · exact ⟨_, rfl⟩
  · exact ⟨_, rfl⟩
  · exact ⟨_, rfl⟩

theorem nearestWorkday?_eq_day_iff :
    nearestWorkday? t.year t.month target = some t.day ↔ MeansNearestWorkday target t := by
  have hday := t.date_valid.2.2
  constructor
  · intro h
    obtain ⟨hworkday, hnearer⟩ := nearestWorkday?_eq_some h
    obtain ⟨hwithin, -⟩ := nearestWorkday?_cases h
    rw [t.weekdayInMonth_day] at hworkday
    refine ⟨hwithin.1, hwithin.2, hworkday.2.2, fun other hfirst hlast hother => ?_⟩
    by_cases hsame : other = t.day
    · rw [hsame]
    · exact Nat.le_of_lt (hnearer other hfirst hlast hother hsame)
  · rintro ⟨hfirst, hlast, hworkday, hnearest⟩
    obtain ⟨day, hfound⟩ := nearestWorkday?_isSome ⟨hfirst, hlast⟩
    obtain ⟨hpicked, hnearer⟩ := nearestWorkday?_eq_some hfound
    rw [← t.weekdayInMonth_day] at hworkday
    -- were it another day, then each of the two would be nearer than the other
    by_contra hne
    have hother : t.day ≠ day := fun hsame => hne (hsame ▸ hfound)
    have hlt := hnearer t.day hday.1 hday.2 hworkday hother
    exact absurd hlt (Nat.not_lt.mpr (hnearest day hpicked.1 hpicked.2.1 hpicked.2.2))

end CronSchedule
