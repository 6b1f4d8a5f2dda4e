import Mathlib.Data.Set.Card
import Mathlib.Order.Interval.Finset.Nat
import CronSchedule.Proofs.Calendar.PickedDays

/-!
# Counting days

Years, months and weekdays are found by closed formulas.  Here they are held against the
calendar as it is learned: which months are long, in which years February has one more day,
and that one date follows the other.  From 1 January of year 1 days are counted on and back
along this row (`Date.Counted`).

A step in the row adds one to the number that the formulas give to a date,
`Date.FollowedBy.toDayNumber_eq`.  By induction along the row the formulas then give to every
date the number that is counted for it, `Date.counted_iff`; the length of a month and the
weekday of a date follow, before year 1 as well as after it.
-/

namespace CronSchedule

/-! ### The row of dates -/

/-- The year has a 29 February: every fourth year has one, but of the years that end a century
    only every fourth. -/
def HasLeapDay (year : Int) : Prop :=
  4 ∣ year ∧ (100 ∣ year → 400 ∣ year)

/-- The month ends with the day. -/
inductive EndsMonth (year : Int) : Nat → Nat → Prop
  | long {month : Nat} (h : month ∈ [1, 3, 5, 7, 8, 10, 12]) : EndsMonth year month 31
  | short {month : Nat} (h : month ∈ [4, 6, 9, 11]) : EndsMonth year month 30
  | february (h : ¬ HasLeapDay year) : EndsMonth year 2 28
  | leapDay (h : HasLeapDay year) : EndsMonth year 2 29

/-- The date has the other one right after it. -/
inductive Date.FollowedBy : Date → Date → Prop
  | day {year : Int} {month day last : Nat} (ends : EndsMonth year month last)
      (first : 1 ≤ day) (before : day < last) :
      FollowedBy ⟨year, month, day⟩ ⟨year, month, day + 1⟩
  | month {year : Int} {month last : Nat} (ends : EndsMonth year month last)
      (before : month < 12) : FollowedBy ⟨year, month, last⟩ ⟨year, month + 1, 1⟩
  | year {year : Int} : FollowedBy ⟨year, 12, 31⟩ ⟨year + 1, 1, 1⟩

/-- The number of the date in the row that has 1 January of year 1 as number 0. -/
inductive Date.Counted : Date → Int → Prop
  | first : Counted ⟨1, 1, 1⟩ 0
  | on {date later : Date} {number : Int} (counted : Counted date number)
      (follows : date.FollowedBy later) : Counted later (number + 1)
  | back {date earlier : Date} {number : Int} (counted : Counted date number)
      (follows : earlier.FollowedBy date) : Counted earlier (number - 1)

/-! ### The formulas along the row -/

theorem hasLeapDay_iff {year : Int} : HasLeapDay year ↔ isLeap year := by
  rw [isLeap_iff]
  unfold HasLeapDay
  omega

theorem endsMonth_daysInMonth (year : Int) {month : Nat} (h : 1 ≤ month ∧ month ≤ 12) :
    EndsMonth year month (daysInMonth year month) := by
  unfold daysInMonth
  split
  case h_1 | h_2 | h_3 | h_4 => exact .short (by decide)
  case h_5 =>
    split
    · rename_i hleap
      exact .leapDay (hasLeapDay_iff.mpr hleap)
    · rename_i hcommon
      exact .february (mt hasLeapDay_iff.mp hcommon)
  case h_6 =>
    apply EndsMonth.long
    simp only [List.mem_cons, List.not_mem_nil, or_false]
    grind

theorem EndsMonth.eq {year : Int} {month last : Nat} (h : EndsMonth year month last) :
    (1 ≤ month ∧ month ≤ 12) ∧ last = daysInMonth year month := by
  cases h with
  | long h =>
      simp only [List.mem_cons, List.not_mem_nil, or_false] at h
      rcases h with rfl | rfl | rfl | rfl | rfl | rfl | rfl <;> exact ⟨by decide, rfl⟩
  | short h =>
      simp only [List.mem_cons, List.not_mem_nil, or_false] at h
      rcases h with rfl | rfl | rfl | rfl <;> exact ⟨by decide, rfl⟩
  | february h =>
      rw [hasLeapDay_iff] at h
      exact ⟨by decide, (if_neg h).symm⟩
  | leapDay h =>
      rw [hasLeapDay_iff] at h
      exact ⟨by decide, (if_pos h).symm⟩

namespace Date

variable {date later : Date} {number : Int}

/-- A step in the row leads from one valid date to another, and adds one to the number. -/
theorem FollowedBy.toDayNumber_eq (h : date.FollowedBy later) :
    date.Valid ∧ later.Valid ∧ later.toDayNumber = date.toDayNumber + 1 := by
  cases h with
  | @day year month day last ends first before =>
      obtain ⟨hmonth, rfl⟩ := ends.eq
      refine ⟨⟨hmonth.1, hmonth.2, first, Nat.le_of_lt before⟩,
        ⟨hmonth.1, hmonth.2, Nat.le_add_left 1 day, before⟩, ?_⟩
      simp only [toDayNumber]
      omega
  | @month year month last ends before =>
      obtain ⟨hmonth, rfl⟩ := ends.eq
      have hlength := (daysInMonth_bounds year month).1
      have hnext := (daysInMonth_bounds year (month + 1)).1
      have hsucc := daysBeforeMonth_succ year hmonth
      refine ⟨⟨hmonth.1, hmonth.2, by dsimp only; omega, Nat.le_refl _⟩,
        ⟨Nat.le_add_left 1 month, before, Nat.le_refl 1, by dsimp only; omega⟩, ?_⟩
      simp only [toDayNumber, hsucc]
      omega
  | @year year =>
      have hsucc := daysBeforeYear_succ year
      refine ⟨by simp [Valid, daysInMonth], by simp [Valid, daysInMonth], ?_⟩
      simp only [toDayNumber, hsucc, daysBeforeMonth]
      omega

/-- The row does not break off. -/
theorem Valid.exists_followedBy (h : date.Valid) : ∃ later, date.FollowedBy later := by
  obtain ⟨year, month, day⟩ := date
  change 1 ≤ month ∧ month ≤ 12 ∧ 1 ≤ day ∧ day ≤ daysInMonth year month at h
  obtain ⟨hjanuary, hdecember, hfirst, hlast⟩ := h
  have ends := endsMonth_daysInMonth year ⟨hjanuary, hdecember⟩
  rcases Nat.lt_or_eq_of_le hlast with hbefore | rfl
  · exact ⟨_, .day ends hfirst hbefore⟩
  · rcases Nat.lt_or_eq_of_le hdecember with hbefore | rfl
    · exact ⟨_, .month ends hbefore⟩
    · exact ⟨_, .year⟩

/-! ### Counting along the row -/

theorem Counted.toDayNumber_eq (h : date.Counted number) :
    date.Valid ∧ date.toDayNumber = number := by
  induction h with
  | first => exact ⟨by decide, by decide⟩
  | on _ follows ih =>
      obtain ⟨-, hvalid, hnumber⟩ := follows.toDayNumber_eq
      exact ⟨hvalid, by rw [hnumber, ih.2]⟩
  | back _ follows ih =>
      obtain ⟨hvalid, -, hnumber⟩ := follows.toDayNumber_eq
      exact ⟨hvalid, by omega⟩

/-- The dates of successive numbers follow each other. -/
theorem followedBy_ofDayNumber (number : Int) :
    (ofDayNumber number).FollowedBy (ofDayNumber (number + 1)) := by
  obtain ⟨hvalid, hnumber⟩ := toDayNumber_ofDayNumber number
  obtain ⟨later, hfollows⟩ := hvalid.exists_followedBy
  obtain ⟨-, hlater, hnext⟩ := hfollows.toDayNumber_eq
  rw [hnumber] at hnext
  rw [← hnext, ofDayNumber_toDayNumber hlater]
  exact hfollows

theorem counted_ofDayNumber (number : Int) : (ofDayNumber number).Counted number := by
  -- as the count itself, the induction goes on and back from the first day
  induction number using Int.induction_on with
  | zero => exact .first
  | succ n ih => exact .on ih (followedBy_ofDayNumber n)
  | pred n ih =>
      have hfollows := followedBy_ofDayNumber (-n - 1)
      rw [Int.sub_add_cancel] at hfollows
      exact .back ih hfollows

theorem counted_iff : date.Counted number ↔ date.Valid ∧ date.toDayNumber = number := by
  refine ⟨Counted.toDayNumber_eq, ?_⟩
  rintro ⟨hvalid, rfl⟩
  have hcounted := counted_ofDayNumber date.toDayNumber
  rw [ofDayNumber_toDayNumber hvalid] at hcounted
  exact hcounted

theorem ncard_month (year : Int) {month : Nat} (h : 1 ≤ month ∧ month ≤ 12) :
    {date : Date | (∃ number, date.Counted number) ∧ date.year = year ∧ date.month = month}.ncard =
      daysInMonth year month := by
  have hdays : {date : Date |
        (∃ number, date.Counted number) ∧ date.year = year ∧ date.month = month} =
      (fun day => (⟨year, month, day⟩ : Date)) '' Finset.Icc 1 (daysInMonth year month) := by
    ext ⟨y, m, day⟩
    constructor
    · rintro ⟨⟨_, hcounted⟩, rfl, rfl⟩
      exact ⟨day, Finset.mem_coe.mpr (Finset.mem_Icc.mpr hcounted.toDayNumber_eq.1.2.2), rfl⟩
    · rintro ⟨_, hday, hdate⟩
      cases hdate
      have hvalid : Valid ⟨year, month, day⟩ := ⟨h.1, h.2, Finset.mem_Icc.mp (Finset.mem_coe.mp hday)⟩
      exact ⟨⟨_, counted_iff.mpr ⟨hvalid, rfl⟩⟩, rfl, rfl⟩
  have hinjective : Function.Injective fun day => (⟨year, month, day⟩ : Date) := by
    intro a b hdate
    exact congrArg Date.day hdate
  rw [hdays, Set.ncard_image_of_injective _ hinjective, Set.ncard_coe_finset, Nat.card_Icc,
    Nat.add_sub_cancel]

/-! ### Weekdays from two sources -/

theorem Counted.weekdayOfDate_eq (h : date.Counted number) :
    (weekdayOfDate date.year date.month date.day : Int) = (number + 1) % 7 := by
  obtain ⟨hvalid, rfl⟩ := counted_iff.mp h
  rw [CronSchedule.weekdayOfDate_eq hvalid]
  simp only [weekdayOfDay]
  omega

end Date

/-- The look-up that numbers the days of a weekday finds the day of a point for the weekday of
    that point, and for no other one. -/
theorem exists_nthOfWeekday?_eq_day_iff (t : DateTime) {weekday : Nat} (h : weekday < 7) :
    (∃ count, nthOfWeekday? t.date.year t.date.month weekday count = some t.date.day) ↔
      t.weekday = weekday := by
  rw [← t.weekdayInMonth_day]
  constructor
  · rintro ⟨count, hfound⟩
    exact ((nthOfWeekday?_eq_some_iff h).mp hfound).2.1
  · intro hweekday
    exact ⟨_, (nthOfWeekday?_eq_some_iff h).mpr ⟨t.date_valid.2.2, hweekday, rfl⟩⟩

/-- The formulas of the calendar say what is counted day by day, in all years.  Dates have the
    numbers that are counted for them, their weekdays go by these numbers modulo 7 from a
    Monday on, and a month has as many days as there are dates in it.  So the weekday that a
    point shows is the one that is computed from its date, and a look-up in its month that
    finds its day was made for that weekday. -/
theorem weekdays_and_months_as_counted :
    (∀ (date : Date) (number : Int),
      date.Counted number ↔ date.Valid ∧ date.toDayNumber = number) ∧
    (∀ number, (Date.ofDayNumber number).Counted number) ∧
    (∀ (date : Date) (number : Int), date.Counted number →
      (weekdayOfDate date.year date.month date.day : Int) = (number + 1) % 7) ∧
    (∀ (year : Int) (month : Nat), 1 ≤ month ∧ month ≤ 12 →
      {date : Date |
        (∃ number, date.Counted number) ∧ date.year = year ∧ date.month = month}.ncard =
          daysInMonth year month) ∧
    ∀ t : DateTime, t.date.Counted t.dayNumber ∧
      weekdayOfDate t.date.year t.date.month t.date.day = t.weekday ∧
      ∀ weekday < 7,
        ((∃ count, nthOfWeekday? t.date.year t.date.month weekday count = some t.date.day) ↔
          t.weekday = weekday) ∧
        ∀ february,
          lastOfWeekday february t.date.year t.date.month weekday = t.date.day →
            t.weekday = weekday := by
  refine ⟨fun _ _ => Date.counted_iff, Date.counted_ofDayNumber,
    fun _ _ hcounted => hcounted.weekdayOfDate_eq, fun year _ hmonth => Date.ncard_month year hmonth,
    fun t => ⟨Date.counted_ofDayNumber t.dayNumber, t.weekdayOfDate_date, ?_⟩⟩
  intro weekday hweekday
  refine ⟨exists_nthOfWeekday?_eq_day_iff t hweekday, fun february hfound => ?_⟩
  exact ((lastOfWeekday_eq_day_iff hweekday).mp hfound).1

/-- The 29 February of the year 0 is the fifth Tuesday of its month, 307 days before the first
    of the days. -/
theorem weekdays_and_months_as_counted_in_year_zero :
    (⟨0, 2, 29⟩ : Date).Counted (-307) ∧ weekdayOfDate 0 2 29 = 2 ∧
      {date : Date | (∃ number, date.Counted number) ∧ date.year = 0 ∧ date.month = 2}.ncard = 29 ∧
      (DateTime.startOfDay (-307)).weekday = 2 ∧ nthOfWeekday? 0 2 2 5 = some 29 := by
  obtain ⟨hnumber, -, hweekday, hmonth, hpoint⟩ := weekdays_and_months_as_counted
  have hcounted : (⟨0, 2, 29⟩ : Date).Counted (-307) := (hnumber _ _).mpr (by decide)
  have hfifth : nthOfWeekday? 0 2 2 5 = some 29 := by decide
  have hdate : (DateTime.startOfDay (-307)).date = ⟨0, 2, 29⟩ := by decide +kernel
  have hfound := ((hpoint (DateTime.startOfDay (-307))).2.2 2 (by decide)).1
  rw [hdate] at hfound
  exact ⟨hcounted, Int.ofNat_inj.mp (hweekday _ _ hcounted), hmonth 0 2 (by decide),
    hfound.mp ⟨5, hfifth⟩, hfifth⟩

end CronSchedule
