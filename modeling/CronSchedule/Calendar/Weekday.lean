import CronSchedule.Calendar.Date

/-!
# Weekdays

Weekdays are numbered from Sunday, 0, to Saturday, 6.  The weekday of a day
follows from its number; the weekday of a date is also given in closed form,
`weekdayOfDate`, so that the lookups below need no day number:
the last or the n-th Friday of a month, its last workday, the workday nearest to
a day.  The two ways agree, `weekdayOfDate_eq`.
-/

namespace CronSchedule

/-! ### The weekday of a day -/

/-- The weekday of the day with the given number.  1 January of year 1 was a
    Monday. -/
def weekdayOfDay (number : Int) : Nat :=
  ((number + 1) % 7).toNat

/-- Days of the year before the first of `month`, up to multiples of 7.  A number below
    those of the months counts as January, and one above them as December. -/
def monthShift (leap : Bool) (month : Nat) : Nat :=
  let shifts :=
    if leap then [0, 3, 4, 0, 2, 5, 0, 3, 6, 1, 4, 6] else [0, 3, 3, 6, 1, 4, 6, 2, 5, 0, 3, 5]
  shifts.getD (max 1 (min month 12) - 1) 0

/-- The weekday of a date.  The years before it count by their remainders modulo
    4, 100 and 400, since a cycle of 400 years is a whole number of weeks. -/
def weekdayOfDate (year : Int) (month day : Nat) : Nat :=
  ((day + monthShift (isLeap year) month + 5 * ((year - 1) % 4) + 4 * ((year - 1) % 100)
    + 6 * ((year - 1) % 400)) % 7).toNat

theorem monthShift_eq (leap : Bool) {month : Nat} (h : 1 ≤ month ∧ month ≤ 12) :
    daysBeforeMonth leap month % 7 = monthShift leap month := by
  rcases month_cases h with h | h | h | h | h | h | h | h | h | h | h | h <;> subst h <;>
    cases leap <;> rfl

/-- Both ways to find a weekday agree. -/
theorem weekdayOfDate_eq {date : Date} (h : date.Valid) :
    weekdayOfDate date.year date.month date.day = weekdayOfDay date.toDayNumber := by
  have hshift := monthShift_eq (isLeap date.year) ⟨h.1, h.2.1⟩
  simp only [weekdayOfDate, weekdayOfDay, Date.toDayNumber, daysBeforeYear]
  congr 1
  omega

theorem weekdayOfDay_lt (number : Int) : weekdayOfDay number < 7 := by
  simp only [weekdayOfDay]
  omega

/-! ### Days picked out of a month -/

/-- How long February is where the end of a month is looked up. -/
inductive February where
  /-- It has 29 days in leap years and 28 in others. -/
  | leapAware
  /-- It has 28 days in every year. -/
  | alwaysShort
deriving DecidableEq, Repr

/-- The day on which a month ends, with the given idea of February. -/
def lastDayOfMonth (february : February) (year : Int) (month : Nat) : Nat :=
  match february, month with
  | .alwaysShort, 2 => 28
  | _, _ => daysInMonth year month

/-- The last day of a month that is a given weekday. -/
def lastOfWeekday (february : February) (year : Int) (month weekday : Nat) : Nat :=
  let last := lastDayOfMonth february year month
  last - (weekdayOfDate year month last + 7 - weekday % 7) % 7

/-- The last workday, Monday to Friday, of a month. -/
def lastWorkdayOfMonth (february : February) (year : Int) (month : Nat) : Nat :=
  let last := lastDayOfMonth february year month
  match weekdayOfDate year month last with
  | 6 => last - 1
  | 0 => last - 2
  | _ => last

/-- The `count`-th day of a month that is a given weekday, if the month has so
    many of them. -/
def nthOfWeekday? (year : Int) (month weekday count : Nat) : Option Nat :=
  let first := 1 + (weekday % 7 + 7 - weekdayOfDate year month 1) % 7
  let day := first + (count - 1) * 7
  if 0 < count ∧ day ≤ daysInMonth year month then some day else none

/-- The workday of the month that is nearest to `day`, if the month has that
    day.  A Saturday gives way to the Friday before it and a Sunday to the Monday
    after it, unless that leaves the month. -/
def nearestWorkday? (year : Int) (month day : Nat) : Option Nat :=
  if 0 < day ∧ day ≤ daysInMonth year month then
    match weekdayOfDate year month day with
    | 0 => some (if day = daysInMonth year month then day - 2 else day + 1)
    | 6 => some (if 1 < day then day - 1 else day + 2)
    | _ => some day
  else
    none

end CronSchedule
