import CronSchedule.Calendar.DateTime

/-!
# Calendar units

The line of time is divided into seconds, minutes, hours, days, months or years.
The units of one kind are numbered in a row: `index` gives the number of the unit
that holds a point and `start` the point at which a unit begins.  The two belong
together by one law: a unit has begun at a point if its number is at most that of
the unit holding the point, `CalendarUnit.start_le_iff`.  Truncation and advancing
are read off these two functions.
-/

namespace CronSchedule

/-- The day on which a month begins, the months being numbered from January of
    year 0. -/
def firstDayOfMonth (month : Int) : Int :=
  Date.toDayNumber ⟨month / 12, (month % 12).toNat + 1, 1⟩

/-- A kind of calendar unit. -/
inductive CalendarUnit where
  | second
  | minute
  | hour
  | day
  | month
  | year
deriving DecidableEq, Repr

namespace CalendarUnit

/-- The number of the unit that holds the point.  Years go by their own number,
    months are counted from January of year 0, and the others from midnight of
    1 January of year 1. -/
def index : CalendarUnit → DateTime → Int
  | second, t => t.seconds
  | minute, t => t.seconds / 60
  | hour, t => t.seconds / 3600
  | day, t => t.dayNumber
  | month, t => 12 * t.date.year + t.date.month - 1
  | year, t => t.year

/-- The point at which the unit with the given number begins. -/
def start : CalendarUnit → Int → DateTime
  | second, i => DateTime.ofSeconds i
  | minute, i => DateTime.ofSeconds (60 * i)
  | hour, i => DateTime.ofSeconds (3600 * i)
  | day, i => DateTime.startOfDay i
  | month, i => DateTime.startOfDay (firstDayOfMonth i)
  | year, i => DateTime.startOfDay (daysBeforeYear i)

end CalendarUnit

/-! ### Months in a row -/

/-- A month ends where the next one begins. -/
theorem firstDayOfMonth_succ (month : Int) :
    firstDayOfMonth (month + 1) =
      firstDayOfMonth month + daysInMonth (month / 12) ((month % 12).toNat + 1) := by
  simp only [firstDayOfMonth, Date.toDayNumber]
  by_cases hlast : month % 12 = 11
  · have hyear : (month + 1) / 12 = month / 12 + 1 := by omega
    have hmonth : (month + 1) % 12 = 0 := by omega
    have hend := daysBeforeYear_succ (month / 12)
    have hdecember : (month % 12).toNat + 1 = 12 := by omega
    rw [hyear, hmonth, hend, hdecember]
    simp only [daysBeforeMonth, daysInMonth, Int.toNat_zero]
    omega
  · have hyear : (month + 1) / 12 = month / 12 := by omega
    have hmonth : ((month + 1) % 12).toNat = (month % 12).toNat + 1 := by omega
    have hsucc := daysBeforeMonth_succ (month / 12)
      (show 1 ≤ (month % 12).toNat + 1 ∧ (month % 12).toNat + 1 ≤ 12 by omega)
    rw [hyear, hmonth, hsucc]
    omega

theorem firstDayOfMonth_mono {early late : Int} (h : early ≤ late) :
    firstDayOfMonth early ≤ firstDayOfMonth late := by
  obtain ⟨gap, rfl⟩ := Int.le.dest h
  induction gap with
  | zero => simp
  | succ gap ih =>
      have hstep := firstDayOfMonth_succ (early + gap)
      have := ih (by omega)
      rw [show early + ((gap + 1 : Nat) : Int) = early + gap + 1 by omega]
      omega

/-- A date lies in its month. -/
theorem firstDayOfMonth_bounds {date : Date} (h : date.Valid) :
    firstDayOfMonth (12 * date.year + date.month - 1) ≤ date.toDayNumber ∧
      date.toDayNumber < firstDayOfMonth (12 * date.year + date.month - 1 + 1) := by
  obtain ⟨hlow, hhigh, hday, hlast⟩ := h
  have hyear : (12 * date.year + date.month - 1) / 12 = date.year := by omega
  have hmonth : ((12 * date.year + date.month - 1) % 12).toNat + 1 = date.month := by omega
  rw [firstDayOfMonth_succ, hyear, hmonth]
  simp only [firstDayOfMonth, Date.toDayNumber, hyear, hmonth]
  omega

/-! ### Units and their starts -/

namespace CalendarUnit

theorem ofSeconds_le_iff {seconds : Int} {t : DateTime} :
    DateTime.ofSeconds seconds ≤ t ↔ seconds ≤ t.seconds := by
  simp only [DateTime.le_def, DateTime.ofSeconds, Fin.le_def]
  omega

theorem startOfDay_le_iff {number : Int} {t : DateTime} :
    DateTime.startOfDay number ≤ t ↔ number ≤ t.dayNumber := by
  simp only [DateTime.startOfDay, ofSeconds_le_iff, DateTime.dayNumber]
  omega

/-- A unit has begun at a point if its number is at most that of the unit holding
    the point. -/
theorem start_le_iff {unit : CalendarUnit} {i : Int} {t : DateTime} :
    unit.start i ≤ t ↔ i ≤ unit.index t := by
  cases unit with
  | second => exact ofSeconds_le_iff
  | minute =>
      simp only [start, index, ofSeconds_le_iff]
      omega
  | hour =>
      simp only [start, index, ofSeconds_le_iff]
      omega
  | day => exact startOfDay_le_iff
  | month =>
      simp only [start, index, startOfDay_le_iff]
      have hbounds := firstDayOfMonth_bounds t.date_valid
      rw [t.toDayNumber_date] at hbounds
      constructor
      · intro h
        apply Classical.byContradiction
        intro hgt
        have := firstDayOfMonth_mono
          (show 12 * t.date.year + t.date.month - 1 + 1 ≤ i by omega)
        omega
      · intro h
        have := firstDayOfMonth_mono h
        omega
  | year =>
      simp only [start, index, startOfDay_le_iff]
      have hbounds := yearOfDay_bounds t.dayNumber
      constructor
      · intro h
        apply Classical.byContradiction
        intro hgt
        have := daysBeforeYear_mono (show t.year + 1 ≤ i by omega)
        simp only [DateTime.year] at this
        omega
      · intro h
        have := daysBeforeYear_mono h
        simp only [DateTime.year] at this
        omega

/-- Later units begin later. -/
theorem start_lt_start (unit : CalendarUnit) {i j : Int} (h : i < j) :
    unit.start i < unit.start j := by
  cases unit with
  | second =>
      simp only [start, DateTime.ofSeconds, DateTime.lt_def]
      omega
  | minute =>
      simp only [start, DateTime.ofSeconds, DateTime.lt_def]
      omega
  | hour =>
      simp only [start, DateTime.ofSeconds, DateTime.lt_def]
      omega
  | day =>
      simp only [start, DateTime.startOfDay, DateTime.ofSeconds, DateTime.lt_def]
      omega
  | month =>
      have hmono := firstDayOfMonth_mono (show i + 1 ≤ j by omega)
      have hlength := daysInMonth_bounds (i / 12) ((i % 12).toNat + 1)
      rw [firstDayOfMonth_succ] at hmono
      simp only [start, DateTime.startOfDay, DateTime.ofSeconds, DateTime.lt_def]
      omega
  | year =>
      have hmono := daysBeforeYear_mono (show i + 1 ≤ j by omega)
      rw [daysBeforeYear_succ] at hmono
      simp only [start, DateTime.startOfDay, DateTime.ofSeconds, DateTime.lt_def]
      omega

/-- The unit that begins at the start of a unit is that unit. -/
theorem index_start (unit : CalendarUnit) (i : Int) : unit.index (unit.start i) = i := by
  have hle : i ≤ unit.index (unit.start i) := start_le_iff.mp (Std.IsPreorder.le_refl _)
  apply Classical.byContradiction
  intro hne
  have hbegun : unit.start (unit.index (unit.start i)) ≤ unit.start i :=
    start_le_iff.mpr (Int.le_refl _)
  have hlater := start_lt_start unit (show i < unit.index (unit.start i) by omega)
  simp only [DateTime.le_def, DateTime.lt_def, Fin.le_def, Fin.lt_def] at hbegun hlater
  omega

end CalendarUnit

namespace DateTime

/-- The start of the unit that holds the point. -/
def truncate (t : DateTime) (unit : CalendarUnit) : DateTime :=
  unit.start (unit.index t)

/-- The start of the unit that comes `amount` units after the one holding the
    point; `none` if the calendar does not reach so far ahead. -/
def advance? (t : DateTime) (unit : CalendarUnit) (amount : Nat) : Option DateTime :=
  let later := unit.start (unit.index t + amount)
  if later < beyondLatest then some later else none

end DateTime

end CronSchedule
