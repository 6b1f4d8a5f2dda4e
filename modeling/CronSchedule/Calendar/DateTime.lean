import CronSchedule.Calendar.Weekday

/-!
# Dates with a time of day

A date with a time is one point of a line: the whole seconds since midnight of
1 January of year 1, and the nanoseconds of the second that has begun.  Year,
month, weekday, hour and so on are views of that point.  The same type serves
for what a clock shows and, read in universal time, for an instant.
-/

namespace CronSchedule

/-- A point in time. -/
structure DateTime where
  /-- Whole seconds since midnight of 1 January of year 1. -/
  seconds : Int
  /-- Nanoseconds of the second. -/
  nano : Fin 1000000000
deriving DecidableEq, Repr

namespace DateTime

/-! ### Order -/

/-- Earlier or at the same time. -/
protected def le (a b : DateTime) : Prop :=
  a.seconds < b.seconds ∨ a.seconds = b.seconds ∧ a.nano ≤ b.nano

/-- Earlier. -/
protected def lt (a b : DateTime) : Prop :=
  a.seconds < b.seconds ∨ a.seconds = b.seconds ∧ a.nano < b.nano

instance : LE DateTime := ⟨DateTime.le⟩
instance : LT DateTime := ⟨DateTime.lt⟩

instance (a b : DateTime) : Decidable (a ≤ b) :=
  inferInstanceAs (Decidable (_ ∨ _))

instance (a b : DateTime) : Decidable (a < b) :=
  inferInstanceAs (Decidable (_ ∨ _))

/-- The earlier of two points. -/
instance : Min DateTime := ⟨fun a b => if a ≤ b then a else b⟩

theorem le_def {a b : DateTime} :
    a ≤ b ↔ a.seconds < b.seconds ∨ a.seconds = b.seconds ∧ a.nano ≤ b.nano :=
  Iff.rfl

theorem lt_def {a b : DateTime} :
    a < b ↔ a.seconds < b.seconds ∨ a.seconds = b.seconds ∧ a.nano < b.nano :=
  Iff.rfl

theorem ext_iff {a b : DateTime} : a = b ↔ a.seconds = b.seconds ∧ a.nano.val = b.nano.val := by
  cases a
  cases b
  simp [Fin.ext_iff]

instance : Std.IsLinearOrder DateTime where
  le_refl _ := Or.inr ⟨rfl, Nat.le_refl _⟩
  le_trans a b c := by simp only [le_def, Fin.le_def]; omega
  le_antisymm a b hab hba := by
    simp only [le_def, Fin.le_def] at hab hba
    exact ext_iff.mpr ⟨by omega, by omega⟩
  le_total a b := by simp only [le_def, Fin.le_def]; omega

instance : Std.LawfulOrderLT DateTime where
  lt_iff a b := by simp only [le_def, lt_def, Fin.le_def, Fin.lt_def]; omega

instance : Std.LawfulOrderMin DateTime where
  min_eq_or a b := by
    show (if a ≤ b then a else b) = a ∨ (if a ≤ b then a else b) = b
    split <;> simp
  le_min_iff a b c := by
    show a ≤ (if b ≤ c then b else c) ↔ _
    split <;> simp only [le_def, Fin.le_def] at * <;> omega

/-! ### Views -/

/-- The number of the day, as in `Date.toDayNumber`. -/
def dayNumber (t : DateTime) : Int := t.seconds / 86400

/-- The calendar date. -/
def date (t : DateTime) : Date := Date.ofDayNumber t.dayNumber

/-- Seconds since midnight. -/
def secondOfDay (t : DateTime) : Nat := (t.seconds % 86400).toNat

def year (t : DateTime) : Int := yearOfDay t.dayNumber

def month (t : DateTime) : Nat := t.date.month

/-- The day of the month, counted from 1. -/
def day (t : DateTime) : Nat := t.date.day

/-- The weekday, 0 for Sunday. -/
def weekday (t : DateTime) : Nat := weekdayOfDay t.dayNumber

def hour (t : DateTime) : Nat := t.secondOfDay / 3600

def minute (t : DateTime) : Nat := t.secondOfDay / 60 % 60

def second (t : DateTime) : Nat := t.secondOfDay % 60

/-- Day and time of day together give the point. -/
theorem seconds_eq (t : DateTime) : t.seconds = 86400 * t.dayNumber + t.secondOfDay := by
  simp only [dayNumber, secondOfDay]
  omega

theorem secondOfDay_lt (t : DateTime) : t.secondOfDay < 86400 := by
  simp only [secondOfDay]
  omega

/-- Hour, minute and second together give the time of day. -/
theorem secondOfDay_eq (t : DateTime) :
    t.secondOfDay = 3600 * t.hour + 60 * t.minute + t.second := by
  simp only [hour, minute, second]
  omega

theorem hour_lt (t : DateTime) : t.hour < 24 := by
  have := t.secondOfDay_lt
  simp only [hour]
  omega

theorem minute_lt (t : DateTime) : t.minute < 60 := by
  simp only [minute]
  omega

theorem second_lt (t : DateTime) : t.second < 60 := by
  simp only [second]
  omega

/-- The date of a point is one that the calendar has. -/
theorem date_valid (t : DateTime) : t.date.Valid :=
  (Date.toDayNumber_ofDayNumber t.dayNumber).1

theorem toDayNumber_date (t : DateTime) : t.date.toDayNumber = t.dayNumber :=
  (Date.toDayNumber_ofDayNumber t.dayNumber).2

/-- The two ways to find the weekday of a point agree. -/
theorem weekdayOfDate_date (t : DateTime) :
    weekdayOfDate t.date.year t.date.month t.date.day = t.weekday := by
  rw [weekdayOfDate_eq t.date_valid, toDayNumber_date, weekday]

/-! ### Construction -/

/-- The point at which a second begins. -/
def ofSeconds (seconds : Int) : DateTime := ⟨seconds, ⟨0, by decide⟩⟩

/-- Midnight at the start of the day with the given number. -/
def startOfDay (number : Int) : DateTime := ofSeconds (86400 * number)

/-- The point at which a calendar and a clock show the given values; `none` if
    they never do. -/
def ofParts? (date : Date) (hour minute second nano : Nat) : Option DateTime :=
  if h : date.Valid ∧ hour < 24 ∧ minute < 60 ∧ second < 60 ∧ nano < 1000000000 then
    some ⟨86400 * date.toDayNumber + (3600 * hour + 60 * minute + second : Nat),
      ⟨nano, h.2.2.2.2⟩⟩
  else
    none

/-- The point a number of seconds later, or earlier if the number is negative. -/
def addSeconds (t : DateTime) (seconds : Int) : DateTime :=
  { t with seconds := t.seconds + seconds }

@[simp] theorem dayNumber_startOfDay (number : Int) : (startOfDay number).dayNumber = number := by
  simp only [startOfDay, ofSeconds, dayNumber]
  omega

/-- A point shows the parts that it was made from. -/
theorem parts_of_ofParts? {date : Date} {hour minute second nano : Nat} {t : DateTime}
    (h : ofParts? date hour minute second nano = some t) :
    t.date = date ∧ t.hour = hour ∧ t.minute = minute ∧ t.second = second ∧
      t.nano.val = nano := by
  simp only [ofParts?] at h
  split at h
  · rename_i hparts
    have ⟨hdate, hhour, hminute, hsecond, _⟩ := hparts
    cases h
    have hday : (86400 * date.toDayNumber + (3600 * hour + 60 * minute + second : Nat)) / 86400 =
        date.toDayNumber := by
      omega
    refine ⟨?_, ?_, ?_, ?_, rfl⟩
    · simp only [DateTime.date, dayNumber, hday]
      exact Date.ofDayNumber_toDayNumber hdate
    · simp only [DateTime.hour, secondOfDay]
      omega
    · simp only [DateTime.minute, secondOfDay]
      omega
    · simp only [DateTime.second, secondOfDay]
      omega
  · simp at h

/-- Every point is made from what it shows. -/
theorem ofParts?_parts (t : DateTime) :
    ofParts? t.date t.hour t.minute t.second t.nano = some t := by
  have hparts : t.date.Valid ∧ t.hour < 24 ∧ t.minute < 60 ∧ t.second < 60 ∧
      t.nano.val < 1000000000 :=
    ⟨t.date_valid, t.hour_lt, t.minute_lt, t.second_lt, t.nano.isLt⟩
  have hseconds := t.seconds_eq
  have hclock := t.secondOfDay_eq
  simp only [ofParts?, hparts, and_self, dite_true, Option.some.injEq, ext_iff, and_true,
    toDayNumber_date]
  omega

/-! ### The span of the calendar -/

/-- The first point of the calendar, in the year -262143. -/
def earliest : DateTime := startOfDay (Date.toDayNumber ⟨-262143, 1, 1⟩)

/-- The first point beyond the calendar, which ends with the year 262142. -/
def beyondLatest : DateTime := startOfDay (Date.toDayNumber ⟨262143, 1, 1⟩)

/-- The calendar goes that far back and ahead. -/
def InSpan (t : DateTime) : Prop := earliest ≤ t ∧ t < beyondLatest

instance (t : DateTime) : Decidable t.InSpan :=
  inferInstanceAs (Decidable (_ ∧ _))

end DateTime

end CronSchedule
