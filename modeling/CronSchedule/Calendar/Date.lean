/-!
# Calendar dates

The proleptic Gregorian calendar: a date is a year, a month and a day, with a
year zero and negative years.  Days are also counted from 1 January of year 1,
which has the number 0, and the two views are inverse to each other: every
number is the number of one valid date, `Date.toDayNumber_ofDayNumber`, and
every valid date comes back from its number, `Date.ofDayNumber_toDayNumber`.
-/

namespace CronSchedule

/-! ### Years and months -/

/-- Every fourth year has a leap day, of the centuries every fourth one. -/
def isLeap (year : Int) : Bool :=
  year % 4 == 0 && (year % 100 != 0 || year % 400 == 0)

/-- The length of a month.  A number that names no month has the commonest
    length. -/
def daysInMonth (year : Int) : Nat → Nat
  | 4 | 6 | 9 | 11 => 30
  | 2 => if isLeap year then 29 else 28
  | _ => 31

/-- Days between 1 January of year 1 and 1 January of `year`. -/
def daysBeforeYear (year : Int) : Int :=
  365 * (year - 1) + (year - 1) / 4 - (year - 1) / 100 + (year - 1) / 400

/-- Days of the year before the first of `month`. -/
def daysBeforeMonth (leap : Bool) : Nat → Nat
  | 1 => 0
  | 2 => 31
  | 3 => 59 + leap.toNat
  | 4 => 90 + leap.toNat
  | 5 => 120 + leap.toNat
  | 6 => 151 + leap.toNat
  | 7 => 181 + leap.toNat
  | 8 => 212 + leap.toNat
  | 9 => 243 + leap.toNat
  | 10 => 273 + leap.toNat
  | 11 => 304 + leap.toNat
  | 12 => 334 + leap.toNat
  | _ => 365 + leap.toNat

/-- The numbers of the months. -/
def months : List Nat :=
  [1, 2, 3, 4, 5, 6, 7, 8, 9, 10, 11, 12]

/-- The month of a day of the year, counted from 0: as many months as have begun
    by then. -/
def monthOfYearDay (leap : Bool) (day : Nat) : Nat :=
  months.countP fun month => daysBeforeMonth leap month ≤ day

/-- The year of a day.  The mean length of a year gives an estimate that is off
    by at most one. -/
def yearOfDay (number : Int) : Int :=
  let estimate := 400 * number / 146097 + 1
  if number < daysBeforeYear estimate then estimate - 1
  else if daysBeforeYear (estimate + 1) ≤ number then estimate + 1
  else estimate

/-! ### Dates -/

/-- A year, a month counted from 1 and a day of the month counted from 1. -/
structure Date where
  year : Int
  month : Nat
  day : Nat
deriving DecidableEq, Repr

/-- The calendar has the date. -/
def Date.Valid (date : Date) : Prop :=
  1 ≤ date.month ∧ date.month ≤ 12 ∧ 1 ≤ date.day ∧
    date.day ≤ daysInMonth date.year date.month

instance (date : Date) : Decidable date.Valid :=
  inferInstanceAs (Decidable (_ ∧ _))

/-- The number of days from 1 January of year 1 to the date. -/
def Date.toDayNumber (date : Date) : Int :=
  daysBeforeYear date.year + daysBeforeMonth (isLeap date.year) date.month + date.day - 1

/-- The date of the day with the given number. -/
def Date.ofDayNumber (number : Int) : Date :=
  let year := yearOfDay number
  let leap := isLeap year
  let yearDay := (number - daysBeforeYear year).toNat
  let month := monthOfYearDay leap yearDay
  ⟨year, month, yearDay - daysBeforeMonth leap month + 1⟩

/-! ### Years and their days -/

theorem isLeap_iff {year : Int} :
    isLeap year ↔ year % 4 = 0 ∧ (year % 100 ≠ 0 ∨ year % 400 = 0) := by
  simp [isLeap]

/-- A year is one day longer if it is a leap year. -/
theorem daysBeforeYear_succ (year : Int) :
    daysBeforeYear (year + 1) = daysBeforeYear year + 365 + (isLeap year).toNat := by
  unfold daysBeforeYear
  cases hleap : isLeap year with
  | true =>
      have h := isLeap_iff.mp hleap
      simp only [Bool.toNat_true]
      omega
  | false =>
      have h : ¬ (year % 4 = 0 ∧ (year % 100 ≠ 0 ∨ year % 400 = 0)) := by
        rw [← isLeap_iff, hleap]
        simp
      simp only [Bool.toNat_false]
      omega

/-- Years follow each other without overlap. -/
theorem daysBeforeYear_mono {early late : Int} (h : early ≤ late) :
    daysBeforeYear early ≤ daysBeforeYear late := by
  unfold daysBeforeYear
  omega

/-- Every day lies within its year. -/
theorem yearOfDay_bounds (number : Int) :
    daysBeforeYear (yearOfDay number) ≤ number ∧
      number < daysBeforeYear (yearOfDay number + 1) := by
  have hdef : ∀ y, daysBeforeYear y =
      365 * (y - 1) + (y - 1) / 4 - (y - 1) / 100 + (y - 1) / 400 := fun _ => rfl
  simp only [yearOfDay]
  split
  · rename_i h
    rw [hdef] at h
    rw [hdef, hdef]
    omega
  · split
    · rename_i h1 h2
      rw [hdef] at h1 h2
      rw [hdef, hdef]
      omega
    · rename_i h1 h2
      exact ⟨by omega, by omega⟩

/-- A day lies in no other year. -/
theorem yearOfDay_eq {number year : Int} (hlow : daysBeforeYear year ≤ number)
    (hhigh : number < daysBeforeYear (year + 1)) : yearOfDay number = year := by
  have h := yearOfDay_bounds number
  by_cases hlt : yearOfDay number < year
  · have := daysBeforeYear_mono (show yearOfDay number + 1 ≤ year by omega)
    omega
  · by_cases hgt : year < yearOfDay number
    · have := daysBeforeYear_mono (show year + 1 ≤ yearOfDay number by omega)
      omega
    · omega

/-! ### Months and their days -/

/-- There are twelve months. -/
theorem month_cases {month : Nat} (h : 1 ≤ month ∧ month ≤ 12) :
    month = 1 ∨ month = 2 ∨ month = 3 ∨ month = 4 ∨ month = 5 ∨ month = 6 ∨
      month = 7 ∨ month = 8 ∨ month = 9 ∨ month = 10 ∨ month = 11 ∨ month = 12 := by
  omega

/-- A month has at least 28 and at most 31 days. -/
theorem daysInMonth_bounds (year : Int) (month : Nat) :
    28 ≤ daysInMonth year month ∧ daysInMonth year month ≤ 31 := by
  unfold daysInMonth
  grind

/-- The months of a year follow each other without gap. -/
theorem daysBeforeMonth_succ (year : Int) {month : Nat} (h : 1 ≤ month ∧ month ≤ 12) :
    daysBeforeMonth (isLeap year) (month + 1) =
      daysBeforeMonth (isLeap year) month + daysInMonth year month := by
  rcases month_cases h with h | h | h | h | h | h | h | h | h | h | h | h <;> subst h <;>
    cases hleap : isLeap year <;> simp [daysBeforeMonth, daysInMonth, hleap]

/-- A day between the first of `month` and the first of the next one is counted to
    `month`. -/
theorem monthOfYearDay_eq {leap : Bool} {month day : Nat} (hmonth : 1 ≤ month ∧ month ≤ 12)
    (hlow : daysBeforeMonth leap month ≤ day) (hhigh : day < daysBeforeMonth leap (month + 1)) :
    monthOfYearDay leap day = month := by
  simp only [monthOfYearDay, months, List.countP_cons, List.countP_nil, decide_eq_true_eq]
  rcases month_cases hmonth with h | h | h | h | h | h | h | h | h | h | h | h <;>
    subst h <;> simp only [daysBeforeMonth] at hlow hhigh ⊢ <;>
    simp (disch := omega) only [if_pos, if_neg]

theorem monthOfYearDay_bounds (leap : Bool) (day : Nat) (h : day < 365 + leap.toNat) :
    (1 ≤ monthOfYearDay leap day ∧ monthOfYearDay leap day ≤ 12) ∧
      daysBeforeMonth leap (monthOfYearDay leap day) ≤ day ∧
      day < daysBeforeMonth leap (monthOfYearDay leap day + 1) := by
  have hex : ∃ month, (1 ≤ month ∧ month ≤ 12) ∧ daysBeforeMonth leap month ≤ day ∧
      day < daysBeforeMonth leap (month + 1) := by
    apply Classical.byContradiction
    intro hno
    have hnone : ∀ month, 1 ≤ month ∧ month ≤ 12 → daysBeforeMonth leap month ≤ day →
        daysBeforeMonth leap (month + 1) ≤ day := fun month hm hlow =>
      Nat.le_of_not_lt fun hhigh => hno ⟨month, hm, hlow, hhigh⟩
    have hall : ∀ month, month ≤ 12 → daysBeforeMonth leap (month + 1) ≤ day := by
      intro month
      induction month with
      | zero => intro _; simp [daysBeforeMonth]
      | succ month ih => exact fun hm => hnone _ ⟨by omega, hm⟩ (ih (by omega))
    have := hall 12 (by decide)
    simp only [daysBeforeMonth] at this
    omega
  obtain ⟨month, hmonth, hlow, hhigh⟩ := hex
  rw [monthOfYearDay_eq hmonth hlow hhigh]
  exact ⟨hmonth, hlow, hhigh⟩

/-- A month ends within the year. -/
theorem daysBeforeMonth_le (leap : Bool) {month : Nat} (h : 1 ≤ month ∧ month ≤ 12) :
    daysBeforeMonth leap (month + 1) ≤ 365 + leap.toNat := by
  rcases month_cases h with h | h | h | h | h | h | h | h | h | h | h | h <;> subst h <;>
    simp only [daysBeforeMonth] <;> omega

/-! ### Dates and their numbers -/

/-- The number of days into its year, for a valid date. -/
theorem Date.toDayNumber_bounds {date : Date} (h : date.Valid) :
    daysBeforeYear date.year + daysBeforeMonth (isLeap date.year) date.month ≤
        date.toDayNumber ∧
      date.toDayNumber <
        daysBeforeYear date.year + daysBeforeMonth (isLeap date.year) (date.month + 1) := by
  obtain ⟨h1, h2, h3, h4⟩ := h
  have := daysBeforeMonth_succ date.year ⟨h1, h2⟩
  unfold Date.toDayNumber
  omega

theorem Date.ofDayNumber_toDayNumber {date : Date} (h : date.Valid) :
    Date.ofDayNumber date.toDayNumber = date := by
  have hbounds := Date.toDayNumber_bounds h
  obtain ⟨h1, h2, h3, h4⟩ := h
  have hsucc := daysBeforeYear_succ date.year
  have hend := daysBeforeMonth_le (isLeap date.year) ⟨h1, h2⟩
  have hyear : yearOfDay date.toDayNumber = date.year :=
    yearOfDay_eq (by omega) (by omega)
  have hmonth : monthOfYearDay (isLeap date.year)
      (date.toDayNumber - daysBeforeYear date.year).toNat = date.month :=
    monthOfYearDay_eq ⟨h1, h2⟩ (by omega) (by omega)
  simp only [Date.ofDayNumber, hyear, hmonth]
  congr 1
  unfold Date.toDayNumber
  omega

theorem Date.toDayNumber_ofDayNumber (number : Int) :
    (Date.ofDayNumber number).Valid ∧ (Date.ofDayNumber number).toDayNumber = number := by
  have hyear := yearOfDay_bounds number
  have hsucc := daysBeforeYear_succ (yearOfDay number)
  have hmonth := monthOfYearDay_bounds (isLeap (yearOfDay number))
    (number - daysBeforeYear (yearOfDay number)).toNat (by omega)
  have hnext := daysBeforeMonth_succ (yearOfDay number) hmonth.1
  refine ⟨⟨hmonth.1.1, hmonth.1.2, ?_, ?_⟩, ?_⟩
  · simp only [Date.ofDayNumber]
    omega
  · simp only [Date.ofDayNumber]
    omega
  · simp only [Date.ofDayNumber, Date.toDayNumber]
    omega

end CronSchedule
