import Mathlib.Algebra.Group.Nat.Defs
import Mathlib.Order.Bounds.Basic
import CronSchedule.Proofs.Calendar.Month

/-!
# Counting units

Truncation and advancing are defined by the numbers of the units.  What they mean on the
calendar is said here without numbers: a unit begins at a point where everything smaller
stands at its least value (`DateTime.Begins`), to truncate is to go back to the last such
point, and to advance is to go on from one such point to the next, as often as told
(`UnitsAhead`).  One fact connects the two views, `DateTime.begins_iff`; with it the laws
of truncation and advancing are facts about order.

Another way to advance adds a duration or a number of months, and gives up as soon as a
number on the way does not fit its word.  That happens only where the calendar has ended
already, `DateTime.advanceInWords?_eq`.
-/

namespace CronSchedule

/-! ### Points and units -/

/-- Before the start of a unit are the points of earlier units. -/
theorem CalendarUnit.lt_start_iff {unit : CalendarUnit} {i : Int} {t : DateTime} :
    t < unit.start i ↔ unit.index t < i := by
  rw [← Std.not_le, start_le_iff]
  exact Int.not_le

theorem CalendarUnit.index_mono (unit : CalendarUnit) {t u : DateTime} (h : t ≤ u) :
    unit.index t ≤ unit.index u :=
  start_le_iff.mp (Std.le_trans (start_le_iff.mpr (Int.le_refl _)) h)

theorem CalendarUnit.start_mono (unit : CalendarUnit) {i j : Int} (h : i ≤ j) :
    unit.start i ≤ unit.start j := by
  rw [start_le_iff, index_start]
  exact h

theorem CalendarUnit.start_nano (unit : CalendarUnit) (i : Int) : (unit.start i).nano.val = 0 := by
  cases unit <;> rfl

theorem DateTime.advance?_eq_some_iff {t later : DateTime} {unit : CalendarUnit} {amount : Nat} :
    t.advance? unit amount = some later ↔
      later = unit.start (unit.index t + amount) ∧ later < beyondLatest := by
  unfold advance?
  dsimp only
  split
  · rename_i hspan
    rw [Option.some.injEq]
    exact ⟨fun h => ⟨h.symm, h ▸ hspan⟩, fun h => h.1.symm⟩
  · rename_i hspan
    constructor
    · intro h
      cases h
    · rintro ⟨rfl, hlater⟩
      exact absurd hlater hspan

theorem DateTime.lt_of_advance? {t later : DateTime} {unit : CalendarUnit} {amount : Nat}
    (hamount : 0 < amount) (h : t.advance? unit amount = some later) : t < later := by
  rw [(advance?_eq_some_iff.mp h).1, CalendarUnit.lt_start_iff]
  omega

/-! ### Where units begin -/

/-- The units are ranked by their length. -/
def CalendarUnit.rank : CalendarUnit → Nat
  | second => 0
  | minute => 1
  | hour => 2
  | day => 3
  | month => 4
  | year => 5

/-- A unit begins at the point: all that is smaller than the unit stands at its least
    value. -/
structure DateTime.Begins (t : DateTime) (unit : CalendarUnit) : Prop where
  nano : t.nano.val = 0
  second : CalendarUnit.second.rank < unit.rank → t.second = 0
  minute : CalendarUnit.minute.rank < unit.rank → t.minute = 0
  hour : CalendarUnit.hour.rank < unit.rank → t.hour = 0
  day : CalendarUnit.day.rank < unit.rank → t.day = 1
  month : CalendarUnit.month.rank < unit.rank → t.month = 1

namespace DateTime

variable {t u : DateTime} {unit finer : CalendarUnit}

theorem Begins.of_rank_le (h : t.Begins unit) (hrank : finer.rank ≤ unit.rank) :
    t.Begins finer where
  nano := h.nano
  second hfiner := h.second (Nat.lt_of_lt_of_le hfiner hrank)
  minute hfiner := h.minute (Nat.lt_of_lt_of_le hfiner hrank)
  hour hfiner := h.hour (Nat.lt_of_lt_of_le hfiner hrank)
  day hfiner := h.day (Nat.lt_of_lt_of_le hfiner hrank)
  month hfiner := h.month (Nat.lt_of_lt_of_le hfiner hrank)

theorem clock_startOfDay (number : Int) :
    (startOfDay number).hour = 0 ∧ (startOfDay number).minute = 0 ∧
      (startOfDay number).second = 0 := by
  have htime : (startOfDay number).secondOfDay = 0 := by
    simp only [startOfDay, ofSeconds, secondOfDay]
    omega
  simp [hour, minute, second, htime]

theorem date_startOfDay {date : Date} (h : date.Valid) :
    (startOfDay date.toDayNumber).date = date := by
  rw [DateTime.date, dayNumber_startOfDay]
  exact Date.ofDayNumber_toDayNumber h

/-- The date on which a month begins. -/
theorem date_startOfMonth (i : Int) :
    (CalendarUnit.month.start i).date = ⟨i / 12, (i % 12).toNat + 1, 1⟩ := by
  have hlength := (daysInMonth_bounds (i / 12) ((i % 12).toNat + 1)).1
  apply date_startOfDay
  refine ⟨?_, ?_, Nat.le_refl _, ?_⟩ <;> dsimp only <;> omega

/-- A year begins with its January. -/
theorem startOfMonth_january (i : Int) :
    CalendarUnit.month.start (12 * i) = CalendarUnit.year.start i := by
  have hyear : 12 * i / 12 = i := by omega
  have hjanuary : 12 * i % 12 = 0 := by omega
  simp [CalendarUnit.start, firstDayOfMonth, Date.toDayNumber, daysBeforeMonth, hyear, hjanuary]

/-- The date on which a year begins. -/
theorem date_startOfYear (i : Int) : (CalendarUnit.year.start i).date = ⟨i, 1, 1⟩ := by
  have hyear : 12 * i / 12 = i := by omega
  have hjanuary : 12 * i % 12 = 0 := by omega
  rw [← startOfMonth_january, date_startOfMonth, hyear, hjanuary]
  rfl

theorem begins_start (unit : CalendarUnit) (i : Int) : (unit.start i).Begins unit := by
  cases unit with
  | second =>
      exact ⟨rfl, (absurd · (by decide)), (absurd · (by decide)), (absurd · (by decide)),
        (absurd · (by decide)), (absurd · (by decide))⟩
  | minute =>
      refine ⟨rfl, fun _ => ?_, (absurd · (by decide)), (absurd · (by decide)),
        (absurd · (by decide)), (absurd · (by decide))⟩
      simp only [CalendarUnit.start, ofSeconds, second, secondOfDay]
      omega
  | hour =>
      refine ⟨rfl, fun _ => ?_, fun _ => ?_, (absurd · (by decide)), (absurd · (by decide)),
        (absurd · (by decide))⟩
      · simp only [CalendarUnit.start, ofSeconds, second, secondOfDay]
        omega
      · simp only [CalendarUnit.start, ofSeconds, minute, secondOfDay]
        omega
  | day =>
      obtain ⟨hhour, hminute, hsecond⟩ := clock_startOfDay i
      exact ⟨rfl, fun _ => hsecond, fun _ => hminute, fun _ => hhour, (absurd · (by decide)),
        (absurd · (by decide))⟩
  | month =>
      obtain ⟨hhour, hminute, hsecond⟩ := clock_startOfDay (firstDayOfMonth i)
      exact ⟨rfl, fun _ => hsecond, fun _ => hminute, fun _ => hhour,
        fun _ => congrArg Date.day (date_startOfMonth i), (absurd · (by decide))⟩
  | year =>
      obtain ⟨hhour, hminute, hsecond⟩ := clock_startOfDay (daysBeforeYear i)
      exact ⟨rfl, fun _ => hsecond, fun _ => hminute, fun _ => hhour,
        fun _ => congrArg Date.day (date_startOfYear i),
        fun _ => congrArg Date.month (date_startOfYear i)⟩

/-- A point at which a day begins is midnight of that day. -/
theorem Begins.startOfDay_eq (h : t.Begins .day) : startOfDay t.dayNumber = t := by
  have htime := t.secondOfDay_eq
  rw [h.hour (by decide), h.minute (by decide), h.second (by decide)] at htime
  rw [ext_iff, h.nano, t.seconds_eq, htime]
  exact ⟨(Int.add_zero _).symm, rfl⟩

theorem Begins.truncate_eq (h : t.Begins unit) : t.truncate unit = t := by
  cases unit with
  | second => exact ext_iff.mpr ⟨rfl, h.nano.symm⟩
  | minute =>
      have hsecond := h.second (by decide)
      refine ext_iff.mpr ⟨?_, h.nano.symm⟩
      simp only [truncate, CalendarUnit.start, CalendarUnit.index, ofSeconds]
      simp only [DateTime.second, secondOfDay] at hsecond
      omega
  | hour =>
      have hsecond := h.second (by decide)
      have hminute := h.minute (by decide)
      refine ext_iff.mpr ⟨?_, h.nano.symm⟩
      simp only [truncate, CalendarUnit.start, CalendarUnit.index, ofSeconds]
      simp only [DateTime.second, DateTime.minute, secondOfDay] at hsecond hminute
      omega
  | day => exact h.startOfDay_eq
  | month =>
      have hday : (t.date.day : Int) = 1 := congrArg Int.ofNat (h.day (by decide))
      have hfirst : firstDayOfMonth (CalendarUnit.month.index t) = t.dayNumber := by
        have := t.day_eq
        omega
      rw [truncate, CalendarUnit.start, hfirst]
      exact (h.of_rank_le (by decide)).startOfDay_eq
  | year =>
      have hday : t.date.day = 1 := h.day (by decide)
      have hmonth : t.date.month = 1 := h.month (by decide)
      have hfirst : daysBeforeYear (CalendarUnit.year.index t) = t.dayNumber := by
        rw [← t.toDayNumber_date, Date.toDayNumber, hmonth, hday]
        simp [daysBeforeMonth, CalendarUnit.index, year, date, Date.ofDayNumber]
      rw [truncate, CalendarUnit.start, hfirst]
      exact (h.of_rank_le (by decide)).startOfDay_eq

/-- The points at which a unit begins are the starts of the numbered units. -/
theorem begins_iff : t.Begins unit ↔ ∃ i, t = unit.start i := by
  constructor
  · intro h
    exact ⟨unit.index t, h.truncate_eq.symm⟩
  · rintro ⟨i, rfl⟩
    exact begins_start unit i

/-! ### Truncation -/

theorem begins_truncate (t : DateTime) (unit : CalendarUnit) : (t.truncate unit).Begins unit :=
  begins_start unit _

theorem truncate_le (t : DateTime) (unit : CalendarUnit) : t.truncate unit ≤ t :=
  CalendarUnit.start_le_iff.mpr (Int.le_refl _)

theorem truncate_mono (unit : CalendarUnit) (h : t ≤ u) : t.truncate unit ≤ u.truncate unit :=
  unit.start_mono (unit.index_mono h)

/-- To truncate is to go back to the last point at which a unit begins. -/
theorem isGreatest_truncate (t : DateTime) (unit : CalendarUnit) :
    IsGreatest {b | b.Begins unit ∧ b ≤ t} (t.truncate unit) := by
  refine ⟨⟨t.begins_truncate unit, t.truncate_le unit⟩, ?_⟩
  intro b hb
  have hlast := truncate_mono unit hb.2
  rw [hb.1.truncate_eq] at hlast
  exact hlast

/-- What begins a unit begins all finer ones too, so nothing is lost on the way over them. -/
theorem truncate_truncate (hrank : finer.rank ≤ unit.rank) :
    (t.truncate finer).truncate unit = t.truncate unit := by
  apply Std.le_antisymm
  · exact truncate_mono unit (t.truncate_le finer)
  · have hfiner := (t.isGreatest_truncate finer).2
      ⟨(t.begins_truncate unit).of_rank_le hrank, t.truncate_le unit⟩
    have htwice := truncate_mono unit hfiner
    rw [(t.begins_truncate unit).truncate_eq] at htwice
    exact htwice

/-! ### Advancing -/

/-- The point at which a unit begins again, where one begins at `unit.start i`. -/
theorem isLeast_start (t : DateTime) (unit : CalendarUnit) :
    IsLeast {b | b.Begins unit ∧ t < b} (unit.start (unit.index t + 1)) := by
  refine ⟨⟨begins_start unit _, ?_⟩, ?_⟩
  · rw [CalendarUnit.lt_start_iff]
    omega
  · rintro b ⟨hb, hlt⟩
    obtain ⟨i, rfl⟩ := begins_iff.mp hb
    rw [CalendarUnit.lt_start_iff] at hlt
    exact unit.start_mono hlt

end DateTime

/-- The point at which the unit begins that comes `amount` units after the one holding `t`,
    found by going on from one beginning to the next, however far the calendar goes. -/
inductive UnitsAhead (unit : CalendarUnit) (t : DateTime) : Nat → DateTime → Prop
  | here {b : DateTime} (last : IsGreatest {b | b.Begins unit ∧ b ≤ t} b) : UnitsAhead unit t 0 b
  | next {amount : Nat} {b c : DateTime} (ahead : UnitsAhead unit t amount b)
      (first : IsLeast {c | c.Begins unit ∧ b < c} c) : UnitsAhead unit t (amount + 1) c

theorem unitsAhead_iff {unit : CalendarUnit} {t b : DateTime} {amount : Nat} :
    UnitsAhead unit t amount b ↔ b = unit.start (unit.index t + amount) := by
  constructor
  · intro h
    induction h with
    | here last =>
        have hlast := t.isGreatest_truncate unit
        rw [Int.ofNat_zero, Int.add_zero]
        exact Std.le_antisymm (hlast.2 last.1) (last.2 hlast.1)
    | @next amount b c _ first ih =>
        have hfirst := b.isLeast_start unit
        rw [ih, CalendarUnit.index_start, ← ih, Int.add_assoc] at hfirst
        exact Std.le_antisymm (first.2 hfirst.1) (hfirst.2 first.1)
  · rintro rfl
    induction amount with
    | zero =>
        rw [Int.ofNat_zero, Int.add_zero]
        exact .here (t.isGreatest_truncate unit)
    | succ amount ih =>
        have hfirst := (unit.start (unit.index t + amount)).isLeast_start unit
        rw [CalendarUnit.index_start, Int.add_assoc] at hfirst
        exact .next ih hfirst

namespace DateTime

variable {t later : DateTime} {unit : CalendarUnit} {amount : Nat}

theorem begins_earliest (unit : CalendarUnit) : earliest.Begins unit := by
  have hyear : earliest.Begins .year := begins_iff.mpr ⟨-262143, by decide +kernel⟩
  exact hyear.of_rank_le (by cases unit <;> decide)

/-- On the way ahead the calendar can only be left at its far end. -/
theorem InSpan.start_iff (h : t.InSpan) (unit : CalendarUnit) (amount : Nat) :
    (unit.start (unit.index t + amount)).InSpan ↔
      unit.start (unit.index t + amount) < beyondLatest := by
  have hbegun : earliest ≤ t.truncate unit :=
    (t.isGreatest_truncate unit).2 ⟨begins_earliest unit, h.1⟩
  have hahead : t.truncate unit ≤ unit.start (unit.index t + amount) :=
    unit.start_mono (Int.le_add_of_nonneg_right (Int.natCast_nonneg amount))
  exact and_iff_right (Std.le_trans hbegun hahead)

theorem InSpan.advance?_eq_some_iff (h : t.InSpan) :
    t.advance? unit amount = some later ↔ UnitsAhead unit t amount later ∧ later.InSpan := by
  rw [DateTime.advance?_eq_some_iff, unitsAhead_iff]
  apply and_congr_right
  rintro rfl
  exact (h.start_iff unit amount).symm

theorem InSpan.advance?_eq_none_iff (h : t.InSpan) :
    t.advance? unit amount = none ↔ ∃ later, UnitsAhead unit t amount later ∧ ¬ later.InSpan := by
  simp only [unitsAhead_iff, exists_eq_left, h.start_iff]
  simp [advance?]

theorem InSpan.advance?_zero (h : t.InSpan) (unit : CalendarUnit) :
    t.advance? unit 0 = some (t.truncate unit) := by
  rw [DateTime.advance?_eq_some_iff, Int.ofNat_zero, Int.add_zero]
  exact ⟨rfl, Std.lt_of_le_of_lt (t.truncate_le unit) h.2⟩

/-- What is out of reach in a first part stays so in the whole. -/
theorem advance?_add (t : DateTime) (unit : CalendarUnit) (m n : Nat) :
    t.advance? unit (m + n) = (t.advance? unit m).bind (·.advance? unit n) := by
  have hsum : unit.index t + (m + n : Nat) = unit.index t + m + n := by omega
  by_cases hspan : unit.start (unit.index t + m) < beyondLatest
  · simp only [advance?, hsum, if_pos hspan, Option.bind_some, CalendarUnit.index_start]
  · have hfurther : unit.start (unit.index t + m) ≤ unit.start (unit.index t + m + n) :=
      unit.start_mono (Int.le_add_of_nonneg_right (Int.natCast_nonneg n))
    have hbeyond : ¬ unit.start (unit.index t + m + n) < beyondLatest :=
      fun hlt => hspan (Std.lt_of_le_of_lt hfurther hlt)
    simp only [advance?, hsum, if_neg hspan, if_neg hbeyond, Option.bind_none]

/-! ### Durations and months -/

/-- The point a number of seconds later.  A duration is counted in milliseconds, which have
    to fit a word of 64 bits with a sign. -/
def addDuration? (t : DateTime) (seconds : Nat) : Option DateTime :=
  if 1000 * seconds < 2 ^ 63 ∧ (t.addSeconds seconds).InSpan then
    some (t.addSeconds seconds)
  else
    none

/-- The same day and time a number of months later, or the last day of that month if it is
    shorter.  The number of months has to fit a word of 32 bits. -/
def addMonths? (t : DateTime) (count : Nat) : Option DateTime :=
  let month := CalendarUnit.month.index t + count
  let year := month / 12
  let number := (month % 12).toNat + 1
  let date : Date := ⟨year, number, min t.day (daysInMonth year number)⟩
  let later : DateTime := ⟨86400 * date.toDayNumber + t.secondOfDay, t.nano⟩
  if count < 2 ^ 32 ∧ later.InSpan then some later else none

/-- Advance by a duration or, where units differ in length, by a number of months. -/
def advanceInWords? (t : DateTime) (unit : CalendarUnit) (amount : Nat) : Option DateTime :=
  let start := t.truncate unit
  match unit with
  | .second => start.addDuration? amount
  | .minute => start.addDuration? (60 * amount)
  | .hour => start.addDuration? (3600 * amount)
  | .day => start.addDuration? (86400 * amount)
  | .month => start.addMonths? amount
  | .year => start.addMonths? (12 * amount)

theorem InSpan.addDuration?_eq (h : t.InSpan) {seconds : Nat} (hword : 1000 * seconds < 2 ^ 63)
    (hmove : (t.truncate unit).addSeconds seconds = unit.start (unit.index t + amount)) :
    (t.truncate unit).addDuration? seconds = t.advance? unit amount := by
  rw [addDuration?, hmove]
  simp only [hword, true_and, h.start_iff]
  rfl

/-- From the first of a month the way leads to the first of a month. -/
theorem addMonths?_start (i : Int) (count : Nat) :
    (CalendarUnit.month.start i).addMonths? count =
      if count < 2 ^ 32 ∧ (CalendarUnit.month.start (i + count)).InSpan then
        some (CalendarUnit.month.start (i + count))
      else none := by
  have hbegins := begins_start .month i
  have hday : (CalendarUnit.month.start i).day = 1 := hbegins.day (by decide)
  have htime : (CalendarUnit.month.start i).secondOfDay = 0 := by
    rw [secondOfDay_eq, hbegins.hour (by decide), hbegins.minute (by decide),
      hbegins.second (by decide)]
  have hfirst : ∀ month : Int, min 1 (daysInMonth (month / 12) ((month % 12).toNat + 1)) = 1 := by
    intro month
    have := daysInMonth_bounds (month / 12) ((month % 12).toNat + 1)
    omega
  simp only [addMonths?, CalendarUnit.index_start, hday, htime, hfirst, Int.ofNat_zero, Int.add_zero]
  rfl

/-- The last month of the calendar comes before a number of months grows too large. -/
theorem InSpan.lt_word_of_year (h : t.InSpan)
    (hlater : CalendarUnit.year.start (CalendarUnit.year.index t + amount) < beyondLatest) :
    12 * amount < 2 ^ 32 := by
  have hfirst : CalendarUnit.year.index earliest = -262143 := by decide +kernel
  have hend : CalendarUnit.year.start 262143 = beyondLatest := by decide +kernel
  have hindex := CalendarUnit.year.index_mono h.1
  rw [← hend, CalendarUnit.lt_start_iff, CalendarUnit.index_start] at hlater
  omega

/-- Each number on the way fits its word unless the calendar ends first. -/
theorem InSpan.advanceInWords?_eq (h : t.InSpan) (hword : amount < 2 ^ 32) :
    t.advanceInWords? unit amount = t.advance? unit amount := by
  cases unit with
  | second =>
      refine h.addDuration?_eq (by omega) (ext_iff.mpr ⟨?_, rfl⟩)
      simp only [addSeconds, truncate, CalendarUnit.start, ofSeconds]
  | minute =>
      refine h.addDuration?_eq (by omega) (ext_iff.mpr ⟨?_, rfl⟩)
      simp only [addSeconds, truncate, CalendarUnit.start, ofSeconds]
      omega
  | hour =>
      refine h.addDuration?_eq (by omega) (ext_iff.mpr ⟨?_, rfl⟩)
      simp only [addSeconds, truncate, CalendarUnit.start, ofSeconds]
      omega
  | day =>
      refine h.addDuration?_eq (by omega) (ext_iff.mpr ⟨?_, rfl⟩)
      simp only [addSeconds, truncate, CalendarUnit.start, startOfDay, ofSeconds]
      omega
  | month =>
      simp only [advanceInWords?, truncate, addMonths?_start, hword, true_and, h.start_iff]
      rfl
  | year =>
      have hsum : 12 * CalendarUnit.year.index t + (12 * amount : Nat) =
          12 * (CalendarUnit.year.index t + amount) := by
        omega
      rw [advanceInWords?, truncate, ← startOfMonth_january, addMonths?_start, hsum,
        startOfMonth_january]
      -- the condition on the word is void: it holds wherever the calendar goes
      simp only [h.start_iff, and_iff_right_of_imp h.lt_word_of_year]
      rfl

/-- To truncate is to go back to the last beginning of a unit, over finer units or at once.  To
    advance is to go on from there from one beginning to the next, so that amounts add up; it
    fails exactly where this leads out of the calendar, and adding durations and months in
    words of a fixed size comes to the same. -/
theorem advance?_counts_units {t : DateTime} (h : t.InSpan) (unit : CalendarUnit) {m n : Nat}
    (hword : m + n < 2 ^ 32) :
    ((t.truncate unit).truncate unit = t.truncate unit ∧
      (∀ finer : CalendarUnit, finer.rank ≤ unit.rank →
        (t.truncate finer).truncate unit = t.truncate unit) ∧
      t.truncate unit ≤ t ∧
      IsGreatest {b | b.Begins unit ∧ b ≤ t} (t.truncate unit)) ∧
    (t.advance? unit 0 = some (t.truncate unit) ∧
      t.advance? unit (m + n) = (t.advance? unit m).bind (·.advance? unit n) ∧
      (∀ later, t.advance? unit m = some later → later.Begins unit) ∧
      (∀ later, t.advance? unit 1 = some later → IsLeast {b | b.Begins unit ∧ t < b} later)) ∧
    (∀ later, t.advance? unit m = some later ↔ UnitsAhead unit t m later ∧ later.InSpan) ∧
    (t.advance? unit m = none ↔ ∃ later, UnitsAhead unit t m later ∧ ¬ later.InSpan) ∧
    t.advanceInWords? unit m = t.advance? unit m := by
  refine ⟨⟨truncate_truncate (Nat.le_refl _), fun finer => truncate_truncate, t.truncate_le unit,
    t.isGreatest_truncate unit⟩, ⟨h.advance?_zero unit, t.advance?_add unit m n, ?_, ?_⟩,
    fun later => h.advance?_eq_some_iff, h.advance?_eq_none_iff, h.advanceInWords?_eq (by omega)⟩
  · intro later hlater
    rw [(advance?_eq_some_iff.mp hlater).1]
    exact begins_start unit _
  · intro later hlater
    rw [(advance?_eq_some_iff.mp hlater).1]
    exact t.isLeast_start unit

/-- After the last November of the calendar one more month begins, and then none. -/
theorem advance?_counts_units_to_last_december :
    ∃ t december : DateTime, t.InSpan ∧ 1 + 1 < 2 ^ 32 ∧ t.date = ⟨262142, 11, 30⟩ ∧
      december.date = ⟨262142, 12, 1⟩ ∧ IsLeast {b | b.Begins .month ∧ t < b} december ∧
      t.advance? .month 1 = some december ∧ t.advance? .month (1 + 1) = none ∧
      ∃ later, UnitsAhead .month t (1 + 1) later ∧ ¬ later.InSpan := by
  let t : DateTime := (startOfDay (Date.toDayNumber ⟨262142, 11, 30⟩)).addSeconds 86399
  let december : DateTime := startOfDay (Date.toDayNumber ⟨262142, 12, 1⟩)
  have hspan : t.InSpan := by decide +kernel
  have hdecember : t.advance? .month 1 = some december := by decide +kernel
  obtain ⟨-, ⟨-, hsum, -, hnext⟩, -⟩ :=
    advance?_counts_units hspan .month (m := 1) (n := 1) (by decide)
  obtain ⟨-, -, -, hnone, -⟩ :=
    advance?_counts_units hspan .month (m := 1 + 1) (n := 0) (by decide)
  have hend : t.advance? .month (1 + 1) = none := by
    rw [hsum, hdecember]
    decide +kernel
  exact ⟨t, december, hspan, by decide, by decide +kernel, by decide +kernel, hnext _ hdecember,
    hdecember, hend, hnone.mp hend⟩

end DateTime

end CronSchedule
