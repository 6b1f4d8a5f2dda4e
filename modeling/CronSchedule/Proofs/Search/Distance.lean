import CronSchedule.Proofs.Calendar.Month
import CronSchedule.Proofs.WellFormed
import CronSchedule.Search

/-!
# Distances skip nothing

The search moves ahead by the distance to the place where an item is met next.
Here the distances are held against what the items accept: an item that rejects a
point rejects every later point that is nearer than its distance,
`Item.rejects_before_distance`, and no distance is zero, `Item.distance_pos`.

Two facts about a field carry the argument.  As long as its greatest value is not
passed the field counts on, one for each unit; after that it starts again from its
least value and cannot have come further than the units allow
(`Field.valueAt_ahead`).  The months have different lengths, and a day that one
month lacks is looked for in the next: this is why the second fact is an
inequality.
-/

namespace CronSchedule

/-! ### What a field shows ahead of a point -/

/-- Units of the field between two points. -/
def Field.unitsBetween (field : Field) (t u : DateTime) : Int :=
  field.unit.index u - field.unit.index t

/-- Ahead of a point a field counts on up to its greatest value and then starts again;
    only the year goes on beyond the values that an expression may name. -/
theorem Field.valueAt_ahead {field : Field} {t u : DateTime} (h : 0 ≤ field.unitsBetween t u) :
    (field.valueAt t + field.unitsBetween t u ≤ field.greatestAt t →
      field.valueAt u = field.valueAt t + field.unitsBetween t u) ∧
    (field.greatestAt t < field.valueAt t + field.unitsBetween t u →
      field.valueAt u ≤
          field.least + (field.valueAt t + field.unitsBetween t u - field.greatestAt t - 1) ∨
        field = .year ∧ field.greatest < field.valueAt u) := by
  cases field with
  | second =>
      simp only [unitsBetween, unit, CalendarUnit.index, valueAt, greatestAt, greatest, least,
        DateTime.second, DateTime.secondOfDay] at h ⊢
      omega
  | minute =>
      simp only [unitsBetween, unit, CalendarUnit.index, valueAt, greatestAt, greatest, least,
        DateTime.minute, DateTime.secondOfDay] at h ⊢
      omega
  | hour =>
      simp only [unitsBetween, unit, CalendarUnit.index, valueAt, greatestAt, greatest, least,
        DateTime.hour, DateTime.secondOfDay] at h ⊢
      omega
  | dayOfMonth =>
      have hahead := dayOfMonth_ahead (Int.sub_nonneg.mp h)
      exact ⟨hahead.1, fun hbeyond => Or.inl (hahead.2 hbeyond)⟩
  | month =>
      have ht := t.date_valid
      have hu := u.date_valid
      have h1 := ht.1
      have h2 := ht.2.1
      have h3 := hu.1
      have h4 := hu.2.1
      simp only [unitsBetween, unit, CalendarUnit.index, valueAt, greatestAt, greatest, least,
        DateTime.month] at h ⊢
      omega
  | dayOfWeek =>
      simp only [unitsBetween, unit, CalendarUnit.index, valueAt, greatestAt, greatest, least,
        DateTime.weekday, weekdayOfDay] at h ⊢
      omega
  | year =>
      have hyear : valueAt .year u = valueAt .year t + unitsBetween .year t u := by
        simp only [unitsBetween, unit, CalendarUnit.index, valueAt]
        omega
      exact ⟨fun _ => hyear, fun hbeyond => Or.inr ⟨rfl, hyear ▸ hbeyond⟩⟩

theorem Field.least_le_greatestAt (field : Field) (t : DateTime) :
    field.least ≤ field.greatestAt t := by
  cases field with
  | dayOfMonth =>
      have := (daysInMonth_bounds t.date.year t.date.month).1
      exact Nat.le_trans (by decide) this
  | _ => exact Field.least_le_greatest _

theorem Field.valueAt_le_greatestAt (field : Field) {t : DateTime} (h : t.year ≤ lastYear) :
    field.valueAt t ≤ field.greatestAt t := by
  cases field with
  | second => exact Int.ofNat_le.mpr (Nat.le_of_lt_succ t.second_lt)
  | minute => exact Int.ofNat_le.mpr (Nat.le_of_lt_succ t.minute_lt)
  | hour => exact Int.ofNat_le.mpr (Nat.le_of_lt_succ t.hour_lt)
  | dayOfMonth => exact Int.ofNat_le.mpr t.date_valid.2.2.2
  | month => exact Int.ofNat_le.mpr t.date_valid.2.1
  | dayOfWeek => exact Int.ofNat_le.mpr (Nat.le_of_lt_succ (weekdayOfDay_lt _))
  | year => exact h

/-! ### Values, ranges and series -/

theorem distanceAhead_pos {value target least greatest : Int} (hvalue : value ≤ greatest)
    (htarget : least ≤ target) : 0 < distanceAhead value target least greatest := by
  unfold distanceAhead
  split <;> omega

/-- What a field shows nearer than the distance to a target: either it has counted on,
    without meeting the target, or it has started again and is still below the
    target. -/
theorem Field.valueAt_before {field : Field} {t u : DateTime} {target : Int}
    (hle : 0 ≤ field.unitsBetween t u)
    (hlt : field.unitsBetween t u <
      distanceAhead (field.valueAt t) target field.least (field.greatestAt t)) :
    (target ≤ field.valueAt t ∨ field.valueAt t + field.unitsBetween t u < target) ∧
      (field.valueAt u = field.valueAt t + field.unitsBetween t u ∧
          field.valueAt u ≤ field.greatestAt t ∨
        field.greatestAt t < field.valueAt t + field.unitsBetween t u ∧
          (field.valueAt u < target ∨ field = .year ∧ field.greatest < field.valueAt u)) := by
  have hleast := field.least_le_greatestAt t
  obtain ⟨hcount, hagain⟩ := valueAt_ahead hle
  unfold distanceAhead at hlt
  constructor
  · split at hlt <;> omega
  · by_cases hwithin : field.valueAt t + field.unitsBetween t u ≤ field.greatestAt t
    · have := hcount hwithin
      omega
    · refine Or.inr ⟨by omega, ?_⟩
      rcases hagain (by omega) with hlow | hyear
      · left
        split at hlt <;> omega
      · exact Or.inr hyear

theorem Range.contains_iff {range : Range} {field : Field} {value : Int} :
    range.contains field value ↔
      range.first ≤ value ∧ value ≤ range.last ∨
        field = .dayOfWeek ∧ value = 0 ∧ (range.first : Int) ≤ 7 ∧ (7 : Int) ≤ range.last := by
  simp [Range.contains, and_assoc]

/-- The value is one of those that the series runs through. -/
def Series.Hits (series : Series) (value : Int) : Prop :=
  series.first ≤ value ∧ value ≤ series.last ∧ (value - series.first) % series.stride = 0

theorem Series.contains_iff {series : Series} {field : Field} {value : Int} :
    series.contains field value ↔
      series.Hits value ∨ field = .dayOfWeek ∧ value = 0 ∧ series.Hits 7 := by
  simp [Series.contains, Series.Hits, and_assoc]

/-- Only the year goes beyond the values of its field, so a range never ends there. -/
theorem Range.WellFormed.last_le {field : Field} {range : Range} (h : range.WellFormed field)
    (hfield : field ≠ .dayOfWeek) : range.last ≤ field.greatest := by
  have hbounded := h.bounded
  unfold Field.greatestEnd at hbounded
  rw [if_neg hfield] at hbounded
  exact hbounded

theorem Item.rejects_before_value {field : Field} {february : February} {t u : DateTime} {v : Nat}
    (hwf : (Item.value v).WellFormed field)
    (hrejects : (Item.value v).accepts field february t = false)
    (hle : 0 ≤ field.unitsBetween t u)
    (hlt : field.unitsBetween t u < (Item.value v).distance field february t) :
    (Item.value v).accepts field february u = false := by
  simp only [accepts, beq_eq_false_iff_ne, ne_eq] at hrejects ⊢
  have hgreatest : v ≤ field.greatest := hwf.2
  obtain ⟨hpassed, hshown⟩ := Field.valueAt_before hle hlt
  omega

theorem Item.rejects_before_range {field : Field} {february : February} {t u : DateTime}
    {range : Range} (hwf : range.WellFormed field) (hvalue : field.valueAt t ≤ field.greatestAt t)
    (hrejects : (Item.range range).accepts field february t = false)
    (hle : 0 ≤ field.unitsBetween t u)
    (hlt : field.unitsBetween t u < (Item.range range).distance field february t) :
    (Item.range range).accepts field february u = false := by
  simp only [accepts] at hrejects ⊢
  rw [Bool.eq_false_iff, ne_eq, Range.contains_iff] at hrejects ⊢
  obtain ⟨hpassed, hshown⟩ := Field.valueAt_before hle hlt
  rintro (⟨hfirst, hlast⟩ | ⟨rfl, hsunday, -, hseven⟩)
  · rcases hshown with ⟨hcount, -⟩ | ⟨-, hlow | ⟨rfl, hhigh⟩⟩
    · exact hrejects (Or.inl (by omega))
    · omega
    · have := hwf.last_le (by decide)
      omega
  · -- Sunday as the end of the range: the weekdays before it were passed on the way
    have hfirst := hwf.greatest
    simp only [Field.greatestAt, Field.greatest] at hvalue hshown hfirst
    rcases hshown with ⟨hcount, -⟩ | ⟨hbeyond, -⟩
    · have hnonneg : 0 ≤ Field.valueAt .dayOfWeek t := Int.natCast_nonneg _
      exact hrejects (Or.inr ⟨rfl, by omega, by omega, hseven⟩)
    · exact hrejects (Or.inl (by omega))

/-! ### Series

A value that the series hits lies beyond everything that the field shows on the way:
`Series.nextFrom?` finds the least such value that is not behind.  Where there is none
up to the ceiling, the series is met next at its first value.
-/

/-- Values that a series hits are whole strides apart, so that from a value between two
    strides the next hit is where the stride ends. -/
theorem Series.next_le_of_hits {series : Series} {value hit : Int} (hvalue : value ≤ hit)
    (hbehind : (series.first : Int) < value) (hhits : series.Hits hit)
    (hexcess : (value - series.first) % series.stride ≠ 0) :
    value + series.stride - (value - series.first) % series.stride ≤ hit := by
  have hdvd : (series.stride : Int) ∣
      hit - value + (value - series.first) % series.stride := by
    have hhit : (series.stride : Int) ∣ hit - series.first := Int.dvd_of_emod_eq_zero hhits.2.2
    have hvalue := Int.dvd_self_sub_emod (x := value - series.first) (m := series.stride)
    have hsub := Int.dvd_sub hhit hvalue
    rw [show hit - series.first - (value - series.first - (value - series.first) % series.stride) =
      hit - value + (value - series.first) % series.stride by omega] at hsub
    exact hsub
  have hstride : (series.stride : Int) ≠ 0 := by
    intro hzero
    have := hhits.2.2
    rw [hzero, Int.emod_zero] at this
    omega
  have hnonneg := Int.emod_nonneg (value - series.first) hstride
  have := Int.le_of_dvd (by omega) hdvd
  omega

/-- What `Series.nextFrom?` compares with the end of the series: the least value on the
    strides of the series that is not behind. -/
theorem Series.nextFrom?_eq {series : Series} (value : Int) (hstride : 1 ≤ series.stride) :
    ∃ next : Int, series.nextFrom? value = (if next ≤ series.last then some next else none) ∧
      value ≤ next ∧ series.first ≤ next ∧ (next - series.first) % series.stride = 0 ∧
      ∀ hit, value ≤ hit → series.Hits hit → next ≤ hit := by
  by_cases hbehind : value ≤ series.first
  · exact ⟨series.first, by simp only [nextFrom?, if_pos hbehind], hbehind, Int.le_refl _,
      by simp, fun hit _ hhits => hhits.1⟩
  · by_cases hexcess : (value - series.first) % series.stride = 0
    · exact ⟨value, by simp only [nextFrom?, if_neg hbehind, if_pos hexcess], Int.le_refl _,
        by omega, hexcess, fun hit hhit _ => hhit⟩
    · have hsmall := Int.emod_lt_of_pos (value - series.first)
        (show (0 : Int) < series.stride by omega)
      refine ⟨value + series.stride - (value - series.first) % series.stride,
        by simp only [nextFrom?, if_neg hbehind, if_neg hexcess], by omega, by omega, ?_,
        fun hit hhit hhits => next_le_of_hits hhit (by omega) hhits hexcess⟩
      rw [show value + series.stride - (value - series.first) % series.stride - series.first =
        value - series.first - (value - series.first) % series.stride + series.stride by omega,
        Int.add_emod_right]
      exact Int.emod_eq_zero_of_dvd Int.dvd_self_sub_emod

/-- The value found is hit, is not behind and is the least such. -/
theorem Series.nextFrom?_eq_some {series : Series} {value next : Int} (hstride : 1 ≤ series.stride)
    (h : series.nextFrom? value = some next) :
    value ≤ next ∧ series.Hits next ∧ ∀ hit, value ≤ hit → series.Hits hit → next ≤ hit := by
  obtain ⟨found, hfound, hvalue, hfirst, hon, hleast⟩ := nextFrom?_eq value hstride
  rw [hfound] at h
  split at h
  · rename_i hlast
    cases h
    exact ⟨hvalue, ⟨hfirst, hlast, hon⟩, hleast⟩
  · cases h

theorem Series.nextFrom?_eq_none {series : Series} {value hit : Int} (hstride : 1 ≤ series.stride)
    (h : series.nextFrom? value = none) (hhit : value ≤ hit) : ¬ series.Hits hit := by
  intro hhits
  obtain ⟨found, hfound, -, -, -, hleast⟩ := nextFrom?_eq value hstride
  rw [hfound, if_pos (Int.le_trans (hleast hit hhit hhits) hhits.2.1)] at h
  cases h

theorem Item.rejects_before_series {field : Field} {february : February} {t u : DateTime}
    {series : Series} (hwf : (Item.series series).WellFormed field)
    (hvalue : field.valueAt t ≤ field.greatestAt t)
    (hrejects : (Item.series series).accepts field february t = false)
    (hle : 0 ≤ field.unitsBetween t u)
    (hlt : field.unitsBetween t u < (Item.series series).distance field february t) :
    (Item.series series).accepts field february u = false := by
  obtain ⟨hrange, hstride, -⟩ := hwf
  simp only [accepts] at hrejects ⊢
  rw [Bool.eq_false_iff, ne_eq, Series.contains_iff] at hrejects ⊢
  simp only [distance, Series.distance] at hlt
  cases hnext : (series.nextFrom? (field.valueAt t)).filter
      (· ≤ if field = .dayOfWeek then (field.greatestAt t : Int) + 1 else field.greatestAt t) with
  | some next =>
      rw [hnext, Option.getD_some] at hlt
      obtain ⟨hfound, hceiling⟩ := Option.filter_eq_some_iff.mp hnext
      obtain ⟨hnot, hhits, hleast⟩ := Series.nextFrom?_eq_some hstride hfound
      obtain ⟨hpassed, hshown⟩ := Field.valueAt_before hle hlt
      have hahead : field.valueAt t ≠ next := by
        intro heq
        exact hrejects (Or.inl (heq ▸ hhits))
      -- the series is met before the field could start again
      have hcount : field.valueAt u = field.valueAt t + field.unitsBetween t u := by
        have : next ≤ (field.greatestAt t : Int) + 1 := by
          have := of_decide_eq_true hceiling
          split at this <;> omega
        omega
      rintro (hhit | ⟨rfl, hsunday, hseven⟩)
      · have := hleast _ (by omega) hhit
        omega
      · have hnonneg : 0 ≤ Field.valueAt .dayOfWeek t := Int.natCast_nonneg _
        exact hrejects (Or.inr ⟨rfl, by omega, hseven⟩)
  | none =>
      rw [hnext, Option.getD_none] at hlt
      obtain ⟨hpassed, hshown⟩ := Field.valueAt_before hle hlt
      -- what the series hits from here on lies beyond the ceiling
      have hbeyond : ∀ hit, field.valueAt t ≤ hit → series.Hits hit →
          (if field = .dayOfWeek then (field.greatestAt t : Int) + 1 else field.greatestAt t) <
            hit := by
        intro hit hhit hhits
        cases hfound : series.nextFrom? (field.valueAt t) with
        | none => exact absurd hhits (Series.nextFrom?_eq_none hstride hfound hhit)
        | some next =>
            have hleast := (Series.nextFrom?_eq_some hstride hfound).2.2
            rw [hfound] at hnext
            have hceiling := Option.filter_eq_none_iff.mp hnext next rfl
            have := of_decide_eq_false (Bool.eq_false_iff.mpr hceiling)
            exact Int.lt_of_lt_of_le (Int.not_le.mp this) (hleast hit hhit hhits)
      rintro (hhit | ⟨rfl, hsunday, hseven⟩)
      · rcases hshown with ⟨hcount, hwithin⟩ | ⟨-, hlow | ⟨rfl, hhigh⟩⟩
        · have := hbeyond _ (by omega) hhit
          split at this <;> omega
        · have := hhit.1
          omega
        · have hend : series.last ≤ Field.year.greatest := hrange.last_le (by decide)
          have := hhit.2.1
          omega
      · simp only [Field.greatestAt, Field.greatest] at hvalue hbeyond
        have := hbeyond 7 (by omega) hseven
        simp at this

/-! ### Items that pick a day -/

theorem daysAhead_pos (t : DateTime) (day : Nat) : 0 < daysAhead t.date day := by
  have hlast := t.date_valid.2.2.2
  unfold daysAhead
  split <;> omega

/-- Nearer than the distance to a day of the month are only days of the same month, and
    among them that day can only be the present one. -/
theorem daysAhead_skips {t u : DateTime} {target : Nat}
    (htarget : target ≤ daysInMonth t.date.year t.date.month) (hle : t.dayNumber ≤ u.dayNumber)
    (hlt : u.dayNumber < t.dayNumber + daysAhead t.date target) :
    (u.date.year = t.date.year ∧ u.date.month = t.date.month) ∧
      (u.date.day = target → u.dayNumber = t.dayNumber) := by
  have hlast := t.date_valid.2.2.2
  have hday := t.day_eq
  have hnext := firstDayOfMonth_next t
  unfold daysAhead at hlt
  have hsame : CalendarUnit.month.index u = CalendarUnit.month.index t :=
    month_index_eq hle (by split at hlt <;> omega)
  refine ⟨year_month_eq hsame, fun heq => ?_⟩
  have hshown := u.day_eq
  rw [hsame] at hshown
  split at hlt <;> omega

/-- The day that an item picks out of a month, 0 if it picks none.  Values, ranges and
    series pick no day. -/
def Item.pickedDay (item : Item) (february : February) (year : Int) (month : Nat) : Nat :=
  match item with
  | .nthWeekday n => (nthOfWeekday? year month n.weekday n.count).getD 0
  | .nearestWorkday day => (nearestWorkday? year month day).getD 0
  | .lastWeekday weekday => lastOfWeekday february year month weekday
  | _ => 0

theorem Item.pickedDay_le (item : Item) (february : February) (year : Int) (month : Nat) :
    item.pickedDay february year month ≤ daysInMonth year month := by
  cases item with
  | nthWeekday n =>
      simp only [pickedDay]
      cases h : nthOfWeekday? year month n.weekday n.count with
      | none => exact Nat.zero_le _
      | some day => exact nthOfWeekday?_le h
  | nearestWorkday target =>
      simp only [pickedDay]
      cases h : nearestWorkday? year month target with
      | none => exact Nat.zero_le _
      | some day => exact nearestWorkday?_le h
  | lastWeekday weekday => exact lastOfWeekday_le february year month weekday
  | value v => exact Nat.zero_le _
  | range r => exact Nat.zero_le _
  | series s => exact Nat.zero_le _

/-- The item picks days out of a month. -/
def Item.PicksDay (item : Item) : Prop :=
  match item with
  | .nthWeekday _ | .nearestWorkday _ | .lastWeekday _ => True
  | _ => False

/-- An item that picks a day accepts that day only, and looks at nothing but the day. -/
theorem Item.accepts_pickedDay (item : Item) (hpicks : item.PicksDay) {field : Field}
    {february : February} {u : DateTime} (h : item.accepts field february u = true) :
    u.date.day = item.pickedDay february u.date.year u.date.month ∧
      ∀ t : DateTime, t.dayNumber = u.dayNumber → item.accepts field february t = true := by
  constructor
  · cases item with
    | nthWeekday n =>
        simp only [accepts, NthWeekday.accepts, Bool.and_eq_true, beq_iff_eq] at h
        rw [h.1] at h
        simp only [pickedDay, h.2, Option.getD_some]
    | nearestWorkday day =>
        simp only [accepts, beq_iff_eq] at h
        simp only [pickedDay, h, Option.getD_some]
    | lastWeekday weekday =>
        simp only [accepts, beq_iff_eq] at h
        exact h.symm
    | value v => exact hpicks.elim
    | range r => exact hpicks.elim
    | series s => exact hpicks.elim
  · intro t hday
    have hdate : t.date = u.date := by simp only [DateTime.date, hday]
    have hweekday : t.weekday = u.weekday := by simp only [DateTime.weekday, hday]
    cases item with
    | nthWeekday n =>
        simp only [accepts, NthWeekday.accepts, hdate, hweekday] at h ⊢
        exact h
    | nearestWorkday day =>
        simp only [accepts, hdate] at h ⊢
        exact h
    | lastWeekday weekday =>
        simp only [accepts, hdate] at h ⊢
        exact h
    | value v => exact hpicks.elim
    | range r => exact hpicks.elim
    | series s => exact hpicks.elim

theorem Item.rejects_before_day (item : Item) (hpicks : item.PicksDay) {field : Field}
    {february : February} {t u : DateTime} (hrejects : item.accepts field february t = false)
    (hle : t.dayNumber ≤ u.dayNumber)
    (hlt : u.dayNumber < t.dayNumber +
      daysAhead t.date (item.pickedDay february t.date.year t.date.month)) :
    item.accepts field february u = false := by
  rw [Bool.eq_false_iff]
  intro haccepts
  obtain ⟨hday, hcongr⟩ := accepts_pickedDay item hpicks haccepts
  obtain ⟨⟨hyear, hmonth⟩, hpresent⟩ := daysAhead_skips
    (item.pickedDay_le february t.date.year t.date.month) hle hlt
  rw [hyear, hmonth] at hday
  rw [hcongr t (hpresent hday).symm] at hrejects
  cases hrejects

/-! ### Items -/

theorem Item.rejects_before_distance {item : Item} {field : Field} {february : February}
    {t u : DateTime} (hwf : item.WellFormed field) (hyear : t.year ≤ lastYear)
    (hrejects : item.accepts field february t = false) (hle : 0 ≤ field.unitsBetween t u)
    (hlt : field.unitsBetween t u < item.distance field february t) :
    item.accepts field february u = false := by
  have hvalue := field.valueAt_le_greatestAt hyear
  have hdays : field.unit = .day → t.dayNumber ≤ u.dayNumber ∧
      u.dayNumber < t.dayNumber + item.distance field february t := by
    intro hunit
    simp only [Field.unitsBetween, hunit, CalendarUnit.index] at hle hlt
    omega
  cases item with
  | value v => exact rejects_before_value hwf hrejects hle hlt
  | range r => exact rejects_before_range hwf hvalue hrejects hle hlt
  | series s => exact rejects_before_series hwf hvalue hrejects hle hlt
  | nthWeekday n =>
      obtain ⟨hlow, hhigh⟩ := hdays (by rw [hwf.1]; rfl)
      exact rejects_before_day (.nthWeekday n) trivial hrejects hlow hhigh
  | nearestWorkday day =>
      obtain ⟨hlow, hhigh⟩ := hdays (by rw [hwf.1]; rfl)
      exact rejects_before_day (.nearestWorkday day) trivial hrejects hlow hhigh
  | lastWeekday weekday =>
      obtain ⟨hlow, hhigh⟩ := hdays (by rw [hwf.1]; rfl)
      exact rejects_before_day (.lastWeekday weekday) trivial hrejects hlow hhigh

/-- A series is met next at a value of the field, or at Sunday as 7. -/
theorem Series.distance_eq {series : Series} {field : Field}
    (hwf : (Item.series series).WellFormed field) (t : DateTime) :
    ∃ target : Int, field.least ≤ target ∧ target ≤ field.greatestEnd ∧
      series.distance field t =
        distanceAhead (field.valueAt t) target field.least (field.greatestAt t) := by
  obtain ⟨hrange, hstride, -⟩ := hwf
  have hfirst : field.least ≤ series.first := hrange.least
  have hordered : series.first ≤ series.last := hrange.ordered
  have hbounded : series.last ≤ field.greatestEnd := hrange.bounded
  refine ⟨_, ?_, ?_, rfl⟩
  all_goals
    cases hnext : (series.nextFrom? (field.valueAt t)).filter
        (· ≤ if field = .dayOfWeek then (field.greatestAt t : Int) + 1 else field.greatestAt t) with
    | none =>
        rw [Option.getD_none]
        omega
    | some next =>
        have hfound := (Option.filter_eq_some_iff.mp hnext).1
        obtain ⟨-, ⟨hlow, hhigh, -⟩, -⟩ := Series.nextFrom?_eq_some hstride hfound
        rw [Option.getD_some]
        omega

theorem Item.distance_pos {item : Item} {field : Field} {t : DateTime} (february : February)
    (hwf : item.WellFormed field) (hyear : t.year ≤ lastYear) :
    0 < item.distance field february t := by
  have hvalue := field.valueAt_le_greatestAt hyear
  cases item with
  | value v => exact distanceAhead_pos hvalue (Int.ofNat_le.mpr hwf.1)
  | range r => exact distanceAhead_pos hvalue (Int.ofNat_le.mpr hwf.least)
  | series s =>
      obtain ⟨target, hleast, -, hdistance⟩ := s.distance_eq hwf t
      rw [distance, hdistance]
      exact distanceAhead_pos hvalue hleast
  | nthWeekday n => exact daysAhead_pos t _
  | nearestWorkday day => exact daysAhead_pos t _
  | lastWeekday weekday => exact daysAhead_pos t _

/-- A list of items has a distance: the least of those of its items. -/
theorem Items.distance?_eq_some {items : Items} {field : Field} {t : DateTime}
    (february : February) (hwf : (Pattern.items items).WellFormed field) (hyear : t.year ≤ lastYear) :
    ∃ distance, items.distance? field february t = some distance ∧ 0 < distance ∧
      ∀ item ∈ items.toList, distance ≤ item.distance field february t := by
  obtain ⟨hne, hitems⟩ := hwf
  have hall : (items.toList.map (·.distance field february t)).filter (0 < ·) =
      items.toList.map (·.distance field february t) := by
    apply List.filter_eq_self.mpr
    intro distance hmem
    obtain ⟨item, hitem, rfl⟩ := List.mem_map.mp hmem
    exact decide_eq_true (Item.distance_pos february (hitems item hitem) hyear)
  unfold distance?
  rw [hall]
  cases hmin : (items.toList.map (·.distance field february t)).min? with
  | none => exact absurd (List.map_eq_nil_iff.mp (List.min?_eq_none_iff.mp hmin)) hne
  | some distance =>
      obtain ⟨hmem, hleast⟩ := List.min?_eq_some_iff.mp hmin
      obtain ⟨item, hitem, heq⟩ := List.mem_map.mp hmem
      refine ⟨distance, rfl, heq ▸ Item.distance_pos february (hitems item hitem) hyear, ?_⟩
      intro other hother
      exact hleast _ (List.mem_map_of_mem hother)

end CronSchedule
