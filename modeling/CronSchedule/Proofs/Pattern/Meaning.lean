import CronSchedule.Proofs.Calendar.PickedDays
import CronSchedule.Proofs.Outcome
import CronSchedule.Proofs.Pattern.Acceptance
import CronSchedule.Proofs.Search.Distance

/-!
# The meaning of a field

What a pattern accepts is decided item by item, by comparing the value of the field or by
looking up a day in its month.  Here this is held against `Item.Means`, which speaks of the
calendar alone, and then against the text that was read: a point is accepted if it belongs
to the meaning of something that stands between two commas.

Sunday is why values, ranges and series need a word.  It has two values, 0 and 7, and the
search for a value that hits has to try both (`Field.exists_hasValue_iff`).
-/

namespace CronSchedule

open Outcome

variable {field : Field} {february : February} {t : DateTime} {text : List Char}

/-! ### Items -/

/-- A property holds of some value of the field if it holds of the one that is looked up or,
    on Sundays, of 7. -/
theorem Field.exists_hasValue_iff (P : Int → Prop) :
    (∃ value, field.HasValue t value ∧ P value) ↔
      P (field.valueAt t) ∨ field = .dayOfWeek ∧ field.valueAt t = 0 ∧ P 7 := by
  constructor
  · rintro ⟨value, rfl | ⟨rfl, hsunday, rfl⟩, hvalue⟩
    · exact .inl hvalue
    · exact .inr ⟨rfl, congrArg Int.ofNat hsunday, hvalue⟩
  · rintro (hvalue | ⟨rfl, hsunday, hseven⟩)
    · exact ⟨_, .inl rfl, hvalue⟩
    · exact ⟨7, .inr ⟨rfl, Int.ofNat.inj hsunday, rfl⟩, hseven⟩

theorem Series.hits_iff {series : Series} {value : Int} :
    series.Hits value ↔
      ∃ count : Nat, value = series.first + series.stride * count ∧
        series.first + series.stride * count ≤ series.last := by
  constructor
  · rintro ⟨hfirst, hlast, hmod⟩
    obtain ⟨steps, hsteps⟩ := Int.eq_ofNat_of_zero_le (Int.sub_nonneg.mpr hfirst)
    rw [hsteps] at hmod
    obtain ⟨count, rfl⟩ := Int.natCast_dvd_natCast.mp (Int.dvd_of_emod_eq_zero hmod)
    have hvalue : value = series.first + series.stride * count := by
      push_cast at hsteps
      omega
    rw [hvalue] at hlast
    exact ⟨count, hvalue, by exact_mod_cast hlast⟩
  · rintro ⟨count, rfl, hlast⟩
    refine ⟨Int.le_add_of_nonneg_right (Int.natCast_nonneg (series.stride * count)),
      by exact_mod_cast hlast, ?_⟩
    rw [Int.add_comm, Int.add_sub_cancel]
    exact Int.mul_emod_right _ _

theorem Item.accepts_iff_means {item : Item} (h : item.WellFormed field) :
    item.accepts field february t ↔ item.Means field february t := by
  cases item with
  | value v => exact beq_iff_eq
  | range r =>
      rw [accepts, Range.contains_iff]
      exact (Field.exists_hasValue_iff fun value => (r.first : Int) ≤ value ∧ value ≤ r.last).symm
  | series s =>
      rw [accepts, Series.contains_iff, ← Field.exists_hasValue_iff s.Hits]
      simp only [Series.hits_iff]
      constructor
      · rintro ⟨value, hvalue, count, rfl, hlast⟩
        exact ⟨count, hvalue, hlast⟩
      · rintro ⟨count, hvalue, hlast⟩
        exact ⟨_, hvalue, count, rfl, hlast⟩
  | nthWeekday nth => exact nth.accepts_iff
  | nearestWorkday day => exact beq_iff_eq.trans nearestWorkday?_eq_day_iff
  | lastWeekday weekday =>
      exact beq_iff_eq.trans (lastOfWeekday_eq_day_iff (Nat.lt_succ_of_le h.2))

/-- A range of weekdays that ends on Sunday has all days from its first to Saturday, and then
    Sunday as well. -/
theorem Item.means_range_to_sunday {first : Nat} (h : first ≤ 6) :
    (Item.range ⟨first, Field.dayOfWeek.rangeEnd 0⟩).Means .dayOfWeek february t ↔
      first ≤ t.weekday ∨ t.weekday = 0 := by
  have hweekday : t.weekday < 7 := weekdayOfDay_lt _
  refine (Field.exists_hasValue_iff fun value => (first : Int) ≤ value ∧ value ≤ (7 : Nat)).trans ?_
  simp only [Field.valueAt, true_and]
  omega

/-! ### Patterns -/

theorem Pattern.accepts_iff_means {pattern : Pattern} (h : Pattern.Spells field text pattern) :
    pattern.accepts field february t ↔ pattern.Means field february t := by
  have hwf := h.wellFormed
  cases h with
  | all => exact iff_of_true rfl trivial
  | «omit» allowed =>
      -- the seconds, where it is a condition, cannot be written
      have hfield : field ≠ .second := fun hsecond => absurd (hsecond ▸ allowed) (by decide)
      exact iff_of_true (by simp [accepts, hfield]) trivial
  | lastDay => exact beq_iff_eq.trans DateTime.monthEndsOn_iff.symm
  | lastWorkday => exact beq_iff_eq.trans day_eq_lastWorkdayOfMonth_iff
  | items hlist =>
      rw [accepts, List.any_eq_true, Means]
      constructor
      · rintro ⟨item, hmem, haccepts⟩
        exact ⟨item, hmem, (Item.accepts_iff_means (hwf.2 item hmem)).mp haccepts⟩
      · rintro ⟨item, hmem, hmeans⟩
        exact ⟨item, hmem, (Item.accepts_iff_means (hwf.2 item hmem)).mpr hmeans⟩

/-! ### Texts -/

/-- The point `t` belongs to what stands between two commas.  A star and a question mark
    let every point in. -/
def Part.Means (part : Part) (field : Field) (february : February) (t : DateTime) : Prop :=
  match part with
  | .item listed => listed.Means field february t
  | .alone .star | .alone .question => True
  | .alone .last => t.MonthEndsOn february t.day
  | .alone .lastWorkday => MeansLastWorkday february t
  | .alone .hash => False

/-- There is one way to read a part. -/
theorem Part.spells_rightUnique (field : Field) : Relator.RightUnique (Part.Spells field) :=
  fun _ _ _ h h' => Except.ok.inj (h.read.symm.trans h'.read)

/-- A pattern means what the parts mean that it is written with.  There are several only where
    these are items. -/
theorem Pattern.Spells.exists_parts {pattern : Pattern} (h : Pattern.Spells field text pattern) :
    ∃ parts, List.Forall₂ (Part.Spells field) (text.splitOn ',') parts ∧
      ∀ february t, pattern.Means field february t ↔
        ∃ part ∈ parts, part.Means field february t := by
  have hsign : ∀ operator : Operator, operator ≠ .hash →
      List.Forall₂ (Part.Spells field) ((operator.text.toList.map Char.toLower).splitOn ',')
        [.alone operator] := by
    intro operator hne
    have hcomma : ',' ∉ operator.text.toList.map Char.toLower := by
      cases operator <;> decide
    rw [List.splitOn_eq_singleton hcomma]
    exact .cons ⟨hne, rfl⟩ .nil
  cases h with
  | all => exact ⟨_, hsign .star (by decide), by simp [Means, Part.Means]⟩
  | «omit» => exact ⟨_, hsign .question (by decide), by simp [Means, Part.Means]⟩
  | lastDay => exact ⟨_, hsign .last (by decide), by simp [Means, Part.Means]⟩
  | lastWorkday => exact ⟨_, hsign .lastWorkday (by decide), by simp [Means, Part.Means]⟩
  | @items _ list hlist =>
      refine ⟨list.map .item, List.forall₂_map_right_iff.mpr (Items.spells_iff.mp hlist),
        fun february t => ?_⟩
      rw [Means]
      constructor
      · rintro ⟨item, hmem, hmeans⟩
        exact ⟨_, List.mem_map_of_mem (Items.mem_toList_ofList.mp hmem), hmeans⟩
      · rintro ⟨part, hmem, hmeans⟩
        obtain ⟨item, hitem, rfl⟩ := List.mem_map.mp hmem
        exact ⟨item, Items.mem_toList_ofList.mpr hitem, hmeans⟩

/-- A field that is read accepts a point exactly if the point belongs to the calendar meaning of
    one of its parts.  The parts stand between the commas of the text, in lower case, and each
    is read in one way only: as a value that the field has, a range or a series that it runs
    through, a weekday counted from the start or the end of the month, the workday nearest to a
    day, or a sign.  A range of weekdays up to Sunday has the days to Saturday and Sunday. -/
theorem Pattern.accepts_iff_some_part_means {field : Field} {text : List Char} {pattern : Pattern}
    (h : Pattern.read field text = .ok pattern) :
    (∃ parts,
      (∀ others, List.Forall₂ (Part.Spells field) ((loweredText text).splitOn ',') others ↔
        others = parts) ∧
      ∀ february t, pattern.accepts field february t = true ↔
        ∃ part ∈ parts, part.Means field february t) ∧
    ∀ first ≤ 6, ∀ february t,
      (Item.range ⟨first, Field.dayOfWeek.rangeEnd 0⟩).Means .dayOfWeek february t ↔
        first ≤ t.weekday ∨ t.weekday = 0 := by
  have hspells := read_eq_ok_iff.mp h
  obtain ⟨parts, hparts, hmeans⟩ := hspells.exists_parts
  refine ⟨⟨parts, fun others => ⟨fun hothers => ?_, fun hsame => hsame ▸ hparts⟩,
    fun february t => ?_⟩, fun first hfirst february t => Item.means_range_to_sunday hfirst⟩
  · exact (Part.spells_rightUnique field).forall₂ hothers hparts
  · exact (accepts_iff_means hspells).trans (hmeans february t)

/-- June 2024 has no day 31 and begins on a Saturday, so the third is accepted, as the workday
    that is nearest to the first. -/
theorem Pattern.accepts_iff_some_part_means_on_third_of_june :
    ∃ pattern, Pattern.read .dayOfMonth "31W,1w".toList = .ok pattern ∧
      ∃ t : DateTime, t.date = ⟨2024, 6, 3⟩ ∧
        pattern.accepts .dayOfMonth .leapAware t = true ∧ MeansNearestWorkday 1 t := by
  have hread : Pattern.read .dayOfMonth "31W,1w".toList = .ok
      (.items (.ofList [.nearestWorkday 31, .nearestWorkday 1])) := by
    decide +kernel
  obtain ⟨⟨parts, hparts, hmeans⟩, -⟩ := accepts_iff_some_part_means hread
  have hpieces : (loweredText "31W,1w".toList).splitOn ',' = [['3', '1', 'w'], ['1', 'w']] := by
    decide +kernel
  rw [hpieces] at hparts
  obtain rfl := (hparts [.item (.nearestWorkday 31), .item (.nearestWorkday 1)]).mp
    (.cons (Part.spells_of_read (by decide +kernel))
      (.cons (Part.spells_of_read (by decide +kernel)) .nil))
  have haccepts : Pattern.accepts (.items (.ofList [.nearestWorkday 31, .nearestWorkday 1]))
      .dayOfMonth .leapAware (DateTime.startOfDay (Date.toDayNumber ⟨2024, 6, 3⟩)) = true := by
    decide +kernel
  refine ⟨_, hread, _, by decide +kernel, haccepts, ?_⟩
  obtain ⟨part, hmem, hpart⟩ := (hmeans _ _).mp haccepts
  rcases List.mem_cons.mp hmem with rfl | hmem
  · exact absurd hpart.2.1 (by decide +kernel)
  · rw [List.mem_singleton.mp hmem] at hpart
    exact hpart

end CronSchedule
