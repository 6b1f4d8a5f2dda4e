import CronSchedule.Proofs.Calendar.Units
import CronSchedule.Proofs.Search.Distance

/-!
# Moves skip nothing

A pattern that rejects a point sends the search ahead to the start of a unit.  All
that the search has to know about this move is in `Pattern.moveFrom?_eq`: it goes
ahead by at least one unit, and the pattern rejects everything that it passes.  What
one look at a candidate does follows from it (`Expression.step_moved_of_rejecting?`,
`Expression.step_ne_stuck`).
-/

namespace CronSchedule

/-! ### The last year -/

/-- The last year is over at the horizon. -/
theorem DateTime.year_le_lastYear_iff {t : DateTime} :
    t.year ≤ lastYear ↔ t.seconds < horizon.seconds := by
  have hstart : horizon ≤ t ↔ (lastYear + 1 : Int) ≤ t.year :=
    @CalendarUnit.start_le_iff .year (lastYear + 1) t
  have hseconds : horizon ≤ t ↔ horizon.seconds ≤ t.seconds := CalendarUnit.ofSeconds_le_iff
  rw [hseconds] at hstart
  omega

theorem DateTime.lt_beyondLatest {t : DateTime} (h : t.year ≤ lastYear) : t < beyondLatest := by
  have hhorizon : horizon.seconds < beyondLatest.seconds := by decide +kernel
  exact lt_def.mpr (Or.inl (Int.lt_trans (year_le_lastYear_iff.mp h) hhorizon))

/-! ### Moves of a pattern -/

/-- The unit by which the search moves on behalf of a field.  Events fall on the start
    of a minute, so the seconds of a minute are passed all at once. -/
def Field.moveUnit (field : Field) : CalendarUnit :=
  if field = .second then .minute else field.unit

theorem Field.moveUnit_of_ne {field : Field} (h : field ≠ .second) : field.moveUnit = field.unit :=
  if_neg h

/-- Nearer than a day that is picked out of each month, a point that misses it is
    followed by points that miss it. -/
theorem day_ne_before {pick : Int → Nat → Nat}
    (hpick : ∀ year month, pick year month ≤ daysInMonth year month) {t u : DateTime}
    (hmiss : t.date.day ≠ pick t.date.year t.date.month) (hle : t.dayNumber ≤ u.dayNumber)
    (hlt : u.dayNumber < t.dayNumber + daysAhead t.date (pick t.date.year t.date.month)) :
    u.date.day ≠ pick u.date.year u.date.month := by
  obtain ⟨⟨hyear, hmonth⟩, hpresent⟩ := daysAhead_skips (hpick _ _) hle hlt
  intro hday
  rw [hyear, hmonth] at hday
  have hdate : u.date = t.date := by
    simp only [DateTime.date, hpresent hday]
  rw [hdate] at hday
  exact hmiss hday

/-- The least distance of a list of items passes nothing that one of them accepts. -/
theorem Items.rejects_before_distance {items : Items} {field : Field} {february : February}
    {t u : DateTime} {distance : Nat} (hwf : (Pattern.items items).WellFormed field)
    (hyear : t.year ≤ lastYear)
    (hrejects : (Pattern.items items).accepts field february t = false)
    (hleast : ∀ item ∈ items.toList, distance ≤ item.distance field february t)
    (hle : 0 ≤ field.unitsBetween t u) (hlt : field.unitsBetween t u < distance) :
    (Pattern.items items).accepts field february u = false := by
  simp only [Pattern.accepts, List.any_eq_false] at hrejects ⊢
  intro item hmem haccepts
  have hitem := Bool.eq_false_iff.mpr (hrejects item hmem)
  have hbefore := Item.rejects_before_distance (hwf.2 item hmem) hyear hitem hle
    (Int.lt_of_lt_of_le hlt (Int.ofNat_le.mpr (hleast item hmem)))
  rw [hbefore] at haccepts
  cases haccepts

/-- A pattern that rejects a point moves the search ahead by one or more units, and it
    rejects all that the move passes. -/
theorem Pattern.moveFrom?_eq {pattern : Pattern} {field : Field} {february : February}
    {t : DateTime} (hwf : pattern.WellFormed field) (hsecond : field = .second → pattern = .omit)
    (hyear : t.year ≤ lastYear) (hrejects : pattern.accepts field february t = false) :
    ∃ amount, 0 < amount ∧
      pattern.moveFrom? field february t = t.advance? field.moveUnit amount ∧
      ∀ u, t ≤ u → field.moveUnit.index u < field.moveUnit.index t + amount →
        pattern.accepts field february u = false := by
  have hday : (field = .dayOfMonth ∨ field = .dayOfWeek) → field.moveUnit = .day := by
    rintro (rfl | rfl) <;> rfl
  cases pattern with
  | all => cases hrejects
  | «omit» =>
      simp only [accepts, Bool.or_eq_false_iff, bne_eq_false_iff_eq, beq_eq_false_iff_ne] at hrejects
      obtain ⟨rfl, hseconds⟩ := hrejects
      refine ⟨1, Nat.one_pos, rfl, fun u hle hlt => ?_⟩
      -- later points of the same minute show more seconds
      have hindex := CalendarUnit.index_mono .minute hle
      have hshown := CalendarUnit.index_mono .second hle
      simp only [accepts, Bool.or_eq_false_iff, bne_eq_false_iff_eq, beq_eq_false_iff_ne, true_and]
      simp only [Field.moveUnit, if_true, CalendarUnit.index] at hlt hindex hshown
      simp only [DateTime.second, DateTime.secondOfDay] at hseconds ⊢
      omega
  | lastDay =>
      refine ⟨_, daysAhead_pos t _, by rw [hday hwf]; rfl, fun u hle hlt => ?_⟩
      rw [hday hwf] at hlt
      have hindex := CalendarUnit.index_mono .day hle
      simp only [accepts, beq_eq_false_iff_ne] at hrejects ⊢
      exact day_ne_before (lastDayOfMonth_le february) hrejects hindex hlt
  | lastWorkday =>
      refine ⟨_, daysAhead_pos t _, by rw [hday (Or.inl hwf)]; rfl, fun u hle hlt => ?_⟩
      rw [hday (Or.inl hwf)] at hlt
      have hindex := CalendarUnit.index_mono .day hle
      simp only [accepts, beq_eq_false_iff_ne] at hrejects ⊢
      exact day_ne_before (lastWorkdayOfMonth_le february) hrejects hindex hlt
  | items list =>
      have hunit : field.moveUnit = field.unit := by
        apply Field.moveUnit_of_ne
        intro h
        cases hsecond h
      obtain ⟨distance, hdistance, hpos, hleast⟩ :=
        Items.distance?_eq_some february hwf hyear
      rw [hunit]
      refine ⟨distance, hpos, by simp only [moveFrom?, hdistance], fun u hle hlt => ?_⟩
      have hindex := CalendarUnit.index_mono field.unit hle
      exact Items.rejects_before_distance hwf hyear hrejects hleast
        (Int.sub_nonneg.mpr hindex) (Int.sub_left_lt_of_lt_add hlt)

/-! ### A look at a candidate -/

namespace Expression

variable {expression : Expression} {february : February} {t : DateTime}

/-- The first field to reject a candidate comes in the order of the search after none but such
    as accept it. -/
theorem rejecting?_eq_some_iff {field : Field} :
    expression.rejecting? february t = some field ↔
      (expression.pattern field).accepts field february t = false ∧
        ∃ before after, searchOrder = before ++ field :: after ∧
          ∀ earlier ∈ before, (expression.pattern earlier).accepts earlier february t := by
  simp only [rejecting?, List.find?_eq_some_iff_append, Bool.not_eq_true', Bool.not_not]

theorem rejects_of_rejecting? {field : Field}
    (h : expression.rejecting? february t = some field) :
    (expression.pattern field).accepts field february t = false :=
  (rejecting?_eq_some_iff.mp h).1

/-- The move that a candidate calls for, seen from the field that rejects it. -/
theorem step_eq_of_rejecting? {field : Field} (hwf : expression.WellFormed)
    (hyear : t.year ≤ lastYear) (h : expression.rejecting? february t = some field) :
    ∃ amount, 0 < amount ∧
      expression.step february t = (t.advance? field.moveUnit amount).elim .stuck .moved ∧
      ∀ u, t ≤ u → u < field.moveUnit.start (field.moveUnit.index t + amount) →
        (expression.pattern field).accepts field february u = false := by
  have hsecond : field = .second → expression.pattern field = .omit := by
    rintro rfl
    rfl
  obtain ⟨amount, hpos, hmove, hskips⟩ :=
    Pattern.moveFrom?_eq (hwf field) hsecond hyear (rejects_of_rejecting? h)
  refine ⟨amount, hpos, ?_, fun u hle hlt => hskips u hle (CalendarUnit.lt_start_iff.mp hlt)⟩
  simp only [step, h, hmove]
  cases t.advance? field.moveUnit amount <;> rfl

/-- A move leads ahead to the start of a unit of the field that called for it, and this field
    rejects all that the move passes. -/
theorem step_moved_of_rejecting? {field : Field} {candidate : DateTime}
    (hwf : expression.WellFormed) (hyear : t.year ≤ lastYear)
    (hrejecting : expression.rejecting? february t = some field)
    (h : expression.step february t = .moved candidate) :
    t < candidate ∧ candidate.Begins field.moveUnit ∧
      ∀ u, t ≤ u → u < candidate → (expression.pattern field).accepts field february u = false := by
  obtain ⟨amount, hpos, hstep, hskips⟩ := step_eq_of_rejecting? hwf hyear hrejecting
  rw [hstep] at h
  cases hadvance : t.advance? field.moveUnit amount with
  | none =>
      rw [hadvance] at h
      cases h
  | some later =>
      rw [hadvance] at h
      cases h
      have hlater := (DateTime.advance?_eq_some_iff.mp hadvance).1
      exact ⟨DateTime.lt_of_advance? hpos hadvance, DateTime.begins_iff.mpr ⟨_, hlater⟩,
        fun u hle hlt => hskips u hle (hlater ▸ hlt)⟩

theorem exists_rejecting?_of_moved {candidate : DateTime}
    (h : expression.step february t = .moved candidate) :
    ∃ field, expression.rejecting? february t = some field := by
  cases hrejecting : expression.rejecting? february t with
  | none =>
      simp only [step, hrejecting] at h
      cases h
  | some field => exact ⟨field, rfl⟩

/-- A move leads ahead to a whole second, and what it passes is not accepted. -/
theorem step_moved {candidate : DateTime} (hwf : expression.WellFormed)
    (hyear : t.year ≤ lastYear) (h : expression.step february t = .moved candidate) :
    t < candidate ∧ candidate.nano.val = 0 ∧
      ∀ u, t ≤ u → u < candidate → ¬ expression.Accepts february u := by
  obtain ⟨field, hrejecting⟩ := exists_rejecting?_of_moved h
  obtain ⟨hahead, hbegins, hpassed⟩ := step_moved_of_rejecting? hwf hyear hrejecting h
  refine ⟨hahead, hbegins.nano, fun u hle hlt haccepts => ?_⟩
  have hrejects := hpassed u hle hlt
  rw [haccepts field] at hrejects
  cases hrejects

/-- The search is not stuck as long as there is something ahead for it to find. -/
theorem step_ne_stuck {u : DateTime} (hwf : expression.WellFormed) (hle : t ≤ u)
    (hyear : u.year ≤ lastYear) (haccepts : expression.Accepts february u) :
    expression.step february t ≠ .stuck := by
  intro h
  have hindex := CalendarUnit.index_mono .year hle
  cases hrejecting : expression.rejecting? february t with
  | none =>
      simp only [step, hrejecting] at h
      cases h
  | some field =>
      obtain ⟨amount, hpos, hstep, hskips⟩ :=
        step_eq_of_rejecting? hwf (Int.le_trans hindex hyear) hrejecting
      -- the move does not go beyond `u`, so it stays within the calendar
      have hreached : field.moveUnit.start (field.moveUnit.index t + amount) ≤ u := by
        rw [← Std.not_lt]
        intro hlt
        have hrejects := hskips u hle hlt
        rw [haccepts field] at hrejects
        cases hrejects
      have hspan : field.moveUnit.start (field.moveUnit.index t + amount) < DateTime.beyondLatest :=
        Std.lt_of_le_of_lt hreached (DateTime.lt_beyondLatest hyear)
      rw [hstep, DateTime.advance?_eq_some_iff.mpr ⟨rfl, hspan⟩] at h
      cases h

/-- The first field to reject a candidate makes the search move ahead to the start of one of its
    units, of a minute if it is the second.  On the way nothing is lost: the same field rejects
    every point from the candidate on that the move passes. -/
theorem step_passes_rejected {text : String} (hread : Expression.parse text = .ok expression)
    {candidate : DateTime} (hyear : t.year ≤ lastYear)
    (h : expression.step february t = .moved candidate) :
    ∃ before field after, searchOrder = before ++ field :: after ∧
      (∀ earlier ∈ before, (expression.pattern earlier).accepts earlier february t) ∧
      (expression.pattern field).accepts field february t = false ∧
      t < candidate ∧ candidate.Begins (if field = .second then .minute else field.unit) ∧
      ∀ u, t ≤ u → u < candidate → (expression.pattern field).accepts field february u = false := by
  have hwf := wellFormed_of_read (parse_eq_ok_iff.mp hread)
  obtain ⟨field, hrejecting⟩ := exists_rejecting?_of_moved h
  obtain ⟨hrejects, before, after, horder, hbefore⟩ := rejecting?_eq_some_iff.mp hrejecting
  exact ⟨before, field, after, horder, hbefore, hrejects,
    step_moved_of_rejecting? hwf hyear hrejecting h⟩

/-- From 31 January 2023 a search for a 30th moves by thirty days, past the end of February.
    The point that it comes to is no 30th either, but there was none on the way. -/
theorem step_passes_rejected_over_february :
    ∃ expression candidate, Expression.parse "0 0 30 * ?" = .ok expression ∧
      (DateTime.startOfDay (Date.toDayNumber ⟨2023, 1, 31⟩)).year ≤ lastYear ∧
      expression.step .leapAware (DateTime.startOfDay (Date.toDayNumber ⟨2023, 1, 31⟩)) =
        .moved candidate ∧
      candidate.date = ⟨2023, 3, 2⟩ ∧ candidate.Begins .day ∧
      ∀ u, DateTime.startOfDay (Date.toDayNumber ⟨2023, 1, 31⟩) ≤ u → u < candidate →
        (expression.pattern .dayOfMonth).accepts .dayOfMonth .leapAware u = false := by
  have hread : Expression.parse "0 0 30 * ?" = .ok ⟨.items (.ofList [.value 0]),
      .items (.ofList [.value 0]), .items (.ofList [.value 30]), .all, .omit, .all⟩ := by
    decide +kernel
  let start := DateTime.startOfDay (Date.toDayNumber ⟨2023, 1, 31⟩)
  let candidate := DateTime.startOfDay (Date.toDayNumber ⟨2023, 3, 2⟩)
  have hyear : start.year ≤ lastYear := by decide +kernel
  have hstep : Expression.step ⟨.items (.ofList [.value 0]), .items (.ofList [.value 0]),
      .items (.ofList [.value 30]), .all, .omit, .all⟩ .leapAware start = .moved candidate := by
    decide +kernel
  obtain ⟨before, field, after, horder, hbefore, hrejects, -, hbegins, hpassed⟩ :=
    step_passes_rejected hread hyear hstep
  -- of all fields only the day of the month rejects that point
  have hfield : field = .dayOfMonth := by
    have hfirst := rejecting?_eq_some_iff.mpr ⟨hrejects, before, after, horder, hbefore⟩
    have hday : Expression.rejecting? ⟨.items (.ofList [.value 0]), .items (.ofList [.value 0]),
        .items (.ofList [.value 30]), .all, .omit, .all⟩ .leapAware start = some .dayOfMonth := by
      decide +kernel
    exact Option.some.inj (hfirst.symm.trans hday)
  subst hfield
  exact ⟨_, candidate, hread, hyear, hstep, by decide +kernel, hbegins, hpassed⟩

end Expression

end CronSchedule
