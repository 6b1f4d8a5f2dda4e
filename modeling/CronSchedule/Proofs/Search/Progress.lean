import Mathlib.Logic.Relation
import CronSchedule.Events
import CronSchedule.Proofs.Search.Move

/-!
# Every search gets on and comes to an end

A look at a candidate of the last year or before never leaves the search stuck.  The patterns
of an expression that was read have an item to go on to, `Items.distance?_eq_some`; and a move
is short, `Item.distance_le`, so it stays within the calendar, which goes on for a long time
after the last year.  Since each move leads ahead there are only finitely many before the
last year is over, and this is the one way in which a search ends without finding anything.

In a zone the local times that a search passes are ahead of each other too, so it ends as
well, whatever the zone does with its clocks.
-/

namespace CronSchedule

open Relation

/-! ### How far a move goes -/

theorem Field.greatestAt_le (field : Field) (t : DateTime) : field.greatestAt t ≤ field.greatest := by
  cases field with
  | dayOfMonth => exact (daysInMonth_bounds t.date.year t.date.month).2
  | _ => exact Nat.le_refl _

theorem distanceAhead_le {value target least greatest limit : Int} (hvalue : value ≤ greatest)
    (hgreatest : greatest ≤ limit) (hzero : 0 ≤ least) (hleast : least ≤ target)
    (hlimit : target ≤ limit) :
    value + distanceAhead value target least greatest ≤ 2 * limit + 1 := by
  unfold distanceAhead
  split <;> omega

theorem daysAhead_le {t : DateTime} {day : Nat} (h : day ≤ daysInMonth t.date.year t.date.month) :
    daysAhead t.date day ≤ 31 := by
  have hlength := (daysInMonth_bounds t.date.year t.date.month).2
  have hfirst := t.date_valid.2.2.1
  unfold daysAhead
  split <;> omega

theorem Field.valueAt_add_daysAhead_le {field : Field} {t : DateTime} {day : Nat}
    (hyear : t.year ≤ lastYear) (hday : day ≤ daysInMonth t.date.year t.date.month) :
    field.valueAt t + daysAhead t.date day ≤ 2 * field.greatestEnd + 31 := by
  have hvalue := field.valueAt_le_greatestAt hyear
  have hgreatest := field.greatestAt_le t
  have hend := field.greatest_le_greatestEnd
  have := daysAhead_le hday
  omega

/-- Where an item is met next the value of the field has grown to not much more than twice
    its greatest value: the field counts on to that value, starts again and counts up to
    the item, or it counts on by the days of a month. -/
theorem Item.distance_le {item : Item} {field : Field} {t : DateTime} (february : February)
    (hwf : item.WellFormed field) (hyear : t.year ≤ lastYear) :
    field.valueAt t + item.distance field february t ≤ 2 * field.greatestEnd + 31 := by
  have hend := field.greatest_le_greatestEnd
  have hcount : ∀ target : Int, field.least ≤ target → target ≤ field.greatestEnd →
      field.valueAt t + distanceAhead (field.valueAt t) target field.least (field.greatestAt t) ≤
        2 * field.greatestEnd + 31 := by
    intro target hleast hlimit
    have hgreatest := field.greatestAt_le t
    have := distanceAhead_le (field.valueAt_le_greatestAt hyear) (by omega)
      (Int.natCast_nonneg _) hleast hlimit
    omega
  have hpicked := item.pickedDay_le february t.date.year t.date.month
  cases item with
  | value v =>
      have hgreatest : v ≤ field.greatest := hwf.2
      exact hcount v (Int.ofNat_le.mpr hwf.1) (by omega)
  | range r =>
      have hgreatest := hwf.greatest
      exact hcount r.first (Int.ofNat_le.mpr hwf.least) (by omega)
  | series s =>
      obtain ⟨target, hleast, hlimit, hdistance⟩ := s.distance_eq hwf t
      rw [distance, hdistance]
      exact hcount target hleast hlimit
  | nthWeekday n => exact field.valueAt_add_daysAhead_le hyear hpicked
  | nearestWorkday day => exact field.valueAt_add_daysAhead_le hyear hpicked
  | lastWeekday weekday => exact field.valueAt_add_daysAhead_le hyear hpicked

/-! ### The calendar after the last year -/

theorem CalendarUnit.index_le_horizon (unit : CalendarUnit) {t : DateTime}
    (hyear : t.year ≤ lastYear) : unit.index t ≤ unit.index horizon := by
  apply index_mono
  exact DateTime.le_def.mpr (.inl (DateTime.year_le_lastYear_iff.mp hyear))

/-- The calendar goes on for thousands of units of every kind after the last year. -/
theorem DateTime.exists_advance? {t : DateTime} {unit : CalendarUnit} {amount : Nat}
    (h : unit.index t + amount ≤ unit.index horizon + (2 * lastYear + 31)) :
    ∃ later, t.advance? unit amount = some later := by
  refine ⟨_, advance?_eq_some_iff.mpr ⟨rfl, ?_⟩⟩
  have hlimit : unit.start (unit.index horizon + (2 * lastYear + 31)) < beyondLatest := by
    cases unit <;> decide +kernel
  refine Std.lt_of_le_of_lt ?_ hlimit
  rw [CalendarUnit.start_le_iff, CalendarUnit.index_start]
  exact h

theorem Field.valueAt_nonneg {field : Field} (h : field ≠ .year) (t : DateTime) :
    0 ≤ field.valueAt t := by
  cases field with
  | year => exact absurd rfl h
  | _ => exact Int.natCast_nonneg _

/-- A field that counts on by so much does not leave the calendar. -/
theorem Field.exists_advance? {field : Field} {t : DateTime} {amount : Nat}
    (hyear : t.year ≤ lastYear) (h : field.valueAt t + amount ≤ 2 * field.greatestEnd + 31) :
    ∃ later, t.advance? field.unit amount = some later := by
  have hend : field.greatestEnd ≤ lastYear := by cases field <;> decide
  apply DateTime.exists_advance?
  by_cases hfield : field = .year
  · -- years are numbered by their own values, however far back they are
    subst hfield
    have hvalue : CalendarUnit.year.index t = Field.valueAt .year t := rfl
    have hhorizon : CalendarUnit.year.index horizon = lastYear + 1 := by decide +kernel
    simp only [unit]
    omega
  · have hvalue := valueAt_nonneg hfield t
    have hindex := field.unit.index_le_horizon hyear
    omega

/-- A pattern that rejects a point of the last year or before has a place to go on at, within
    the calendar. -/
theorem Pattern.exists_moveFrom? {pattern : Pattern} {field : Field} {february : February}
    {t : DateTime} (hwf : pattern.WellFormed field) (hyear : t.year ≤ lastYear)
    (hrejects : pattern.accepts field february t = false) :
    ∃ candidate, pattern.moveFrom? field february t = some candidate := by
  have hday : ∀ day ≤ daysInMonth t.date.year t.date.month,
      field = .dayOfMonth ∨ field = .dayOfWeek →
        ∃ candidate, t.advance? .day (daysAhead t.date day) = some candidate := by
    intro day hlength hfield
    have hunit : field.unit = .day := by
      rcases hfield with rfl | rfl <;> rfl
    rw [← hunit]
    exact Field.exists_advance? hyear (field.valueAt_add_daysAhead_le hyear hlength)
  cases pattern with
  | all => cases hrejects
  | «omit» =>
      have hindex := CalendarUnit.minute.index_le_horizon hyear
      exact DateTime.exists_advance? (by omega)
  | lastDay => exact hday _ (lastDayOfMonth_le february _ _) hwf
  | lastWorkday => exact hday _ (lastWorkdayOfMonth_le february _ _) (.inl hwf)
  | items list =>
      obtain ⟨distance, hdistance, -, hleast⟩ := Items.distance?_eq_some february hwf hyear
      obtain ⟨item, hmem⟩ := List.exists_mem_of_ne_nil _ hwf.1
      have hitem := Item.distance_le february (hwf.2 item hmem) hyear
      have hshort := hleast item hmem
      simp only [moveFrom?, hdistance]
      exact Field.exists_advance? hyear (by omega)

/-! ### The search of an expression -/

namespace Expression

variable {expression : Expression} {february : February} {t : DateTime}

/-- A look at a candidate of the last year or before finds it accepted or moves ahead. -/
theorem step_stable_or_ahead (hwf : expression.WellFormed) (february : February)
    (hyear : t.year ≤ lastYear) :
    expression.step february t = .stable ∨
      ∃ candidate, expression.step february t = .moved candidate ∧ t < candidate := by
  cases hrejecting : expression.rejecting? february t with
  | none =>
      left
      simp only [step, hrejecting]
  | some field =>
      right
      obtain ⟨candidate, hmove⟩ :=
        Pattern.exists_moveFrom? (hwf field) hyear (rejects_of_rejecting? hrejecting)
      have hstep : expression.step february t = .moved candidate := by
        simp only [step, hrejecting, hmove]
      exact ⟨candidate, hstep, (step_moved hwf hyear hstep).1⟩

/-- The search goes on from the candidate `t`, of the last year or before, at another
    one. -/
def Moves (expression : Expression) (february : February) (t candidate : DateTime) : Prop :=
  t.year ≤ lastYear ∧ expression.step february t = .moved candidate

/-- A move uses up seconds that are left before the last year is over. -/
theorem Moves.seconds_lt {candidate : DateTime} (hwf : expression.WellFormed)
    (h : expression.Moves february t candidate) :
    t.seconds < candidate.seconds ∧ t.seconds < horizon.seconds := by
  obtain ⟨hyear, hstep⟩ := h
  obtain ⟨hlt, hwhole, -⟩ := step_moved hwf hyear hstep
  refine ⟨?_, DateTime.year_le_lastYear_iff.mp hyear⟩
  simp only [DateTime.lt_def, Fin.lt_def] at hlt
  omega

/-- No search makes infinitely many moves. -/
theorem wellFounded_moves (hwf : expression.WellFormed) (february : February) :
    WellFounded fun candidate t => expression.Moves february t candidate := by
  refine Subrelation.wf ?_ (measure fun t : DateTime => (horizon.seconds - t.seconds).toNat).wf
  intro candidate t h
  have := Moves.seconds_lt hwf h
  show (horizon.seconds - candidate.seconds).toNat < (horizon.seconds - t.seconds).toNat
  omega

/-- What a search finds does not depend on which of its candidates it starts from. -/
theorem Moves.firstFrom?_eq {candidate : DateTime} (hwf : expression.WellFormed)
    (h : expression.Moves february t candidate) :
    expression.firstFrom? february t = expression.firstFrom? february candidate := by
  obtain ⟨hlt, hbefore⟩ := h.seconds_lt hwf
  rw [firstFrom?, if_pos hbefore, h.2]
  exact if_pos hlt

theorem firstFrom?_eq_of_reflTransGen {last : DateTime} (hwf : expression.WellFormed)
    (h : ReflTransGen (expression.Moves february) t last) :
    expression.firstFrom? february t = expression.firstFrom? february last := by
  induction h with
  | refl => rfl
  | tail _ hmove ih => exact ih.trans (hmove.firstFrom?_eq hwf)

/-- A search that has come beyond the last year finds nothing. -/
theorem firstFrom?_eq_none_of_beyond (h : lastYear < t.year) :
    expression.firstFrom? february t = none := by
  rw [firstFrom?, if_neg]
  intro hbefore
  exact absurd (DateTime.year_le_lastYear_iff.mpr hbefore) (Int.not_le.mpr h)

/-- From every start the moves lead to a candidate that is accepted, which the search finds, or
    beyond the last year. -/
theorem exists_last_candidate (hwf : expression.WellFormed) (february : February)
    (t : DateTime) :
    ∃ last, ReflTransGen (expression.Moves february) t last ∧
      (expression.firstFrom? february t = some last ∨ lastYear < last.year) := by
  induction t using (wellFounded_moves hwf february).induction with
  | _ t ih =>
      by_cases hyear : t.year ≤ lastYear
      · rcases step_stable_or_ahead hwf february hyear with hstable | ⟨candidate, hmoved, -⟩
        · refine ⟨t, .refl, .inl ?_⟩
          rw [firstFrom?, if_pos (DateTime.year_le_lastYear_iff.mp hyear), hstable]
        · have hmove : expression.Moves february t candidate := ⟨hyear, hmoved⟩
          obtain ⟨last, hreach, hend⟩ := ih candidate hmove
          rw [← hmove.firstFrom?_eq hwf] at hend
          exact ⟨last, .head hmove hreach, hend⟩
      · exact ⟨t, .refl, .inr (Int.not_le.mp hyear)⟩

/-- The only way in which a search finds nothing is that a candidate is beyond the last
    year. -/
theorem firstFrom?_eq_none_iff (hwf : expression.WellFormed) :
    expression.firstFrom? february t = none ↔
      ∃ last, ReflTransGen (expression.Moves february) t last ∧ lastYear < last.year := by
  constructor
  · intro h
    obtain ⟨last, hreach, hfound | hbeyond⟩ := exists_last_candidate hwf february t
    · rw [h] at hfound
      cases hfound
    · exact ⟨last, hreach, hbeyond⟩
  · rintro ⟨last, hreach, hbeyond⟩
    rw [firstFrom?_eq_of_reflTransGen hwf hreach]
    exact firstFrom?_eq_none_of_beyond hbeyond

theorem firstAfter?_eq_none_iff (hwf : expression.WellFormed) :
    expression.firstAfter? february t = none ↔
      t.advance? .second 1 = none ∨
        ∃ start, t.advance? .second 1 = some start ∧
          ∃ last, ReflTransGen (expression.Moves february) start last ∧ lastYear < last.year := by
  unfold firstAfter?
  cases hstart : t.advance? .second 1 with
  | none => simp
  | some start =>
      rw [Option.bind_some, firstFrom?_eq_none_iff hwf]
      simp

end Expression

/-! ### The search in a zone -/

namespace Schedule

variable {schedule : Schedule} {zone : Zone} {instant shown event : DateTime}

/-- The search in a zone goes on from the local time `shown` at the next event, which clocks do
    not show after `instant`. -/
def Passes (schedule : Schedule) (zone : Zone) (instant shown event : DateTime) : Prop :=
  schedule.next? shown = some event ∧ (zone.reading event).firstAfter? instant = none

theorem wellFounded_passes (schedule : Schedule) (zone : Zone) (instant : DateTime) :
    WellFounded fun event shown => schedule.Passes zone instant shown event := by
  refine Subrelation.wf ?_ (measure fun t : DateTime => (horizon.seconds - t.seconds).toNat).wf
  intro event shown h
  have := next?_bounds h.1
  show (horizon.seconds - event.seconds).toNat < (horizon.seconds - shown.seconds).toNat
  omega

theorem Passes.nextShownAfter?_eq (h : schedule.Passes zone instant shown event) :
    schedule.nextShownAfter? zone instant shown = schedule.nextShownAfter? zone instant event := by
  rw [nextShownAfter?]
  split
  · rename_i hnone
    rw [h.1] at hnone
    cases hnone
  · rename_i other hnext
    rw [h.1] at hnext
    cases hnext
    rw [h.2]

/-- From every local time the search comes to one from which it does not go on, and what it
    finds is read off the event that comes next there. -/
theorem exists_last_shown (schedule : Schedule) (zone : Zone) (instant shown : DateTime) :
    ∃ last, ReflTransGen (schedule.Passes zone instant) shown last ∧
      (∀ event, ¬ schedule.Passes zone instant last event) ∧
      schedule.nextShownAfter? zone instant shown =
        (schedule.next? last).bind fun event => (zone.reading event).firstAfter? instant := by
  induction shown using (wellFounded_passes schedule zone instant).induction with
  | _ shown ih =>
      cases hnext : schedule.next? shown with
      | none =>
          refine ⟨shown, .refl, ?_, ?_⟩
          · rintro event ⟨hevent, -⟩
            rw [hnext] at hevent
            cases hevent
          · rw [nextShownAfter?, hnext]
            rfl
      | some event =>
          cases hread : (zone.reading event).firstAfter? instant with
          | none =>
              have hpass : schedule.Passes zone instant shown event := ⟨hnext, hread⟩
              obtain ⟨last, hreach, hstop, hfound⟩ := ih event hpass
              exact ⟨last, .head hpass hreach, hstop, hpass.nextShownAfter?_eq.trans hfound⟩
          | some time =>
              refine ⟨shown, .refl, ?_, ?_⟩
              · rintro other ⟨hother, hmissed⟩
                rw [hnext] at hother
                cases hother
                rw [hread] at hmissed
                cases hmissed
              · rw [nextShownAfter?, hnext, Option.bind_some]
                simp only [hread]

end Schedule

/-- The search of an expression that was read is never stuck: up to the last year every look
    at a candidate accepts it or moves ahead.  So the search ends wherever it starts, and it
    finds nothing only if it comes beyond the last year, or if there is no next second to
    start from.  The search in a zone, from one local time of the schedule to the next, ends
    in every zone. -/
theorem searches_advance_and_end {text : String} {expression : Expression}
    (h : Expression.parse text = .ok expression) (february : February) :
    (∀ t : DateTime, t.year ≤ lastYear →
      expression.step february t = .stable ∨
        ∃ candidate, expression.step february t = .moved candidate ∧ t < candidate) ∧
    (WellFounded fun candidate t => expression.Moves february t candidate) ∧
    (∀ t, expression.firstFrom? february t = none ↔
      ∃ last, ReflTransGen (expression.Moves february) t last ∧ lastYear < last.year) ∧
    (∀ t, expression.firstAfter? february t = none ↔
      t.advance? .second 1 = none ∨
        ∃ start, t.advance? .second 1 = some start ∧
          ∃ last, ReflTransGen (expression.Moves february) start last ∧ lastYear < last.year) ∧
    ∀ (schedule : Schedule) (zone : Zone) (instant : DateTime),
      (WellFounded fun event shown => schedule.Passes zone instant shown event) ∧
      ∀ shown, ∃ last, ReflTransGen (schedule.Passes zone instant) shown last ∧
        (∀ event, ¬ schedule.Passes zone instant last event) ∧
        schedule.nextShownAfter? zone instant shown =
          (schedule.next? last).bind fun event => (zone.reading event).firstAfter? instant := by
  have hwf := Expression.wellFormed_of_read (Expression.parse_eq_ok_iff.mp h)
  refine ⟨fun t hyear => Expression.step_stable_or_ahead hwf february hyear,
    Expression.wellFounded_moves hwf february, fun t => Expression.firstFrom?_eq_none_iff hwf,
    fun t => Expression.firstAfter?_eq_none_iff hwf, fun schedule zone instant => ?_⟩
  exact ⟨schedule.wellFounded_passes zone instant, schedule.exists_last_shown zone instant⟩

/-- A search for 30 February gets on from the earliest point of the calendar, and one that
    starts in the last month comes beyond the last year. -/
theorem searches_advance_and_end_without_such_a_day :
    ∃ expression, Expression.parse "0 0 30 2 ?" = .ok expression ∧
      (∃ candidate, expression.step .leapAware DateTime.earliest = .moved candidate ∧
        DateTime.earliest < candidate) ∧
      ∃ last, ReflTransGen (expression.Moves .leapAware)
        (DateTime.startOfDay (Date.toDayNumber ⟨2099, 12, 1⟩)) last ∧ lastYear < last.year := by
  have hread : Expression.parse "0 0 30 2 ?" = .ok ⟨.items (.ofList [.value 0]),
      .items (.ofList [.value 0]), .items (.ofList [.value 30]), .items (.ofList [.value 2]),
      .omit, .all⟩ := by
    decide +kernel
  obtain ⟨hstep, -, hnone, -⟩ := searches_advance_and_end hread .leapAware
  refine ⟨_, hread, ?_, (hnone _).mp (by decide +kernel)⟩
  rcases hstep DateTime.earliest (by decide +kernel) with hstable | hmoved
  · exact absurd hstable (by decide +kernel)
  · exact hmoved

end CronSchedule
