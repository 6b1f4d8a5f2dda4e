import CronSchedule.Proofs.Search.Move

/-!
# The search finds the first event

A schedule fires at the whole seconds, up to the last year, that one of its
expressions accepts.  `Schedule.next?` is computed by a search that leaps ahead; here
it is shown to be the first point after a given one at which the schedule fires, and
`none` exactly if there is no such point.  Single moves skip nothing, so by induction
along the search a whole search skips nothing, and the least of what the expressions
find is the first event of the schedule.
-/

namespace CronSchedule

/-- The event is the first of the points with a property that come after `t`. -/
structure IsFirstAfter (P : DateTime → Prop) (t event : DateTime) : Prop where
  holds : P event
  after : t < event
  least : ∀ other, P other → t < other → event ≤ other

theorem IsFirstAfter.unique {P : DateTime → Prop} {t a b : DateTime} (ha : IsFirstAfter P t a)
    (hb : IsFirstAfter P t b) : a = b :=
  Std.le_antisymm (ha.least b hb.holds hb.after) (hb.least a ha.holds ha.after)

/-- The expression has an event at `t`. -/
def Expression.Fires (expression : Expression) (february : February) (t : DateTime) : Prop :=
  t.nano.val = 0 ∧ t.year ≤ lastYear ∧ expression.Accepts february t

/-- The schedule has an event at `t`: a whole second, in the last year or before, that
    one of its expressions accepts. -/
def Schedule.Fires (schedule : Schedule) (t : DateTime) : Prop :=
  t.nano.val = 0 ∧ t.year ≤ lastYear ∧ schedule.Accepts t

instance (expression : Expression) (february : February) (t : DateTime) :
    Decidable (expression.Fires february t) :=
  inferInstanceAs (Decidable (_ ∧ _))

instance (schedule : Schedule) (t : DateTime) : Decidable (schedule.Fires t) :=
  inferInstanceAs (Decidable (_ ∧ _))

theorem Schedule.fires_iff {schedule : Schedule} {t : DateTime} :
    schedule.Fires t ↔
      ∃ expression ∈ schedule.alternatives, expression.Fires schedule.february t := by
  constructor
  · rintro ⟨hwhole, hyear, expression, hmem, haccepts⟩
    exact ⟨expression, hmem, hwhole, hyear, haccepts⟩
  · rintro ⟨expression, hmem, hwhole, hyear, haccepts⟩
    exact ⟨hwhole, hyear, expression, hmem, haccepts⟩

/-- A whole second after `t` is not before the second that follows `t`. -/
theorem DateTime.next_second_le {t u : DateTime} (hwhole : u.nano.val = 0) :
    t < u ↔ CalendarUnit.second.start (CalendarUnit.second.index t + 1) ≤ u := by
  rw [CalendarUnit.start_le_iff]
  simp only [DateTime.lt_def, Fin.lt_def, CalendarUnit.index]
  omega

/-! ### One expression -/

namespace Expression

variable {expression : Expression} {february : February} {t : DateTime}

/-- The search passes nothing that is accepted before it ends. -/
theorem firstFrom?_least {found : DateTime} (hwf : expression.WellFormed)
    (h : expression.firstFrom? february t = some found) :
    ∀ u, t ≤ u → expression.Accepts february u → found ≤ u := by
  fun_induction expression.firstFrom? february t with
  | case1 t hbefore hstep =>
      intro u hle _
      cases h
      exact hle
  | case2 => cases h
  | case3 t hbefore candidate hstep hahead ih =>
      intro u hle haccepts
      have hyear := DateTime.year_le_lastYear_iff.mpr hbefore
      have hskips := (step_moved hwf hyear hstep).2.2
      apply ih h u _ haccepts
      rw [← Std.not_lt]
      intro hlt
      exact hskips u hle hlt haccepts
  | case4 => cases h
  | case5 => cases h

/-- A search that starts at a whole second ends at one. -/
theorem firstFrom?_whole {found : DateTime} (hwf : expression.WellFormed)
    (h : expression.firstFrom? february t = some found) (hwhole : t.nano.val = 0) :
    found.nano.val = 0 := by
  fun_induction expression.firstFrom? february t with
  | case1 t hbefore hstep =>
      cases h
      exact hwhole
  | case2 => cases h
  | case3 t hbefore candidate hstep hahead ih =>
      have hyear := DateTime.year_le_lastYear_iff.mpr hbefore
      exact ih h (step_moved hwf hyear hstep).2.1
  | case4 => cases h
  | case5 => cases h

theorem firstFrom?_isSome {u : DateTime} (hwf : expression.WellFormed) (hle : t ≤ u)
    (hyear : u.year ≤ lastYear) (haccepts : expression.Accepts february u) :
    ∃ found, expression.firstFrom? february t = some found := by
  fun_induction expression.firstFrom? february t with
  | case1 t hbefore hstep => exact ⟨t, rfl⟩
  | case2 t hbefore hstep => exact absurd hstep (step_ne_stuck hwf hle hyear haccepts)
  | case3 t hbefore candidate hstep hahead ih =>
      have hyear' := DateTime.year_le_lastYear_iff.mpr hbefore
      have hskips := (step_moved hwf hyear' hstep).2.2
      apply ih
      rw [← Std.not_lt]
      intro hlt
      exact hskips u hle hlt haccepts
  | case4 t hbefore candidate hstep hahead =>
      have hyear' := DateTime.year_le_lastYear_iff.mpr hbefore
      obtain ⟨hlt, hwhole, -⟩ := step_moved hwf hyear' hstep
      simp only [DateTime.lt_def, Fin.lt_def] at hlt
      omega
  | case5 t hbeyond =>
      have hindex := CalendarUnit.index_mono .second hle
      have := DateTime.year_le_lastYear_iff.mp hyear
      exact absurd (Int.lt_of_le_of_lt hindex this) hbeyond

theorem firstAfter?_eq_some {found : DateTime} (hwf : expression.WellFormed)
    (h : expression.firstAfter? february t = some found) :
    IsFirstAfter (expression.Fires february) t found := by
  obtain ⟨start, hstart, hfound⟩ := Option.bind_eq_some_iff.mp h
  obtain ⟨rfl, -⟩ := DateTime.advance?_eq_some_iff.mp hstart
  have hwhole := firstFrom?_whole hwf hfound (CalendarUnit.start_nano _ _)
  obtain ⟨hle, hyear⟩ := firstFrom?_bounds hfound
  refine ⟨⟨hwhole, DateTime.year_le_lastYear_iff.mpr hyear, firstFrom?_accepts hfound⟩, ?_, ?_⟩
  · exact (DateTime.next_second_le hwhole).mpr (CalendarUnit.ofSeconds_le_iff.mpr hle)
  · intro other hother hafter
    exact firstFrom?_least hwf hfound other
      ((DateTime.next_second_le hother.1).mp hafter) hother.2.2

theorem firstAfter?_isSome {event : DateTime} (hwf : expression.WellFormed)
    (hfires : expression.Fires february event) (hafter : t < event) :
    ∃ found, expression.firstAfter? february t = some found := by
  obtain ⟨hwhole, hyear, haccepts⟩ := hfires
  have hle := (DateTime.next_second_le hwhole).mp hafter
  obtain ⟨found, hfound⟩ := firstFrom?_isSome hwf hle hyear haccepts
  have hspan : CalendarUnit.second.start (CalendarUnit.second.index t + 1) < DateTime.beyondLatest :=
    Std.lt_of_le_of_lt hle (DateTime.lt_beyondLatest hyear)
  refine ⟨found, Option.bind_eq_some_iff.mpr ⟨_, ?_, hfound⟩⟩
  exact DateTime.advance?_eq_some_iff.mpr ⟨rfl, hspan⟩

end Expression

/-! ### A schedule -/

namespace Schedule

variable {schedule : Schedule} {t event : DateTime}

theorem next?_isFirst (hwf : schedule.WellFormed) (h : schedule.next? t = some event) :
    IsFirstAfter schedule.Fires t event := by
  obtain ⟨hmem, hleast⟩ := List.min?_eq_some_iff.mp h
  obtain ⟨expression, hexpression, hfound⟩ := List.mem_filterMap.mp hmem
  have hfirst := Expression.firstAfter?_eq_some (hwf expression hexpression) hfound
  refine ⟨fires_iff.mpr ⟨expression, hexpression, hfirst.holds⟩, hfirst.after, ?_⟩
  intro other hother hafter
  obtain ⟨alternative, halternative, hfires⟩ := fires_iff.mp hother
  have hwf' := hwf alternative halternative
  obtain ⟨found, hfound'⟩ := Expression.firstAfter?_isSome hwf' hfires hafter
  have hle : event ≤ found :=
    hleast found (List.mem_filterMap.mpr ⟨alternative, halternative, hfound'⟩)
  exact Std.le_trans hle ((Expression.firstAfter?_eq_some hwf' hfound').least other hfires hafter)

theorem next?_isSome (hwf : schedule.WellFormed) (hfires : schedule.Fires event)
    (hafter : t < event) : ∃ found, schedule.next? t = some found := by
  obtain ⟨expression, hexpression, hfires⟩ := fires_iff.mp hfires
  obtain ⟨found, hfound⟩ := Expression.firstAfter?_isSome (hwf expression hexpression) hfires hafter
  cases hnext : schedule.next? t with
  | some first => exact ⟨first, rfl⟩
  | none =>
      have hmem : found ∈ schedule.alternatives.filterMap fun expression =>
          expression.firstAfter? schedule.february t :=
        List.mem_filterMap.mpr ⟨expression, hexpression, hfound⟩
      rw [List.min?_eq_none_iff.mp hnext] at hmem
      cases hmem

theorem next?_eq_some_iff (hwf : schedule.WellFormed) :
    schedule.next? t = some event ↔ IsFirstAfter schedule.Fires t event := by
  refine ⟨next?_isFirst hwf, fun hfirst => ?_⟩
  obtain ⟨found, hfound⟩ := next?_isSome hwf hfirst.holds hfirst.after
  rw [hfound, (next?_isFirst hwf hfound).unique hfirst]

theorem next?_eq_none_iff (hwf : schedule.WellFormed) :
    schedule.next? t = none ↔ ∀ event, schedule.Fires event → ¬ t < event := by
  constructor
  · intro h event hfires hafter
    obtain ⟨found, hfound⟩ := next?_isSome hwf hfires hafter
    rw [h] at hfound
    cases hfound
  · intro h
    cases hnext : schedule.next? t with
    | none => rfl
    | some event =>
        have hfirst := next?_isFirst hwf hnext
        exact absurd hfirst.after (h event hfirst.holds)

/-- The next event of a schedule that was read is the first whole second after `t`, up to
    the last year, that all patterns of one of its expressions accept; there is no next
    event exactly if there is no such second. -/
theorem next?_finds_first {text : String} {february : February}
    (h : Schedule.parse text february = .ok schedule) (t : DateTime) :
    (∀ event, schedule.next? t = some event ↔ IsFirstAfter schedule.Fires t event) ∧
      (schedule.next? t = none ↔ ¬ ∃ event, schedule.Fires event ∧ t < event) := by
  have hwf := wellFormed_of_parse h
  refine ⟨fun event => next?_eq_some_iff hwf, ?_⟩
  rw [next?_eq_none_iff hwf]
  constructor
  · rintro hnone ⟨event, hfires, hafter⟩
    exact hnone event hfires hafter
  · intro hnone event hfires hafter
    exact hnone ⟨event, hfires, hafter⟩

/-- Of the leap days after 2024, that of 2032 is the first that is one of the weekdays from
    Monday in steps of three, being a Sunday. -/
theorem next?_finds_leap_sunday :
    ∃ schedule, Schedule.parse "30 12 29 2 1-7/3" .leapAware = .ok schedule ∧
      IsFirstAfter schedule.Fires (DateTime.startOfDay (Date.toDayNumber ⟨2024, 3, 1⟩))
        ((DateTime.startOfDay (Date.toDayNumber ⟨2032, 2, 29⟩)).addSeconds 45000) := by
  have hread : Schedule.parse "30 12 29 2 1-7/3" .leapAware = .ok ⟨"30 12 29 2 1-7/3", .leapAware,
      [⟨.items (.ofList [.value 30]), .items (.ofList [.value 12]), .items (.ofList [.value 29]),
        .items (.ofList [.value 2]), .items (.ofList [.series ⟨1, 7, 3⟩]), .all⟩]⟩ := by
    decide +kernel
  exact ⟨_, hread, ((next?_finds_first hread _).1 _).mp (by decide +kernel)⟩

end Schedule

end CronSchedule
