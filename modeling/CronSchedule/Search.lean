import CronSchedule.Expression.Basic

/-!
# The search for the next accepted point

The search starts at a candidate and looks for the first field, smallest unit
first, whose pattern rejects it.  The candidate then moves ahead to the start of
the nearest unit that this pattern may accept.  The move resets all smaller units
and may carry into larger ones, so the fields are looked at again from the start,
until all of them accept or the candidate has passed the last year.

A move is as long as it can be without passing a point that the pattern accepts:
each item of a list gives the distance to the place where it is met next, and the
least distance wins.
-/

namespace CronSchedule

/-! ### Distances -/

/-- The least value of a series that is not below `value`, if the series goes so
    far. -/
def Series.nextFrom? (series : Series) (value : Int) : Option Int :=
  let next : Int :=
    if value ≤ series.first then series.first
    else
      let excess := (value - series.first) % series.stride
      if excess = 0 then value else value + series.stride - excess
  if next ≤ series.last then some next else none

/-- Units from `value` ahead to `target`, where the values start again at `least`
    after `greatest`. -/
def distanceAhead (value target least greatest : Int) : Nat :=
  if value < target then (target - value).toNat
  else ((greatest - value) + (target - least) + 1).toNat

/-- Days from `date` ahead to `day` of its month, or to the first of the next month
    if that day is not ahead. -/
def daysAhead (date : Date) (day : Nat) : Nat :=
  if date.day < day then day - date.day
  else daysInMonth date.year date.month - date.day + 1

/-- Units of the field from `t` ahead to the place where a series is met next.  Sunday
    at the end of a series of weekdays is 7, one more than the values of the field
    go. -/
def Series.distance (series : Series) (field : Field) (t : DateTime) : Nat :=
  let value := field.valueAt t
  let greatest : Int := field.greatestAt t
  let ceiling := if field = .dayOfWeek then greatest + 1 else greatest
  let next := (series.nextFrom? value).filter (· ≤ ceiling)
  distanceAhead value (next.getD series.first) field.least greatest

/-- Units of the field from `t` ahead to the place where the item may be met
    next. -/
def Item.distance (item : Item) (field : Field) (february : February) (t : DateTime) : Nat :=
  match item with
  | .value v => distanceAhead (field.valueAt t) v field.least (field.greatestAt t)
  | .range r => distanceAhead (field.valueAt t) r.first field.least (field.greatestAt t)
  | .series s => s.distance field t
  | .nthWeekday n =>
      daysAhead t.date ((nthOfWeekday? t.date.year t.date.month n.weekday n.count).getD 0)
  | .nearestWorkday day =>
      daysAhead t.date ((nearestWorkday? t.date.year t.date.month day).getD 0)
  | .lastWeekday weekday =>
      daysAhead t.date (lastOfWeekday february t.date.year t.date.month weekday)

/-- The least distance to an item that is not met at `t` itself. -/
def Items.distance? (items : Items) (field : Field) (february : February) (t : DateTime) :
    Option Nat :=
  ((items.toList.map (·.distance field february t)).filter (0 < ·)).min?

/-! ### Moves -/

/-- Where to go on if the pattern rejects `t` on behalf of the field. -/
def Pattern.moveFrom? (pattern : Pattern) (field : Field) (february : February)
    (t : DateTime) : Option DateTime :=
  match pattern with
  | .all => none
  | .omit => t.advance? .minute 1
  | .lastDay =>
      t.advance? .day (daysAhead t.date (lastDayOfMonth february t.date.year t.date.month))
  | .lastWorkday =>
      t.advance? .day (daysAhead t.date (lastWorkdayOfMonth february t.date.year t.date.month))
  | .items list =>
      match list.distance? field february t with
      | some distance => t.advance? field.unit distance
      | none => none

/-- The order in which the fields are looked at. -/
def searchOrder : List Field :=
  [.second, .minute, .hour, .dayOfMonth, .dayOfWeek, .month, .year]

/-- What a look at a candidate says. -/
inductive Step where
  /-- Every pattern accepts it. -/
  | stable
  /-- A pattern rejects it; the search goes on at a later candidate. -/
  | moved (candidate : DateTime)
  /-- A pattern rejects it and can accept nothing ahead. -/
  | stuck
deriving DecidableEq, Repr

namespace Expression

/-- The first field, in the order of the search, whose pattern rejects `t`. -/
def rejecting? (expression : Expression) (february : February) (t : DateTime) : Option Field :=
  searchOrder.find? fun field => !(expression.pattern field).accepts field february t

/-- Look at a candidate. -/
def step (expression : Expression) (february : February) (t : DateTime) : Step :=
  match expression.rejecting? february t with
  | none => .stable
  | some field =>
      match (expression.pattern field).moveFrom? field february t with
      | some candidate => .moved candidate
      | none => .stuck

/-- The first accepted point from the candidate `t` on.  There is none if the
    candidates pass the last year, get stuck or fail to move ahead. -/
def firstFrom? (expression : Expression) (february : February) (t : DateTime) :
    Option DateTime :=
  if t.seconds < horizon.seconds then
    match expression.step february t with
    | .stable => some t
    | .stuck => none
    | .moved candidate =>
        if t.seconds < candidate.seconds then
          expression.firstFrom? february candidate
        else
          none
  else
    none
termination_by (horizon.seconds - t.seconds).toNat

/-- The first accepted point at a whole second after `t`. -/
def firstAfter? (expression : Expression) (february : February) (t : DateTime) :
    Option DateTime :=
  (t.advance? .second 1).bind (expression.firstFrom? february)

/-- The search finds nothing to reject exactly where every pattern accepts. -/
theorem rejecting?_eq_none_iff {expression : Expression} {february : February} {t : DateTime} :
    expression.rejecting? february t = none ↔ expression.Accepts february t := by
  simp only [rejecting?, List.find?_eq_none, Bool.not_eq_true, Bool.not_eq_false', Accepts]
  constructor
  · intro h field
    exact h field (by cases field <;> decide)
  · intro h field _
    exact h field

instance (expression : Expression) (february : February) (t : DateTime) :
    Decidable (expression.Accepts february t) :=
  decidable_of_iff _ rejecting?_eq_none_iff

theorem step_eq_stable_iff {expression : Expression} {february : February} {t : DateTime} :
    expression.step february t = .stable ↔ expression.Accepts february t := by
  rw [← rejecting?_eq_none_iff]
  unfold step
  split
  · simp_all
  · split <;> simp_all

/-- What the search finds is accepted. -/
theorem firstFrom?_accepts {expression : Expression} {february : February}
    {t found : DateTime} (h : expression.firstFrom? february t = some found) :
    expression.Accepts february found := by
  fun_induction expression.firstFrom? february t with
  | case1 t hbefore hstep =>
      cases h
      exact step_eq_stable_iff.mp hstep
  | case2 => simp at h
  | case3 t hbefore candidate hstep hahead ih => exact ih h
  | case4 => simp at h
  | case5 => simp at h

/-- The search ends where it started or later, and before the horizon. -/
theorem firstFrom?_bounds {expression : Expression} {february : February} {t found : DateTime}
    (h : expression.firstFrom? february t = some found) :
    t.seconds ≤ found.seconds ∧ found.seconds < horizon.seconds := by
  fun_induction expression.firstFrom? february t with
  | case1 t hbefore hstep =>
      cases h
      exact ⟨Int.le_refl _, hbefore⟩
  | case2 => simp at h
  | case3 t hbefore candidate hstep hahead ih =>
      have := ih h
      omega
  | case4 => simp at h
  | case5 => simp at h

/-- A search for what comes after `t` ends after `t`. -/
theorem firstAfter?_bounds {expression : Expression} {february : February}
    {t found : DateTime} (h : expression.firstAfter? february t = some found) :
    t.seconds < found.seconds ∧ found.seconds < horizon.seconds := by
  obtain ⟨start, hstart, hfound⟩ := Option.bind_eq_some_iff.mp h
  have hbounds := firstFrom?_bounds hfound
  simp only [DateTime.advance?] at hstart
  split at hstart
  · cases hstart
    simp only [CalendarUnit.start, DateTime.ofSeconds, CalendarUnit.index] at hbounds
    omega
  · simp at hstart

end Expression

end CronSchedule
