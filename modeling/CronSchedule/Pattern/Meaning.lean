import CronSchedule.Pattern.Accepts

/-!
# What patterns mean on a calendar

The meaning of each item in terms of the calendar alone: the weekday of a day is
counted, and the days of a month are compared with each other.  No closed formula
enters here, so that the formulas of `Item.accepts` can be held against it.
-/

namespace CronSchedule

/-- The weekday of a day of the month of `t`. -/
def DateTime.weekdayInMonth (t : DateTime) (day : Nat) : Nat :=
  weekdayOfDay (t.dayNumber + (day - t.day : Int))

/-- The month of `t` ends on the day: a February of the short kind on its 28th, any other
    month on the last day that it has. -/
inductive DateTime.MonthEndsOn (t : DateTime) (february : February) : Nat → Prop
  | short (kind : february = .alwaysShort) (month : t.month = 2) : MonthEndsOn t february 28
  | full (other : ¬ (february = .alwaysShort ∧ t.month = 2)) :
      MonthEndsOn t february (daysInMonth t.year t.month)

/-- The weekday is one from Monday to Friday. -/
def IsWorkday (weekday : Nat) : Prop :=
  1 ≤ weekday ∧ weekday ≤ 5

/-- The day of `t` is the `count`-th of its month that is the given weekday: it is
    such a day, and so are `count - 1` earlier ones. -/
def NthWeekday.Means (nth : NthWeekday) (t : DateTime) : Prop :=
  t.weekday = nth.weekday ∧
    ((List.range t.day).filter fun day => 0 < day ∧ t.weekdayInMonth day = nth.weekday).length + 1 =
      nth.count

/-- The month has the given day, and the day of `t` is the workday of the month that
    is nearest to it. -/
def MeansNearestWorkday (target : Nat) (t : DateTime) : Prop :=
  1 ≤ target ∧ target ≤ daysInMonth t.year t.month ∧ IsWorkday t.weekday ∧
    ∀ day, 1 ≤ day → day ≤ daysInMonth t.year t.month → IsWorkday (t.weekdayInMonth day) →
      ((t.day : Int) - target).natAbs ≤ ((day : Int) - target).natAbs

/-- The day of `t` is the last of its month that is the given weekday. -/
def MeansLastWeekday (weekday : Nat) (february : February) (t : DateTime) : Prop :=
  t.weekday = weekday ∧ ∃ last, t.MonthEndsOn february last ∧ t.day ≤ last ∧
    ∀ day, t.day < day → day ≤ last → t.weekdayInMonth day ≠ weekday

/-- The day of `t` is the last workday of its month. -/
def MeansLastWorkday (february : February) (t : DateTime) : Prop :=
  IsWorkday t.weekday ∧ ∃ last, t.MonthEndsOn february last ∧ t.day ≤ last ∧
    ∀ day, t.day < day → day ≤ last → ¬ IsWorkday (t.weekdayInMonth day)

/-- The value is one that the field has at `t`.  Of the days of the week Sunday has
    two values, 0 and 7. -/
def Field.HasValue (field : Field) (t : DateTime) (value : Int) : Prop :=
  field.valueAt t = value ∨ field = .dayOfWeek ∧ t.weekday = 0 ∧ value = 7

/-- The point `t` belongs to the item on behalf of the field. -/
def Item.Means (item : Item) (field : Field) (february : February) (t : DateTime) : Prop :=
  match item with
  | .value v => field.valueAt t = v
  | .range r => ∃ value : Int, field.HasValue t value ∧ r.first ≤ value ∧ value ≤ r.last
  | .series s =>
      ∃ count : Nat, field.HasValue t (s.first + s.stride * count) ∧
        s.first + s.stride * count ≤ s.last
  | .nthWeekday n => n.Means t
  | .nearestWorkday day => MeansNearestWorkday day t
  | .lastWeekday weekday => MeansLastWeekday weekday february t

/-- The point `t` belongs to the pattern on behalf of a field that can be
    written. -/
def Pattern.Means (pattern : Pattern) (field : Field) (february : February) (t : DateTime) :
    Prop :=
  match pattern with
  | .all | .omit => True
  | .lastDay => t.MonthEndsOn february t.day
  | .lastWorkday => MeansLastWorkday february t
  | .items list => ∃ item ∈ list.toList, item.Means field february t

end CronSchedule
