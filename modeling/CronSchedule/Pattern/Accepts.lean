import CronSchedule.Field
import CronSchedule.Pattern.Basic

/-!
# Which points in time a pattern accepts

A pattern is asked about a point in time on behalf of a field.  Values, ranges
and series look at the value that the field has there; all other forms look at
the day, whatever the field.  Sunday has the value 0 and also counts as 7 where a
range or a series of weekdays ends there.
-/

namespace CronSchedule

/-- The range holds the value of the field. -/
def Range.contains (range : Range) (field : Field) (value : Int) : Bool :=
  let within (v : Int) : Bool := range.first ≤ v && v ≤ range.last
  within value || (field == .dayOfWeek && value == 0 && within 7)

/-- The series holds the value of the field. -/
def Series.contains (series : Series) (field : Field) (value : Int) : Bool :=
  let hit (v : Int) : Bool :=
    series.first ≤ v && v ≤ series.last && (v - series.first) % series.stride == 0
  hit value || (field == .dayOfWeek && value == 0 && hit 7)

/-- The day of `t` is the numbered weekday of its month. -/
def NthWeekday.accepts (nth : NthWeekday) (t : DateTime) : Bool :=
  t.weekday == nth.weekday &&
    nthOfWeekday? t.date.year t.date.month t.weekday nth.count == some t.date.day

/-- The item accepts `t` on behalf of the field. -/
def Item.accepts (item : Item) (field : Field) (february : February) (t : DateTime) : Bool :=
  match item with
  | .value v => field.valueAt t == v
  | .range r => r.contains field (field.valueAt t)
  | .series s => s.contains field (field.valueAt t)
  | .nthWeekday n => n.accepts t
  | .nearestWorkday day =>
      nearestWorkday? t.date.year t.date.month day == some t.date.day
  | .lastWeekday weekday =>
      lastOfWeekday february t.date.year t.date.month weekday == t.date.day

/-- The pattern accepts `t` on behalf of the field. -/
def Pattern.accepts (pattern : Pattern) (field : Field) (february : February) (t : DateTime) :
    Bool :=
  match pattern with
  | .all => true
  | .omit => field != .second || t.second == 0
  | .lastDay => t.date.day == lastDayOfMonth february t.date.year t.date.month
  | .lastWorkday => t.date.day == lastWorkdayOfMonth february t.date.year t.date.month
  | .items list => list.toList.any (·.accepts field february t)

end CronSchedule
