import CronSchedule.Calendar.Unit

/-!
# The fields of an expression

The catalogue of fields: their names, the values they may have, the names that
stand for values, and the unit of time that each of them constrains.
-/

namespace CronSchedule

/-- The first year that an expression may name. -/
def firstYear : Nat := 1970

/-- The last year that an expression may name, and the last in which a schedule
    has an event. -/
def lastYear : Nat := 2099

/-- The first point after the last year. -/
def horizon : DateTime := DateTime.startOfDay (daysBeforeYear (lastYear + 1))

/-- A field of an expression. -/
inductive Field where
  | second
  | minute
  | hour
  | dayOfMonth
  | month
  | dayOfWeek
  | year
deriving DecidableEq, Repr

namespace Field

/-- The fields in the order in which they are written. -/
def all : List Field :=
  [second, minute, hour, dayOfMonth, month, dayOfWeek, year]

theorem mem_all (field : Field) : field ∈ all := by
  cases field <;> decide

/-- The place of the field in that order. -/
def position (field : Field) : Nat :=
  all.idxOf field

/-- The name by which messages call the field. -/
def name : Field → String
  | second => "second"
  | minute => "minute"
  | hour => "hour"
  | dayOfMonth => "day_of_month"
  | month => "month"
  | dayOfWeek => "day_of_week"
  | year => "year"

/-- The least value of the field. -/
def least : Field → Nat
  | second | minute | hour | dayOfWeek => 0
  | dayOfMonth | month => 1
  | year => firstYear

/-- The greatest value of the field. -/
def greatest : Field → Nat
  | second | minute => 59
  | hour => 23
  | dayOfMonth => 31
  | month => 12
  | dayOfWeek => 6
  | year => lastYear

/-- The names that stand for values of the field.  For days of the week the
    number 7 is such a name: it is another way to say Sunday. -/
def aliases : Field → List (String × Nat)
  | month =>
      [("jan", 1), ("feb", 2), ("mar", 3), ("apr", 4), ("may", 5), ("jun", 6),
       ("jul", 7), ("aug", 8), ("sep", 9), ("oct", 10), ("nov", 11), ("dec", 12)]
  | dayOfWeek =>
      [("sun", 0), ("mon", 1), ("tue", 2), ("wed", 3), ("thu", 4), ("fri", 5),
       ("sat", 6), ("7", 0)]
  | _ => []

/-- The value at which a range ends if it is written to end with `value`.  A range of
    weekdays that ends with Sunday ends after Saturday. -/
def rangeEnd (field : Field) (value : Nat) : Nat :=
  if field = dayOfWeek ∧ value = 0 then 7 else value

/-- The calendar unit that the field constrains. -/
def unit : Field → CalendarUnit
  | second => .second
  | minute => .minute
  | hour => .hour
  | dayOfMonth | dayOfWeek => .day
  | month => .month
  | year => .year

/-- The value that the field has at a point in time. -/
def valueAt (field : Field) (t : DateTime) : Int :=
  match field with
  | second => t.second
  | minute => t.minute
  | hour => t.hour
  | dayOfMonth => t.day
  | month => t.month
  | dayOfWeek => t.weekday
  | year => t.year

/-- The greatest value that the field has in the month of a point in time. -/
def greatestAt (field : Field) (t : DateTime) : Nat :=
  match field with
  | dayOfMonth => daysInMonth t.date.year t.date.month
  | _ => field.greatest

end Field

end CronSchedule
