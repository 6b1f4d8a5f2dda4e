import CronSchedule.Pattern.Accepts

/-!
# Expressions

An expression is a pattern for every field.  Seconds cannot be written: their
pattern is always `Pattern.omit`, so that events fall on the start of a minute.
An expression accepts a point in time if all its patterns do; the conditions on
the day of the month and on the day of the week both have to be met.
-/

namespace CronSchedule

/-- A pattern for each field that can be written. -/
structure Expression where
  minute : Pattern
  hour : Pattern
  dayOfMonth : Pattern
  month : Pattern
  dayOfWeek : Pattern
  year : Pattern
deriving DecidableEq, Ord, Repr

namespace Expression

/-- The pattern of a field. -/
def pattern (expression : Expression) : Field → Pattern
  | .second => .omit
  | .minute => expression.minute
  | .hour => expression.hour
  | .dayOfMonth => expression.dayOfMonth
  | .month => expression.month
  | .dayOfWeek => expression.dayOfWeek
  | .year => expression.year

/-- Every pattern accepts `t`. -/
def Accepts (expression : Expression) (february : February) (t : DateTime) : Prop :=
  ∀ field, (expression.pattern field).accepts field february t

end Expression

end CronSchedule
