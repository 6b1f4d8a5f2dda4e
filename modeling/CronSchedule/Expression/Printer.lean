import CronSchedule.Expression.Basic
import CronSchedule.Pattern.Printer

/-!
# Writing an expression

The canonical form of an expression has all six fields, each in its canonical
form, with one space between them.
-/

namespace CronSchedule.Expression

/-- The canonical form, as a list of characters. -/
def write (expression : Expression) : List Char :=
  [' '].intercalate
    [expression.minute.write, expression.hour.write, expression.dayOfMonth.write,
     expression.month.write, expression.dayOfWeek.write, expression.year.write]

/-- The canonical form. -/
def render (expression : Expression) : String :=
  String.ofList expression.write

end CronSchedule.Expression
