import CronSchedule.Expression.Basic
import CronSchedule.Pattern.Parser

/-!
# Reading an expression

An expression is a line of four to six words: minute, hour, day of the month,
month, day of the week and year.  Without a day of the week there is no condition
on it, without a year every year will do.  Some common schedules have a name that
stands for the whole line.
-/

namespace CronSchedule

/-- The names of common schedules, and the lines that they stand for. -/
def shorthands : List (String × String) :=
  [("@yearly", "0 0 1 1 ?"), ("@annually", "0 0 1 1 ?"), ("@monthly", "0 0 1 * ?"),
   ("@weekly", "0 0 ? * 0"), ("@daily", "0 0 * * ?"), ("@midnight", "0 0 * * ?"),
   ("@hourly", "0 * * * ?")]

/-- The line that a text stands for: that of the shorthand, if the text is one in
    capital or small letters, or else the text itself. -/
def expandShorthand (text : List Char) : List Char :=
  match shorthands.find? fun entry => entry.1.toList == text.map Char.toLower with
  | some entry => entry.2.toList
  | none => text

namespace Expression

/-- Read the fields of an expression, in the order in which they are written. -/
def readFields (minute hour dayOfMonth month dayOfWeek year : List Char) :
    Except Cause Expression := do
  let minute ← Pattern.read .minute minute
  let hour ← Pattern.read .hour hour
  let dayOfMonth ← Pattern.read .dayOfMonth dayOfMonth
  let month ← Pattern.read .month month
  let dayOfWeek ← Pattern.read .dayOfWeek dayOfWeek
  let year ← Pattern.read .year year
  .ok { minute, hour, dayOfMonth, month, dayOfWeek, year }

/-- Read an expression from its words. -/
def ofWords : List (List Char) → Except Cause Expression
  | [minute, hour, dayOfMonth, month] =>
      readFields minute hour dayOfMonth month ['?'] ['*']
  | [minute, hour, dayOfMonth, month, dayOfWeek] =>
      readFields minute hour dayOfMonth month dayOfWeek ['*']
  | [minute, hour, dayOfMonth, month, dayOfWeek, year] =>
      readFields minute hour dayOfMonth month dayOfWeek year
  | words => .error (.fieldCount words.length)

/-- Read an expression, or say which rule it breaks. -/
def read (text : List Char) : Except Cause Expression :=
  if trim text = [] then
    .error .empty
  else
    ofWords (words (expandShorthand (trim text)))

/-- Read an expression. -/
def parse (text : String) : Except ParseError Expression :=
  (read text.toList).mapError fun cause => ⟨text, cause⟩

end Expression

end CronSchedule
