import CronSchedule.Field
import CronSchedule.Text.Numeral

/-!
# Why an expression is rejected

Reading is all or nothing: the first rule that some field breaks rejects the
whole text.  `Cause` says which rule, `ParseError` adds the text that was given,
and the wording of both is here.
-/

namespace CronSchedule

/-- A sign with a meaning of its own. -/
inductive Operator where
  /-- Every value, `*`. -/
  | star
  /-- No condition, `?`. -/
  | question
  /-- A numbered weekday of the month, `#`. -/
  | hash
  /-- The last day of the month, `L`. -/
  | last
  /-- The last workday of the month, `LW`. -/
  | lastWorkday
deriving DecidableEq, Repr

namespace Operator

/-- The sign itself, in capitals. -/
def text : Operator → String
  | star => "*"
  | question => "?"
  | hash => "#"
  | last => "L"
  | lastWorkday => "LW"

/-- The fields in which the sign has a meaning. -/
def fields : Operator → List Field
  | star => Field.all
  | question | last => [.dayOfMonth, .dayOfWeek]
  | hash => [.dayOfWeek]
  | lastWorkday => [.dayOfMonth]

end Operator

/-- What a malformed text should have been. -/
inductive Shape where
  | range
  | step
  | nthWeekday
  | nearestWorkday
deriving DecidableEq, Repr

def Shape.text : Shape → String
  | range => "range"
  | step => "step"
  | nthWeekday => "nth weekday"
  | nearestWorkday => "nearest weekday"

/-- The rule that a rejected text breaks.  Tokens are parts of the field in lower
    case. -/
inductive Cause where
  /-- There is no expression between the blanks and bars. -/
  | empty
  /-- The expression has a wrong number of fields. -/
  | fieldCount (found : Nat)
  /-- The sign has no meaning in the field. -/
  | operatorNotAllowed (operator : Operator) (field : Field)
  /-- The sign excludes other items, yet it stands in a list. -/
  | notAlone (operator : Operator) (field : Field)
  /-- The token has a part too many or too few. -/
  | malformed (shape : Shape) (token : String) (field : Field)
  /-- The token is a number that the field does not have. -/
  | outOfBounds (token : String) (field : Field)
  /-- The token is neither a number nor a name of the field. -/
  | unknownValue (token : String) (field : Field)
  /-- The range ends before it starts. -/
  | invalidRange (token : String) (field : Field)
  /-- The distance of the series is zero or exceeds every value of the field. -/
  | invalidStep (token : String) (field : Field)
  /-- No month has so many days of one weekday, or the token has no number. -/
  | invalidNthInstance (token : String)
deriving DecidableEq, Repr

/-- The least number of fields of an expression. -/
def leastFields : Nat := 4

/-- The greatest number of fields of an expression. -/
def greatestFields : Nat := 6

/-! ### Wording -/

/-- A text between backticks. -/
def quoted (text : String) : String :=
  "`" ++ text ++ "`"

/-- A number in decimal. -/
def decimal (n : Nat) : String :=
  String.ofList (Numeral.write n)

/-- The values of a field, written as a range. -/
def Field.bounds (field : Field) : String :=
  decimal field.least ++ "-" ++ decimal field.greatest

/-- The rule in words. -/
def Cause.message : Cause → String
  | empty => "expression is empty"
  | fieldCount found =>
      "expected " ++ decimal leastFields ++ " to " ++ decimal greatestFields ++
        " fields, found " ++ decimal found
  | operatorNotAllowed operator field =>
      quoted operator.text ++ " can only be used for " ++
        " or ".intercalate (operator.fields.map Field.name) ++
        ", found in " ++ field.name ++ " field"
  | notAlone operator field =>
      quoted operator.text ++ " can't be combined with other values in " ++
        field.name ++ " field"
  | malformed shape token field =>
      "malformed " ++ shape.text ++ " " ++ quoted token ++ " in " ++ field.name ++ " field"
  | outOfBounds token field =>
      "value " ++ quoted token ++ " of " ++ field.name ++ " field is out of bounds " ++
        field.bounds
  | unknownValue token field =>
      "unknown value " ++ quoted token ++ " in " ++ field.name ++ " field, allowed " ++
        field.bounds
  | invalidRange token field =>
      "range " ++ quoted token ++ " of " ++ field.name ++ " field starts after it ends"
  | invalidStep token field =>
      "step " ++ quoted token ++ " of " ++ field.name ++ " field must be within 1-" ++
        decimal field.greatest
  | invalidNthInstance token =>
      "weekday instance " ++ quoted token ++ " must be within 1-5"

/-- A text that was rejected, and why. -/
structure ParseError where
  /-- The whole text as it was given. -/
  expression : String
  cause : Cause
deriving DecidableEq, Repr

/-- The rejection in words. -/
def ParseError.message (error : ParseError) : String :=
  "invalid cron expression " ++ quoted error.expression ++ ": " ++ error.cause.message

end CronSchedule
