import CronSchedule.Error
import CronSchedule.Pattern.Basic
import CronSchedule.Text.Blank
import CronSchedule.Text.Lowercase

/-!
# Reading a pattern

A field is lowered and cut at its commas.  The signs that a part contains decide
what it is, and they are looked for in a fixed order: a slash makes a series, then
a hyphen a range, then a hash a numbered weekday, whatever else the part holds.
The leftmost part that breaks a rule decides the error.
-/

namespace CronSchedule

/-- The text as it appears in an error. -/
def token (text : List Char) : String :=
  String.ofList text

/-- Read a value of the field: one of its names, or a numeral within its
    bounds. -/
def Field.readValue (field : Field) (text : List Char) : Except Cause Nat :=
  match field.aliases.find? fun entry => entry.1.toList == text with
  | some entry => .ok entry.2
  | none =>
      match Numeral.read? text with
      | none => .error (.unknownValue (token text) field)
      | some n =>
          if field.least ≤ n ∧ n ≤ field.greatest then .ok n
          else .error (.outOfBounds (token text) field)

/-- Read `a-b`.  The `shape` is what the text should have been as a whole.  A range
    of weekdays that ends with Sunday ends with 7, after Saturday. -/
def Range.read (field : Field) (shape : Shape) (text : List Char) : Except Cause Range :=
  match cut? '-' text with
  | none => .error (.malformed shape (token text) field)
  | some (low, high) =>
      if '-' ∈ high then
        .error (.malformed shape (token text) field)
      else do
        let first ← field.readValue low
        let last ← field.readValue high
        if field.rangeEnd last < first then
          .error (.invalidRange (token text) field)
        else
          .ok ⟨first, field.rangeEnd last⟩

/-- Read the values that a series runs over: all of them, a range, or those from a
    value on. -/
def Series.readBase (field : Field) (text : List Char) : Except Cause Range :=
  if text = ['*'] then
    .ok ⟨field.least, field.greatest⟩
  else if '-' ∈ text then
    Range.read field .step text
  else do
    let first ← field.readValue text
    .ok ⟨first, field.greatest⟩

/-- Read `base/stride`. -/
def Series.read (field : Field) (text : List Char) : Except Cause Series :=
  match cut? '/' text with
  | none => .error (.malformed .step (token text) field)
  | some (base, stride) =>
      if '/' ∈ stride then
        .error (.malformed .step (token text) field)
      else do
        let range ← Series.readBase field base
        match Numeral.read? stride with
        | none => .error (.malformed .step (token text) field)
        | some n =>
            if n = 0 ∨ field.greatest < n then
              .error (.invalidStep (token text) field)
            else
              .ok ⟨range.first, range.last, n⟩

/-- Read `weekday#count`. -/
def NthWeekday.read (text : List Char) : Except Cause NthWeekday :=
  match cut? '#' text with
  | none => .error (.malformed .nthWeekday (token text) .dayOfWeek)
  | some (weekday, count) => do
      let weekday ← Field.dayOfWeek.readValue weekday
      match Numeral.read? count with
      | none => .error (.invalidNthInstance (token text))
      | some n =>
          if 1 ≤ n ∧ n ≤ 5 then .ok ⟨weekday, n⟩
          else .error (.invalidNthInstance (token text))

/-- Read `dayw`. -/
def readNearestWorkday (text : List Char) : Except Cause Nat :=
  if text.getLast? = some 'w' then
    Field.dayOfMonth.readValue text.dropLast
  else
    .error (.malformed .nearestWorkday (token text) .dayOfMonth)

/-- A part of a field, between two commas. -/
inductive Part where
  /-- An item of a list. -/
  | item (item : Item)
  /-- A sign that has to stand alone. -/
  | alone (operator : Operator)
deriving DecidableEq, Repr

/-- Read a part of a field. -/
def Part.read (field : Field) (text : List Char) : Except Cause Part :=
  if '/' ∈ text then
    (Series.read field text).map (.item ∘ .series)
  else if '-' ∈ text then
    (Range.read field .range text).map (.item ∘ .range)
  else if '#' ∈ text then
    if field ∈ Operator.hash.fields then
      (NthWeekday.read text).map (.item ∘ .nthWeekday)
    else
      .error (.operatorNotAllowed .hash field)
  else if text = ['l'] then
    .ok (.alone .last)
  else if text = ['l', 'w'] then
    .ok (.alone .lastWorkday)
  else if field = .dayOfMonth ∧ 'w' ∈ text then
    (readNearestWorkday text).map (.item ∘ .nearestWorkday)
  else if field = .dayOfWeek ∧ text.getLast? = some 'l' then
    (field.readValue text.dropLast).map (.item ∘ .lastWeekday)
  else if text = ['*'] then
    .ok (.alone .star)
  else if text = ['?'] then
    .ok (.alone .question)
  else
    (field.readValue text).map (.item ∘ .value)

/-- The pattern of a sign that stands alone. -/
def Pattern.ofOperator (field : Field) (operator : Operator) : Except Cause Pattern :=
  if field ∈ operator.fields then
    match operator with
    | .star => .ok .all
    | .question => .ok .omit
    | .last => .ok .lastDay
    | .lastWorkday => .ok .lastWorkday
    | .hash => .error (.operatorNotAllowed operator field)
  else
    .error (.operatorNotAllowed operator field)

/-- Why a sign that has to stand alone may not be in a list.  A question mark is
    out of place there in every field, the other signs only in those where they
    have a meaning at all. -/
def Operator.inList (operator : Operator) (field : Field) : Cause :=
  if operator = .question ∨ field ∈ operator.fields then
    .notAlone operator field
  else
    .operatorNotAllowed operator field

/-- Read an item of a list that has other items. -/
def Item.read (field : Field) (text : List Char) : Except Cause Item := do
  match ← Part.read field text with
  | .item item => .ok item
  | .alone operator => .error (operator.inList field)

/-- Read a field in lower case. -/
def Pattern.readLowered (field : Field) (text : List Char) : Except Cause Pattern :=
  match text.splitOn ',' with
  | [part] => do
      match ← Part.read field part with
      | .item item => .ok (.items (.ofList [item]))
      | .alone operator => Pattern.ofOperator field operator
  | parts => do
      let items ← parts.mapM (Item.read field)
      .ok (.items (.ofList items))

/-- Read a field. -/
def Pattern.read (field : Field) (text : List Char) : Except Cause Pattern :=
  Pattern.readLowered field (lowercase (trim text))

end CronSchedule
