import CronSchedule.Schedule

/-!
# Schedules as documents

A schedule is stored as a small document: its text and its options.  The
expressions are not stored, they are read from the text again.

Documents are read by the usual conventions for records.  A record is an object,
whose members may come in any order and of which unknown ones are passed over, or
an array of the members in their order; a member with a default may be missing,
in an array at the end only.  A choice is its name, or an object whose one member
has that name and the value null.
-/

namespace CronSchedule

/-- A document. -/
inductive Document where
  | null
  | bool (value : Bool)
  /-- The `mantissa` divided by ten to the power `scale`. -/
  | number (mantissa : Int) (scale : Nat)
  | string (value : String)
  | array (elements : List Document)
  | object (members : List (String × Document))
deriving Inhabited, Repr

/-- Why a document is no schedule. -/
inductive DocumentError where
  /-- It does not have the members of a schedule. -/
  | malformed
  /-- It has them, but its text is rejected. -/
  | rejected (error : ParseError)
deriving DecidableEq, Repr

/-- The member of an object with the given name. -/
def member? (members : List (String × Document)) (name : String) : Option Document :=
  members.lookup name

namespace February

/-- The name of the choice. -/
def name : February → String
  | leapAware => "leap_aware"
  | alwaysShort => "always_short"

/-- The choice with the given name. -/
def ofName? (text : String) : Option February :=
  [leapAware, alwaysShort].find? fun february => february.name = text

/-- Read the choice. -/
def ofDocument? : Document → Option February
  | .string text => ofName? text
  | .object [(text, .null)] => ofName? text
  | _ => none

/-- Read the options of a schedule, which have February as their one member.  By
    default it has a leap day. -/
def ofOptions? : Document → Option February
  | .object members =>
      match member? members "february" with
      | some document => ofDocument? document
      | none => some .leapAware
  | .array [] => some .leapAware
  | .array [document] => ofDocument? document
  | _ => none

end February

namespace Schedule

/-- Read the text and the options of a schedule. -/
def partsOfDocument? : Document → Option (String × February)
  | .object members =>
      match member? members "input", member? members "options" with
      | some (.string text), none => some (text, .leapAware)
      | some (.string text), some options =>
          (February.ofOptions? options).map fun february => (text, february)
      | _, _ => none
  | .array [.string text] => some (text, .leapAware)
  | .array [.string text, options] =>
      (February.ofOptions? options).map fun february => (text, february)
  | _ => none

/-- Read a schedule. -/
def ofDocument (document : Document) : Except DocumentError Schedule :=
  match partsOfDocument? document with
  | none => .error .malformed
  | some (text, february) => (parse text february).mapError .rejected

/-- The document of a schedule, with all its members. -/
def toDocument (schedule : Schedule) : Document :=
  .object
    [("input", .string schedule.text),
     ("options", .object [("february", .string schedule.february.name)])]

/-- The document of a schedule has the parts of that schedule. -/
theorem partsOfDocument?_toDocument (schedule : Schedule) :
    partsOfDocument? schedule.toDocument = some (schedule.text, schedule.february) := by
  cases schedule with
  | mk text february alternatives => cases february <;> rfl

end Schedule

end CronSchedule
