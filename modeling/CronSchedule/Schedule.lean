import CronSchedule.Expression.Parser
import CronSchedule.Search

/-!
# Schedules

A schedule is one or more expressions, written between bars, and has an event
whenever one of them accepts the time.  It remembers the text it was read from,
and how February is to be treated.
-/

namespace CronSchedule

/-- A schedule. -/
structure Schedule where
  /-- The text that the schedule was read from. -/
  text : String
  /-- How long February is where the end of a month is looked up. -/
  february : February
  /-- The expressions, those with the same text once only. -/
  alternatives : List Expression
deriving DecidableEq, Repr

namespace Schedule

/-! ### Reading -/

/-- The texts of the alternatives: what stands between bars, without blanks at the
    ends, without empty texts, and each text at its first place only. -/
def alternativeTexts (text : List Char) : List (List Char) :=
  (((text.splitOn '|').map trim).filter fun alternative => !alternative.isEmpty).eraseDups

/-- Read the alternatives, or say which rule the first bad one breaks. -/
def readAlternatives (text : List Char) : Except Cause (List Expression) :=
  match alternativeTexts text with
  | [] => .error .empty
  | alternatives => alternatives.mapM Expression.read

/-- Read a schedule.  A rejection shows the whole text, whichever alternative is at
    fault. -/
def parse (text : String) (february : February) : Except ParseError Schedule :=
  match readAlternatives text.toList with
  | .ok alternatives => .ok ⟨text, february, alternatives⟩
  | .error cause => .error ⟨text, cause⟩

/-- Give the schedule a new text and keep its treatment of February. -/
def reparse (schedule : Schedule) (text : String) : Except ParseError Schedule :=
  match readAlternatives text.toList with
  | .ok alternatives => .ok { schedule with text, alternatives }
  | .error cause => .error ⟨text, cause⟩

/-! ### Events -/

/-- One of the alternatives accepts `t`. -/
def Accepts (schedule : Schedule) (t : DateTime) : Prop :=
  ∃ expression ∈ schedule.alternatives, expression.Accepts schedule.february t

instance (schedule : Schedule) (t : DateTime) : Decidable (schedule.Accepts t) :=
  inferInstanceAs (Decidable (∃ expression ∈ schedule.alternatives,
    expression.Accepts schedule.february t))

/-- The first event after `t`, up to the end of the last year. -/
def next? (schedule : Schedule) (t : DateTime) : Option DateTime :=
  (schedule.alternatives.filterMap fun expression =>
    expression.firstAfter? schedule.february t).min?

/-- The minute of `t` is the time of an event: the search from its start ends right
    there for one of the alternatives. -/
def isEvent (schedule : Schedule) (t : DateTime) : Bool :=
  let minute := t.truncate .minute
  schedule.alternatives.any fun expression =>
    expression.firstFrom? schedule.february minute == some minute

/-- The first `count` events after `t`, or all of them if there are fewer. -/
def eventsAfter (schedule : Schedule) (t : DateTime) : Nat → List DateTime
  | 0 => []
  | count + 1 =>
      match schedule.next? t with
      | some event => event :: schedule.eventsAfter event count
      | none => []

/-- The next event is later and before the horizon. -/
theorem next?_bounds {schedule : Schedule} {t event : DateTime}
    (h : schedule.next? t = some event) :
    t.seconds < event.seconds ∧ event.seconds < horizon.seconds := by
  obtain ⟨expression, -, hfound⟩ := List.mem_filterMap.mp (List.min?_mem h)
  exact Expression.firstAfter?_bounds hfound

end Schedule

end CronSchedule
