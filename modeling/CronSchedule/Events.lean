import CronSchedule.Schedule
import CronSchedule.Zone

/-!
# Events in a time zone

A schedule speaks of local times.  Local times that the clocks skip are no events,
and a local time that is shown twice is an event twice.  Where the offset changes
between an instant and its next event, clocks may have been put back on the way,
so the local times that the new offset repeats are searched as well.

Either search starts from a local time of the calendar.  Where it would have to start
beyond the ends of the calendar there is no answer.
-/

namespace CronSchedule

namespace Schedule

/-- The first instant after `instant` that shows an event after the local time
    `shown`, the events being taken in the order of their local times. -/
def nextShownAfter? (schedule : Schedule) (zone : Zone) (instant shown : DateTime) :
    Option ZonedTime :=
  match _h : schedule.next? shown with
  | none => none
  | some event =>
      match (zone.reading event).firstAfter? instant with
      | some time => some time
      | none => schedule.nextShownAfter? zone instant event
termination_by (horizon.seconds - shown.seconds).toNat
decreasing_by
  have := next?_bounds _h
  omega

/-- The next event after the instant. -/
def nextIn? (schedule : Schedule) (zone : Zone) (instant : DateTime) :
    Except Overflow (Option ZonedTime) := do
  let current := zone.zoned instant
  let shown ← current.shownInSpan
  match schedule.nextShownAfter? zone instant shown with
  | none => .ok none
  | some next =>
      if next.offset = current.offset then
        .ok (some next)
      else
        let back ← (ZonedTime.mk instant next.offset).shownInSpan
        match schedule.nextShownAfter? zone instant back with
        | some shifted =>
            .ok (some (if shifted.instant < next.instant then shifted else next))
        | none => .ok (some next)

/-- Clocks in the zone show, at the instant, the minute of an event. -/
def isEventIn (schedule : Schedule) (zone : Zone) (instant : DateTime) : Except Overflow Bool :=
  (zone.zoned instant).shownInSpan.map schedule.isEvent

end Schedule

/-! ### Streams of events -/

/-- The events of a schedule in a zone, from a point on.  The stream has a schedule
    of its own and knows the event that comes next. -/
structure EventStream where
  schedule : Schedule
  zone : Zone
  next : Option ZonedTime
deriving Repr

namespace EventStream

/-- The events after the instant. -/
def startingAfter (schedule : Schedule) (zone : Zone) (instant : DateTime) :
    Except Overflow EventStream :=
  (schedule.nextIn? zone instant).map fun next => ⟨schedule, zone, next⟩

/-- The next event, and the stream of those that come after it, which has to find the
    event after that. -/
def pull? (stream : EventStream) : Except Overflow (Option (ZonedTime × EventStream)) :=
  match stream.next with
  | none => .ok none
  | some event =>
      (startingAfter stream.schedule stream.zone event.instant).map fun rest =>
        some (event, rest)

/-- The next `count` events, or all of them if there are fewer, and the stream of
    those that come after them. -/
def take (stream : EventStream) : Nat → Except Overflow (List ZonedTime × EventStream)
  | 0 => .ok ([], stream)
  | count + 1 => do
      match ← stream.pull? with
      | none => .ok ([], stream)
      | some (event, rest) =>
          let (events, rest) ← rest.take count
          .ok (event :: events, rest)

end EventStream

end CronSchedule
