import CronSchedule.Events

/-!
# Sessions

A session works on one schedule at a time.  It can lay a copy aside and come back
to it, and it can run through the events of the schedule in a stream, which goes
on undisturbed when the schedule itself is changed.  A command that is refused
leaves the session as it was.  Where a stream would have to look for events beyond the
ends of the calendar, the session breaks off.
-/

namespace CronSchedule

/-- The state of a session. -/
structure Session where
  current : Option Schedule
  saved : Option Schedule
  stream : Option EventStream
deriving Repr

/-- What a session can be asked to do. -/
inductive Command where
  /-- Make a new schedule the current one. -/
  | create (text : String) (february : February)
  /-- Give the current schedule a new text. -/
  | reparse (text : String)
  /-- The first event after a local time. -/
  | next (t : DateTime)
  /-- Whether a local time is that of an event. -/
  | isEvent (t : DateTime)
  /-- The text of the current schedule. -/
  | text
  /-- Lay a copy of the current schedule aside. -/
  | save
  /-- Whether the current schedule equals the copy. -/
  | equalsSaved
  /-- Make the copy the current schedule. -/
  | restore
  /-- Begin a stream of the events after an instant. -/
  | begin (zone : Zone) (instant : DateTime)
  /-- The next events of the stream. -/
  | pull (count : Nat)
deriving Repr

/-- What a session answers. -/
inductive Reply where
  | done
  | event (event : Option DateTime)
  | truth (value : Bool)
  | text (text : String)
  | events (events : List ZonedTime)
deriving Repr

/-- Why a command is refused. -/
inductive Refusal where
  /-- There is no current schedule, or no copy of one to restore. -/
  | noSchedule
  /-- There is no stream to pull from. -/
  | noStream
  /-- The text of the schedule is rejected. -/
  | rejected (error : ParseError)
  /-- A stream cannot look for its next event. -/
  | overflow (overflow : Overflow)
deriving DecidableEq, Repr

namespace Session

/-- A session at its beginning. -/
def empty : Session := ⟨none, none, none⟩

/-- The current schedule, which most commands need. -/
def schedule (session : Session) : Except Refusal Schedule :=
  match session.current with
  | some schedule => .ok schedule
  | none => .error .noSchedule

/-- Carry out a command. -/
def perform (session : Session) : Command → Except Refusal (Reply × Session)
  | .create text february => do
      let created ← (Schedule.parse text february).mapError .rejected
      .ok (.done, { session with current := some created })
  | .reparse text => do
      let schedule ← session.schedule
      let changed ← (schedule.reparse text).mapError .rejected
      .ok (.done, { session with current := some changed })
  | .next t => do
      let schedule ← session.schedule
      .ok (.event (schedule.next? t), session)
  | .isEvent t => do
      let schedule ← session.schedule
      .ok (.truth (schedule.isEvent t), session)
  | .text => do
      let schedule ← session.schedule
      .ok (.text schedule.text, session)
  | .save => do
      let schedule ← session.schedule
      .ok (.done, { session with saved := some schedule })
  | .equalsSaved => do
      let schedule ← session.schedule
      .ok (.truth (session.saved == some schedule), session)
  | .restore => do
      let _ ← session.schedule
      match session.saved with
      | some saved => .ok (.done, { session with current := some saved })
      | none => .error .noSchedule
  | .begin zone instant => do
      let schedule ← session.schedule
      let stream ← (EventStream.startingAfter schedule zone instant).mapError .overflow
      .ok (.done, { session with stream := some stream })
  | .pull count => do
      let _ ← session.schedule
      match session.stream with
      | some stream =>
          let (events, rest) ← (stream.take count).mapError .overflow
          .ok (.events events, { session with stream := some rest })
      | none => .error .noStream

/-- Carry out commands one after the other.  There is an answer for each of them,
    with the session after it, but after an overflow no more are carried out. -/
def run (session : Session) : List Command → List (Except Refusal Reply × Session)
  | [] => []
  | command :: rest =>
      match session.perform command with
      | .ok (reply, after) => (.ok reply, after) :: after.run rest
      | .error (.overflow overflow) => [(.error (.overflow overflow), session)]
      | .error refusal => (.error refusal, session) :: session.run rest

end Session

end CronSchedule
