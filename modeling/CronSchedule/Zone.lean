import CronSchedule.Calendar.DateTime

/-!
# Time zones

A zone says by how many seconds the clocks are ahead of universal time: a base
offset, and the instants from which other offsets are in force.  An instant is
given by the point that clocks in universal time show.

Every instant has one local time, but a local time may be shown at no instant at
all, where clocks were put forward, or at several, where they were put back.  Close to
its ends the calendar need not have the local time of an instant that it has.
-/

namespace CronSchedule

/-- From the instant on, clocks are ahead by the offset. -/
structure Transition where
  instant : DateTime
  offset : Int
deriving DecidableEq, Repr

/-- A zone. -/
structure Zone where
  /-- The offset before the first transition. -/
  base : Int
  transitions : List Transition
  ascending : transitions.Pairwise fun early late => early.instant ≤ late.instant
deriving Repr

/-- An instant, together with the offset by which it is shown. -/
structure ZonedTime where
  instant : DateTime
  offset : Int
deriving DecidableEq, Repr

/-- What clocks show at the instant. -/
def ZonedTime.shown (time : ZonedTime) : DateTime :=
  time.instant.addSeconds time.offset

/-- Clocks would show what the calendar does not have. -/
inductive Overflow where
  | outOfSpan
deriving DecidableEq, Repr

/-- What clocks show at the instant, which must be in the span of the calendar. -/
def ZonedTime.shownInSpan (time : ZonedTime) : Except Overflow DateTime :=
  if time.shown.InSpan then .ok time.shown else .error .outOfSpan

theorem ZonedTime.shownInSpan_of_inSpan {time : ZonedTime} (h : time.shown.InSpan) :
    time.shownInSpan = .ok time.shown :=
  if_pos h

theorem ZonedTime.shownInSpan_of_not_inSpan {time : ZonedTime} (h : ¬ time.shown.InSpan) :
    time.shownInSpan = .error .outOfSpan :=
  if_neg h

/-- The instants at which a local time is shown. -/
inductive LocalReading where
  /-- It is skipped. -/
  | gap
  /-- It is shown once. -/
  | unique (instant : ZonedTime)
  /-- It is shown more than once, at these instants for the first and the last
      time. -/
  | repeated (first last : ZonedTime)
deriving DecidableEq, Repr

namespace Zone

/-- A zone without transitions. -/
def fixed (offset : Int) : Zone :=
  ⟨offset, [], .nil⟩

/-- The offset in force at an instant: that of the last transition up to then. -/
def offsetAt (zone : Zone) (instant : DateTime) : Int :=
  zone.transitions.foldl (fun offset transition =>
    if transition.instant ≤ instant then transition.offset else offset) zone.base

/-- The instant with the offset in force. -/
def zoned (zone : Zone) (instant : DateTime) : ZonedTime :=
  ⟨instant, zone.offsetAt instant⟩

/-- What clocks in the zone show at the instant. -/
def localTime (zone : Zone) (instant : DateTime) : DateTime :=
  (zone.zoned instant).shown

/-- The offsets of the zone, each once. -/
def offsets (zone : Zone) : List Int :=
  (zone.base :: zone.transitions.map (·.offset)).eraseDups

/-- The instants at which clocks in the zone show `shown`.  Each of them is found by
    an offset that is in force at the instant to which it leads. -/
def instantsOf (zone : Zone) (shown : DateTime) : List ZonedTime :=
  (zone.offsets.map fun offset => ⟨shown.addSeconds (-offset), offset⟩).filter
    fun time => zone.offsetAt time.instant = time.offset

/-- The offset in force is one of the offsets of the zone. -/
theorem offsetAt_mem_offsets (zone : Zone) (instant : DateTime) :
    zone.offsetAt instant ∈ zone.offsets := by
  have hfold : ∀ (transitions : List Transition) (offset : Int),
      transitions.foldl (fun offset transition =>
        if transition.instant ≤ instant then transition.offset else offset) offset ∈
        offset :: transitions.map (·.offset) := by
    intro transitions
    induction transitions with
    | nil => simp
    | cons transition rest ih =>
        intro offset
        simp only [List.foldl_cons, List.map_cons]
        split
        · exact List.mem_cons_of_mem _ (ih transition.offset)
        · rcases List.mem_cons.mp (ih offset) with h | h
          · rw [h]
            exact List.mem_cons_self
          · exact List.mem_cons_of_mem _ (List.mem_cons_of_mem _ h)
  exact List.mem_eraseDups.mpr (hfold zone.transitions zone.base)

/-- The instants of a local time are those at which the clocks show it. -/
theorem mem_instantsOf {zone : Zone} {shown : DateTime} {time : ZonedTime} :
    time ∈ zone.instantsOf shown ↔
      time.shown = shown ∧ time.offset = zone.offsetAt time.instant := by
  simp only [instantsOf, List.mem_filter, List.mem_map, decide_eq_true_eq]
  constructor
  · rintro ⟨⟨offset, -, rfl⟩, hforce⟩
    refine ⟨?_, hforce.symm⟩
    simp only [ZonedTime.shown, DateTime.addSeconds, DateTime.ext_iff, and_true]
    omega
  · rintro ⟨rfl, hforce⟩
    refine ⟨⟨time.offset, ?_, ?_⟩, hforce.symm⟩
    · rw [hforce]
      exact zone.offsetAt_mem_offsets time.instant
    · cases time
      simp only [ZonedTime.shown, DateTime.addSeconds, ZonedTime.mk.injEq, DateTime.ext_iff,
        and_true]
      omega

/-- The earlier of two times. -/
def earlier (a b : ZonedTime) : ZonedTime :=
  if a.instant ≤ b.instant then a else b

/-- The later of two times. -/
def later (a b : ZonedTime) : ZonedTime :=
  if a.instant ≤ b.instant then b else a

/-- When clocks in the zone show `shown`. -/
def reading (zone : Zone) (shown : DateTime) : LocalReading :=
  match zone.instantsOf shown with
  | [] => .gap
  | [time] => .unique time
  | time :: times => .repeated (times.foldl earlier time) (times.foldl later time)

end Zone

/-- The first instant of a reading that comes after `instant`. -/
def LocalReading.firstAfter? (reading : LocalReading) (instant : DateTime) :
    Option ZonedTime :=
  match reading with
  | .gap => none
  | .unique time => if instant < time.instant then some time else none
  | .repeated first last =>
      if instant < first.instant then some first
      else if instant < last.instant then some last
      else none

end CronSchedule
