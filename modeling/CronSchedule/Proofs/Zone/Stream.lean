import CronSchedule.Proofs.Zone.NextEvent

/-!
# Runs of a stream

`Schedule.EventRun` is the whole run of a stream: every event is the next one after the
event before, and after the last there is none.  There is at most one run from an instant,
and there is one if no search on the way starts beyond the ends of the calendar
(`Schedule.Searchable`), since events are before the horizon and every event is later than
the one before.  What is taken from a stream is the start of its run, and if every step
finds the first event then the run lists all events, each once and in their order.
-/

namespace CronSchedule

/-- All offsets of a zone are at least this one. -/
def Zone.leastOffset (zone : Zone) : Int :=
  zone.offsets.foldl min zone.base

theorem Zone.leastOffset_le (zone : Zone) (instant : DateTime) :
    zone.leastOffset ≤ zone.offsetAt instant := by
  have hfold : ∀ (offsets : List Int) (least : Int),
      offsets.foldl min least ≤ least ∧ ∀ offset ∈ offsets, offsets.foldl min least ≤ offset := by
    intro offsets
    induction offsets with
    | nil => exact fun least => ⟨Int.le_refl _, fun offset hmem => absurd hmem List.not_mem_nil⟩
    | cons offset offsets ih =>
        intro least
        obtain ⟨hleast, hall⟩ := ih (min least offset)
        refine ⟨Int.le_trans hleast (Int.min_le_left _ _), fun other hmem => ?_⟩
        rcases List.mem_cons.mp hmem with rfl | hmem
        · exact Int.le_trans hleast (Int.min_le_right _ _)
        · exact hall other hmem
  exact (hfold zone.offsets zone.base).2 _ (zone.offsetAt_mem_offsets instant)

namespace EventStream

variable {stream rest left : EventStream} {event : ZonedTime} {events : List ZonedTime}

/-- A stream at its end stays there. -/
theorem take_of_pull?_eq_none (h : stream.pull? = .ok none) (count : Nat) :
    stream.take count = .ok ([], stream) := by
  cases count with
  | zero => rfl
  | succ count => rw [take, h]; rfl

theorem take_succ_of_pull?_eq_some (h : stream.pull? = .ok (some (event, rest))) (count : Nat) :
    stream.take (count + 1) =
      (rest.take count).map fun taken => (event :: taken.1, taken.2) := by
  rw [take, h]
  dsimp only [bind, Except.bind]
  cases rest.take count <;> rfl

end EventStream

namespace Schedule

variable {schedule : Schedule} {zone : Zone} {instant : DateTime} {times : List ZonedTime}

theorem FiresIn.before_horizon {t : DateTime} (h : schedule.FiresIn zone t) :
    t.seconds < horizon.seconds - zone.leastOffset := by
  have hshown : (zone.localTime t).seconds < horizon.seconds :=
    DateTime.year_le_lastYear_iff.mp h.2.1
  have hoffset := zone.leastOffset_le t
  rw [Zone.localTime_eq] at hshown
  dsimp only [DateTime.addSeconds] at hshown
  omega

/-- Events are at whole seconds, so an event that is later is so by a second. -/
theorem FiresIn.seconds_lt {t : DateTime} (h : schedule.FiresIn zone t) (hafter : instant < t) :
    instant.seconds < t.seconds := by
  have hwhole : t.nano.val = 0 := h.1
  rw [DateTime.lt_def, Fin.lt_def] at hafter
  omega

/-! ### The whole run -/

/-- The events after the instant, each found as the next one after that before it, and no
    event is found after the last. -/
inductive EventRun (schedule : Schedule) (zone : Zone) : DateTime → List ZonedTime → Prop where
  | ended {instant : DateTime} (h : schedule.nextIn? zone instant = .ok none) :
      EventRun schedule zone instant []
  | event {instant : DateTime} {time : ZonedTime} {times : List ZonedTime}
      (h : schedule.nextIn? zone instant = .ok (some time))
      (rest : EventRun schedule zone time.instant times) :
      EventRun schedule zone instant (time :: times)

/-- From the instant and from every event after it searches start from times of the
    calendar. -/
structure Searchable (schedule : Schedule) (zone : Zone) (instant : DateTime) : Prop where
  start : schedule.StartsInSpan zone instant
  later : ∀ t, instant < t → schedule.FiresIn zone t → schedule.StartsInSpan zone t

theorem Searchable.from_event {t : DateTime} (h : schedule.Searchable zone instant)
    (hafter : instant < t) (hfires : schedule.FiresIn zone t) : schedule.Searchable zone t :=
  ⟨h.later t hafter hfires, fun s hs => h.later s (Std.lt_trans hafter hs)⟩

/-- What leads not beyond the start of the calendar from the instant does so even less from a
    later one, and events are before the end. -/
theorem searchable_of_bounds
    (hleast : ∀ t, instant ≤ t → DateTime.earliest ≤ instant.addSeconds (zone.offsetAt t))
    (hshown : zone.localTime instant < DateTime.beyondLatest) :
    schedule.Searchable zone instant := by
  refine ⟨startsInSpan_of_bounds hleast hshown, fun t hafter hfires => ?_⟩
  apply startsInSpan_of_bounds
  · intro s hs
    have hle := Std.le_of_lt hafter
    exact Std.le_trans (hleast s (Std.le_trans hle hs)) (DateTime.addSeconds_le_iff.mpr hle)
  · exact DateTime.lt_beyondLatest hfires.2.1

theorem searchable_of_keepsInSpan (h : zone.KeepsInSpan instant) :
    schedule.Searchable zone instant :=
  searchable_of_bounds (fun t _ => (h.shifted t).1) (h.shifted instant).2

/-- There are finitely many seconds up to the horizon, so every run ends. -/
theorem exists_eventRun (hwf : schedule.WellFormed) (zone : Zone) (instant : DateTime)
    (h : schedule.Searchable zone instant) : ∃ times, schedule.EventRun zone instant times := by
  obtain ⟨next, hnext⟩ := (exists_nextIn?_iff hwf).mpr h.start
  cases next with
  | none => exact ⟨[], .ended hnext⟩
  | some time =>
      obtain ⟨-, hmet, -⟩ := nextIn?_eq_some hwf hnext
      have hlater := hmet.fires.seconds_lt hmet.after
      have hhorizon := hmet.fires.before_horizon
      obtain ⟨times, hrest⟩ := exists_eventRun hwf zone time.instant
        (h.from_event hmet.after hmet.fires)
      exact ⟨time :: times, .event hnext hrest⟩
termination_by (horizon.seconds - zone.leastOffset - instant.seconds).toNat
decreasing_by omega

namespace EventRun

theorem unique {times' : List ZonedTime} (h : schedule.EventRun zone instant times)
    (h' : schedule.EventRun zone instant times') : times = times' := by
  induction h generalizing times' with
  | ended hnone =>
      cases h' with
      | ended => rfl
      | event hnext => rw [hnone] at hnext; cases hnext
  | event hnext rest ih =>
      cases h' with
      | ended hnone => rw [hnone] at hnext; cases hnext
      | event hnext' rest' =>
          rw [hnext] at hnext'
          cases hnext'
          rw [ih rest']

theorem next_eq_head? (h : schedule.EventRun zone instant times) :
    schedule.nextIn? zone instant = .ok times.head? := by
  cases h with
  | ended hnone => exact hnone
  | event hnext rest => exact hnext

/-- A stream knows the first event of its run. -/
theorem startingAfter_eq (h : schedule.EventRun zone instant times) :
    EventStream.startingAfter schedule zone instant = .ok ⟨schedule, zone, times.head?⟩ := by
  rw [EventStream.startingAfter, h.next_eq_head?]
  rfl

/-- A pull gives the first event of the run and leaves the rest of it. -/
theorem pull?_eq {time : ZonedTime} (rest : schedule.EventRun zone time.instant times) :
    EventStream.pull? ⟨schedule, zone, some time⟩ =
      .ok (some (time, ⟨schedule, zone, times.head?⟩)) := by
  unfold EventStream.pull?
  dsimp only
  rw [rest.startingAfter_eq]
  rfl

/-- What is left of a run is a run from some later instant. -/
theorem exists_drop (h : schedule.EventRun zone instant times) (count : Nat) :
    ∃ later, schedule.EventRun zone later (times.drop count) := by
  induction h generalizing count with
  | @ended instant hnone => exact ⟨instant, by rw [List.drop_nil]; exact .ended hnone⟩
  | @event instant time times hnext rest ih =>
      cases count with
      | zero => exact ⟨instant, .event hnext rest⟩
      | succ count => exact ih count

/-- What is taken from a stream is the start of its run, and what is left is a stream with the
    rest of the run. -/
theorem take_eq (h : schedule.EventRun zone instant times) (count : Nat) :
    EventStream.take ⟨schedule, zone, times.head?⟩ count =
      .ok (times.take count, ⟨schedule, zone, (times.drop count).head?⟩) := by
  induction h generalizing count with
  | ended =>
      rw [List.take_nil, List.drop_nil]
      exact EventStream.take_of_pull?_eq_none rfl count
  | @event instant time times hnext rest ih =>
      cases count with
      | zero => rfl
      | succ count =>
          rw [List.head?_cons, EventStream.take_succ_of_pull?_eq_some rest.pull?_eq, ih count,
            List.take_succ_cons, List.drop_succ_cons]
          rfl

/-- Whatever number of events is taken, they are the first ones of the run, and the stream is
    then at its end if there are no more. -/
theorem exists_take (h : schedule.EventRun zone instant times) :
    ∃ stream, EventStream.startingAfter schedule zone instant = .ok stream ∧
      ∀ count, ∃ rest, stream.take count = .ok (times.take count, rest) ∧
        (times.length ≤ count → rest.next = none) := by
  refine ⟨_, h.startingAfter_eq, fun count => ⟨_, h.take_eq count, fun hcount => ?_⟩⟩
  rw [List.drop_eq_nil_of_le hcount]
  rfl

theorem after (hwf : schedule.WellFormed) (h : schedule.EventRun zone instant times) :
    ∀ time ∈ times, instant < time.instant := by
  induction h with
  | ended => exact fun time hmem => absurd hmem List.not_mem_nil
  | event hnext rest ih =>
      obtain ⟨-, hmet, -⟩ := nextIn?_eq_some hwf hnext
      intro time hmem
      rcases List.mem_cons.mp hmem with rfl | hmem
      · exact hmet.after
      · exact Std.lt_trans hmet.after (ih time hmem)

theorem ascending (hwf : schedule.WellFormed) (h : schedule.EventRun zone instant times) :
    times.Pairwise fun early late => early.instant < late.instant := by
  induction h with
  | ended => exact .nil
  | event hnext rest ih => exact .cons (rest.after hwf) ih

/-- If every step from the start on finds the first event then the run has all events. -/
theorem mem_iff {time : ZonedTime} (hwf : schedule.WellFormed)
    (h : schedule.EventRun zone instant times)
    (hfirst : ∀ later, instant ≤ later → schedule.FindsFirst zone later) :
    time ∈ times ↔
      instant < time.instant ∧ schedule.FiresIn zone time.instant ∧
        time = zone.zoned time.instant := by
  induction h with
  | @ended instant hnone =>
      constructor
      · intro hmem
        cases hmem
      · rintro ⟨hafter, hfires, -⟩
        have hmissing := (hfirst instant (Std.le_refl _)).missing hnone
        exact absurd hafter (hmissing time.instant hfires)
  | @event instant next times hnext rest ih =>
      obtain ⟨hnext_eq, hmet, -⟩ := nextIn?_eq_some hwf hnext
      have hfound := (hfirst instant (Std.le_refl _)).found next hnext
      have hrest := ih fun later hle =>
        hfirst later (Std.le_trans (Std.le_of_lt hmet.after) hle)
      rw [List.mem_cons, hrest]
      constructor
      · rintro (rfl | ⟨hafter, hfires, heq⟩)
        · exact ⟨hmet.after, hmet.fires, hnext_eq⟩
        · exact ⟨Std.lt_trans hmet.after hafter, hfires, heq⟩
      · rintro ⟨hafter, hfires, heq⟩
        -- the found event is the first, so the time is that event or comes after it
        have hle := hfound.least time.instant hfires hafter
        rcases Std.le_iff_lt_or_eq.mp hle with hlt | hsame
        · exact .inr ⟨hlt, hfires, heq⟩
        · left
          rw [heq, ← hsame]
          exact hnext_eq.symm

end EventRun

end Schedule

end CronSchedule
