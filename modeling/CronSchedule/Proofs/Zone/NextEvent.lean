import CronSchedule.Events
import CronSchedule.Proofs.Search.First
import CronSchedule.Proofs.Zone.Reading

/-!
# The next event in a zone

In a zone an event is an instant at which clocks show a local time of the schedule.
The search goes through the local times of the schedule in their own order and reads
each of them back, so what it ends at is the first event in the order of *local times*:
`Schedule.IsMetAfter` says so without a search, and `Schedule.nextShownAfter?` is shown
to do just that.

Clocks that were put back show earlier local times at later instants.  The search that
starts from the local time of `instant` does not see events that show such a time, and
a second search, from a local time further back, is made only if the first one found
something and the offset there differs from the present one.  The last section says
exactly what follows from this: when an event is found at all, and when the one found
is the earliest.

There is an answer only if both searches start from local times of the calendar, which
`Schedule.StartsInSpan` says.
-/

namespace CronSchedule

/-! ### Zones in which clocks are put back -/

/-- Six o'clock in universal time on 3 November 2024. -/
def fallBack2024 : DateTime :=
  (DateTime.startOfDay (Date.toDayNumber ⟨2024, 11, 3⟩)).addSeconds 21600

/-- On 3 November 2024 clocks go back from four to five hours behind universal time. -/
def easternIn2024 : Zone where
  base := -14400
  transitions := [⟨fallBack2024, -18000⟩]
  ascending := by decide

def newYear2024 : DateTime :=
  DateTime.startOfDay (Date.toDayNumber ⟨2024, 1, 1⟩)

/-- Clocks go back by one hour at one o'clock and forward again at noon. -/
def backForAMorning : Zone where
  base := 0
  transitions := [⟨newYear2024.addSeconds 3600, -3600⟩, ⟨newYear2024.addSeconds 43200, 0⟩]
  ascending := by decide

/-- Clocks go back by one hour at one o'clock in universal time. -/
def backAtNewYear : Zone where
  base := 0
  transitions := [⟨newYear2024.addSeconds 3600, -3600⟩]
  ascending := by decide

/-- Half past midnight on the first day of 2025, and no other event. -/
def newYear2025 : Schedule :=
  ⟨"30 0 1 1 ? 2025", .leapAware, [⟨.items (.ofList [.value 30]), .items (.ofList [.value 0]),
    .items (.ofList [.value 1]), .items (.ofList [.value 1]), .omit,
    .items (.ofList [.value 2025])⟩]⟩

theorem parse_newYear2025 : Schedule.parse "30 0 1 1 ? 2025" .leapAware = .ok newYear2025 := by
  decide +kernel

/-- The instant stays in the span of the calendar when it is moved ahead by an offset of the
    zone and back by another.  Universal time counts as one of the offsets. -/
def Zone.KeepsInSpan (zone : Zone) (instant : DateTime) : Prop :=
  ∀ ahead ∈ 0 :: zone.offsets, ∀ back ∈ 0 :: zone.offsets,
    (instant.addSeconds (ahead - back)).InSpan

instance (zone : Zone) (instant : DateTime) : Decidable (zone.KeepsInSpan instant) :=
  inferInstanceAs (Decidable (∀ ahead ∈ 0 :: zone.offsets, ∀ back ∈ 0 :: zone.offsets,
    (instant.addSeconds (ahead - back)).InSpan))

theorem Zone.KeepsInSpan.shifted {zone : Zone} {instant : DateTime} (h : zone.KeepsInSpan instant)
    (t : DateTime) : (instant.addSeconds (zone.offsetAt t)).InSpan := by
  have hspan := h _ (List.mem_cons_of_mem _ (zone.offsetAt_mem_offsets t)) 0 List.mem_cons_self
  rwa [Int.sub_zero] at hspan

namespace Schedule

/-- The schedule has an event in the zone at the instant. -/
def FiresIn (schedule : Schedule) (zone : Zone) (instant : DateTime) : Prop :=
  schedule.Fires (zone.localTime instant)

instance (schedule : Schedule) (zone : Zone) (instant : DateTime) :
    Decidable (schedule.FiresIn zone instant) :=
  inferInstanceAs (Decidable (schedule.Fires (zone.localTime instant)))

/-- Of the events after `instant` that clocks show later than `shown`, none shows an
    earlier local time than the one at `t`, and `t` is where that local time is read
    back. -/
structure IsMetAfter (schedule : Schedule) (zone : Zone) (instant shown t : DateTime) : Prop where
  fires : schedule.FiresIn zone t
  ahead : shown < zone.localTime t
  leads : ∀ s, instant < s → schedule.FiresIn zone s → shown < zone.localTime s →
    zone.localTime t ≤ zone.localTime s
  reading : zone.IsReadingAfter instant t

variable {schedule : Schedule} {zone : Zone} {instant shown : DateTime}

theorem IsMetAfter.after {t : DateTime} (h : schedule.IsMetAfter zone instant shown t) :
    instant < t :=
  h.reading.1

theorem IsMetAfter.unique {a b : DateTime} (ha : schedule.IsMetAfter zone instant shown a)
    (hb : schedule.IsMetAfter zone instant shown b) : a = b :=
  ha.reading.unique hb.reading
    (Std.le_antisymm (ha.leads b hb.after hb.fires hb.ahead) (hb.leads a ha.after ha.fires ha.ahead))

/-- The event is met by the search that starts from the local time of `instant`, or by the
    one that starts from the local time by the offset at what the first ends at, which is
    made if that offset is a new one. -/
def Meets (schedule : Schedule) (zone : Zone) (instant t : DateTime) : Prop :=
  schedule.IsMetAfter zone instant (zone.localTime instant) t ∨
    ∃ hit, schedule.IsMetAfter zone instant (zone.localTime instant) hit ∧
      zone.offsetAt hit ≠ zone.offsetAt instant ∧
        schedule.IsMetAfter zone instant (instant.addSeconds (zone.offsetAt hit)) t

theorem Meets.isMetAfter {t : DateTime} (h : schedule.Meets zone instant t) :
    ∃ shown, schedule.IsMetAfter zone instant shown t := by
  rcases h with h | ⟨_, _, _, h⟩
  · exact ⟨_, h⟩
  · exact ⟨_, h⟩

theorem Meets.fires {t : DateTime} (h : schedule.Meets zone instant t) :
    schedule.FiresIn zone t := by
  obtain ⟨_, hmet⟩ := h.isMetAfter
  exact hmet.fires

theorem Meets.after {t : DateTime} (h : schedule.Meets zone instant t) : instant < t := by
  obtain ⟨_, hmet⟩ := h.isMetAfter
  exact hmet.after

/-! ### The search in the order of local times -/

/-- What the search ends at.  The induction follows its steps: a local time of the schedule
    that is not shown any more is passed, and no event shows it. -/
theorem isMetAfter_of_nextShownAfter? {time : ZonedTime} (hwf : schedule.WellFormed)
    (h : schedule.nextShownAfter? zone instant shown = some time) :
    time = zone.zoned time.instant ∧ schedule.IsMetAfter zone instant shown time.instant := by
  fun_induction schedule.nextShownAfter? zone instant shown with
  | case1 => cases h
  | case2 shown event hnext found hread =>
      cases h
      obtain ⟨hshown, heq, hreading⟩ := Zone.firstAfter?_reading_eq_some_iff.mp hread
      have hfirst := next?_isFirst hwf hnext
      refine ⟨heq, ⟨?_, ?_, fun s _ hfires hahead => ?_, hreading⟩⟩
      · rw [FiresIn, hshown]
        exact hfirst.holds
      · rw [hshown]
        exact hfirst.after
      · rw [hshown]
        exact hfirst.least _ hfires hahead
  | case3 shown event hnext hread ih =>
      obtain ⟨heq, hmet⟩ := ih h
      have hfirst := next?_isFirst hwf hnext
      refine ⟨heq, ⟨hmet.fires, Std.lt_trans hfirst.after hmet.ahead, ?_, hmet.reading⟩⟩
      intro s hafter hfires hahead
      apply hmet.leads s hafter hfires
      have hle := hfirst.least _ hfires hahead
      rcases Std.le_iff_lt_or_eq.mp hle with hlt | hsame
      · exact hlt
      · exact absurd hafter (Zone.firstAfter?_reading_eq_none_iff.mp hread s hsame.symm)

theorem nextShownAfter?_isSome {t : DateTime} (hwf : schedule.WellFormed) (hafter : instant < t)
    (hfires : schedule.FiresIn zone t) (hahead : shown < zone.localTime t) :
    ∃ time, schedule.nextShownAfter? zone instant shown = some time := by
  fun_induction schedule.nextShownAfter? zone instant shown with
  | case1 shown hnext =>
      exact absurd hahead ((next?_eq_none_iff hwf).mp hnext _ hfires)
  | case2 shown event hnext found hread => exact ⟨found, rfl⟩
  | case3 shown event hnext hread ih =>
      apply ih
      have hle := (next?_isFirst hwf hnext).least _ hfires hahead
      rcases Std.le_iff_lt_or_eq.mp hle with hlt | hsame
      · exact hlt
      · exact absurd hafter (Zone.firstAfter?_reading_eq_none_iff.mp hread t hsame.symm)

theorem nextShownAfter?_eq_some_iff {t : DateTime} (hwf : schedule.WellFormed) :
    schedule.nextShownAfter? zone instant shown = some (zone.zoned t) ↔
      schedule.IsMetAfter zone instant shown t := by
  constructor
  · intro h
    exact (isMetAfter_of_nextShownAfter? hwf h).2
  · intro hmet
    obtain ⟨time, htime⟩ := nextShownAfter?_isSome hwf hmet.after hmet.fires hmet.ahead
    obtain ⟨heq, hmet'⟩ := isMetAfter_of_nextShownAfter? hwf htime
    rw [htime, heq, hmet'.unique hmet]

theorem nextShownAfter?_eq_none_iff (hwf : schedule.WellFormed) :
    schedule.nextShownAfter? zone instant shown = none ↔
      ∀ s, instant < s → schedule.FiresIn zone s → ¬ shown < zone.localTime s := by
  constructor
  · intro h s hafter hfires hahead
    obtain ⟨time, htime⟩ := nextShownAfter?_isSome hwf hafter hfires hahead
    rw [h] at htime
    cases htime
  · intro h
    cases hfound : schedule.nextShownAfter? zone instant shown with
    | none => rfl
    | some time =>
        have hmet := (isMetAfter_of_nextShownAfter? hwf hfound).2
        exact absurd hmet.ahead (h _ hmet.after hmet.fires)

/-! ### Where the searches start -/

/-- Clocks show a time of the calendar, and so they would by the offset at what the first
    search ends at, if that offset is a new one. -/
structure StartsInSpan (schedule : Schedule) (zone : Zone) (instant : DateTime) : Prop where
  shown : (zone.localTime instant).InSpan
  shifted : ∀ hit, schedule.IsMetAfter zone instant (zone.localTime instant) hit →
    zone.offsetAt hit ≠ zone.offsetAt instant → (instant.addSeconds (zone.offsetAt hit)).InSpan

/-- It is enough that no offset to come leads back beyond the calendar, and that clocks are
    not past its end: an event is before the horizon, and the present instant is still
    earlier by the offset there. -/
theorem startsInSpan_of_bounds
    (hleast : ∀ t, instant ≤ t → DateTime.earliest ≤ instant.addSeconds (zone.offsetAt t))
    (hshown : zone.localTime instant < DateTime.beyondLatest) :
    schedule.StartsInSpan zone instant := by
  refine ⟨⟨hleast instant (Std.le_refl _), hshown⟩, fun hit hhit _ => ?_⟩
  have hlt : instant.addSeconds (zone.offsetAt hit) < zone.localTime hit :=
    DateTime.addSeconds_lt_iff.mpr hhit.after
  exact ⟨hleast hit (Std.le_of_lt hhit.after),
    Std.lt_trans hlt (DateTime.lt_beyondLatest hhit.fires.2.1)⟩

theorem nextIn?_of_shown_out (schedule : Schedule) (h : ¬ (zone.localTime instant).InSpan) :
    schedule.nextIn? zone instant = .error .outOfSpan := by
  unfold nextIn?
  dsimp only
  rw [ZonedTime.shownInSpan_of_not_inSpan h]
  rfl

/-- How the search goes on from what the first search ends at. -/
theorem nextIn?_of_hit {hit : DateTime} (hwf : schedule.WellFormed)
    (hshown : (zone.localTime instant).InSpan)
    (hhit : schedule.IsMetAfter zone instant (zone.localTime instant) hit) :
    schedule.nextIn? zone instant =
      if zone.offsetAt hit = zone.offsetAt instant then .ok (some (zone.zoned hit))
      else (do
        let back ← (ZonedTime.mk instant (zone.offsetAt hit)).shownInSpan
        match schedule.nextShownAfter? zone instant back with
        | some shifted => .ok (some (if shifted.instant < hit then shifted else zone.zoned hit))
        | none => .ok (some (zone.zoned hit))) := by
  have hfirst : schedule.nextShownAfter? zone instant (zone.zoned instant).shown =
      some (zone.zoned hit) := (nextShownAfter?_eq_some_iff hwf).mpr hhit
  unfold nextIn?
  dsimp only
  rw [ZonedTime.shownInSpan_of_inSpan hshown]
  dsimp only [bind, Except.bind]
  rw [hfirst]
  rfl

/-- What has been answered was searched from times of the calendar. -/
theorem startsInSpan_of_nextIn? {next : Option ZonedTime} (hwf : schedule.WellFormed)
    (h : schedule.nextIn? zone instant = .ok next) : schedule.StartsInSpan zone instant := by
  have hshown : (zone.localTime instant).InSpan := by
    by_contra hout
    rw [nextIn?_of_shown_out schedule hout] at h
    cases h
  refine ⟨hshown, fun hit hhit hoffset => ?_⟩
  by_contra hout
  have hback : (ZonedTime.mk instant (zone.offsetAt hit)).shownInSpan = .error .outOfSpan :=
    ZonedTime.shownInSpan_of_not_inSpan hout
  rw [nextIn?_of_hit hwf hshown hhit, if_neg hoffset, hback] at h
  cases h

/-! ### The two searches together -/

/-- If the offset has changed at what the first search ends at then the second search ends
    somewhere, since what the first one found lies ahead of it, and the earlier of the
    two instants is taken. -/
theorem nextIn?_of_new_offset {hit : DateTime} (hwf : schedule.WellFormed)
    (hspan : schedule.StartsInSpan zone instant)
    (hhit : schedule.IsMetAfter zone instant (zone.localTime instant) hit)
    (hoffset : zone.offsetAt hit ≠ zone.offsetAt instant) :
    ∃ shifted, schedule.IsMetAfter zone instant (instant.addSeconds (zone.offsetAt hit)) shifted ∧
      schedule.nextIn? zone instant =
        .ok (some (zone.zoned (if shifted < hit then shifted else hit))) := by
  have hahead : instant.addSeconds (zone.offsetAt hit) < zone.localTime hit :=
    DateTime.addSeconds_lt_iff.mpr hhit.after
  obtain ⟨time, htime⟩ := nextShownAfter?_isSome hwf hhit.after hhit.fires hahead
  obtain ⟨heq, hmet⟩ := isMetAfter_of_nextShownAfter? hwf htime
  have hback : (ZonedTime.mk instant (zone.offsetAt hit)).shownInSpan =
      .ok (instant.addSeconds (zone.offsetAt hit)) :=
    ZonedTime.shownInSpan_of_inSpan (hspan.shifted hit hhit hoffset)
  refine ⟨time.instant, hmet, ?_⟩
  rw [nextIn?_of_hit hwf hspan.shown hhit, if_neg hoffset, hback]
  dsimp only [bind, Except.bind]
  rw [htime]
  dsimp only
  split
  · exact congrArg (Except.ok ∘ some) heq
  · rfl

/-- What the two searches end at: nothing, what the first one met, or the earlier of what they
    both met. -/
theorem nextIn?_cases (hwf : schedule.WellFormed) (hspan : schedule.StartsInSpan zone instant) :
    (schedule.nextIn? zone instant = .ok none ∧
      ∀ s, instant < s → schedule.FiresIn zone s →
        ¬ zone.localTime instant < zone.localTime s) ∨
    ∃ hit, schedule.IsMetAfter zone instant (zone.localTime instant) hit ∧
      (zone.offsetAt hit = zone.offsetAt instant ∧
          schedule.nextIn? zone instant = .ok (some (zone.zoned hit)) ∨
        zone.offsetAt hit ≠ zone.offsetAt instant ∧ ∃ shifted,
          schedule.IsMetAfter zone instant (instant.addSeconds (zone.offsetAt hit)) shifted ∧
            schedule.nextIn? zone instant =
              .ok (some (zone.zoned (if shifted < hit then shifted else hit)))) := by
  cases hfound : schedule.nextShownAfter? zone instant (zone.localTime instant) with
  | none =>
      refine .inl ⟨?_, (nextShownAfter?_eq_none_iff hwf).mp hfound⟩
      unfold nextIn?
      dsimp only
      rw [ZonedTime.shownInSpan_of_inSpan hspan.shown]
      dsimp only [bind, Except.bind]
      rw [Zone.localTime] at hfound
      rw [hfound]
  | some time =>
      obtain ⟨-, hhit⟩ := isMetAfter_of_nextShownAfter? hwf hfound
      refine .inr ⟨time.instant, hhit, ?_⟩
      by_cases hoffset : zone.offsetAt time.instant = zone.offsetAt instant
      · exact .inl ⟨hoffset, (nextIn?_of_hit hwf hspan.shown hhit).trans (if_pos hoffset)⟩
      · exact .inr ⟨hoffset, nextIn?_of_new_offset hwf hspan hhit hoffset⟩

/-- There is an answer exactly if the searches start from times of the calendar. -/
theorem exists_nextIn?_iff (hwf : schedule.WellFormed) :
    (∃ next, schedule.nextIn? zone instant = .ok next) ↔ schedule.StartsInSpan zone instant := by
  refine ⟨fun ⟨_, h⟩ => startsInSpan_of_nextIn? hwf h, fun hspan => ?_⟩
  rcases nextIn?_cases hwf hspan with ⟨hnext, -⟩ | ⟨hit, -, ⟨-, hnext⟩ | ⟨-, shifted, -, hnext⟩⟩
  · exact ⟨_, hnext⟩
  · exact ⟨_, hnext⟩
  · exact ⟨_, hnext⟩

/-- By the offset in force in 2025 the first point of the calendar would be shown as an hour of
    the year before. -/
theorem nextIn?_newYear2025_from_earliest :
    newYear2025.nextIn? backAtNewYear DateTime.earliest = .error .outOfSpan := by
  decide +kernel

/-- Nothing is found if the first search finds nothing: the second is not made then. -/
theorem nextIn?_eq_none_iff (hwf : schedule.WellFormed) {next : Option ZonedTime}
    (h : schedule.nextIn? zone instant = .ok next) :
    next = none ↔
      ∀ s, instant < s → schedule.FiresIn zone s →
        ¬ zone.localTime instant < zone.localTime s := by
  have hmet : ∀ {hit}, schedule.IsMetAfter zone instant (zone.localTime instant) hit →
      ¬ ∀ s, instant < s → schedule.FiresIn zone s → ¬ zone.localTime instant < zone.localTime s :=
    fun hhit hnone => hnone _ hhit.after hhit.fires hhit.ahead
  rcases nextIn?_cases hwf (startsInSpan_of_nextIn? hwf h) with
    ⟨hnext, hnone⟩ | ⟨hit, hhit, ⟨-, hnext⟩ | ⟨-, shifted, -, hnext⟩⟩
  · exact iff_of_true (Except.ok.inj (h.symm.trans hnext)) hnone
  · obtain rfl := Except.ok.inj (h.symm.trans hnext)
    exact iff_of_false (Option.some_ne_none _) (hmet hhit)
  · obtain rfl := Except.ok.inj (h.symm.trans hnext)
    exact iff_of_false (Option.some_ne_none _) (hmet hhit)

/-- What is found was met by one of the two searches, and is not later than what either
    of them meets. -/
theorem nextIn?_eq_some {time : ZonedTime} (hwf : schedule.WellFormed)
    (h : schedule.nextIn? zone instant = .ok (some time)) :
    time = zone.zoned time.instant ∧ schedule.Meets zone instant time.instant ∧
      ∀ t, schedule.Meets zone instant t → time.instant ≤ t := by
  rcases nextIn?_cases hwf (startsInSpan_of_nextIn? hwf h) with
    ⟨hnext, -⟩ | ⟨hit, hhit, ⟨hoffset, hnext⟩ | ⟨hoffset, shifted, hshifted, hnext⟩⟩
  · cases h.symm.trans hnext
  · cases h.symm.trans hnext
    refine ⟨rfl, .inl hhit, ?_⟩
    rintro t (ht | ⟨other, hother, hchanged, -⟩)
    · rw [ht.unique hhit]
      exact Std.le_refl _
    · rw [hother.unique hhit] at hchanged
      exact absurd hoffset hchanged
  · cases h.symm.trans hnext
    have hbounds : (if shifted < hit then shifted else hit) ≤ shifted ∧
        (if shifted < hit then shifted else hit) ≤ hit := by
      split
      · rename_i hlt
        exact ⟨Std.le_refl _, Std.le_of_lt hlt⟩
      · rename_i hle
        exact ⟨Std.not_lt.mp hle, Std.le_refl _⟩
    refine ⟨rfl, ?_, ?_⟩
    · dsimp only [Zone.zoned]
      split
      · exact .inr ⟨hit, hhit, hoffset, hshifted⟩
      · exact .inl hhit
    · rintro t (ht | ⟨other, hother, -, ht⟩)
      · rw [ht.unique hhit]
        exact hbounds.2
      · rw [hother.unique hhit] at ht
        rw [ht.unique hshifted]
        exact hbounds.1

/-! ### The first event -/

/-- What is found is the first of the events after the instant, and if nothing is found then
    there are none. -/
structure FindsFirst (schedule : Schedule) (zone : Zone) (instant : DateTime) : Prop where
  found : ∀ time, schedule.nextIn? zone instant = .ok (some time) →
    IsFirstAfter (schedule.FiresIn zone) instant time.instant
  missing : schedule.nextIn? zone instant = .ok none →
    ∀ t, schedule.FiresIn zone t → ¬ instant < t

/-- If something is found then every search that is made ends somewhere. -/
theorem exists_hit_of_nextIn? {time : ZonedTime} (hwf : schedule.WellFormed)
    (h : schedule.nextIn? zone instant = .ok (some time)) :
    ∃ hit, schedule.IsMetAfter zone instant (zone.localTime instant) hit ∧
      (zone.offsetAt hit ≠ zone.offsetAt instant →
        ∃ shifted, schedule.IsMetAfter zone instant (instant.addSeconds (zone.offsetAt hit))
          shifted) := by
  rcases nextIn?_cases hwf (startsInSpan_of_nextIn? hwf h) with
    ⟨hnext, -⟩ | ⟨hit, hhit, ⟨hoffset, -⟩ | ⟨-, shifted, hshifted, -⟩⟩
  · cases h.symm.trans hnext
  · exact ⟨hit, hhit, fun hchanged => absurd hoffset hchanged⟩
  · exact ⟨hit, hhit, fun _ => ⟨shifted, hshifted⟩⟩

/-- It is enough that one of the searches meets the first event. -/
theorem isFirstAfter_of_meets {time : ZonedTime} {event : DateTime} (hwf : schedule.WellFormed)
    (h : schedule.nextIn? zone instant = .ok (some time)) (hmet : schedule.Meets zone instant event)
    (hleast : ∀ s, schedule.FiresIn zone s → instant < s → event ≤ s) :
    IsFirstAfter (schedule.FiresIn zone) instant time.instant := by
  obtain ⟨-, hfound, hearliest⟩ := nextIn?_eq_some hwf h
  refine ⟨hfound.fires, hfound.after, fun s hfires hafter => ?_⟩
  exact Std.le_trans (hearliest event hmet) (hleast s hfires hafter)

/-- As long as clocks only go ahead, local times come in the order of the instants. -/
theorem findsFirst_of_increasing (hwf : schedule.WellFormed)
    (hincreasing : ∀ s t, instant ≤ s → s < t → zone.localTime s < zone.localTime t) :
    schedule.FindsFirst zone instant := by
  constructor
  · intro time h
    obtain ⟨hit, hhit, -⟩ := exists_hit_of_nextIn? hwf h
    apply isFirstAfter_of_meets hwf h (.inl hhit)
    intro s hfires hafter
    apply Std.not_lt.mp
    intro hlt
    have hshown := hincreasing s hit (Std.le_of_lt hafter) hlt
    have hahead := hincreasing instant s (Std.le_refl _) hafter
    exact absurd hshown (Std.not_lt.mpr (hhit.leads s hafter hfires hahead))
  · intro h t hfires hafter
    have hahead := hincreasing instant t (Std.le_refl _) hafter
    exact (nextIn?_eq_none_iff hwf h).mp rfl t hafter hfires hahead

/-! ### When an event is found, and when it is the earliest -/

/-- If there is an answer then an event is found exactly if there is one ahead that clocks
    show later than the local time of `instant`.  Events that are ahead only because clocks
    were put back do not count.  And there is an answer unless the offsets of the zone lead
    beyond the ends of the calendar. -/
theorem nextIn?_ne_none_iff_shown_later {text : String} {february : February}
    (h : Schedule.parse text february = .ok schedule) (zone : Zone) (instant : DateTime) :
    (∀ next, schedule.nextIn? zone instant = .ok next →
      (next ≠ none ↔ ∃ t, instant < t ∧ schedule.FiresIn zone t ∧
        zone.localTime instant < zone.localTime t)) ∧
    (zone.KeepsInSpan instant → ∃ next, schedule.nextIn? zone instant = .ok next) := by
  have hwf := wellFormed_of_parse h
  constructor
  · intro next hnext
    rw [ne_eq, nextIn?_eq_none_iff hwf hnext]
    constructor
    · intro hnot
      by_contra hnone
      apply hnot
      intro t hafter hfires hahead
      exact hnone ⟨t, hafter, hfires, hahead⟩
    · rintro ⟨t, hafter, hfires, hahead⟩ hnone
      exact hnone t hafter hfires hahead
  · intro hspan
    exact (exists_nextIn?_iff hwf).mpr ⟨hspan.shifted instant, fun hit _ _ => hspan.shifted hit⟩

/-- A quarter of an hour before clocks go back from two to one, the half past one that is
    still to come is not found by a schedule that has no other event. -/
theorem nextIn?_eq_none_before_repeated_hour :
    ∃ schedule, Schedule.parse "30 1 3 11 ? 2024" .leapAware = .ok schedule ∧
      easternIn2024.KeepsInSpan (fallBack2024.addSeconds (-900)) ∧
      schedule.nextIn? easternIn2024 (fallBack2024.addSeconds (-900)) = .ok none ∧
      schedule.FiresIn easternIn2024 (fallBack2024.addSeconds 1800) ∧
      ¬ ∃ t, fallBack2024.addSeconds (-900) < t ∧ schedule.FiresIn easternIn2024 t ∧
        easternIn2024.localTime (fallBack2024.addSeconds (-900)) < easternIn2024.localTime t := by
  have hread : Schedule.parse "30 1 3 11 ? 2024" .leapAware = .ok ⟨"30 1 3 11 ? 2024", .leapAware,
      [⟨.items (.ofList [.value 30]), .items (.ofList [.value 1]), .items (.ofList [.value 3]),
        .items (.ofList [.value 11]), .omit, .items (.ofList [.value 2024])⟩]⟩ := by
    decide +kernel
  have hnone : Schedule.nextIn? ⟨"30 1 3 11 ? 2024", .leapAware,
      [⟨.items (.ofList [.value 30]), .items (.ofList [.value 1]), .items (.ofList [.value 3]),
        .items (.ofList [.value 11]), .omit, .items (.ofList [.value 2024])⟩]⟩ easternIn2024
        (fallBack2024.addSeconds (-900)) = .ok none := by
    decide +kernel
  refine ⟨_, hread, by decide +kernel, hnone, by decide +kernel, fun hlater => ?_⟩
  exact ((nextIn?_ne_none_iff_shown_later hread _ _).1 none hnone).mpr hlater rfl

/-- What is found is the earliest event exactly if the earliest event is one of those that
    the two searches meet. -/
theorem nextIn?_earliest_iff_meets {text : String} {february : February} {time : ZonedTime}
    (h : Schedule.parse text february = .ok schedule)
    (hnext : schedule.nextIn? zone instant = .ok (some time)) :
    (∀ t, instant < t → t < time.instant → ¬ schedule.FiresIn zone t) ↔
      ∃ event, IsFirstAfter (schedule.FiresIn zone) instant event ∧
        schedule.Meets zone instant event := by
  obtain ⟨-, hmet, hleast⟩ := nextIn?_eq_some (wellFormed_of_parse h) hnext
  constructor
  · intro hnone
    refine ⟨time.instant, ⟨hmet.fires, hmet.after, fun other hfires hafter => ?_⟩, hmet⟩
    exact Std.not_lt.mp fun hlt => hnone other hafter hlt hfires
  · rintro ⟨event, hfirst, hevent⟩ t hafter hlt hfires
    have hle := Std.le_trans (hleast event hevent) (hfirst.least t hfires hafter)
    exact absurd hlt (Std.not_lt.mpr hle)

/-- If clocks are put back at one and forward again at noon, then half past midnight comes a
    second time.  At a quarter to one the search goes on to the next day, where the offset
    is the present one. -/
theorem nextIn?_passes_repeated_hour :
    ∃ schedule, Schedule.parse "30 0 * * ?" .leapAware = .ok schedule ∧
      schedule.nextIn? backForAMorning (newYear2024.addSeconds 2700) =
        .ok (some ⟨newYear2024.addSeconds 88200, 0⟩) ∧
      schedule.FiresIn backForAMorning (newYear2024.addSeconds 5400) ∧
      ¬ ∃ event, IsFirstAfter (schedule.FiresIn backForAMorning) (newYear2024.addSeconds 2700)
        event ∧ schedule.Meets backForAMorning (newYear2024.addSeconds 2700) event := by
  have hread : Schedule.parse "30 0 * * ?" .leapAware = .ok ⟨"30 0 * * ?", .leapAware,
      [⟨.items (.ofList [.value 30]), .items (.ofList [.value 0]), .all, .all, .omit, .all⟩]⟩ := by
    decide +kernel
  refine ⟨_, hread, by decide +kernel, by decide +kernel, fun hmet => ?_⟩
  have hnone := (@nextIn?_earliest_iff_meets _ _ _ _ _ ⟨newYear2024.addSeconds 88200, 0⟩ hread
    (by decide +kernel)).mpr hmet
  exact hnone (newYear2024.addSeconds 5400) (by decide +kernel) (by decide +kernel)
    (by decide +kernel)

end Schedule

end CronSchedule
