import CronSchedule.Proofs.Zone.Stream

/-!
# Clocks that are put back once

In a zone with one transition, to a smaller offset, the local times just before the
transition are shown twice.  From the transition on the search for the next event goes
by the order of instants.  Before it there are two cases: the first search ends before
the transition, and then at the first event; or it ends after it, and then no event is
left before the transition and the second search, which starts from what clocks would
show by the new offset, ends at the first event.  For the second search to be made there
must be an event that clocks show later than all that are shown before the transition.
-/

namespace CronSchedule

variable {zone : Zone} {change : DateTime} {after : Int}

namespace Zone

/-! ### What clocks show -/

theorem offsetAt_of_single (hzone : zone.transitions = [⟨change, after⟩]) (t : DateTime) :
    zone.offsetAt t = if change ≤ t then after else zone.base := by
  rw [offsetAt, hzone]
  rfl

theorem offsetAt_before_change (hzone : zone.transitions = [⟨change, after⟩]) {t : DateTime}
    (h : t < change) : zone.offsetAt t = zone.base := by
  rw [offsetAt_of_single hzone, if_neg (Std.not_le.mpr h)]

theorem offsetAt_from_change (hzone : zone.transitions = [⟨change, after⟩]) {t : DateTime}
    (h : change ≤ t) : zone.offsetAt t = after := by
  rw [offsetAt_of_single hzone, if_pos h]

theorem offsetAt_eq_before (hzone : zone.transitions = [⟨change, after⟩]) {s t : DateTime}
    (hs : s < change) (ht : t < change) : zone.offsetAt s = zone.offsetAt t := by
  rw [offsetAt_before_change hzone hs, offsetAt_before_change hzone ht]

theorem offsetAt_eq_from (hzone : zone.transitions = [⟨change, after⟩]) {s t : DateTime}
    (hs : change ≤ s) (ht : change ≤ t) : zone.offsetAt s = zone.offsetAt t := by
  rw [offsetAt_from_change hzone hs, offsetAt_from_change hzone ht]

theorem localTime_before_change (hzone : zone.transitions = [⟨change, after⟩]) {t : DateTime}
    (h : t < change) : zone.localTime t = t.addSeconds zone.base := by
  rw [localTime_eq, offsetAt_before_change hzone h]

theorem localTime_from_change (hzone : zone.transitions = [⟨change, after⟩]) {t : DateTime}
    (h : change ≤ t) : zone.localTime t = t.addSeconds after := by
  rw [localTime_eq, offsetAt_from_change hzone h]

/-- A local time that is not past at the transition by the new offset is shown after it. -/
theorem localTime_second (hzone : zone.transitions = [⟨change, after⟩]) {shown : DateTime}
    (h : change.addSeconds after ≤ shown) :
    change ≤ shown.addSeconds (-after) ∧ zone.localTime (shown.addSeconds (-after)) = shown := by
  have hle : change ≤ shown.addSeconds (-after) := by
    rw [← DateTime.addSeconds_le_iff, DateTime.addSeconds_neg_addSeconds]
    exact h
  refine ⟨hle, ?_⟩
  rw [localTime_from_change hzone hle, DateTime.addSeconds_neg_addSeconds]

/-- A local time that is not reached at the transition by the old offset is shown before
    it. -/
theorem localTime_first (hzone : zone.transitions = [⟨change, after⟩]) {shown : DateTime}
    (h : shown < change.addSeconds zone.base) :
    shown.addSeconds (-zone.base) < change ∧
      zone.localTime (shown.addSeconds (-zone.base)) = shown := by
  have hlt : shown.addSeconds (-zone.base) < change := by
    rw [← DateTime.addSeconds_lt_iff, DateTime.addSeconds_neg_addSeconds]
    exact h
  refine ⟨hlt, ?_⟩
  rw [localTime_before_change hzone hlt, DateTime.addSeconds_neg_addSeconds]

end Zone

namespace Schedule

variable {schedule : Schedule} {instant : DateTime}

/-! ### One step -/

theorem findsFirst_from_change (hwf : schedule.WellFormed)
    (hzone : zone.transitions = [⟨change, after⟩]) (hinstant : change ≤ instant) :
    schedule.FindsFirst zone instant := by
  apply findsFirst_of_increasing hwf
  intro s t hs hlt
  have hle := Std.le_trans hinstant hs
  have hsame := Zone.offsetAt_eq_from hzone hle (Std.le_trans hle (Std.le_of_lt hlt))
  exact (Zone.localTime_lt_iff hsame).mpr hlt

/-- If the first search ends after the transition then no event is left before it. -/
theorem change_le_of_hit (hzone : zone.transitions = [⟨change, after⟩])
    (hinstant : instant < change) {hit : DateTime}
    (hhit : schedule.IsMetAfter zone instant (zone.localTime instant) hit) (hpast : change ≤ hit) :
    ∀ s, schedule.FiresIn zone s → instant < s → change ≤ s := by
  intro s hfires hafter
  apply Std.not_lt.mp
  intro hs
  have hahead : zone.localTime instant < zone.localTime s :=
    (Zone.localTime_lt_iff (Zone.offsetAt_eq_before hzone hinstant hs)).mpr hafter
  -- what is shown at the hit is shown before the transition too, not after `s`
  have hshown : zone.localTime hit < change.addSeconds zone.base := by
    have hreached : zone.localTime s < change.addSeconds zone.base := by
      rw [Zone.localTime_before_change hzone hs]
      exact DateTime.addSeconds_lt_iff.mpr hs
    exact Std.lt_of_le_of_lt (hhit.leads s hafter hfires hahead) hreached
  obtain ⟨hfirst, hsame⟩ := Zone.localTime_first hzone hshown
  rcases hhit.reading.2 with hleast | ⟨⟨past, hpast_shown, hpast_le⟩, -⟩
  · have hle := Std.le_trans hpast (hleast _ hsame)
    exact absurd hfirst (Std.not_lt.mpr hle)
  · -- nothing that is shown ahead of `instant` was shown before it
    have hpast_before := Std.lt_of_le_of_lt hpast_le hinstant
    have hle : zone.localTime past ≤ zone.localTime instant :=
      (Zone.localTime_le_iff (Zone.offsetAt_eq_before hzone hpast_before hinstant)).mpr hpast_le
    rw [hpast_shown] at hle
    exact absurd hhit.ahead (Std.not_lt.mpr hle)

/-- Before the transition the first or the second search meets the first event. -/
theorem findsFirst_before_change (hwf : schedule.WellFormed)
    (hzone : zone.transitions = [⟨change, after⟩]) (hback : after < zone.base)
    (hinstant : instant < change) {late : DateTime} (hlate : schedule.Fires late)
    (hbeyond : change.addSeconds zone.base ≤ late) : schedule.FindsFirst zone instant := by
  constructor
  · intro time h
    obtain ⟨hit, hhit, hsearched⟩ := exists_hit_of_nextIn? hwf h
    by_cases hpast : change ≤ hit
    · have hnone := change_le_of_hit hzone hinstant hhit hpast
      have hoffset : zone.offsetAt hit ≠ zone.offsetAt instant := by
        rw [Zone.offsetAt_from_change hzone hpast, Zone.offsetAt_before_change hzone hinstant]
        exact Int.ne_of_lt hback
      obtain ⟨shifted, hshifted⟩ := hsearched hoffset
      apply isFirstAfter_of_meets hwf h (.inr ⟨hit, hhit, hoffset, hshifted⟩)
      intro s hfires hafter
      have hs := hnone s hfires hafter
      have hahead : instant.addSeconds (zone.offsetAt hit) < zone.localTime s := by
        rw [Zone.offsetAt_from_change hzone hpast, Zone.localTime_from_change hzone hs]
        exact DateTime.addSeconds_lt_iff.mpr hafter
      have hshifted_past := hnone shifted hshifted.fires hshifted.after
      exact (Zone.localTime_le_iff (Zone.offsetAt_eq_from hzone hshifted_past hs)).mp
        (hshifted.leads s hafter hfires hahead)
    · have hhit_before := Std.not_le.mp hpast
      apply isFirstAfter_of_meets hwf h (.inl hhit)
      intro s hfires hafter
      by_cases hs : change ≤ s
      · exact Std.le_trans (Std.le_of_lt hhit_before) hs
      · have hs_before := Std.not_le.mp hs
        have hahead : zone.localTime instant < zone.localTime s :=
          (Zone.localTime_lt_iff (Zone.offsetAt_eq_before hzone hinstant hs_before)).mpr hafter
        exact (Zone.localTime_le_iff (Zone.offsetAt_eq_before hzone hhit_before hs_before)).mp
          (hhit.leads s hafter hfires hahead)
  · -- the late event is ahead in local time, so the first search cannot end without one
    intro h
    have hnew : change.addSeconds after ≤ late :=
      Std.le_trans (DateTime.addSeconds_le_addSeconds (Int.le_of_lt hback)) hbeyond
    obtain ⟨hpast, hshown⟩ := Zone.localTime_second hzone hnew
    have hfires : schedule.FiresIn zone (late.addSeconds (-after)) := by
      rw [FiresIn, hshown]
      exact hlate
    have hahead : zone.localTime instant < zone.localTime (late.addSeconds (-after)) := by
      rw [hshown, Zone.localTime_before_change hzone hinstant]
      exact Std.lt_of_lt_of_le (DateTime.addSeconds_lt_iff.mpr hinstant) hbeyond
    have hafter := Std.lt_of_lt_of_le hinstant hpast
    exact absurd hahead ((nextIn?_eq_none_iff hwf h).mp rfl _ hafter hfires)

theorem findsFirst_across_change (hwf : schedule.WellFormed)
    (hzone : zone.transitions = [⟨change, after⟩]) (hback : after < zone.base) {late : DateTime}
    (hlate : schedule.Fires late) (hbeyond : change.addSeconds zone.base ≤ late)
    (instant : DateTime) : schedule.FindsFirst zone instant := by
  by_cases hinstant : change ≤ instant
  · exact findsFirst_from_change hwf hzone hinstant
  · exact findsFirst_before_change hwf hzone hback (Std.not_le.mp hinstant) hlate hbeyond

theorem fires_twice (hzone : zone.transitions = [⟨change, after⟩]) {shown : DateTime}
    (hfires : schedule.Fires shown) (hleast : change.addSeconds after ≤ shown)
    (hlimit : shown < change.addSeconds zone.base) :
    (schedule.FiresIn zone (shown.addSeconds (-zone.base)) ∧
        zone.offsetAt (shown.addSeconds (-zone.base)) = zone.base) ∧
      schedule.FiresIn zone (shown.addSeconds (-after)) ∧
        zone.offsetAt (shown.addSeconds (-after)) = after := by
  obtain ⟨hbefore, hfirst⟩ := Zone.localTime_first hzone hlimit
  obtain ⟨hpast, hsecond⟩ := Zone.localTime_second hzone hleast
  refine ⟨⟨?_, Zone.offsetAt_before_change hzone hbefore⟩, ?_,
    Zone.offsetAt_from_change hzone hpast⟩
  · rw [FiresIn, hfirst]
    exact hfires
  · rw [FiresIn, hsecond]
    exact hfires

/-! ### The whole run -/

/-- In a zone in which clocks are put back once, and with an event that they show later than
    all that they show before, a stream gives all events after the instant, each once and
    in their order, and then ends.  An event at a local time that is shown twice, both
    times after the instant, is given for both of them.  The instant must not be so close to
    the ends of the calendar that the offsets lead beyond them. -/
theorem stream_across_fall_back {text : String} {february : February} {late : DateTime}
    (h : Schedule.parse text february = .ok schedule)
    (hzone : zone.transitions = [⟨change, after⟩]) (hback : after < zone.base)
    (hlate : schedule.Fires late) (hbeyond : change.addSeconds zone.base ≤ late)
    (instant : DateTime) (hspan : zone.KeepsInSpan instant) :
    ∃ (stream : EventStream) (events : List ZonedTime),
      EventStream.startingAfter schedule zone instant = .ok stream ∧
      (∀ count, ∃ rest, stream.take count = .ok (events.take count, rest) ∧
        (events.length ≤ count → rest.next = none)) ∧
      (events.Pairwise fun early late => early.instant < late.instant) ∧
      (∀ time, time ∈ events ↔
        instant < time.instant ∧ schedule.FiresIn zone time.instant ∧
          time = zone.zoned time.instant) ∧
      ∀ shown, schedule.Fires shown → change.addSeconds after ≤ shown →
        shown < change.addSeconds zone.base → instant < shown.addSeconds (-zone.base) →
          ⟨shown.addSeconds (-zone.base), zone.base⟩ ∈ events ∧
            ⟨shown.addSeconds (-after), after⟩ ∈ events := by
  have hwf := wellFormed_of_parse h
  obtain ⟨events, hrun⟩ := exists_eventRun hwf zone instant (searchable_of_keepsInSpan hspan)
  obtain ⟨stream, hstream, htake⟩ := hrun.exists_take
  have hmem : ∀ time, time ∈ events ↔ instant < time.instant ∧
      schedule.FiresIn zone time.instant ∧ time = zone.zoned time.instant :=
    fun time => hrun.mem_iff hwf fun later _ =>
      findsFirst_across_change hwf hzone hback hlate hbeyond later
  refine ⟨stream, events, hstream, htake, hrun.ascending hwf, hmem, ?_⟩
  intro shown hfires hleast hlimit hafter
  obtain ⟨⟨hfirst, hold⟩, hsecond, hnew⟩ := fires_twice hzone hfires hleast hlimit
  have hlater : instant < shown.addSeconds (-after) :=
    Std.lt_of_lt_of_le hafter (DateTime.addSeconds_le_addSeconds (Int.neg_le_neg (Int.le_of_lt hback)))
  constructor
  · refine (hmem _).mpr ⟨hafter, hfirst, ?_⟩
    rw [Zone.zoned, hold]
  · refine (hmem _).mpr ⟨hlater, hsecond, ?_⟩
    rw [Zone.zoned, hnew]

/-- Half past one is shown twice on 3 November 2024, and both are given. -/
theorem stream_repeats_half_past_one :
    ∃ schedule, Schedule.parse "30 1 * * ?" .leapAware = .ok schedule ∧
      easternIn2024.KeepsInSpan (fallBack2024.addSeconds (-3600)) ∧
      ∃ (stream : EventStream) (events : List ZonedTime),
        EventStream.startingAfter schedule easternIn2024 (fallBack2024.addSeconds (-3600)) =
          .ok stream ∧
        (∀ count, ∃ rest, stream.take count = .ok (events.take count, rest)) ∧
        ⟨fallBack2024.addSeconds (-1800), -14400⟩ ∈ events ∧
        ⟨fallBack2024.addSeconds 1800, -18000⟩ ∈ events := by
  have hread : Schedule.parse "30 1 * * ?" .leapAware = .ok ⟨"30 1 * * ?", .leapAware,
      [⟨.items (.ofList [.value 30]), .items (.ofList [.value 1]), .all, .all, .omit, .all⟩]⟩ := by
    decide +kernel
  have hspan : easternIn2024.KeepsInSpan (fallBack2024.addSeconds (-3600)) := by decide +kernel
  obtain ⟨stream, events, hstream, htake, -, -, htwice⟩ := @stream_across_fall_back easternIn2024
    fallBack2024 (-18000) _ _ _ (fallBack2024.addSeconds 70200) hread rfl (by decide)
    (by decide +kernel) (by decide +kernel) (fallBack2024.addSeconds (-3600)) hspan
  refine ⟨_, hread, hspan, stream, events, hstream, fun count => ?_, ?_⟩
  · obtain ⟨rest, hrest, -⟩ := htake count
    exact ⟨rest, hrest⟩
  · exact htwice (fallBack2024.addSeconds (-16200)) (by decide +kernel) (by decide +kernel)
      (by decide +kernel) (by decide +kernel)

/-- From the first point of the calendar there is no stream in the zone in which clocks go back
    by one hour in 2024, though the schedule has an event there a year later. -/
theorem stream_across_fall_back_breaks_off_at_earliest :
    Schedule.parse "30 0 1 1 ? 2025" .leapAware = .ok newYear2025 ∧
      backAtNewYear.transitions = [⟨newYear2024.addSeconds 3600, -3600⟩] ∧
      -3600 < backAtNewYear.base ∧
      (∃ late, newYear2025.Fires late ∧
        (newYear2024.addSeconds 3600).addSeconds backAtNewYear.base ≤ late) ∧
      DateTime.earliest.InSpan ∧
      newYear2025.FiresIn backAtNewYear (newYear2024.addSeconds 31627800) ∧
      EventStream.startingAfter newYear2025 backAtNewYear DateTime.earliest =
        .error .outOfSpan := by
  refine ⟨parse_newYear2025, rfl, by decide, ⟨newYear2024.addSeconds 31624200, by decide +kernel⟩,
    by decide +kernel, by decide +kernel, ?_⟩
  rw [EventStream.startingAfter, nextIn?_newYear2025_from_earliest]
  rfl

end Schedule

end CronSchedule
