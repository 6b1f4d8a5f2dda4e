import CronSchedule.Zone

/-!
# Readings of a clock

A local time that clocks show is read back as the instants at which they show it.  A
reading keeps the first and the last of these only, so that after a given instant it
leads to the first, or to the last if the first is past.  `Zone.IsReadingAfter` says
this of an instant without going through readings, and
`Zone.firstAfter?_reading_eq_some_iff` shows that it is all that a reading does.
-/

namespace CronSchedule

/-! ### Moving by an offset -/

theorem DateTime.addSeconds_lt_iff {a b : DateTime} {offset : Int} :
    a.addSeconds offset < b.addSeconds offset ↔ a < b := by
  simp only [addSeconds, lt_def]
  omega

theorem DateTime.addSeconds_le_iff {a b : DateTime} {offset : Int} :
    a.addSeconds offset ≤ b.addSeconds offset ↔ a ≤ b := by
  simp only [addSeconds, le_def]
  omega

theorem DateTime.addSeconds_le_addSeconds {t : DateTime} {early late : Int} (h : early ≤ late) :
    t.addSeconds early ≤ t.addSeconds late := by
  simp only [addSeconds, le_def, Fin.le_def]
  omega

theorem DateTime.addSeconds_neg_addSeconds (t : DateTime) (offset : Int) :
    (t.addSeconds (-offset)).addSeconds offset = t := by
  refine ext_iff.mpr ⟨?_, rfl⟩
  exact Int.neg_add_cancel_right t.seconds offset

namespace Zone

variable {zone : Zone} {shown instant t : DateTime} {time : ZonedTime}

theorem localTime_eq (zone : Zone) (instant : DateTime) :
    zone.localTime instant = instant.addSeconds (zone.offsetAt instant) :=
  rfl

theorem localTime_lt_iff (h : zone.offsetAt instant = zone.offsetAt t) :
    zone.localTime instant < zone.localTime t ↔ instant < t := by
  rw [localTime_eq, localTime_eq, h]
  exact DateTime.addSeconds_lt_iff

theorem localTime_le_iff (h : zone.offsetAt instant = zone.offsetAt t) :
    zone.localTime instant ≤ zone.localTime t ↔ instant ≤ t := by
  rw [localTime_eq, localTime_eq, h]
  exact DateTime.addSeconds_le_iff

theorem mem_instantsOf_iff :
    time ∈ zone.instantsOf shown ↔
      zone.localTime time.instant = shown ∧ time = zone.zoned time.instant := by
  rw [mem_instantsOf]
  constructor
  · rintro ⟨rfl, hoffset⟩
    have heq : time = zone.zoned time.instant := by
      rw [zoned, ← hoffset]
    exact ⟨by rw [localTime, ← heq], heq⟩
  · rintro ⟨hshown, heq⟩
    constructor
    · rw [← hshown, localTime, ← heq]
    · rw [heq]
      rfl

theorem zoned_mem_instantsOf (h : zone.localTime t = shown) :
    zone.zoned t ∈ zone.instantsOf shown :=
  mem_instantsOf_iff.mpr ⟨h, rfl⟩

/-! ### First and last -/

/-- A fold that always keeps one of two gives its start or one of the others, and if what
    it keeps is the better one then nothing is better than what it gives. -/
theorem foldl_keeps_best {α : Type} {pick : α → α → α} (better : α → α → Prop)
    (hrefl : ∀ a, better a a) (htrans : ∀ a b c, better a b → better b c → better a c)
    (hpick : ∀ a b, (pick a b = a ∨ pick a b = b) ∧ better (pick a b) a ∧ better (pick a b) b)
    (list : List α) (best : α) :
    list.foldl pick best ∈ best :: list ∧
      ∀ other ∈ best :: list, better (list.foldl pick best) other := by
  induction list generalizing best with
  | nil =>
      refine ⟨List.mem_cons_self, fun other hother => ?_⟩
      rw [List.mem_singleton.mp hother]
      exact hrefl _
  | cons head tail ih =>
      obtain ⟨hmem, hbest⟩ := ih (pick best head)
      obtain ⟨heither, hleft, hright⟩ := hpick best head
      have hkept := hbest _ List.mem_cons_self
      rw [List.foldl_cons]
      constructor
      · rcases List.mem_cons.mp hmem with h | h
        · rw [h]
          rcases heither with h' | h'
          · rw [h']
            exact List.mem_cons_self
          · rw [h']
            exact List.mem_cons_of_mem _ List.mem_cons_self
        · exact List.mem_cons_of_mem _ (List.mem_cons_of_mem _ h)
      · intro other hother
        rcases List.mem_cons.mp hother with rfl | hother
        · exact htrans _ _ _ hkept hleft
        · rcases List.mem_cons.mp hother with rfl | hother
          · exact htrans _ _ _ hkept hright
          · exact hbest other (List.mem_cons_of_mem _ hother)

theorem foldl_earlier (times : List ZonedTime) (best : ZonedTime) :
    times.foldl earlier best ∈ best :: times ∧
      ∀ other ∈ best :: times, (times.foldl earlier best).instant ≤ other.instant := by
  refine foldl_keeps_best (fun a b => a.instant ≤ b.instant) (fun a => Std.le_refl _)
    (fun a b c => Std.le_trans) ?_ times best
  intro a b
  unfold earlier
  split
  · rename_i hle
    exact ⟨.inl rfl, Std.le_refl _, hle⟩
  · rename_i hle
    exact ⟨.inr rfl, Std.le_of_not_ge hle, Std.le_refl _⟩

theorem foldl_later (times : List ZonedTime) (best : ZonedTime) :
    times.foldl later best ∈ best :: times ∧
      ∀ other ∈ best :: times, other.instant ≤ (times.foldl later best).instant := by
  refine foldl_keeps_best (fun a b => b.instant ≤ a.instant) (fun a => Std.le_refl _)
    (fun a b c hab hbc => Std.le_trans hbc hab) ?_ times best
  intro a b
  unfold later
  split
  · rename_i hle
    exact ⟨.inr rfl, hle, Std.le_refl _⟩
  · rename_i hle
    exact ⟨.inl rfl, Std.le_refl _, Std.le_of_not_ge hle⟩

/-- What a reading leads to: nothing in a gap, otherwise the first instant at which the
    local time is shown, or the last if the first is past. -/
theorem firstAfter?_reading (zone : Zone) (shown : DateTime) :
    (zone.instantsOf shown = [] ∧ ∀ instant, (zone.reading shown).firstAfter? instant = none) ∨
      ∃ first ∈ zone.instantsOf shown, ∃ last ∈ zone.instantsOf shown,
        (∀ time ∈ zone.instantsOf shown,
          first.instant ≤ time.instant ∧ time.instant ≤ last.instant) ∧
        ∀ instant, (zone.reading shown).firstAfter? instant =
          if instant < first.instant then some first
          else if instant < last.instant then some last
          else none := by
  unfold reading
  match zone.instantsOf shown with
  | [] => exact .inl ⟨rfl, fun instant => rfl⟩
  | [time] =>
      refine .inr ⟨time, List.mem_cons_self, time, List.mem_cons_self, fun other hother => ?_,
        fun instant => ?_⟩
      · rw [List.mem_singleton.mp hother]
        exact ⟨Std.le_refl _, Std.le_refl _⟩
      · simp only [LocalReading.firstAfter?]
        split <;> rfl
  | time :: next :: times =>
      obtain ⟨hfirst, hleast⟩ := foldl_earlier (next :: times) time
      obtain ⟨hlast, hgreatest⟩ := foldl_later (next :: times) time
      exact .inr ⟨_, hfirst, _, hlast, fun other hother => ⟨hleast other hother,
        hgreatest other hother⟩, fun instant => rfl⟩

/-! ### The instant to which a reading leads -/

/-- The instant `t` comes after `instant`, and clocks show at `t` what they show then for
    the first time, or for the last time if the first is past. -/
def IsReadingAfter (zone : Zone) (instant t : DateTime) : Prop :=
  instant < t ∧
    ((∀ s, zone.localTime s = zone.localTime t → t ≤ s) ∨
      (∃ s, zone.localTime s = zone.localTime t ∧ s ≤ instant) ∧
        ∀ s, zone.localTime s = zone.localTime t → s ≤ t)

theorem IsReadingAfter.unique {a b : DateTime} (ha : zone.IsReadingAfter instant a)
    (hb : zone.IsReadingAfter instant b) (hshown : zone.localTime a = zone.localTime b) :
    a = b := by
  obtain ⟨hafter, hfirst | ⟨⟨s, hs, hpast⟩, hlast⟩⟩ := ha
  · obtain ⟨-, hfirst' | ⟨⟨s, hs, hpast⟩, hlast'⟩⟩ := hb
    · exact Std.le_antisymm (hfirst b hshown.symm) (hfirst' a hshown)
    · -- the first instant is past for `b`, so it cannot be `a`
      have hle := Std.le_trans (hfirst s (hs.trans hshown.symm)) hpast
      exact absurd hafter (Std.not_lt.mpr hle)
  · obtain ⟨hafter', hfirst' | ⟨-, hlast'⟩⟩ := hb
    · have hle := Std.le_trans (hfirst' s (hs.trans hshown)) hpast
      exact absurd hafter' (Std.not_lt.mpr hle)
    · exact Std.le_antisymm (hlast' a hshown) (hlast b hshown.symm)

/-- A reading leads to the instant just described, and to no other. -/
theorem firstAfter?_reading_eq_some_iff :
    (zone.reading shown).firstAfter? instant = some time ↔
      zone.localTime time.instant = shown ∧ time = zone.zoned time.instant ∧
        zone.IsReadingAfter instant time.instant := by
  have hsound : ∀ {time}, (zone.reading shown).firstAfter? instant = some time →
      zone.localTime time.instant = shown ∧ time = zone.zoned time.instant ∧
        zone.IsReadingAfter instant time.instant := by
    intro time h
    rcases zone.firstAfter?_reading shown with ⟨-, hnone⟩ | ⟨first, hfirst, last, hlast, hbounds, hread⟩
    · rw [hnone] at h
      cases h
    · rw [hread] at h
      split at h
      · rename_i hafter
        cases h
        obtain ⟨hshown, heq⟩ := mem_instantsOf_iff.mp hfirst
        refine ⟨hshown, heq, hafter, .inl fun s hs => ?_⟩
        exact (hbounds _ (zoned_mem_instantsOf (hs.trans hshown))).1
      · rename_i hpast
        split at h
        · rename_i hafter
          cases h
          obtain ⟨hshown, heq⟩ := mem_instantsOf_iff.mp hlast
          refine ⟨hshown, heq, hafter, .inr ⟨⟨first.instant, ?_, Std.not_lt.mp hpast⟩, ?_⟩⟩
          · rw [hshown]
            exact (mem_instantsOf_iff.mp hfirst).1
          · intro s hs
            exact (hbounds _ (zoned_mem_instantsOf (hs.trans hshown))).2
        · cases h
  refine ⟨hsound, fun ⟨hshown, heq, hreading⟩ => ?_⟩
  rcases zone.firstAfter?_reading shown with ⟨hempty, -⟩ | ⟨first, hfirst, last, hlast, hbounds, hread⟩
  · have := zoned_mem_instantsOf hshown
    rw [hempty] at this
    cases this
  · -- the last instant is not before `time`, so the reading leads somewhere after `instant`
    have hlater : instant < last.instant :=
      Std.lt_of_lt_of_le hreading.1 (hbounds _ (zoned_mem_instantsOf hshown)).2
    have hfound : ∃ found, (zone.reading shown).firstAfter? instant = some found := by
      rw [hread]
      by_cases hafter : instant < first.instant
      · exact ⟨first, if_pos hafter⟩
      · exact ⟨last, by rw [if_neg hafter, if_pos hlater]⟩
    obtain ⟨found, hfound⟩ := hfound
    obtain ⟨hshown', heq', hreading'⟩ := hsound hfound
    have hsame := hreading'.unique hreading (hshown'.trans hshown.symm)
    rw [hfound, heq', heq, hsame]

theorem firstAfter?_reading_eq_none_iff :
    (zone.reading shown).firstAfter? instant = none ↔
      ∀ s, zone.localTime s = shown → ¬ instant < s := by
  rcases zone.firstAfter?_reading shown with ⟨hempty, hnone⟩ | ⟨first, hfirst, last, hlast, hbounds, hread⟩
  · refine ⟨fun _ s hs => ?_, fun _ => hnone instant⟩
    have := zoned_mem_instantsOf hs
    rw [hempty] at this
    cases this
  · constructor
    · intro h s hs hafter
      have hlater := Std.lt_of_lt_of_le hafter (hbounds _ (zoned_mem_instantsOf hs)).2
      rw [hread, if_pos hlater] at h
      split at h <;> cases h
    · intro h
      rw [hread, if_neg (h _ (mem_instantsOf_iff.mp hfirst).1),
        if_neg (h _ (mem_instantsOf_iff.mp hlast).1)]

end Zone

end CronSchedule
