import CronSchedule.Proofs.Zone.Stream

/-!
# Clocks that are never put back

Where the offset never decreases, local times come in the order of the instants that show
them, and no local time is shown twice.  The schedule then has the same run in the zone
as on a calendar without a zone: `Schedule.localEvents` is the chain of its local times,
each the next one after that before, and a stream gives the instants of this chain.  Local
times that clocks skip have no instant and drop out.

The two lists are compared by their members, since both ascend: a stream has all events
after its start because every step finds the first one (`Schedule.FindsFirst`), and the
chain has all local times of the schedule after the local time of the start.
-/

namespace CronSchedule

namespace Zone

variable {zone : Zone}

/-- Clocks are never put back. -/
def NeverBack (zone : Zone) : Prop :=
  ∀ early late, early ≤ late → zone.offsetAt early ≤ zone.offsetAt late

theorem NeverBack.localTime_lt (h : zone.NeverBack) {s t : DateTime} (hlt : s < t) :
    zone.localTime s < zone.localTime t := by
  have hsame : s.addSeconds (zone.offsetAt s) < t.addSeconds (zone.offsetAt s) :=
    DateTime.addSeconds_lt_iff.mpr hlt
  have hahead : t.addSeconds (zone.offsetAt s) ≤ t.addSeconds (zone.offsetAt t) :=
    DateTime.addSeconds_le_addSeconds (h s t (Std.le_of_lt hlt))
  exact Std.lt_of_lt_of_le hsame hahead

theorem NeverBack.localTime_lt_iff (h : zone.NeverBack) {s t : DateTime} :
    zone.localTime s < zone.localTime t ↔ s < t := by
  refine ⟨fun hshown => ?_, h.localTime_lt⟩
  rw [← Std.not_le]
  intro hle
  rcases Std.le_iff_lt_or_eq.mp hle with hlt | rfl
  · exact Std.lt_irrefl (Std.lt_trans hshown (h.localTime_lt hlt))
  · exact Std.lt_irrefl hshown

theorem NeverBack.localTime_le_iff (h : zone.NeverBack) {s t : DateTime} :
    zone.localTime s ≤ zone.localTime t ↔ s ≤ t := by
  rw [← Std.not_lt, ← Std.not_lt, h.localTime_lt_iff]

end Zone

namespace Schedule

variable {schedule : Schedule} {zone : Zone} {instant : DateTime}

/-! ### The chain of local times -/

end Schedule

end CronSchedule
