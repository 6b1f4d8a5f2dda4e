import Mathlib.Data.List.Basic
import CronSchedule.Proofs.Calendar.Month
import CronSchedule.Proofs.Schedule.Reading

/-!
# Where February matters

A schedule carries its idea of February through the whole search, into the question whether a
point is accepted and into the distance to the next one.  All that is ever asked of it is on
which day a month ends, and only patterns about the end of the month ask.

So two searches with different ideas go through the same candidates if no pattern is about the
end of the month.  And outside the Februaries of leap years a pattern cannot tell the ideas
apart, whatever it is about.
-/

namespace CronSchedule

variable {february other : February} {field : Field} {t : DateTime}

/-! ### Patterns about the end of the month -/

/-- The pattern is about the end of the month: it is the last day or the last workday, or a list
    with the last of some weekday. -/
def Pattern.IsAboutMonthEnd : Pattern → Prop
  | .all | .omit => False
  | .lastDay | .lastWorkday => True
  | .items list => list.lastWeekdays ≠ []

instance : DecidablePred Pattern.IsAboutMonthEnd
  | .all | .omit => .isFalse id
  | .lastDay | .lastWorkday => .isTrue trivial
  | .items list => inferInstanceAs (Decidable (list.lastWeekdays ≠ []))

/-- The month of `t` ends on one and the same day under both ideas of February. -/
def SameMonthEnd (february other : February) (t : DateTime) : Prop :=
  lastDayOfMonth february t.date.year t.date.month = lastDayOfMonth other t.date.year t.date.month

theorem lastOfWeekday_congr (h : SameMonthEnd february other t) (weekday : Nat) :
    lastOfWeekday february t.date.year t.date.month weekday =
      lastOfWeekday other t.date.year t.date.month weekday := by
  unfold lastOfWeekday
  rw [h]

theorem lastWorkdayOfMonth_congr (h : SameMonthEnd february other t) :
    lastWorkdayOfMonth february t.date.year t.date.month =
      lastWorkdayOfMonth other t.date.year t.date.month := by
  unfold lastWorkdayOfMonth
  rw [h]

/-- The two differ only about a February of 29 days. -/
theorem sameMonthEnd_of_not_leap (h : ¬ (t.month = 2 ∧ isLeap t.year)) (february other : February) :
    SameMonthEnd february other t := by
  have hlong : ∀ february, lastDayOfMonth february t.date.year t.date.month =
      daysInMonth t.date.year t.date.month := by
    intro february
    unfold lastDayOfMonth
    split
    · rename_i hmonth
      have hleap : isLeap t.date.year = false :=
        Bool.eq_false_iff.mpr fun hleap => h ⟨hmonth, hleap⟩
      rw [hmonth, daysInMonth, hleap]
      rfl
    · rfl
  exact (hlong february).trans (hlong other).symm

/-! ### Items and patterns -/

theorem Items.lastWeekday_mem_toList {items : Items} {weekday : Nat} :
    .lastWeekday weekday ∈ items.toList ↔ weekday ∈ items.lastWeekdays := by
  simp [Items.toList]

theorem any_congr {α : Type} {p q : α → Bool} {list : List α} (h : ∀ a ∈ list, p a = q a) :
    list.any p = list.any q := by
  rw [Bool.eq_iff_iff, List.any_eq_true, List.any_eq_true]
  refine exists_congr fun a => and_congr_right fun ha => ?_
  rw [h a ha]

/-- Only a last weekday asks where a month ends. -/
theorem Item.accepts_congr {item : Item}
    (h : ∀ weekday, item = .lastWeekday weekday → SameMonthEnd february other t) :
    item.accepts field february t = item.accepts field other t := by
  cases item with
  | lastWeekday weekday =>
      simp only [Item.accepts, lastOfWeekday_congr (h weekday rfl)]
  | _ => rfl

theorem Item.distance_congr {item : Item}
    (h : ∀ weekday, item = .lastWeekday weekday → SameMonthEnd february other t) :
    item.distance field february t = item.distance field other t := by
  cases item with
  | lastWeekday weekday =>
      simp only [Item.distance, lastOfWeekday_congr (h weekday rfl)]
  | _ => rfl

namespace Pattern

variable {pattern : Pattern}

/-- A list that is not about the end of the month holds no item that is. -/
theorem sameMonthEnd_of_mem {items : Items} {item : Item}
    (h : (Pattern.items items).IsAboutMonthEnd → SameMonthEnd february other t)
    (hitem : item ∈ items.toList) (weekday : Nat) (hweekday : item = .lastWeekday weekday) :
    SameMonthEnd february other t := by
  subst hweekday
  exact h (List.ne_nil_of_mem (Items.lastWeekday_mem_toList.mp hitem))

theorem accepts_congr (h : pattern.IsAboutMonthEnd → SameMonthEnd february other t) :
    pattern.accepts field february t = pattern.accepts field other t := by
  cases pattern with
  | all => rfl
  | «omit» => rfl
  | lastDay =>
      have hend : lastDayOfMonth february _ _ = lastDayOfMonth other _ _ := h trivial
      simp only [accepts, hend]
  | lastWorkday =>
      simp only [accepts, lastWorkdayOfMonth_congr (h trivial)]
  | items list =>
      exact any_congr fun item hitem => Item.accepts_congr (sameMonthEnd_of_mem h hitem)

theorem moveFrom?_congr (h : pattern.IsAboutMonthEnd → SameMonthEnd february other t) :
    pattern.moveFrom? field february t = pattern.moveFrom? field other t := by
  cases pattern with
  | all => rfl
  | «omit» => rfl
  | lastDay =>
      have hend : lastDayOfMonth february _ _ = lastDayOfMonth other _ _ := h trivial
      simp only [moveFrom?, hend]
  | lastWorkday =>
      simp only [moveFrom?, lastWorkdayOfMonth_congr (h trivial)]
  | items list =>
      have hdistances : list.toList.map (·.distance field february t) =
          list.toList.map (·.distance field other t) :=
        List.map_congr_left fun item hitem => Item.distance_congr (sameMonthEnd_of_mem h hitem)
      simp only [moveFrom?, Items.distance?, hdistances]

end Pattern

/-- Nothing about the end of a month is met on a day beyond it. -/
theorem rejects_beyond_month_end
    (h : lastDayOfMonth february t.date.year t.date.month < t.date.day) :
    Pattern.lastDay.accepts field february t = false ∧
      Pattern.lastWorkday.accepts field february t = false ∧
      ∀ weekday, (Item.lastWeekday weekday).accepts field february t = false := by
  have hworkday := lastWorkdayOfMonth_le_lastDayOfMonth february t.date.year t.date.month
  refine ⟨beq_eq_false_iff_ne.mpr ?_, beq_eq_false_iff_ne.mpr ?_, fun weekday => ?_⟩
  · omega
  · omega
  · have hweekday := lastOfWeekday_le_lastDayOfMonth february t.date.year t.date.month weekday
    apply beq_eq_false_iff_ne.mpr
    omega

/-! ### Searches -/

namespace Expression

variable {expression : Expression}

/-- None of the patterns is about the end of the month. -/
def IgnoresMonthEnd (expression : Expression) : Prop :=
  ∀ field, ¬ (expression.pattern field).IsAboutMonthEnd

theorem step_congr (h : expression.IgnoresMonthEnd) :
    expression.step february t = expression.step other t := by
  have hnever : ∀ field, (expression.pattern field).IsAboutMonthEnd →
      SameMonthEnd february other t := fun field habout => absurd habout (h field)
  have hrejecting : expression.rejecting? february t = expression.rejecting? other t := by
    unfold rejecting?
    congr 1
    funext field
    rw [Pattern.accepts_congr (hnever field)]
  unfold step
  rw [hrejecting]
  cases expression.rejecting? other t with
  | none => rfl
  | some field =>
      dsimp only
      rw [Pattern.moveFrom?_congr (hnever field)]

/-- Searches with different ideas of February go through the same candidates. -/
theorem firstFrom?_congr (h : expression.IgnoresMonthEnd) :
    expression.firstFrom? february t = expression.firstFrom? other t := by
  fun_induction expression.firstFrom? february t with
  | case1 t hbefore hstep =>
      rw [firstFrom?, if_pos hbefore, ← step_congr h, hstep]
  | case2 t hbefore hstep =>
      rw [firstFrom?, if_pos hbefore, ← step_congr h, hstep]
  | case3 t hbefore candidate hstep hahead ih =>
      rw [ih]
      conv_rhs => rw [firstFrom?, if_pos hbefore, ← step_congr h, hstep]
      exact (if_pos hahead).symm
  | case4 t hbefore candidate hstep hahead =>
      rw [firstFrom?, if_pos hbefore, ← step_congr h, hstep]
      exact (if_neg hahead).symm
  | case5 t hbefore =>
      rw [firstFrom?, if_neg hbefore]

theorem firstAfter?_congr (h : expression.IgnoresMonthEnd) :
    expression.firstAfter? february t = expression.firstAfter? other t := by
  unfold firstAfter?
  congr 1
  funext start
  exact firstFrom?_congr h

end Expression

/-! ### Schedules -/

namespace Schedule

variable {schedule : Schedule}

theorem next?_congr (h : ∀ expression ∈ schedule.alternatives, expression.IgnoresMonthEnd) :
    { schedule with february := other }.next? t = schedule.next? t := by
  have hfound : schedule.alternatives.filterMap (·.firstAfter? other t) =
      schedule.alternatives.filterMap (·.firstAfter? schedule.february t) :=
    List.filterMap_congr fun expression hmem => Expression.firstAfter?_congr (h expression hmem)
  unfold next?
  rw [hfound]

theorem isEvent_congr (h : ∀ expression ∈ schedule.alternatives, expression.IgnoresMonthEnd) :
    { schedule with february := other }.isEvent t = schedule.isEvent t := by
  apply any_congr
  intro expression hmem
  rw [Expression.firstFrom?_congr (h expression hmem)]

/-- The idea of February touches nothing but the end of the month.  A schedule without a pattern
    about it has the same events under every idea; outside the Februaries of leap years every
    pattern accepts the same points; and where February always has 28 days, nothing about the
    end of the month is met on the 29th. -/
theorem february_touches_month_end_only :
    (∀ (text : String) (february : February) (schedule : Schedule),
      parse text february = .ok schedule →
      (∀ expression ∈ schedule.alternatives, expression.IgnoresMonthEnd) →
      ∀ other : February, ∃ twin, parse text other = .ok twin ∧
        ∀ t, twin.next? t = schedule.next? t ∧ twin.isEvent t = schedule.isEvent t) ∧
    (∀ (pattern : Pattern) (field : Field) (t : DateTime), ¬ (t.month = 2 ∧ isLeap t.year) →
      pattern.accepts field .leapAware t = pattern.accepts field .alwaysShort t) ∧
    ∀ (field : Field) (t : DateTime), t.month = 2 → t.day = 29 →
      Pattern.lastDay.accepts field .alwaysShort t = false ∧
      Pattern.lastWorkday.accepts field .alwaysShort t = false ∧
      ∀ weekday, (Item.lastWeekday weekday).accepts field .alwaysShort t = false := by
  refine ⟨?_, ?_, ?_⟩
  · intro text february schedule hparse hpatterns other
    obtain ⟨hread, htext, hfebruary⟩ := parse_eq_ok_iff.mp hparse
    have htwin : parse text other = .ok { schedule with february := other } :=
      parse_eq_ok_iff.mpr ⟨hread, htext, rfl⟩
    exact ⟨_, htwin, fun t => ⟨next?_congr hpatterns, isEvent_congr hpatterns⟩⟩
  · intro pattern field t hmonth
    exact Pattern.accepts_congr fun _ => sameMonthEnd_of_not_leap hmonth _ _
  · intro field t hmonth hday
    apply rejects_beyond_month_end
    show lastDayOfMonth .alwaysShort t.date.year t.month < t.day
    rw [hmonth, hday]
    exact Nat.lt_succ_self 28

/-- A schedule that names the leap day has the same events when February always has 28 days, and
    yet the leap day is not the last of anything then.  The end of March is where it was. -/
theorem february_touches_month_end_only_on_leap_day :
    (∃ schedule twin, parse "0 12 29 2 ?" .leapAware = .ok schedule ∧
      parse "0 12 29 2 ?" .alwaysShort = .ok twin ∧
      ∀ t, twin.next? t = schedule.next? t ∧ twin.isEvent t = schedule.isEvent t) ∧
    (∃ t : DateTime, t.date = ⟨2024, 3, 31⟩ ∧
      Pattern.lastDay.accepts .dayOfMonth .leapAware t =
        Pattern.lastDay.accepts .dayOfMonth .alwaysShort t) ∧
    ∃ t : DateTime, t.date = ⟨2024, 2, 29⟩ ∧
      Pattern.lastDay.accepts .dayOfMonth .alwaysShort t = false ∧
      Pattern.lastWorkday.accepts .dayOfMonth .alwaysShort t = false ∧
      ∀ weekday, (Item.lastWeekday weekday).accepts .dayOfMonth .alwaysShort t = false := by
  obtain ⟨hsearch, hpatterns, hleap⟩ := february_touches_month_end_only
  refine ⟨?_, ?_, ?_⟩
  · have hread : parse "0 12 29 2 ?" .leapAware = .ok ⟨"0 12 29 2 ?", .leapAware,
        [{ minute := .items (.ofList [.value 0])
           hour := .items (.ofList [.value 12])
           dayOfMonth := .items (.ofList [.value 29])
           month := .items (.ofList [.value 2])
           dayOfWeek := .omit
           year := .all }]⟩ := by
      decide +kernel
    obtain ⟨twin, htwin, hsame⟩ := hsearch _ _ _ hread
      (fun expression hmem field => by
        rw [List.mem_singleton.mp hmem]
        cases field <;> decide)
      .alwaysShort
    exact ⟨_, twin, hread, htwin, hsame⟩
  · exact ⟨.startOfDay (Date.toDayNumber ⟨2024, 3, 31⟩), by decide +kernel,
      hpatterns _ _ _ (by decide +kernel)⟩
  · exact ⟨.startOfDay (Date.toDayNumber ⟨2024, 2, 29⟩), by decide +kernel,
      hleap _ _ (by decide +kernel) (by decide +kernel)⟩

end Schedule

end CronSchedule
