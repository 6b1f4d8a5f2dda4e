import CronSchedule.Proofs.Expression.Reading
import CronSchedule.Proofs.Schedule.Reading

/-!
# Well-formed patterns

What is read from a text is more than any pattern: the values of an item lie
within the bounds of its field, a series has a stride, and the items that pick days
out of a month stand only where days are spoken of.  The search relies on all of
this.  Whatever the grammar spells keeps these promises, `Pattern.Spells.wellFormed`, and
so does every schedule that was read, `Schedule.wellFormed_of_parse`.
-/

namespace CronSchedule

open Outcome

/-! ### The promises -/

/-- The greatest value at which a range of the field may end. -/
def Field.greatestEnd (field : Field) : Nat :=
  if field = .dayOfWeek then 7 else field.greatest

/-- The range starts at a value of the field and does not end before it starts. -/
structure Range.WellFormed (field : Field) (range : Range) : Prop where
  least : field.least ≤ range.first
  greatest : range.first ≤ field.greatest
  ordered : range.first ≤ range.last
  bounded : range.last ≤ field.greatestEnd

/-- The item may stand in a list of the field. -/
def Item.WellFormed (field : Field) : Item → Prop
  | .value v => field.least ≤ v ∧ v ≤ field.greatest
  | .range r => r.WellFormed field
  | .series s => Range.WellFormed field ⟨s.first, s.last⟩ ∧ 1 ≤ s.stride ∧ s.stride ≤ field.greatest
  | .nthWeekday n => field = .dayOfWeek ∧ n.weekday ≤ 6 ∧ 1 ≤ n.count ∧ n.count ≤ 5
  | .nearestWorkday day => field = .dayOfMonth ∧ 1 ≤ day ∧ day ≤ 31
  | .lastWeekday weekday => field = .dayOfWeek ∧ weekday ≤ 6

/-- The pattern may stand in the field. -/
def Pattern.WellFormed (field : Field) : Pattern → Prop
  | .all => True
  | .omit => field = .second ∨ field = .dayOfMonth ∨ field = .dayOfWeek
  | .lastDay => field = .dayOfMonth ∨ field = .dayOfWeek
  | .lastWorkday => field = .dayOfMonth
  | .items list => list.toList ≠ [] ∧ ∀ item ∈ list.toList, item.WellFormed field

/-- Every pattern may stand in its field. -/
def Expression.WellFormed (expression : Expression) : Prop :=
  ∀ field, (expression.pattern field).WellFormed field

def Schedule.WellFormed (schedule : Schedule) : Prop :=
  ∀ expression ∈ schedule.alternatives, expression.WellFormed

/-! ### Values and ranges -/

theorem Field.greatest_le_greatestEnd (field : Field) : field.greatest ≤ field.greatestEnd := by
  cases field <;> decide

variable {field : Field} {text : List Char}

theorem Range.Spells.wellFormed {range : Range} (h : Range.Spells field text range) :
    range.WellFormed field := by
  cases h with
  | plain hlow hhigh hordered _ =>
      exact ⟨hlow.bounds.1, hlow.bounds.2, hordered,
        Nat.le_trans hhigh.bounds.2 field.greatest_le_greatestEnd⟩
  | toSunday hweek hlow _ =>
      subst hweek
      have hfirst := hlow.bounds.2
      exact ⟨hlow.bounds.1, hfirst, Nat.le_succ_of_le hfirst, Nat.le_refl 7⟩

theorem Series.SpellsBase.wellFormed {range : Range} (h : Series.SpellsBase field text range) :
    range.WellFormed field := by
  cases h with
  | star =>
      exact ⟨Nat.le_refl _, field.least_le_greatest, field.least_le_greatest,
        field.greatest_le_greatestEnd⟩
  | openEnd hspells =>
      exact ⟨hspells.bounds.1, hspells.bounds.2, hspells.bounds.2, field.greatest_le_greatestEnd⟩
  | range hspells => exact hspells.wellFormed

/-! ### Items and patterns -/

theorem Item.Spells.wellFormed {item : Item} (h : Item.Spells field text item) :
    item.WellFormed field := by
  cases h with
  | value hspells => exact hspells.bounds
  | range hspells => exact hspells.wellFormed
  | series hbase _ hpositive hbounded => exact ⟨hbase.wellFormed, hpositive, hbounded⟩
  | nthWeekday allowed hweekday _ hpositive hbounded =>
      subst allowed
      exact ⟨rfl, hweekday.bounds.2, hpositive, hbounded⟩
  | nearestWorkday allowed hspells =>
      subst allowed
      exact ⟨rfl, hspells.bounds⟩
  | lastWeekday allowed hspells =>
      subst allowed
      exact ⟨rfl, hspells.bounds.2⟩

theorem Pattern.Spells.wellFormed {pattern : Pattern} (h : Pattern.Spells field text pattern) :
    pattern.WellFormed field := by
  cases h with
  | all => trivial
  | «omit» allowed =>
      right
      simpa [Operator.fields] using allowed
  | lastDay allowed => simpa [Pattern.WellFormed, Operator.fields] using allowed
  | lastWorkday allowed => exact List.mem_singleton.mp allowed
  | items hlist =>
      obtain ⟨hne, hitems⟩ := hlist.spells_of_mem_toList
      refine ⟨hne, fun item hmem => ?_⟩
      obtain ⟨part, hitem⟩ := hitems item hmem
      exact hitem.wellFormed

/-! ### Expressions -/

theorem Expression.Spelled.wellFormed {expression : Expression} (h : expression.Spelled) :
    expression.WellFormed := by
  intro field
  by_cases hfield : field ∈ Field.written
  · obtain ⟨text, hspells⟩ := h field hfield
    exact hspells.wellFormed
  · -- the seconds are the one field that cannot be written
    cases field with
    | second => exact .inl rfl
    | _ => exact absurd (by decide) hfield

theorem Expression.wellFormed_of_read {expression : Expression}
    (h : Expression.read text = .ok expression) : expression.WellFormed :=
  (Expression.spelled_of_read h).wellFormed

/-! ### The lists of an expression -/

/-- What the items of the field hold, list by list. -/
structure Items.InBounds (field : Field) (items : Items) : Prop where
  nonempty : items.toList ≠ []
  values : ∀ v ∈ items.values, field.least ≤ v ∧ v ≤ field.greatest
  ranges : ∀ r ∈ items.ranges, r.WellFormed field
  series : ∀ s ∈ items.series,
    Range.WellFormed field ⟨s.first, s.last⟩ ∧ 1 ≤ s.stride ∧ s.stride ≤ field.greatest
  nthWeekdays : ∀ n ∈ items.nthWeekdays,
    field = .dayOfWeek ∧ n.weekday ≤ 6 ∧ 1 ≤ n.count ∧ n.count ≤ 5
  nearestWorkdays : ∀ day ∈ items.nearestWorkdays, field = .dayOfMonth ∧ 1 ≤ day ∧ day ≤ 31
  lastWeekdays : ∀ weekday ∈ items.lastWeekdays, field = .dayOfWeek ∧ weekday ≤ 6

theorem Items.inBounds_of_wellFormed {items : Items}
    (h : (Pattern.items items).WellFormed field) : items.InBounds field := by
  obtain ⟨hne, hall⟩ := h
  exact
    { nonempty := hne
      values := fun v hv => hall (.value v) (by simp [Items.toList, ValueSet.mem_toList, hv])
      ranges := fun r hr => hall (.range r) (by simp [Items.toList, hr])
      series := fun s hs => hall (.series s) (by simp [Items.toList, hs])
      nthWeekdays := fun n hn => hall (.nthWeekday n) (by simp [Items.toList, hn])
      nearestWorkdays := fun d hd => hall (.nearestWorkday d) (by simp [Items.toList, hd])
      lastWeekdays := fun d hd => hall (.lastWeekday d) (by simp [Items.toList, hd]) }

/-- In an expression that was read the seconds stand for the start of the minute, the signs
    that have to stand alone are in fields that know them, and every list has an item and
    only such items as its field may hold, with all numbers within their bounds. -/
theorem Expression.parse_keeps_bounds {text : String} {expression : Expression}
    (h : Expression.parse text = .ok expression) :
    expression.pattern .second = .omit ∧
      ∀ field, (expression.pattern field = .omit → field ∈ [Field.second, .dayOfMonth, .dayOfWeek]) ∧
        (expression.pattern field = .lastDay → field ∈ [Field.dayOfMonth, .dayOfWeek]) ∧
        (expression.pattern field = .lastWorkday → field = .dayOfMonth) ∧
        ∀ items, expression.pattern field = .items items → items.InBounds field := by
  have hwf := Expression.wellFormed_of_read (Expression.parse_eq_ok_iff.mp h)
  refine ⟨rfl, fun field => ?_⟩
  have hfield := hwf field
  refine ⟨fun hpattern => ?_, fun hpattern => ?_, fun hpattern => ?_, fun items hpattern => ?_⟩
  · rw [hpattern] at hfield
    simpa [Pattern.WellFormed] using hfield
  · rw [hpattern] at hfield
    simpa [Pattern.WellFormed] using hfield
  · rw [hpattern] at hfield
    exact hfield
  · rw [hpattern] at hfield
    exact Items.inBounds_of_wellFormed hfield

/-- The longest strides that there are, and a range of weekdays from one Sunday to the next. -/
theorem Expression.parse_keeps_bounds_from_sunday_to_sunday :
    ∃ expression, Expression.parse "*/59 7/23 31W,1W 12 7,0-0,1-7/6,6#5,7L 2099" = .ok expression ∧
      expression.pattern .second = .omit ∧
      ∃ items, expression.pattern .dayOfWeek = .items items ∧ ⟨0, 7⟩ ∈ items.ranges ∧
        items.InBounds .dayOfWeek := by
  have hread : Expression.parse "*/59 7/23 31W,1W 12 7,0-0,1-7/6,6#5,7L 2099" = .ok
      { minute := .items (.ofList [.series ⟨0, 59, 59⟩])
        hour := .items (.ofList [.series ⟨7, 23, 23⟩])
        dayOfMonth := .items (.ofList [.nearestWorkday 31, .nearestWorkday 1])
        month := .items (.ofList [.value 12])
        dayOfWeek := .items (.ofList [.value 0, .range ⟨0, 7⟩, .series ⟨1, 7, 6⟩,
          .nthWeekday ⟨6, 5⟩, .lastWeekday 0])
        year := .items (.ofList [.value 2099]) } := by
    decide +kernel
  obtain ⟨hsecond, hfields⟩ := parse_keeps_bounds hread
  exact ⟨_, hread, hsecond, _, rfl, by decide, (hfields .dayOfWeek).2.2.2 _ rfl⟩

/-! ### Schedules -/

theorem Schedule.wellFormed_of_readAlternatives {text : List Char} {alternatives : List Expression}
    (h : Schedule.readAlternatives text = .ok alternatives) :
    ∀ expression ∈ alternatives, expression.WellFormed := by
  unfold Schedule.readAlternatives at h
  split at h
  · cases h
  · intro expression hmem
    obtain ⟨part, -, hread⟩ := (mem_of_mapM_iff h).mp hmem
    exact Expression.wellFormed_of_read hread

theorem Schedule.wellFormed_of_parse {text : String} {february : February} {schedule : Schedule}
    (h : Schedule.parse text february = .ok schedule) : schedule.WellFormed :=
  Schedule.wellFormed_of_readAlternatives (Schedule.parse_eq_ok_iff.mp h).1

end CronSchedule
