import CronSchedule.Proofs.Pattern.Reading

/-!
# What a field may hold

A field is accepted if it is one of the signs that stand alone, where it is a field that
knows the sign, or a list of items between commas, and in no other case.  The grammar gives
every form by its parts, so this rules out whatever the signs inside a part might be mistaken
for.  What is read from a list are its items and nothing else: `Items.Collects` says so of
each kind of item, and determines the pattern.
-/

namespace CronSchedule

/-! ### The items of a list, by kind -/

namespace Items

/-- The items are those of the list, sorted by kind.  Of the values only the set is kept;
    the items of every other kind stay in their order, with repetitions. -/
structure Collects (items : Items) (list : List Item) : Prop where
  values : ∀ value, value ∈ items.values ↔ .value value ∈ list
  ranges : items.ranges.map .range = list.filter (· matches .range _)
  series : items.series.map .series = list.filter (· matches .series _)
  nthWeekdays : items.nthWeekdays.map .nthWeekday = list.filter (· matches .nthWeekday _)
  nearestWorkdays :
    items.nearestWorkdays.map .nearestWorkday = list.filter (· matches .nearestWorkday _)
  lastWeekdays : items.lastWeekdays.map .lastWeekday = list.filter (· matches .lastWeekday _)

/-- If what is picked out of a list is made into items again then the items of that kind
    are left, in their order. -/
theorem map_filterMap_eq_filter {α : Type} {pick : Item → Option α} {make : α → Item}
    {kind : Item → Bool} (h : ∀ item, (pick item).map make = Option.guard kind item)
    (list : List Item) : (list.filterMap pick).map make = list.filter kind := by
  rw [List.map_filterMap, funext h, List.filterMap_eq_filter]

theorem collects_ofList (list : List Item) : (ofList list).Collects list where
  values value := by
    simp only [ofList, ValueSet.mem_ofList, List.mem_filterMap]
    constructor
    · rintro ⟨item, hmem, hvalue⟩
      cases item <;> cases hvalue
      exact hmem
    · intro hmem
      exact ⟨.value value, hmem, rfl⟩
  ranges := map_filterMap_eq_filter (fun item => by cases item <;> rfl) list
  series := map_filterMap_eq_filter (fun item => by cases item <;> rfl) list
  nthWeekdays := map_filterMap_eq_filter (fun item => by cases item <;> rfl) list
  nearestWorkdays := map_filterMap_eq_filter (fun item => by cases item <;> rfl) list
  lastWeekdays := map_filterMap_eq_filter (fun item => by cases item <;> rfl) list

/-- Two collections of one list are the same. -/
theorem Collects.unique {items other : Items} {list : List Item} (h : items.Collects list)
    (h' : other.Collects list) : items = other := by
  have hvalues : items.values = other.values :=
    ValueSet.ext_of_mem fun value => (h.values value).trans (h'.values value).symm
  have hranges : items.ranges = other.ranges :=
    List.map_injective_iff.mpr (fun _ _ => Item.range.inj) (h.ranges.trans h'.ranges.symm)
  have hseries : items.series = other.series :=
    List.map_injective_iff.mpr (fun _ _ => Item.series.inj) (h.series.trans h'.series.symm)
  have hnth : items.nthWeekdays = other.nthWeekdays :=
    List.map_injective_iff.mpr (fun _ _ => Item.nthWeekday.inj)
      (h.nthWeekdays.trans h'.nthWeekdays.symm)
  have hnearest : items.nearestWorkdays = other.nearestWorkdays :=
    List.map_injective_iff.mpr (fun _ _ => Item.nearestWorkday.inj)
      (h.nearestWorkdays.trans h'.nearestWorkdays.symm)
  have hlast : items.lastWeekdays = other.lastWeekdays :=
    List.map_injective_iff.mpr (fun _ _ => Item.lastWeekday.inj)
      (h.lastWeekdays.trans h'.lastWeekdays.symm)
  cases items
  cases other
  simp_all only

theorem collects_iff {items : Items} {list : List Item} :
    items.Collects list ↔ items = ofList list := by
  constructor
  · intro h
    exact h.unique (collects_ofList list)
  · rintro rfl
    exact collects_ofList list

end Items

/-! ### The forms of a field -/

/-- A field as it is looked at: without blanks at the ends and in lower case. -/
def loweredText (text : List Char) : List Char :=
  lowercase (trim text)

namespace Pattern

variable {field : Field} {text : List Char}

theorem read_eq_ok_iff {pattern : Pattern} :
    Pattern.read field text = .ok pattern ↔ Pattern.Spells field (loweredText text) pattern :=
  readLowered_eq_ok_iff

theorem spells_all_iff : Pattern.Spells field text .all ↔ text = ['*'] := by
  constructor
  · intro h
    cases h
    rfl
  · rintro rfl
    exact .all

theorem spells_omit_iff :
    Pattern.Spells field text .omit ↔
      (field = .dayOfMonth ∨ field = .dayOfWeek) ∧ text = ['?'] := by
  constructor
  · intro h
    cases h with
    | «omit» allowed => exact ⟨by simpa [Operator.fields] using allowed, rfl⟩
  · rintro ⟨hfield, rfl⟩
    exact .omit (by simpa [Operator.fields] using hfield)

theorem spells_lastDay_iff :
    Pattern.Spells field text .lastDay ↔
      (field = .dayOfMonth ∨ field = .dayOfWeek) ∧ text = ['l'] := by
  constructor
  · intro h
    cases h with
    | lastDay allowed => exact ⟨by simpa [Operator.fields] using allowed, rfl⟩
  · rintro ⟨hfield, rfl⟩
    exact .lastDay (by simpa [Operator.fields] using hfield)

theorem spells_lastWorkday_iff :
    Pattern.Spells field text .lastWorkday ↔ field = .dayOfMonth ∧ text = ['l', 'w'] := by
  constructor
  · intro h
    cases h with
    | lastWorkday allowed => exact ⟨List.mem_singleton.mp allowed, rfl⟩
  · rintro ⟨rfl, rfl⟩
    exact .lastWorkday (by decide)

theorem spells_items_iff {items : Items} :
    Pattern.Spells field text (.items items) ↔
      ∃ list, List.Forall₂ (Item.Spells field) (text.splitOn ',') list ∧ items.Collects list := by
  constructor
  · intro h
    cases h with
    | @items _ list hlist => exact ⟨list, Items.spells_iff.mp hlist, Items.collects_ofList list⟩
  · rintro ⟨list, hlist, hcollects⟩
    rw [Items.collects_iff.mp hcollects]
    exact .items (Items.spells_iff.mpr hlist)

/-- Something is spelled in just these ways. -/
theorem exists_spells_iff :
    (∃ pattern, Pattern.Spells field text pattern) ↔
      text = ['*'] ∨
      (field = .dayOfMonth ∨ field = .dayOfWeek) ∧ (text = ['?'] ∨ text = ['l']) ∨
      field = .dayOfMonth ∧ text = ['l', 'w'] ∨
      ∃ list, List.Forall₂ (Item.Spells field) (text.splitOn ',') list := by
  constructor
  · rintro ⟨pattern, h⟩
    cases pattern with
    | all => exact .inl (spells_all_iff.mp h)
    | «omit» =>
        obtain ⟨hfield, htext⟩ := spells_omit_iff.mp h
        exact .inr (.inl ⟨hfield, .inl htext⟩)
    | lastDay =>
        obtain ⟨hfield, htext⟩ := spells_lastDay_iff.mp h
        exact .inr (.inl ⟨hfield, .inr htext⟩)
    | lastWorkday => exact .inr (.inr (.inl (spells_lastWorkday_iff.mp h)))
    | items items =>
        obtain ⟨list, hlist, -⟩ := spells_items_iff.mp h
        exact .inr (.inr (.inr ⟨list, hlist⟩))
  · rintro (htext | ⟨hfield, htext | htext⟩ | hworkday | ⟨list, hlist⟩)
    · exact ⟨.all, spells_all_iff.mpr htext⟩
    · exact ⟨.omit, spells_omit_iff.mpr ⟨hfield, htext⟩⟩
    · exact ⟨.lastDay, spells_lastDay_iff.mpr ⟨hfield, htext⟩⟩
    · exact ⟨.lastWorkday, spells_lastWorkday_iff.mpr hworkday⟩
    · exact ⟨.items (.ofList list), spells_items_iff.mpr ⟨list, hlist, Items.collects_ofList list⟩⟩

/-- A field is accepted exactly if, in lower case, it is a star, a question mark or an L
    where days are spoken of, LW in the day of the month, or a list of items; and what is
    read is then the pattern of the sign, or holds the items of the list. -/
theorem read_follows_grammar (field : Field) (text : List Char) :
    ((∃ pattern, Pattern.read field text = .ok pattern) ↔
      loweredText text = ['*'] ∨
      (field = .dayOfMonth ∨ field = .dayOfWeek) ∧
        (loweredText text = ['?'] ∨ loweredText text = ['l']) ∨
      field = .dayOfMonth ∧ loweredText text = ['l', 'w'] ∨
      ∃ list, List.Forall₂ (Item.Spells field) ((loweredText text).splitOn ',') list) ∧
    (Pattern.read field text = .ok .all ↔ loweredText text = ['*']) ∧
    (Pattern.read field text = .ok .omit ↔
      (field = .dayOfMonth ∨ field = .dayOfWeek) ∧ loweredText text = ['?']) ∧
    (Pattern.read field text = .ok .lastDay ↔
      (field = .dayOfMonth ∨ field = .dayOfWeek) ∧ loweredText text = ['l']) ∧
    (Pattern.read field text = .ok .lastWorkday ↔
      field = .dayOfMonth ∧ loweredText text = ['l', 'w']) ∧
    ∀ items, Pattern.read field text = .ok (.items items) ↔
      ∃ list, List.Forall₂ (Item.Spells field) ((loweredText text).splitOn ',') list ∧
        items.Collects list := by
  simp only [read_eq_ok_iff]
  exact ⟨exists_spells_iff, spells_all_iff, spells_omit_iff, spells_lastDay_iff,
    spells_lastWorkday_iff, fun _ => spells_items_iff⟩

/-- Of items that are written twice, in whatever way, a value is kept once and a range and a
    last weekday are kept twice. -/
example : Pattern.read .dayOfWeek "Wed,sat-SUN,5L,3,6-0,+2,5l".toList = .ok (.items
    { values := .ofList [2, 3], ranges := [⟨6, 7⟩, ⟨6, 7⟩], series := [], nthWeekdays := [],
      nearestWorkdays := [], lastWeekdays := [5, 5] }) := by
  decide +kernel

end Pattern

end CronSchedule
