import CronSchedule.Pattern.ValueSet

/-!
# Patterns

A field holds one pattern: a sign that stands alone, or a list of items.  The
items are kept by kind: single values as a set, all others in the order in which
they were written, with repetitions.  Patterns are ordered by the order of their
constructors, then by their items kind by kind.
-/

namespace CronSchedule

/-- The values from `first` to `last`.  A range of weekdays that ends with Sunday
    ends with 7. -/
structure Range where
  first : Nat
  last : Nat
deriving DecidableEq, Ord, Repr

/-- Every `stride`-th value from `first` on, up to `last`. -/
structure Series where
  first : Nat
  last : Nat
  stride : Nat
deriving DecidableEq, Ord, Repr

/-- The `count`-th day of the month that is the given weekday. -/
structure NthWeekday where
  weekday : Nat
  count : Nat
deriving DecidableEq, Ord, Repr

/-- One item of a list. -/
inductive Item where
  | value (value : Nat)
  | range (range : Range)
  | series (series : Series)
  | nthWeekday (nth : NthWeekday)
  /-- The workday nearest to a day of the month. -/
  | nearestWorkday (day : Nat)
  /-- The last day of the month that is the given weekday. -/
  | lastWeekday (weekday : Nat)
deriving DecidableEq, Repr

/-- The items of a list, by kind. -/
structure Items where
  values : ValueSet
  ranges : List Range
  series : List Series
  nthWeekdays : List NthWeekday
  nearestWorkdays : List Nat
  lastWeekdays : List Nat
deriving DecidableEq, Ord, Repr

/-- The pattern of a field. -/
inductive Pattern where
  /-- Every value. -/
  | all
  /-- No condition.  For seconds it still means the start of the minute. -/
  | omit
  /-- The last day of the month. -/
  | lastDay
  /-- The last workday of the month. -/
  | lastWorkday
  /-- Any of the items. -/
  | items (items : Items)
deriving DecidableEq, Ord, Repr

namespace Items

/-- The items of a list, by kind. -/
def ofList (list : List Item) : Items where
  values := .ofList (list.filterMap fun | .value v => some v | _ => none)
  ranges := list.filterMap fun | .range r => some r | _ => none
  series := list.filterMap fun | .series s => some s | _ => none
  nthWeekdays := list.filterMap fun | .nthWeekday n => some n | _ => none
  nearestWorkdays := list.filterMap fun | .nearestWorkday d => some d | _ => none
  lastWeekdays := list.filterMap fun | .lastWeekday d => some d | _ => none

/-- All items, the kinds in their order. -/
def toList (items : Items) : List Item :=
  items.values.toList.map .value ++ (items.ranges.map .range ++ (items.series.map .series ++
    (items.nthWeekdays.map .nthWeekday ++ (items.nearestWorkdays.map .nearestWorkday ++
    items.lastWeekdays.map .lastWeekday))))

/-- Sorting the items by kind again changes nothing. -/
theorem ofList_toList (items : Items) : ofList items.toList = items := by
  have hnone : ∀ {α β : Type} (l : List α), l.filterMap (fun _ => (none : Option β)) = [] := by
    intro α β l
    induction l <;> simp_all
  have hmap : ∀ {α β γ : Type} (f : β → Option γ) (g : α → β) (l : List α),
      (l.map g).filterMap f = l.filterMap fun a => f (g a) := fun _ _ _ => List.filterMap_map
  cases items
  simp [ofList, toList, List.filterMap_append, -List.filterMap_map, hmap, hnone,
    ValueSet.ofList_toList]

end Items

end CronSchedule
