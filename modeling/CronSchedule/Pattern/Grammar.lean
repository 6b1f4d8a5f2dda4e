import CronSchedule.Error
import CronSchedule.Pattern.Basic

/-!
# The grammar of a field

How patterns may be written, as a relation between texts in lower case and what
they stand for.  It says nothing about how a text is taken apart: each form is
given by its parts, and a list by its items between commas.
-/

namespace CronSchedule

/-- The text stands for a value of the field: it is the name of one, or a numeral
    of a number within the bounds. -/
inductive Field.Spells (field : Field) : List Char → Nat → Prop
  | name {name : String} {value : Nat} (known : (name, value) ∈ field.aliases) :
      Spells field name.toList value
  | numeral {text : List Char} {value : Nat} (numeral : Numeral.Spells text value)
      (least : field.least ≤ value) (greatest : value ≤ field.greatest) :
      Spells field text value

/-- The text `a-b` stands for a range.  A range of weekdays to Sunday goes to the end of the
    week, and has Sunday for its seventh day. -/
inductive Range.Spells (field : Field) : List Char → Range → Prop
  | plain {low high : List Char} {first last : Nat} (lowSpells : field.Spells low first)
      (highSpells : field.Spells high last) (ordered : first ≤ last)
      (other : ¬ (field = .dayOfWeek ∧ last = 0)) :
      Spells field (low ++ '-' :: high) ⟨first, last⟩
  | toSunday {low high : List Char} {first : Nat} (week : field = .dayOfWeek)
      (lowSpells : field.Spells low first) (highSpells : field.Spells high 0) :
      Spells field (low ++ '-' :: high) ⟨first, 7⟩

/-- The text stands for the values that a series runs over. -/
inductive Series.SpellsBase (field : Field) : List Char → Range → Prop
  | star : SpellsBase field ['*'] ⟨field.least, field.greatest⟩
  | openEnd {text : List Char} {first : Nat} (spells : field.Spells text first) :
      SpellsBase field text ⟨first, field.greatest⟩
  | range {text : List Char} {range : Range} (spells : range.Spells field text) :
      SpellsBase field text range

/-- The text is an item of a list. -/
inductive Item.Spells (field : Field) : List Char → Item → Prop
  | value {text : List Char} {value : Nat} (spells : field.Spells text value) :
      Spells field text (.value value)
  | range {text : List Char} {range : Range} (spells : Range.Spells field text range) :
      Spells field text (.range range)
  | series {base stride : List Char} {range : Range} {n : Nat}
      (baseSpells : Series.SpellsBase field base range) (strideSpells : Numeral.Spells stride n)
      (positive : 1 ≤ n) (bounded : n ≤ field.greatest) :
      Spells field (base ++ '/' :: stride) (.series ⟨range.first, range.last, n⟩)
  | nthWeekday {weekday count : List Char} {day n : Nat} (allowed : field = .dayOfWeek)
      (weekdaySpells : field.Spells weekday day) (countSpells : Numeral.Spells count n)
      (positive : 1 ≤ n) (bounded : n ≤ 5) :
      Spells field (weekday ++ '#' :: count) (.nthWeekday ⟨day, n⟩)
  | nearestWorkday {text : List Char} {day : Nat} (allowed : field = .dayOfMonth)
      (spells : field.Spells text day) :
      Spells field (text ++ ['w']) (.nearestWorkday day)
  | lastWeekday {text : List Char} {weekday : Nat} (allowed : field = .dayOfWeek)
      (spells : field.Spells text weekday) :
      Spells field (text ++ ['l']) (.lastWeekday weekday)

/-- The text is a list of items, with commas between them. -/
inductive Items.Spells (field : Field) : List Char → List Item → Prop
  | single {text : List Char} {item : Item} (spells : Item.Spells field text item) :
      Spells field text [item]
  | cons {text rest : List Char} {item : Item} {items : List Item}
      (spells : Item.Spells field text item) (more : Items.Spells field rest items) :
      Spells field (text ++ ',' :: rest) (item :: items)

/-- The text is a pattern of the field. -/
inductive Pattern.Spells (field : Field) : List Char → Pattern → Prop
  | all : Spells field ['*'] .all
  | omit (allowed : field ∈ Operator.question.fields) : Spells field ['?'] .omit
  | lastDay (allowed : field ∈ Operator.last.fields) : Spells field ['l'] .lastDay
  | lastWorkday (allowed : field ∈ Operator.lastWorkday.fields) :
      Spells field ['l', 'w'] .lastWorkday
  | items {text : List Char} {list : List Item} (spells : Items.Spells field text list) :
      Spells field text (.items (.ofList list))

end CronSchedule
