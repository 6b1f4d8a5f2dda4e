import CronSchedule.Pattern.Basic
import CronSchedule.Text.Numeral

/-!
# Writing a pattern

The canonical form of a pattern: numbers instead of names, both ends of every
range and series, the items in the order of their kinds.
-/

namespace CronSchedule

/-- The canonical form of an item. -/
def Item.write : Item → List Char
  | .value v => Numeral.write v
  | .range r => Numeral.write r.first ++ '-' :: Numeral.write r.last
  | .series s =>
      Numeral.write s.first ++ '-' :: Numeral.write s.last ++ '/' :: Numeral.write s.stride
  | .nthWeekday n => Numeral.write n.weekday ++ '#' :: Numeral.write n.count
  | .nearestWorkday day => Numeral.write day ++ ['W']
  | .lastWeekday weekday => Numeral.write weekday ++ ['L']

/-- The canonical form of a pattern. -/
def Pattern.write : Pattern → List Char
  | .all => ['*']
  | .omit => ['?']
  | .lastDay => ['L']
  | .lastWorkday => ['L', 'W']
  | .items list => [','].intercalate (list.toList.map Item.write)

end CronSchedule
