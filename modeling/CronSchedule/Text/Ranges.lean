/-!
# Classes of characters

A class of characters is given by the closed intervals of its code points.
-/

namespace CronSchedule

/-- The code point `n` lies in one of the closed intervals. -/
def inRanges (ranges : List (Nat × Nat)) (n : Nat) : Bool :=
  ranges.any fun range => range.1 ≤ n && n ≤ range.2

end CronSchedule
