import CronSchedule.Text.Ranges

/-!
# Blank space and the pieces of a text

A schedule is written as words between blanks, and a word as items between
separators.  Texts are lists of characters here, so that every cut is a plain
list operation.  Blank means the Unicode property `White_Space`: the
no-break space and the ideographic space count, the zero-width space and the
byte order mark do not.
-/

namespace CronSchedule

/-! ### Blanks -/

/-- The code points with the property `White_Space`. -/
def blankRanges : List (Nat × Nat) :=
  [(0x0009, 0x000D), (0x0020, 0x0020), (0x0085, 0x0085), (0x00A0, 0x00A0),
   (0x1680, 0x1680), (0x2000, 0x200A), (0x2028, 0x2029), (0x202F, 0x202F),
   (0x205F, 0x205F), (0x3000, 0x3000)]

/-- The character is blank space. -/
def isBlank (c : Char) : Bool :=
  inRanges blankRanges c.toNat

/-- A text without the blanks at its two ends. -/
def trim (text : List Char) : List Char :=
  ((text.dropWhile isBlank).reverse.dropWhile isBlank).reverse

/-- The words of a text: its longest runs without a blank. -/
def words (text : List Char) : List (List Char) :=
  (text.splitOnP isBlank).filter fun word => !word.isEmpty

/-! ### Separators -/

/-- Cut a text at the first `separator`, which goes with neither half; `none`
    if the text has no separator. -/
def cut? (separator : Char) : List Char → Option (List Char × List Char)
  | [] => none
  | c :: rest =>
      if c = separator then some ([], rest)
      else (cut? separator rest).map fun (left, right) => (c :: left, right)

/-- A text can be cut exactly where it has a separator. -/
theorem cut?_eq_some_iff {separator : Char} {text left right : List Char} :
    cut? separator text = some (left, right) ↔
      text = left ++ separator :: right ∧ separator ∉ left := by
  induction text generalizing left with
  | nil => simp [cut?]
  | cons c rest ih =>
      by_cases heq : c = separator
      · subst heq
        cases left with
        | nil => simp [cut?, eq_comm]
        | cons d left => simp +contextual [cut?, eq_comm]
      · cases left with
        | nil => simp [cut?, heq]
        | cons d left =>
            simp only [cut?, heq, if_false, Option.map_eq_some_iff, Prod.exists,
              Prod.mk.injEq, List.cons.injEq, List.cons_append, List.mem_cons,
              not_or]
            constructor
            · rintro ⟨l, r, hcut, ⟨rfl, rfl⟩, rfl⟩
              exact ⟨⟨rfl, (ih.mp hcut).1⟩, fun h => heq h.symm, (ih.mp hcut).2⟩
            · rintro ⟨⟨rfl, hrest⟩, -, hleft⟩
              exact ⟨left, right, ih.mpr ⟨hrest, hleft⟩, ⟨rfl, rfl⟩, rfl⟩

/-- Only a text without the separator cannot be cut. -/
theorem cut?_eq_none_iff {separator : Char} {text : List Char} :
    cut? separator text = none ↔ separator ∉ text := by
  induction text with
  | nil => simp [cut?]
  | cons c rest ih =>
      by_cases heq : c = separator
      · simp [cut?, heq]
      · simp only [cut?, heq, if_false, Option.map_eq_none_iff, ih, List.mem_cons, not_or]
        exact ⟨fun h => ⟨fun e => heq e.symm, h⟩, fun h => h.2⟩

end CronSchedule
