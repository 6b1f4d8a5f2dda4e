/-!
# Numerals

The numbers of a schedule are written in decimal and fit into sixteen bits.  A
numeral is a run of ASCII digits, any number of leading zeros among them, after
at most one plus sign.  A larger number is no numeral at all, so a caller can
tell "not a number" from "a number out of bounds".
-/

namespace CronSchedule.Numeral

/-- The largest number with a numeral. -/
def greatest : Nat := 65535

/-- The text without one leading plus sign. -/
def unsigned : List Char → List Char
  | '+' :: rest => rest
  | text => text

/-- The number that a text denotes, if it is a numeral. -/
def read? (text : List Char) : Option Nat :=
  let digits := unsigned text
  if digits ≠ [] ∧ digits.all Char.isDigit ∧ Nat.ofDigitChars 10 digits 0 ≤ greatest then
    some (Nat.ofDigitChars 10 digits 0)
  else
    none

/-- The text is a numeral of the number. -/
def Spells (text : List Char) (n : Nat) : Prop :=
  ∃ digits, (text = digits ∨ text = '+' :: digits) ∧ digits ≠ [] ∧
    (∀ c ∈ digits, c.isDigit) ∧ Nat.ofDigitChars 10 digits 0 = n ∧ n ≤ greatest

/-- The decimal digits of a number, without leading zeros. -/
def write (n : Nat) : List Char :=
  Nat.toDigits 10 n

/-- A written number consists of digits. -/
theorem isDigit_of_mem_write {n : Nat} {c : Char} (h : c ∈ write n) : c.isDigit :=
  Nat.isDigit_of_mem_toDigits (by decide) (by decide) h

/-- A written number has a digit. -/
theorem write_ne_nil (n : Nat) : write n ≠ [] :=
  Nat.toDigits_ne_nil

/-- A text of digits has no sign to lose. -/
theorem unsigned_eq_self {text : List Char} (h : ∀ c ∈ text, c.isDigit) :
    unsigned text = text := by
  unfold unsigned
  split
  · exact absurd (h '+' (by simp)) (by decide)
  · rfl

/-- A text is read as the number of which it is a numeral. -/
theorem read?_eq_some_iff {text : List Char} {n : Nat} :
    read? text = some n ↔ Spells text n := by
  simp only [read?]
  constructor
  · intro h
    split at h
    · rename_i hdigits
      refine ⟨unsigned text, ?_, hdigits.1, List.all_eq_true.mp hdigits.2.1, ?_, ?_⟩
      · unfold unsigned
        split
        · exact Or.inr rfl
        · exact Or.inl rfl
      · exact Option.some.inj h
      · exact Option.some.inj h ▸ hdigits.2.2
    · simp at h
  · rintro ⟨digits, htext, hne, hdigits, rfl, hgreatest⟩
    have hunsigned : unsigned text = digits := by
      rcases htext with rfl | rfl
      · exact unsigned_eq_self hdigits
      · rfl
    rw [hunsigned, if_pos ⟨hne, List.all_eq_true.mpr hdigits, hgreatest⟩]

/-- A written number is a numeral. -/
theorem spells_write {n : Nat} (h : n ≤ greatest) : Spells (write n) n :=
  ⟨write n, Or.inl rfl, write_ne_nil n, fun _ => isDigit_of_mem_write,
    Nat.ofDigitChars_ten_toDigits, h⟩

/-- Reading undoes writing. -/
theorem read?_write {n : Nat} (h : n ≤ greatest) : read? (write n) = some n :=
  read?_eq_some_iff.mpr (spells_write h)

end CronSchedule.Numeral
