import CronSchedule.Text.CaseTable
import CronSchedule.Text.Ranges

/-!
# Lower case

Fields are read without regard to case, and an error shows the lower-case form
of the text it is about, so lowering has to be right for every character.  Two
letters need more than a table: the dotted capital I lowers to an i and a
combining dot, and a capital sigma at the end of a word lowers to the final
form.
-/

namespace CronSchedule

/-- The character is transparent in the search for the letters of a word. -/
def isCaseIgnorable (c : Char) : Bool :=
  inRanges caseIgnorableRanges c.toNat

/-- The character is a letter with a case. -/
def isCased (c : Char) : Bool :=
  inRanges casedRanges c.toNat

/-- The first character that is not transparent is a letter. -/
def beginsWithLetter (text : List Char) : Bool :=
  match text.dropWhile isCaseIgnorable with
  | [] => false
  | c :: _ => isCased c

/-- The small form of a character on its own. -/
def lowerChar (c : Char) : List Char :=
  if c.toNat < 128 then
    [c.toLower]
  else if c.toNat = 0x0130 then
    ['i', Char.ofNat 0x0307]
  else
    match lowercaseRuns.find? (·.covers c.toNat) with
    | some run => [Char.ofNat (run.apply c.toNat)]
    | none => [c]

/-- The small form of a character between the text `before` it, last character
    first, and the text `after` it.  A capital sigma is final if a letter comes
    before it and none after it. -/
def lowerBetween (before : List Char) (c : Char) (after : List Char) : List Char :=
  if c.toNat = 0x03A3 then
    if beginsWithLetter before && !beginsWithLetter after then
      [Char.ofNat 0x03C2]
    else
      [Char.ofNat 0x03C3]
  else
    lowerChar c

/-- The small form of a text that follows the text `before`, which is given last
    character first. -/
def lowerAfter (before : List Char) : List Char → List Char
  | [] => []
  | c :: after => lowerBetween before c after ++ lowerAfter (c :: before) after

/-- The small form of a text. -/
def lowercase (text : List Char) : List Char :=
  lowerAfter [] text

/-! ### ASCII texts -/

/-- On an ASCII character only the letters A to Z change. -/
theorem lowerBetween_of_ascii {before after : List Char} {c : Char} (h : c.toNat < 128) :
    lowerBetween before c after = [c.toLower] := by
  simp [lowerBetween, lowerChar, h, show c.toNat ≠ 0x03A3 by omega]

/-- An ASCII text is lowered character by character, whatever comes before it. -/
theorem lowerAfter_of_ascii {before text : List Char} (h : ∀ c ∈ text, c.toNat < 128) :
    lowerAfter before text = text.map Char.toLower := by
  induction text generalizing before with
  | nil => rfl
  | cons c rest ih =>
      have hc : c.toNat < 128 := h c (by simp)
      have hrest : ∀ d ∈ rest, d.toNat < 128 := fun d hd => h d (by simp [hd])
      simp [lowerAfter, lowerBetween_of_ascii hc, ih hrest]

/-- An ASCII text is lowered character by character. -/
theorem lowercase_of_ascii {text : List Char} (h : ∀ c ∈ text, c.toNat < 128) :
    lowercase text = text.map Char.toLower :=
  lowerAfter_of_ascii h

end CronSchedule
