import CronSchedule.Pattern.Grammar
import CronSchedule.Pattern.Parser

/-!
# Texts of values

Names and numerals of values hold letters, digits and a plus sign only, so no sign that
takes a field to pieces occurs in them; and of the letters that are signs too none stands
where it would be mistaken for one.  Reading a value follows the grammar,
`Field.readValue_eq_ok_iff`: the names are told apart, and the one name that is also a
numeral denotes a number out of bounds.
-/

namespace CronSchedule

/-! ### Characters -/

/-- A letter, a digit or a plus sign: all that names and numerals are made of. -/
def isValueChar (c : Char) : Bool :=
  c.isAlphanum || c == '+'

/-- The text holds no sign that takes a part of a field to pieces. -/
def Plain (text : List Char) : Prop :=
  ∀ c ∈ text, isValueChar c

theorem Plain.not_mem {text : List Char} (h : Plain text) {c : Char}
    (hc : isValueChar c = false) : c ∉ text := by
  intro hmem
  rw [h c hmem] at hc
  cases hc

theorem Plain.ne_singleton {text : List Char} (h : Plain text) {c : Char}
    (hc : isValueChar c = false) : text ≠ [c] := by
  rintro rfl
  exact h.not_mem hc List.mem_cons_self

theorem Plain.concat {text : List Char} (h : Plain text) {c : Char} (hc : isValueChar c) :
    Plain (text ++ [c]) := by
  intro d hd
  rcases List.mem_append.mp hd with hd | hd
  · exact h d hd
  · rw [List.mem_singleton.mp hd]
    exact hc

theorem Numeral.Spells.digit_or_plus {text : List Char} {n : Nat} (h : Numeral.Spells text n) :
    ∀ c ∈ text, c.isDigit ∨ c = '+' := by
  obtain ⟨digits, rfl | rfl, -, hdigits, -, -⟩ := h
  · exact fun c hc => .inl (hdigits c hc)
  · intro c hc
    rcases List.mem_cons.mp hc with rfl | hc
    · exact .inr rfl
    · exact .inl (hdigits c hc)

theorem Numeral.Spells.letter_not_mem {text : List Char} {n : Nat} (h : Numeral.Spells text n)
    {c : Char} (hdigit : c.isDigit = false) (hplus : c ≠ '+') : c ∉ text := by
  intro hmem
  rcases h.digit_or_plus c hmem with hc | hc
  · rw [hc] at hdigit
    cases hdigit
  · exact hplus hc

theorem Numeral.Spells.plain {text : List Char} {n : Nat} (h : Numeral.Spells text n) :
    Plain text := by
  intro c hc
  rcases h.digit_or_plus c hc with hdigit | rfl
  · simp [isValueChar, Char.isAlphanum, hdigit]
  · decide

/-! ### Names and numerals -/

namespace Field

variable {field : Field} {text : List Char} {value : Nat}

theorem Spells.plain (h : field.Spells text value) : Plain text := by
  cases h with
  | numeral hnumeral => exact hnumeral.plain
  | @name name value known =>
      have hall : ∀ entry ∈ field.aliases, entry.1.toList.all isValueChar := by
        cases field <;> decide
      exact List.all_eq_true.mp (hall _ known)

theorem Spells.ne_nil (h : field.Spells text value) : text ≠ [] := by
  cases h with
  | numeral hnumeral =>
      obtain ⟨digits, rfl | rfl, hne, -⟩ := hnumeral
      · exact hne
      · exact List.cons_ne_nil _ _
  | @name name value known =>
      have hall : ∀ entry ∈ field.aliases, entry.1.toList ≠ [] := by
        cases field <;> decide
      exact hall _ known

/-- No value is written like the signs for the last day and the last workday. -/
theorem Spells.ne_last (h : field.Spells text value) : text ≠ ['l'] ∧ text ≠ ['l', 'w'] := by
  cases h with
  | numeral hnumeral =>
      have hnot : 'l' ∉ text := hnumeral.letter_not_mem (by decide) (by decide)
      constructor
      · rintro rfl
        exact hnot List.mem_cons_self
      · rintro rfl
        exact hnot List.mem_cons_self
  | @name name value known =>
      have hall : ∀ entry ∈ field.aliases,
          entry.1.toList ≠ ['l'] ∧ entry.1.toList ≠ ['l', 'w'] := by
        cases field <;> decide
      exact hall _ known

/-- Days of the month have no names. -/
theorem Spells.w_not_mem (h : Field.dayOfMonth.Spells text value) : 'w' ∉ text := by
  cases h with
  | name known => cases known
  | numeral hnumeral => exact hnumeral.letter_not_mem (by decide) (by decide)

/-- No name of a weekday ends like the sign for the last one of a month. -/
theorem Spells.getLast?_ne_l (h : Field.dayOfWeek.Spells text value) :
    text.getLast? ≠ some 'l' := by
  cases h with
  | numeral hnumeral =>
      intro hlast
      exact hnumeral.letter_not_mem (by decide) (by decide) (List.mem_of_getLast? hlast)
  | @name name value known =>
      have hall : ∀ entry ∈ Field.dayOfWeek.aliases, entry.1.toList.getLast? ≠ some 'l' := by
        decide
      exact hall _ known

theorem least_le_greatest (field : Field) : field.least ≤ field.greatest := by
  cases field <;> decide

theorem Spells.bounds (h : field.Spells text value) :
    field.least ≤ value ∧ value ≤ field.greatest := by
  cases h with
  | numeral _ least greatest => exact ⟨least, greatest⟩
  | @name name value known =>
      have hall : ∀ entry ∈ field.aliases,
          field.least ≤ entry.2 ∧ entry.2 ≤ field.greatest := by
        cases field <;> decide
      exact hall _ known

/-- A value is read exactly as the grammar has it: names are told apart, and the one name
    that is also a numeral denotes a number out of bounds. -/
theorem readValue_eq_ok_iff : field.readValue text = .ok value ↔ field.Spells text value := by
  constructor
  · intro h
    unfold readValue at h
    split at h
    · rename_i entry hfound
      cases h
      have hname : entry.1.toList = text := by
        simpa using List.find?_some hfound
      rw [← hname]
      exact .name (List.mem_of_find?_eq_some hfound)
    · split at h
      · cases h
      · rename_i n hread
        split at h
        · rename_i hbounds
          cases h
          exact .numeral (Numeral.read?_eq_some_iff.mp hread) hbounds.1 hbounds.2
        · cases h
  · intro h
    unfold readValue
    cases h with
    | @name name value known =>
        have hall : ∀ entry ∈ field.aliases,
            field.aliases.find? (fun other => other.1.toList == entry.1.toList) = some entry := by
          cases field <;> decide
        rw [hall _ known]
    | numeral hnumeral least greatest =>
        have hread := Numeral.read?_eq_some_iff.mpr hnumeral
        have hnone : field.aliases.find? (fun entry => entry.1.toList == text) = none := by
          have hall : ∀ entry ∈ field.aliases, ∀ n ∈ Numeral.read? entry.1.toList,
              field.greatest < n := by
            cases field <;> decide
          rw [List.find?_eq_none]
          intro entry hentry hname
          have hsame : entry.1.toList = text := by
            simpa using hname
          exact absurd greatest (Nat.not_le.mpr (hall entry hentry value (hsame ▸ hread)))
        rw [hnone, hread]
        exact if_pos ⟨least, greatest⟩

end Field

end CronSchedule
