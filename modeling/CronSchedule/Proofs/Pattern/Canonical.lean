import CronSchedule.Pattern.Printer
import CronSchedule.Proofs.Pattern.Reading
import CronSchedule.Proofs.Text.Words

/-!
# The canonical form of a pattern

A pattern is written with numerals in place of names and with both ends of every range
and series.  If some text spells a pattern then its canonical form, in lower case, spells
it too (`Pattern.Spells.write`), and therefore reads back as the pattern.  Two of the
conventions of reading have to be met for this: a range of weekdays ends with 7 where it
was read to end with Sunday, and 7 is read as Sunday again; and a series without an end
is written with the greatest value of the field, at which a range may end.
-/

namespace CronSchedule

/-! ### Characters -/

/-- All that canonical forms are made of: digits, and the signs between them. -/
def canonicalChars : List Char :=
  ['0', '1', '2', '3', '4', '5', '6', '7', '8', '9', '-', '/', '#', ',', 'W', 'L', '*', '?']

/-- The text is made of the characters of canonical forms. -/
def Canonical (text : List Char) : Prop :=
  ∀ c ∈ text, c ∈ canonicalChars

instance (text : List Char) : Decidable (Canonical text) :=
  List.decidableBAll (· ∈ canonicalChars) text

theorem Canonical.append {left right : List Char} (hleft : Canonical left)
    (hright : Canonical right) : Canonical (left ++ right) := by
  intro c hc
  rcases List.mem_append.mp hc with hc | hc
  · exact hleft c hc
  · exact hright c hc

theorem Canonical.cons {text : List Char} {c : Char} (hc : c ∈ canonicalChars)
    (h : Canonical text) : Canonical (c :: text) := by
  intro d hd
  rcases List.mem_cons.mp hd with rfl | hd
  · exact hc
  · exact h d hd

theorem Canonical.not_isBlank {text : List Char} (h : Canonical text) :
    ∀ c ∈ text, isBlank c = false := by
  have hall : canonicalChars.all fun c => !isBlank c := by decide
  intro c hc
  simpa using List.all_eq_true.mp hall c (h c hc)

/-- Canonical forms are written in ASCII, so lowering goes character by character. -/
theorem Canonical.lowercase_eq {text : List Char} (h : Canonical text) :
    lowercase text = text.map Char.toLower := by
  have hall : canonicalChars.all fun c => c.toNat < 128 := by decide
  apply lowercase_of_ascii
  intro c hc
  simpa using List.all_eq_true.mp hall c (h c hc)

theorem mem_canonicalChars_of_isDigit {c : Char} (h : c.isDigit) : c ∈ canonicalChars := by
  have hall : ∀ n : Fin 10, Char.ofNat (48 + n) ∈ canonicalChars := by decide
  simp only [Char.isDigit, Bool.and_eq_true, decide_eq_true_eq, UInt32.le_iff_toNat_le] at h
  obtain ⟨hzero, hnine⟩ := h
  have hlow : 48 ≤ c.toNat := hzero
  have hhigh : c.toNat ≤ 57 := hnine
  have hc := hall ⟨c.toNat - 48, by omega⟩
  dsimp only at hc
  rwa [Nat.add_sub_cancel' hlow, Char.ofNat_toNat] at hc

namespace Numeral

theorem canonical_write (n : Nat) : Canonical (write n) :=
  fun _ hc => mem_canonicalChars_of_isDigit (isDigit_of_mem_write hc)

theorem map_toLower_write (n : Nat) : (write n).map Char.toLower = write n := by
  have hall : canonicalChars.all fun c => !c.isDigit || c.toLower == c := by decide
  have hdigits : ∀ c ∈ write n, c.toLower = c := by
    intro c hc
    have hlower := List.all_eq_true.mp hall c (canonical_write n c hc)
    simpa [isDigit_of_mem_write hc] using hlower
  rw [List.map_congr_left hdigits, List.map_id']

end Numeral

/-! ### Values -/

namespace Field

variable {field : Field} {text : List Char} {value : Nat}

theorem greatest_le_numeral (field : Field) : field.greatest ≤ Numeral.greatest := by
  cases field <;> decide

/-- Every value within the bounds is spelled by its number. -/
theorem spells_write (least : field.least ≤ value) (greatest : value ≤ field.greatest) :
    field.Spells (Numeral.write value) value :=
  .numeral (Numeral.spells_write (Nat.le_trans greatest field.greatest_le_numeral)) least greatest

theorem Spells.write (h : field.Spells text value) : field.Spells (Numeral.write value) value :=
  spells_write h.bounds.1 h.bounds.2

/-- The number 7 is read as Sunday again. -/
theorem spells_write_seven : Field.dayOfWeek.Spells (Numeral.write 7) 0 := by
  have hseven : Field.dayOfWeek.Spells "7".toList 0 := .name (by decide)
  exact hseven

end Field

/-! ### Items -/

variable {field : Field} {text : List Char}

theorem Range.Spells.write {range : Range} (h : Range.Spells field text range) :
    Range.Spells field (Numeral.write range.first ++ '-' :: Numeral.write range.last) range := by
  cases h with
  | plain hlow hhigh hordered hother => exact .plain hlow.write hhigh.write hordered hother
  | toSunday hweek hlow _ =>
      subst hweek
      exact .toSunday rfl hlow.write Field.spells_write_seven

theorem Range.spells_to_greatest {first : Nat} (least : field.least ≤ first)
    (greatest : first ≤ field.greatest) :
    Range.Spells field (Numeral.write first ++ '-' :: Numeral.write field.greatest)
      ⟨first, field.greatest⟩ := by
  have hlast := Field.spells_write field.least_le_greatest (Nat.le_refl field.greatest)
  have hother : field.greatest ≠ 0 := by
    cases field <;> decide
  exact .plain (Field.spells_write least greatest) hlast greatest fun hsunday => hother hsunday.2

/-- What a series runs over is written as a range, whichever way it was given. -/
theorem Series.SpellsBase.write {range : Range} (h : Series.SpellsBase field text range) :
    Range.Spells field (Numeral.write range.first ++ '-' :: Numeral.write range.last) range := by
  cases h with
  | star => exact Range.spells_to_greatest (Nat.le_refl _) field.least_le_greatest
  | openEnd hspells => exact Range.spells_to_greatest hspells.bounds.1 hspells.bounds.2
  | range hspells => exact hspells.write

theorem Item.Spells.write {item : Item} (h : Item.Spells field text item) :
    Item.Spells field (item.write.map Char.toLower) item := by
  cases h with
  | value hspells =>
      simpa [Item.write, Numeral.map_toLower_write] using Item.Spells.value hspells.write
  | range hspells =>
      simpa [Item.write, Numeral.map_toLower_write] using Item.Spells.range hspells.write
  | @series base stride range n hbase hstride hpositive hbounded =>
      have hn : n ≤ Numeral.greatest := Nat.le_trans hbounded field.greatest_le_numeral
      simpa [Item.write, Numeral.map_toLower_write] using
        Item.Spells.series (.range hbase.write) (Numeral.spells_write hn) hpositive hbounded
  | @nthWeekday weekday count day n allowed hweekday hcount hpositive hbounded =>
      have hn : n ≤ Numeral.greatest := Nat.le_trans hbounded (by decide)
      simpa [Item.write, Numeral.map_toLower_write] using
        Item.Spells.nthWeekday allowed hweekday.write (Numeral.spells_write hn) hpositive hbounded
  | nearestWorkday allowed hspells =>
      simpa [Item.write, Numeral.map_toLower_write] using
        Item.Spells.nearestWorkday allowed hspells.write
  | lastWeekday allowed hspells =>
      simpa [Item.write, Numeral.map_toLower_write] using
        Item.Spells.lastWeekday allowed hspells.write

theorem Item.canonical_write (item : Item) : Canonical item.write := by
  cases item with
  | value v => exact Numeral.canonical_write v
  | range r =>
      exact (Numeral.canonical_write _).append
        (.cons (by decide) (Numeral.canonical_write _))
  | series s =>
      have hrange := (Numeral.canonical_write s.first).append
        (.cons (c := '-') (by decide) (Numeral.canonical_write s.last))
      exact hrange.append (.cons (by decide) (Numeral.canonical_write s.stride))
  | nthWeekday n =>
      exact (Numeral.canonical_write _).append
        (.cons (by decide) (Numeral.canonical_write _))
  | nearestWorkday day => exact (Numeral.canonical_write _).append (by decide)
  | lastWeekday weekday => exact (Numeral.canonical_write _).append (by decide)

theorem Item.Spells.ne_nil {item : Item} (h : Item.Spells field text item) : text ≠ [] := by
  cases h with
  | value hspells => exact hspells.ne_nil
  | range hspells => exact List.ne_nil_of_mem hspells.hyphen_mem
  | series => exact List.append_ne_nil_of_right_ne_nil _ (List.cons_ne_nil _ _)
  | nthWeekday => exact List.append_ne_nil_of_right_ne_nil _ (List.cons_ne_nil _ _)
  | nearestWorkday => exact List.append_ne_nil_of_right_ne_nil _ (List.cons_ne_nil _ _)
  | lastWeekday => exact List.append_ne_nil_of_right_ne_nil _ (List.cons_ne_nil _ _)

/-! ### Lists and patterns -/

namespace Items

/-- Sorting the items by kind changes their order, and each of them is spelled by its own
    canonical form. -/
theorem Spells.write {list : List Item} (h : Items.Spells field text list) :
    Items.Spells field ([','].intercalate
      ((ofList list).toList.map fun item => item.write.map Char.toLower)) (ofList list).toList := by
  obtain ⟨hne, hitems⟩ := h.spells_of_mem_toList
  refine spells_intercalate ?_ (mt List.map_eq_nil_iff.mp hne)
  rw [List.forall₂_map_left_iff, List.forall₂_same]
  intro item hmem
  obtain ⟨part, hitem⟩ := hitems item hmem
  exact hitem.write

end Items

namespace Pattern

theorem canonical_write (pattern : Pattern) : Canonical pattern.write := by
  cases pattern with
  | all => decide
  | «omit» => decide
  | lastDay => decide
  | lastWorkday => decide
  | items list =>
      refine forall_mem_intercalate (by decide) fun part hpart => ?_
      obtain ⟨item, -, rfl⟩ := List.mem_map.mp hpart
      exact item.canonical_write

/-- What can be spelled at all is spelled by its canonical form. -/
theorem Spells.write {pattern : Pattern} (h : Pattern.Spells field text pattern) :
    Pattern.Spells field (pattern.write.map Char.toLower) pattern := by
  cases h with
  | all => exact .all
  | «omit» allowed => exact .omit allowed
  | lastDay allowed => exact .lastDay allowed
  | lastWorkday allowed => exact .lastWorkday allowed
  | @items _ list hlist =>
      have hwrite := Pattern.Spells.items hlist.write
      rw [Items.ofList_toList] at hwrite
      rw [Pattern.write, map_intercalate, List.map_map]
      exact hwrite

theorem Spells.ne_nil {pattern : Pattern} (h : Pattern.Spells field text pattern) :
    text ≠ [] := by
  cases h with
  | all => exact List.cons_ne_nil _ _
  | «omit» => exact List.cons_ne_nil _ _
  | lastDay => exact List.cons_ne_nil _ _
  | lastWorkday => exact List.cons_ne_nil _ _
  | items hlist =>
      cases hlist with
      | single hitem => exact hitem.ne_nil
      | cons => exact List.append_ne_nil_of_right_ne_nil _ (List.cons_ne_nil _ _)

theorem Spells.isWord_write {pattern : Pattern} (h : Pattern.Spells field text pattern) :
    IsWord pattern.write :=
  ⟨mt List.map_eq_nil_iff.mpr h.write.ne_nil, pattern.canonical_write.not_isBlank⟩

/-- The canonical form of a pattern is read as the pattern. -/
theorem Spells.read_write {pattern : Pattern} (h : Pattern.Spells field text pattern) :
    Pattern.read field pattern.write = .ok pattern := by
  rw [Pattern.read, h.isWord_write.trim_eq, pattern.canonical_write.lowercase_eq]
  exact Pattern.readLowered_eq_ok_iff.mpr h.write

end Pattern

end CronSchedule
