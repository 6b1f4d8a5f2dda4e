import CronSchedule.Expression.Printer
import CronSchedule.Proofs.Expression.Reading
import CronSchedule.Proofs.Pattern.Canonical

/-!
# The canonical form of an expression

An expression that was read has patterns that can be spelled, so each of its words, in
canonical form, is read as the pattern it was written for.  The words stay apart, since no
canonical form holds a blank, and no shorthand is made of their characters.  Hence the
canonical form of an expression is read as the expression, and no two expressions share
one.
-/

namespace CronSchedule

/-- A text without an at sign is no shorthand. -/
theorem expandShorthand_eq_self_of_not_mem {text : List Char} (h : '@' ∉ text.map Char.toLower) :
    expandShorthand text = text := by
  have hall : ∀ entry ∈ shorthands, '@' ∈ entry.1.toList := by decide
  apply expandShorthand_eq_self
  intro entry hentry hname
  rw [← hname] at h
  exact h (hall entry hentry)

namespace Expression

variable {expression : Expression}

/-- The words of the canonical form. -/
def fieldTexts (expression : Expression) : List (List Char) :=
  Field.written.map fun field => (expression.pattern field).write

theorem write_eq (expression : Expression) :
    expression.write = [' '].intercalate expression.fieldTexts :=
  rfl

theorem Spelled.read_pattern (h : expression.Spelled) (field : Field)
    (hfield : field ∈ Field.written) :
    Pattern.read field (expression.pattern field).write = .ok (expression.pattern field) := by
  obtain ⟨text, hspells⟩ := h field hfield
  exact hspells.read_write

theorem Spelled.ofWords_fieldTexts (h : expression.Spelled) :
    ofWords expression.fieldTexts = .ok expression := by
  have hread := h.read_pattern
  exact readFields_eq_ok_iff.mpr ⟨hread .minute (by decide), hread .hour (by decide),
    hread .dayOfMonth (by decide), hread .month (by decide), hread .dayOfWeek (by decide),
    hread .year (by decide)⟩

theorem Spelled.isWord_of_mem (h : expression.Spelled) :
    ∀ word ∈ expression.fieldTexts, IsWord word := by
  intro word hword
  obtain ⟨field, hfield, rfl⟩ := List.mem_map.mp hword
  obtain ⟨text, hspells⟩ := h field hfield
  exact hspells.isWord_write

theorem expandShorthand_write (expression : Expression) :
    expandShorthand expression.write = expression.write := by
  have hall : canonicalChars.all fun c => c.toLower != '@' := by decide
  have hsign : ∀ c ∈ expression.write, c.toLower ≠ '@' := by
    rw [write_eq]
    refine forall_mem_intercalate (by decide) fun word hword c hc => ?_
    obtain ⟨field, -, rfl⟩ := List.mem_map.mp hword
    simpa using List.all_eq_true.mp hall c ((expression.pattern field).canonical_write c hc)
  apply expandShorthand_eq_self_of_not_mem
  intro hmem
  obtain ⟨c, hc, hlower⟩ := List.mem_map.mp hmem
  exact hsign c hc hlower

theorem Spelled.read_write (h : expression.Spelled) : read expression.write = .ok expression := by
  have htrim : trim expression.write = expression.write := trim_intercalate h.isWord_of_mem
  have hwords : words expression.write = expression.fieldTexts := words_intercalate h.isWord_of_mem
  have hne : expression.write ≠ [] := by
    intro hnil
    rw [hnil] at hwords
    cases hwords
  rw [read, htrim, if_neg hne, expandShorthand_write, hwords]
  exact h.ofWords_fieldTexts

/-- The canonical form of an expression that was read is read as the same expression.  So
    two expressions that were read are the same exactly if their canonical forms are, and a
    canonical form is its own canonical form. -/
theorem render_parses_back {text : String} (h : parse text = .ok expression) :
    parse expression.render = .ok expression ∧
      (∀ (otherText : String) (other : Expression), parse otherText = .ok other →
        (other = expression ↔ other.render = expression.render)) ∧
      (parse expression.render).map render = .ok expression.render := by
  have hback : ∀ {otherText : String} {other : Expression}, parse otherText = .ok other →
      parse other.render = .ok other := by
    intro otherText other hother
    rw [parse_eq_ok_iff] at hother ⊢
    rw [render, String.toList_ofList]
    exact (spelled_of_read hother).read_write
  refine ⟨hback h, fun otherText other hother => ⟨congrArg render, fun hrender => ?_⟩, ?_⟩
  · have hsame := hback hother
    rw [hrender, hback h] at hsame
    exact (Except.ok.inj hsame).symm
  · rw [hback h]
    rfl

/-- Names, a range and a series of weekdays that end with Sunday, an open series and items out
    of order: the canonical form has numbers, both ends, and the items by kind. -/
theorem render_parses_back_from_names :
    ∃ expression, parse "*/20 9,8 ? jan-mar 5L,fri-sun,2#1,mon,1-7/3,3/2" = .ok expression ∧
      expression.render = "0-59/20 8,9 ? 1-3 1,5-7,1-7/3,3-6/2,2#1,5L *" ∧
      parse expression.render = .ok expression := by
  have hread : parse "*/20 9,8 ? jan-mar 5L,fri-sun,2#1,mon,1-7/3,3/2" = .ok
      { minute := .items (.ofList [.series ⟨0, 59, 20⟩])
        hour := .items (.ofList [.value 8, .value 9])
        dayOfMonth := .omit
        month := .items (.ofList [.range ⟨1, 3⟩])
        dayOfWeek := .items (.ofList [.value 1, .range ⟨5, 7⟩, .series ⟨1, 7, 3⟩,
          .series ⟨3, 6, 2⟩, .nthWeekday ⟨2, 1⟩, .lastWeekday 5])
        year := .all } := by
    decide +kernel
  exact ⟨_, hread, by decide +kernel, (render_parses_back hread).1⟩

end Expression

end CronSchedule
