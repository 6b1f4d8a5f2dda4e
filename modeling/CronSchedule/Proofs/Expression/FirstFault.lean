import CronSchedule.Proofs.Expression.Wording
import CronSchedule.Proofs.Pattern.List

/-!
# The first fault

What is wrong with a text is said by the leftmost part of it that is wrong: the first word of an
expression that its field rejects, and in a list the first part that is no item.

The fields that are left out do not enter into it, since what stands for them is always
accepted.  So the words that are there are gone through with their fields, in order, and the
reading of a whole expression fails exactly where going through this list does.
-/

namespace CronSchedule

open Outcome

/-! ### Fields in order -/

namespace Expression

/-- Read a word as its field says. -/
def readEntry (entry : Field × List Char) : Except Cause Pattern :=
  Pattern.read entry.1 entry.2

theorem readFields_eq_error_iff {minute hour dayOfMonth month dayOfWeek year : List Char}
    {cause : Cause} :
    readFields minute hour dayOfMonth month dayOfWeek year = .error cause ↔
      (Field.written.zip [minute, hour, dayOfMonth, month, dayOfWeek, year]).mapM readEntry =
        .error cause := by
  simp [readFields, Field.written, readEntry, bind_eq_error, pure, Except.pure]

/-- A last word that is accepted does not change where a reading fails. -/
theorem mapM_append_eq_error_iff (entries : List (Field × List Char)) (cause : Cause)
    {field : Field} {word : List Char} {pattern : Pattern}
    (h : Pattern.read field word = .ok pattern) :
    (entries ++ [(field, word)]).mapM readEntry = .error cause ↔
      entries.mapM readEntry = .error cause := by
  have hword : [(field, word)].mapM readEntry = .ok [pattern] := by
    rw [mapM_eq_ok_iff]
    exact .cons h .nil
  rw [List.mapM_append, hword, bind_eq_error]
  constructor
  · rintro (hentries | ⟨patterns, -, hdone⟩)
    · exact hentries
    · cases hdone
  · exact .inl

theorem ofWords_eq_error_iff {list : List (List Char)} {cause : Cause} (hleast : 4 ≤ list.length)
    (hgreatest : list.length ≤ 6) :
    ofWords list = .error cause ↔ (Field.written.zip list).mapM readEntry = .error cause := by
  have hquestion : Pattern.read .dayOfWeek ['?'] = .ok .omit := by decide +kernel
  have hstar : Pattern.read .year ['*'] = .ok .all := by decide +kernel
  match list with
  | [minute, hour, dayOfMonth, month] =>
      have hfour := mapM_append_eq_error_iff
        (Field.written.zip [minute, hour, dayOfMonth, month]) cause hquestion
      have hfive := mapM_append_eq_error_iff
        (Field.written.zip [minute, hour, dayOfMonth, month, ['?']]) cause hstar
      exact readFields_eq_error_iff.trans (hfive.trans hfour)
  | [minute, hour, dayOfMonth, month, dayOfWeek] =>
      have hfive := mapM_append_eq_error_iff
        (Field.written.zip [minute, hour, dayOfMonth, month, dayOfWeek]) cause hstar
      exact readFields_eq_error_iff.trans hfive
  | [minute, hour, dayOfMonth, month, dayOfWeek, year] => exact readFields_eq_error_iff
  | [] | [_] | [_, _] | [_, _, _] => exact absurd hleast (by simp)
  | _ :: _ :: _ :: _ :: _ :: _ :: _ :: _ => exact absurd hgreatest (by simp)

/-- An expression of four to six words is rejected for the first word that its field rejects. -/
theorem parse_eq_error_iff {text : String} {cause : Cause}
    (hleast : 4 ≤ (words text.toList).length) (hgreatest : (words text.toList).length ≤ 6) :
    parse text = .error ⟨text, cause⟩ ↔
      ∃ before field word after,
        Field.written.zip (words text.toList) = before ++ (field, word) :: after ∧
        (∀ entry ∈ before, ∃ pattern, Pattern.read entry.1 entry.2 = .ok pattern) ∧
        Pattern.read field word = .error cause := by
  have hparse : parse text = .error ⟨text, cause⟩ ↔ read text.toList = .error cause := by
    unfold parse
    cases read text.toList <;> simp [Except.mapError]
  have hwords : read text.toList = ofWords (words text.toList) := by
    rw [read_eq_readWords]
    match hlist : words text.toList, hleast with
    | first :: second :: rest, _ => rfl
  rw [hparse, hwords, ofWords_eq_error_iff hleast hgreatest, mapM_eq_error_iff]
  constructor
  · rintro ⟨before, ⟨field, word⟩, after, hzip, hbefore, hcause⟩
    exact ⟨before, field, word, after, hzip, hbefore, hcause⟩
  · rintro ⟨before, field, word, after, hzip, hbefore, hcause⟩
    exact ⟨before, (field, word), after, hzip, hbefore, hcause⟩

end Expression

/-! ### Lists and expressions -/

/-- A list of parts without blanks and commas is accepted exactly if each part, alone, is a list
    of one, and what is read is then made of what is read from the parts.  Otherwise the first
    part that is no list of one says why not: it is a sign that has to stand alone, or it is
    rejected alone as well, for that cause.  And an expression of four to six words is rejected
    for the first word, in the order of the fields, that its field rejects. -/
theorem rejected_at_first_fault :
    (∀ (field : Field) (parts : List (List Char)), 2 ≤ parts.length →
      (∀ part ∈ parts, IsListPart part) →
      ((∃ pattern, Pattern.read field ([','].intercalate parts) = .ok pattern) ↔
        ∀ part ∈ parts, ∃ items, Pattern.read field part = .ok (.items items)) ∧
      (∀ lists : List Items,
        List.Forall₂ (fun part items => Pattern.read field part = .ok (.items items)) parts lists →
        Pattern.read field ([','].intercalate parts) = .ok (.items (.concat lists))) ∧
      ∀ before part after, parts = before ++ part :: after →
        (∀ other ∈ before, ∃ items, Pattern.read field other = .ok (.items items)) →
        (∀ items, Pattern.read field part ≠ .ok (.items items)) →
        (∃ operator, Part.IsLone field part operator ∧
          Pattern.read field ([','].intercalate parts) = .error (.notAlone operator field)) ∨
        (∀ operator, ¬ Part.IsLone field part operator) ∧
          ∃ cause, Pattern.read field part = .error cause ∧
            Pattern.read field ([','].intercalate parts) = .error cause) ∧
    ∀ (text : String) (cause : Cause), 4 ≤ (words text.toList).length →
      (words text.toList).length ≤ 6 →
      (Expression.parse text = .error ⟨text, cause⟩ ↔
        ∃ before field word after,
          Field.written.zip (words text.toList) = before ++ (field, word) :: after ∧
          (∀ entry ∈ before, ∃ pattern, Pattern.read entry.1 entry.2 = .ok pattern) ∧
          Pattern.read field word = .error cause) := by
  refine ⟨fun field parts hlength hparts => ⟨?_, ?_, ?_⟩, ?_⟩
  · exact Pattern.exists_read_intercalate_iff hparts hlength
  · exact fun lists => Pattern.read_intercalate_eq_concat hparts hlength
  · intro before part after hlist hbefore hno
    have hpart : IsListPart part := by
      apply hparts
      rw [hlist]
      exact List.mem_append_right _ List.mem_cons_self
    rcases hpart.readPart_eq_error hno with ⟨operator, hlone, hcause⟩ | ⟨hlone, cause, halone, hcause⟩
    · exact .inl ⟨operator, hlone,
        Pattern.read_intercalate_eq_error hparts hlength hlist hbefore hcause⟩
    · exact .inr ⟨hlone, cause, halone,
        Pattern.read_intercalate_eq_error hparts hlength hlist hbefore hcause⟩
  · exact fun text cause => Expression.parse_eq_error_iff

/-- A list of weekdays; a list of months with a question mark, which is out of place there though
    it has no meaning for months; and an expression with two faults. -/
theorem rejected_at_first_fault_before_others :
    Pattern.read .dayOfWeek ([','].intercalate [['2', 'L'], ['m', 'O', 'n'], ['0', 'L']]) =
        .ok (.items (.concat
          [.ofList [.lastWeekday 2], .ofList [.value 1], .ofList [.lastWeekday 0]])) ∧
      (∃ operator, Part.IsLone .month ['?'] operator ∧
        Pattern.read .month ([','].intercalate [['1'], ['?'], ['x']]) =
          .error (.notAlone operator .month)) ∧
      Expression.parse "0 24 L,x *" = .error ⟨"0 24 L,x *", .outOfBounds "24" .hour⟩ := by
  obtain ⟨hlists, hexpressions⟩ := rejected_at_first_fault
  refine ⟨?_, ?_, ?_⟩
  · obtain ⟨-, hconcat, -⟩ := hlists .dayOfWeek [['2', 'L'], ['m', 'O', 'n'], ['0', 'L']] (by decide)
      (by decide +kernel)
    apply hconcat
    exact .cons (by decide +kernel) (.cons (by decide +kernel) (.cons (by decide +kernel) .nil))
  · obtain ⟨-, -, hfault⟩ := hlists .month [['1'], ['?'], ['x']] (by decide) (by decide +kernel)
    have hfirst : ∃ items, Pattern.read .month ['1'] = .ok (.items items) :=
      ⟨.ofList [.value 1], by decide +kernel⟩
    have hsign : Pattern.read .month ['?'] = .error (.operatorNotAllowed .question .month) := by
      decide +kernel
    have hno : ∀ items, Pattern.read .month ['?'] ≠ .ok (.items items) := by
      rw [hsign]
      exact nofun
    rcases hfault [['1']] ['?'] [['x']] rfl (by simpa using hfirst) hno with hlone | ⟨hnone, -⟩
    · exact hlone
    · exact absurd ⟨by decide, .inr (.inl rfl)⟩ (hnone .question)
  · refine (hexpressions "0 24 L,x *" _ (by decide +kernel) (by decide +kernel)).mpr ?_
    refine ⟨[(.minute, ['0'])], .hour, ['2', '4'], [(.dayOfMonth, "L,x".toList), (.month, ['*'])],
      by decide +kernel, ?_, by decide +kernel⟩
    intro entry hentry
    rw [List.mem_singleton.mp hentry]
    exact ⟨.items (.ofList [.value 0]), by decide +kernel⟩

end CronSchedule
