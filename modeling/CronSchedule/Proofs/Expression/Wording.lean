import CronSchedule.Proofs.Expression.Reading
import CronSchedule.Proofs.Text.Case
import CronSchedule.Proofs.Text.Words

/-!
# Wordings of an expression

There are many ways to write one expression: other blanks between the words, capital letters,
the last fields left out, a shorthand for the whole.  None of them shows in what is read, be it
an expression or the cause of a rejection.

Trimming and the look-up of shorthands work on the text before it is cut into words.  Neither
sees more of it than its words, since a shorthand is a single word, and so a reading of a text
is a reading of its words: `read_eq_readWords`.
-/

namespace CronSchedule

/-! ### Words up to case -/

/-- The texts have the same words, but for capital and small ASCII letters. -/
def SameWords (text other : List Char) : Prop :=
  (words text).map (List.map Char.toLower) = (words other).map (List.map Char.toLower)

instance (text other : List Char) : Decidable (SameWords text other) :=
  inferInstanceAs (Decidable (_ = _))

theorem map_toLower_map_toLower (text : List Char) :
    (text.map Char.toLower).map Char.toLower = text.map Char.toLower := by
  rw [List.map_map]
  exact List.map_congr_left fun c _ => toLower_invariant (f := Char.toLower) (by decide) c

theorem Pattern.read_map_toLower (field : Field) (text : List Char) :
    read field (text.map Char.toLower) = read field text := by
  rw [Pattern.read, trim_map_toLower, lowercase_map_toLower, Pattern.read]

/-! ### Shorthands -/

theorem words_shorthand {entry : String × String} (h : entry ∈ shorthands) :
    words entry.1.toList = [entry.1.toList] := by
  have hall : ∀ entry ∈ shorthands, words entry.1.toList = [entry.1.toList] := by decide +kernel
  exact hall entry h

/-- A text of several words is no shorthand. -/
theorem expandShorthand_eq_self_of_length {text : List Char} (h : 1 < (words text).length) :
    expandShorthand text = text := by
  apply expandShorthand_eq_self
  intro entry hentry hname
  have hwords := words_shorthand hentry
  rw [hname, words_map_toLower] at hwords
  have hlength := congrArg List.length hwords
  rw [List.length_map, List.length_singleton] at hlength
  omega

namespace Expression

/-! ### From words to an expression -/

/-- Read an expression from the words of a text. -/
def readWords : List (List Char) → Except Cause Expression
  | [] => .error .empty
  | [word] => ofWords (words (expandShorthand word))
  | list => ofWords list

theorem read_eq_readWords (text : List Char) : read text = readWords (words text) := by
  unfold read
  cases hwords : words text with
  | nil =>
      rw [if_pos (trim_eq_nil_iff.mpr hwords)]
      rfl
  | cons word rest =>
      have htrim : trim text ≠ [] := by
        rw [ne_eq, trim_eq_nil_iff, hwords]
        exact List.cons_ne_nil _ _
      rw [if_neg htrim]
      cases rest with
      | nil =>
          rw [trim_eq_of_words_eq_singleton hwords]
          rfl
      | cons next rest =>
          have hself : expandShorthand (trim text) = trim text := by
            apply expandShorthand_eq_self_of_length
            rw [words_trim, hwords]
            exact Nat.one_lt_succ_succ _
          rw [hself, words_trim, hwords]
          rfl

theorem ofWords_map_toLower (list : List (List Char)) :
    ofWords (list.map (List.map Char.toLower)) = ofWords list := by
  have hfields : ∀ minute hour dayOfMonth month dayOfWeek year : List Char,
      readFields (minute.map Char.toLower) (hour.map Char.toLower) (dayOfMonth.map Char.toLower)
        (month.map Char.toLower) (dayOfWeek.map Char.toLower) (year.map Char.toLower) =
      readFields minute hour dayOfMonth month dayOfWeek year := by
    intros
    simp only [readFields, Pattern.read_map_toLower]
  match list with
  | [] | [_] | [_, _] | [_, _, _] => rfl
  | [minute, hour, dayOfMonth, month] =>
      exact hfields minute hour dayOfMonth month ['?'] ['*']
  | [minute, hour, dayOfMonth, month, dayOfWeek] =>
      exact hfields minute hour dayOfMonth month dayOfWeek ['*']
  | [minute, hour, dayOfMonth, month, dayOfWeek, year] =>
      exact hfields minute hour dayOfMonth month dayOfWeek year
  | _ :: _ :: _ :: _ :: _ :: _ :: _ :: rest =>
      simp [ofWords]

theorem readWords_map_toLower (list : List (List Char)) :
    readWords (list.map (List.map Char.toLower)) = readWords list := by
  match list with
  | [] => rfl
  | [word] =>
      show ofWords (words (expandShorthand (word.map Char.toLower))) =
        ofWords (words (expandShorthand word))
      unfold expandShorthand
      rw [map_toLower_map_toLower]
      -- a shorthand stands for the same line, any other word is its only word
      split
      · rfl
      · rw [words_map_toLower, ofWords_map_toLower]
  | first :: second :: rest => exact ofWords_map_toLower (first :: second :: rest)

/-- The words of a text, up to case, are all that counts. -/
theorem read_congr {text other : List Char} (h : SameWords text other) :
    read text = read other := by
  rw [read_eq_readWords, ← readWords_map_toLower, h, readWords_map_toLower, read_eq_readWords]

/-- A shorthand is read as the line it stands for. -/
theorem read_shorthand {entry : String × String} (h : entry ∈ shorthands) :
    read entry.1.toList = read entry.2.toList := by
  have hall : ∀ entry ∈ shorthands, read entry.1.toList = read entry.2.toList := by
    decide +kernel
  exact hall entry h

/-- Without a day of the week there is no condition on it. -/
theorem readWords_append_question {list : List (List Char)} (h : list.length = 4) :
    readWords (list ++ [['?']]) = readWords list := by
  obtain ⟨minute, hour, dayOfMonth, month, rfl⟩ := List.length_eq_four.mp h
  rfl

/-- Without a year every year will do. -/
theorem readWords_append_star {list : List (List Char)} (h : list.length = 5) :
    readWords (list ++ [['*']]) = readWords list := by
  match list, h with
  | [minute, hour, dayOfMonth, month, dayOfWeek], _ => rfl

/-! ### Texts that are read alike -/

/-- The texts are read as one and the same expression, or are both rejected for the same
    cause. -/
def ParseAlike (text other : String) : Prop :=
  (∃ expression, parse text = .ok expression ∧ parse other = .ok expression) ∨
    ∃ cause, parse text = .error ⟨text, cause⟩ ∧ parse other = .error ⟨other, cause⟩

theorem parseAlike_of_read_eq {text other : String} (h : read text.toList = read other.toList) :
    ParseAlike text other := by
  unfold ParseAlike parse
  rw [h]
  cases read other.toList with
  | ok expression => exact .inl ⟨expression, rfl, rfl⟩
  | error cause => exact .inr ⟨cause, rfl, rfl⟩

theorem parseAlike_append {text : String} (word : List Char) (list : List (List Char))
    (hword : words word = list)
    (h : readWords (words text.toList ++ list) = readWords (words text.toList)) :
    ParseAlike text (text ++ String.ofList (' ' :: word)) := by
  apply parseAlike_of_read_eq
  rw [String.toList_append, String.toList_ofList, read_eq_readWords, read_eq_readWords,
    words_append_cons (by decide), hword, h]

/-- The wording does not matter.  Two texts are read alike if they have the same words up to
    case, whatever blanks are between and around them; so are a text of four words and the
    same text with the day of the week, or that and the year, left open at its end; a text of
    five words and the same text with every year; and a shorthand, in any case and between any
    blanks, and the line it stands for. -/
theorem parse_ignores_wording :
    (∀ text other : String, SameWords text.toList other.toList → ParseAlike text other) ∧
      (∀ text : String, (words text.toList).length = 4 →
        ParseAlike text (text ++ " ?") ∧ ParseAlike text (text ++ " ? *")) ∧
      (∀ text : String, (words text.toList).length = 5 → ParseAlike text (text ++ " *")) ∧
      ∀ entry ∈ shorthands, ∀ before name after : List Char,
        (∀ c ∈ before, isBlank c) → (∀ c ∈ after, isBlank c) →
        name.map Char.toLower = entry.1.toList →
        ParseAlike (String.ofList (before ++ name ++ after)) entry.2 := by
  refine ⟨fun text other h => parseAlike_of_read_eq (read_congr h), ?_, ?_, ?_⟩
  · intro text hlength
    have hquestion := readWords_append_question hlength
    refine ⟨parseAlike_append ['?'] [['?']] (by decide) hquestion, ?_⟩
    apply parseAlike_append ['?', ' ', '*'] [['?'], ['*']] (by decide)
    have hfive : (words text.toList ++ [['?']]).length = 5 := by
      rw [List.length_append, hlength]
      rfl
    rw [← hquestion, ← readWords_append_star hfive, List.append_assoc]
    rfl
  · intro text hlength
    exact parseAlike_append ['*'] [['*']] (by decide) (readWords_append_star hlength)
  · intro entry hentry before name after hbefore hafter hname
    have hsame : SameWords (before ++ name ++ after) entry.1.toList := by
      rw [SameWords, words_pad hbefore hafter, ← words_map_toLower, ← words_map_toLower, ← hname,
        map_toLower_map_toLower]
    apply parseAlike_of_read_eq
    rw [String.toList_ofList, read_congr hsame, read_shorthand hentry]

/-- A fault beside a capital sigma between wide blanks, an accepted text with its last two fields
    left out, one with a weekday and a shorthand in capitals. -/
theorem parse_ignores_wording_beside_sigma :
    ParseAlike "0 0 ΑΣb 1" "\t0 0\u3000ΑΣB  1 " ∧
      ParseAlike "0 0 LW jan" ("0 0 LW jan" ++ " ?") ∧
      ParseAlike "0 0 LW jan" ("0 0 LW jan" ++ " ? *") ∧
      ParseAlike "0 0 ? * FriL" ("0 0 ? * FriL" ++ " *") ∧
      ParseAlike (String.ofList ([' '] ++ "@HOURLY".toList ++ ['\t', ' '])) "0 * * * ?" := by
  obtain ⟨hsame, hfour, hfive, hshorthand⟩ := parse_ignores_wording
  have hopen := hfour "0 0 LW jan" (by decide +kernel)
  have hshort := hshorthand ("@hourly", "0 * * * ?") (by decide) [' '] "@HOURLY".toList ['\t', ' ']
    (List.all_eq_true.mp (by decide)) (List.all_eq_true.mp (by decide)) (by decide +kernel)
  exact ⟨hsame _ _ (by decide +kernel), hopen.1, hopen.2, hfive _ (by decide +kernel), hshort⟩

end Expression

end CronSchedule
