import Mathlib.Data.List.DropRight
import CronSchedule.Text.Blank

/-!
# Joined texts

A text that neither begins nor ends with a blank is left alone by `trim`, and words that
are joined with spaces are the words of what they are joined to.
-/

namespace CronSchedule

/-! ### Texts without blanks at the ends -/

theorem trim_eq_self {text : List Char} (hhead : ∀ c, text.head? = some c → isBlank c = false)
    (hlast : ∀ c, text.getLast? = some c → isBlank c = false) : trim text = text := by
  have hkept : ∀ part : List Char, (∀ c, part.head? = some c → isBlank c = false) →
      part.dropWhile isBlank = part := by
    intro part h
    refine List.dropWhile_eq_self_iff.mpr fun hpos => ?_
    rw [h _ (List.head?_eq_getElem?.trans (List.getElem?_eq_getElem hpos))]
    exact Bool.false_ne_true
  rw [← List.head?_reverse] at hlast
  rw [trim, hkept text hhead, hkept text.reverse hlast, List.reverse_reverse]

theorem trim_eq_of_not_blank {text : List Char} (h : ∀ c ∈ text, isBlank c = false) :
    trim text = text :=
  trim_eq_self (fun c hc => h c (List.mem_of_head? hc)) (fun c hc => h c (List.mem_of_getLast? hc))

theorem isBlank_of_head?_trim {text : List Char} {c : Char} (h : (trim text).head? = some c) :
    isBlank c = false := by
  obtain ⟨rest, hrest⟩ : trim text <+: text.dropWhile isBlank := List.rdropWhile_prefix isBlank _
  have hfirst := List.head?_dropWhile_not isBlank text
  rw [← hrest, List.head?_append, h] at hfirst
  exact hfirst

theorem isBlank_of_getLast?_trim {text : List Char} {c : Char}
    (h : (trim text).getLast? = some c) : isBlank c = false := by
  have hlast := List.head?_dropWhile_not isBlank (text.dropWhile isBlank).reverse
  rw [trim, List.getLast?_reverse] at h
  rw [h] at hlast
  exact hlast

/-- What is left of a text without its blanks at the ends has none. -/
theorem trim_trim (text : List Char) : trim (trim text) = trim text :=
  trim_eq_self (fun _ => isBlank_of_head?_trim) (fun _ => isBlank_of_getLast?_trim)

/-! ### Joined texts -/

theorem map_intercalate {α β : Type} (f : α → β) (separator : α) (parts : List (List α)) :
    ([separator].intercalate parts).map f = [f separator].intercalate (parts.map (List.map f)) := by
  induction parts with
  | nil => rfl
  | cons part rest ih =>
      cases rest with
      | nil => rw [List.intercalate_singleton, List.map_singleton, List.intercalate_singleton]
      | cons next rest =>
          simp only [List.intercalate_cons_cons, List.map_append, List.map_cons, List.map_nil, ih]

theorem forall_mem_intercalate {P : Char → Prop} {separator : Char} {parts : List (List Char)}
    (hseparator : P separator) (h : ∀ part ∈ parts, ∀ c ∈ part, P c) :
    ∀ c ∈ [separator].intercalate parts, P c := by
  induction parts with
  | nil => exact fun c hc => absurd hc List.not_mem_nil
  | cons part rest ih =>
      have hpart := h part List.mem_cons_self
      have hrest := ih fun other hother => h other (List.mem_cons_of_mem _ hother)
      cases rest with
      | nil =>
          rw [List.intercalate_singleton]
          exact hpart
      | cons next rest =>
          rw [List.intercalate_cons_cons, List.append_assoc, List.singleton_append]
          intro c hc
          rcases List.mem_append.mp hc with hc | hc
          · exact hpart c hc
          · rcases List.mem_cons.mp hc with rfl | hc
            · exact hseparator
            · exact hrest c hc

/-! ### Words -/

/-- The text is a word: it is not empty and holds no blank. -/
def IsWord (text : List Char) : Prop :=
  text ≠ [] ∧ ∀ c ∈ text, isBlank c = false

theorem IsWord.trim_eq {word : List Char} (h : IsWord word) : trim word = word :=
  trim_eq_of_not_blank h.2

theorem IsWord.words_eq {word : List Char} (h : IsWord word) : words word = [word] := by
  simp [words, List.splitOnP_eq_singleton h.2, h.1]

/-- Words end at a blank. -/
theorem words_append_cons {left right : List Char} {c : Char} (hc : isBlank c) :
    words (left ++ c :: right) = words left ++ words right := by
  rw [words, List.splitOnP_append_cons left right hc, List.filter_append]
  rfl

theorem IsWord.words_append_cons {word rest : List Char} {c : Char} (h : IsWord word)
    (hc : isBlank c) : words (word ++ c :: rest) = word :: words rest := by
  rw [CronSchedule.words_append_cons hc, h.words_eq]
  rfl

/-- Only a text of blanks has no words. -/
theorem words_eq_nil_iff {text : List Char} : words text = [] ↔ ∀ c ∈ text, isBlank c := by
  induction text with
  | nil => exact iff_of_true rfl (fun c hc => absurd hc List.not_mem_nil)
  | cons c rest ih =>
      rw [List.forall_mem_cons, ← ih]
      by_cases hc : isBlank c
      · rw [← List.nil_append (c :: rest), words_append_cons hc]
        simp [words, hc]
      · -- the first piece begins with `c`
        obtain ⟨piece, pieces, hpieces⟩ :=
          List.exists_cons_of_ne_nil (List.splitOnP_ne_nil isBlank rest)
        simp [words, List.splitOnP_cons_eq_if_modifyHead, hc, hpieces]

/-- Blanks around a text do not change its words. -/
theorem words_pad {before text after : List Char} (hbefore : ∀ c ∈ before, isBlank c)
    (hafter : ∀ c ∈ after, isBlank c) : words (before ++ text ++ after) = words text := by
  have hleft : words (before ++ text) = words text := by
    induction before with
    | nil => rfl
    | cons c rest ih =>
        obtain ⟨hc, hrest⟩ := List.forall_mem_cons.mp hbefore
        have hcons : words ([] ++ c :: (rest ++ text)) = words [] ++ words (rest ++ text) :=
          words_append_cons hc
        exact hcons.trans (ih hrest)
  cases after with
  | nil => rw [List.append_nil, hleft]
  | cons c rest =>
      obtain ⟨hc, hrest⟩ := List.forall_mem_cons.mp hafter
      rw [words_append_cons hc, hleft, words_eq_nil_iff.mpr hrest, List.append_nil]

theorem exists_pad (text : List Char) :
    ∃ before after, text = before ++ trim text ++ after ∧ (∀ c ∈ before, isBlank c) ∧
      ∀ c ∈ after, isBlank c := by
  refine ⟨text.takeWhile isBlank, ((text.dropWhile isBlank).reverse.takeWhile isBlank).reverse,
    ?_, fun c hc => List.mem_takeWhile_imp hc, fun c hc => ?_⟩
  · rw [trim, List.append_assoc, ← List.reverse_append, List.takeWhile_append_dropWhile,
      List.reverse_reverse, List.takeWhile_append_dropWhile]
  · exact List.mem_takeWhile_imp (List.mem_reverse.mp hc)

theorem words_trim (text : List Char) : words (trim text) = words text := by
  obtain ⟨before, after, htext, hbefore, hafter⟩ := exists_pad text
  have hpad : words (before ++ trim text ++ after) = words (trim text) := words_pad hbefore hafter
  rw [← htext] at hpad
  exact hpad.symm

theorem trim_eq_nil_iff {text : List Char} : trim text = [] ↔ words text = [] := by
  rw [← words_trim, words_eq_nil_iff]
  constructor
  · intro h
    rw [h]
    exact fun c hc => absurd hc List.not_mem_nil
  · intro h
    cases htrim : trim text with
    | nil => rfl
    | cons c rest =>
        have hhead : (trim text).head? = some c := by
          rw [htrim]
          rfl
        rw [htrim] at h
        exact absurd (h c List.mem_cons_self) (Bool.eq_false_iff.mp (isBlank_of_head?_trim hhead))

/-- No blank is at the ends of a text that was trimmed, so on either side of a blank there is
    a word. -/
theorem words_beside_blank {text left right : List Char} {c : Char} (hc : isBlank c)
    (h : trim text = left ++ c :: right) : words left ≠ [] ∧ words right ≠ [] := by
  have hfirst : (trim text).head? = some (left.head?.getD c) := by
    simp [h]
  have hlast : (trim text).getLast? = some (right.getLast?.getD c) := by
    simp [h, List.getLast?_cons]
  replace hfirst := isBlank_of_head?_trim hfirst
  replace hlast := isBlank_of_getLast?_trim hlast
  constructor
  · intro hnil
    have hall := words_eq_nil_iff.mp hnil
    cases hd : left.head? with
    | none => simp [hd, hc] at hfirst
    | some d => simp [hd, hall d (List.mem_of_head? hd)] at hfirst
  · intro hnil
    have hall := words_eq_nil_iff.mp hnil
    cases hd : right.getLast? with
    | none => simp [hd, hc] at hlast
    | some d => simp [hd, hall d (List.mem_of_getLast? hd)] at hlast

/-- A text with one word is that word between blanks. -/
theorem trim_eq_of_words_eq_singleton {text word : List Char} (h : words text = [word]) :
    trim text = word := by
  rw [← words_trim] at h
  have hword : IsWord (trim text) := by
    constructor
    · intro hnil
      rw [hnil] at h
      cases h
    · intro c hmem
      by_contra hc
      rw [Bool.not_eq_false] at hc
      obtain ⟨left, right, hsplit⟩ := List.append_of_mem hmem
      obtain ⟨hleft, hright⟩ := words_beside_blank hc hsplit
      rw [hsplit, words_append_cons hc] at h
      rcases List.append_eq_singleton_iff.mp h with ⟨hnil, -⟩ | ⟨-, hnil⟩
      · exact hleft hnil
      · exact hright hnil
  rw [hword.words_eq] at h
  exact List.singleton_inj.mp h

/-- Words that are joined with spaces are found again. -/
theorem words_intercalate {parts : List (List Char)} (h : ∀ part ∈ parts, IsWord part) :
    words ([' '].intercalate parts) = parts := by
  induction parts with
  | nil => rfl
  | cons part rest ih =>
      have hpart := h part List.mem_cons_self
      have hrest := ih fun other hother => h other (List.mem_cons_of_mem _ hother)
      cases rest with
      | nil =>
          rw [List.intercalate_singleton]
          exact hpart.words_eq
      | cons next rest =>
          rw [List.intercalate_cons_cons, List.append_assoc, List.singleton_append,
            hpart.words_append_cons (by decide), hrest]

/-- Words that are joined with spaces begin and end with a word. -/
theorem intercalate_ends {parts : List (List Char)} (h : ∀ part ∈ parts, IsWord part) {c : Char}
    (hc : ([' '].intercalate parts).head? = some c ∨
      ([' '].intercalate parts).getLast? = some c) : isBlank c = false := by
  induction parts with
  | nil =>
      rcases hc with hc | hc
      · cases hc
      · cases hc
  | cons part rest ih =>
      obtain ⟨hne, hblank⟩ := h part List.mem_cons_self
      have hwords : ∀ other ∈ rest, IsWord other :=
        fun other hother => h other (List.mem_cons_of_mem _ hother)
      cases rest with
      | nil =>
          rw [List.intercalate_singleton] at hc
          rcases hc with hc | hc
          · exact hblank c (List.mem_of_head? hc)
          · exact hblank c (List.mem_of_getLast? hc)
      | cons next rest =>
          rw [List.intercalate_cons_cons] at hc
          rcases hc with hc | hc
          · rw [List.append_assoc, List.head?_append_of_ne_nil _ hne] at hc
            exact hblank c (List.mem_of_head? hc)
          · have hnext : [' '].intercalate (next :: rest) ≠ [] := by
              intro hnil
              have hfound := words_intercalate hwords
              rw [hnil] at hfound
              cases hfound
            rw [List.getLast?_append_of_ne_nil _ hnext] at hc
            exact ih hwords (.inr hc)

theorem trim_intercalate {parts : List (List Char)} (h : ∀ part ∈ parts, IsWord part) :
    trim ([' '].intercalate parts) = [' '].intercalate parts :=
  trim_eq_self (fun _ hc => intercalate_ends h (.inl hc)) (fun _ hc => intercalate_ends h (.inr hc))

end CronSchedule
