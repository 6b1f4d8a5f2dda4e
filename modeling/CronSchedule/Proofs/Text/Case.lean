import CronSchedule.Text.Blank
import CronSchedule.Text.Lowercase

/-!
# Capital letters

Texts that differ in the case of ASCII letters only have the same blanks, hence the same
words up to case, and the same small form.  The second is less plain than it looks.  What
becomes of a capital sigma depends on the characters around it, so the question is not only
what an ASCII letter is lowered to, but also whether its case shows in the fate of another
letter.  It does not: in capitals and in small letters alike it is a letter with a case and
not transparent.
-/

namespace CronSchedule

/-! ### Classes of characters -/

/-- What is so for all capital ASCII letters and their small forms is so for every character
    and its small form. -/
theorem toLower_invariant {α : Type} {f : Char → α}
    (h : ∀ n < 26, f (Char.ofNat (n + 97)) = f (Char.ofNat (n + 65))) (c : Char) :
    f c.toLower = f c := by
  have hsmall : ∀ n < 26, (Char.ofNat (n + 65)).toLower = Char.ofNat (n + 97) := by decide
  by_cases hupper : c.val ≥ 'A'.val ∧ c.val ≤ 'Z'.val
  · have hbounds : 65 ≤ c.toNat ∧ c.toNat ≤ 90 :=
      ⟨UInt32.le_iff_toNat_le.mp hupper.1, UInt32.le_iff_toNat_le.mp hupper.2⟩
    have hletter : c = Char.ofNat (c.toNat - 65 + 65) := by
      rw [Nat.sub_add_cancel hbounds.1, Char.ofNat_toNat]
    rw [hletter, hsmall _ (by omega)]
    exact h _ (by omega)
  · have hsame : c.toLower = c := dif_neg hupper
    rw [hsame]

/-- And so it is for every character and its capital form. -/
theorem toUpper_invariant {α : Type} {f : Char → α}
    (h : ∀ n < 26, f (Char.ofNat (n + 97)) = f (Char.ofNat (n + 65))) (c : Char) :
    f c.toUpper = f c := by
  have hcapital : ∀ n < 26, (Char.ofNat (n + 97)).toUpper = Char.ofNat (n + 65) := by decide
  by_cases hlower : c.val ≥ 'a'.val ∧ c.val ≤ 'z'.val
  · have hbounds : 97 ≤ c.toNat ∧ c.toNat ≤ 122 :=
      ⟨UInt32.le_iff_toNat_le.mp hlower.1, UInt32.le_iff_toNat_le.mp hlower.2⟩
    have hletter : c = Char.ofNat (c.toNat - 97 + 97) := by
      rw [Nat.sub_add_cancel hbounds.1, Char.ofNat_toNat]
    rw [hletter, hcapital _ (by omega)]
    exact (h _ (by omega)).symm
  · have hsame : c.toUpper = c := dif_neg hlower
    rw [hsame]

theorem isBlank_toLower (c : Char) : isBlank c.toLower = isBlank c :=
  toLower_invariant (by decide +kernel) c

theorem isCased_toLower (c : Char) : isCased c.toLower = isCased c :=
  toLower_invariant (by decide +kernel) c

theorem isCaseIgnorable_toLower (c : Char) : isCaseIgnorable c.toLower = isCaseIgnorable c :=
  toLower_invariant (by decide +kernel) c

/-- A capital sigma is no ASCII letter. -/
theorem toNat_toLower_eq_sigma_iff (c : Char) : c.toLower.toNat = 0x03A3 ↔ c.toNat = 0x03A3 := by
  have hsame := toLower_invariant (f := fun c => decide (c.toNat = 0x03A3)) (by decide +kernel) c
  exact decide_eq_decide.mp hsame

/-! ### Small forms -/

theorem beginsWithLetter_map_toLower (text : List Char) :
    beginsWithLetter (text.map Char.toLower) = beginsWithLetter text := by
  have htransparent : isCaseIgnorable ∘ Char.toLower = isCaseIgnorable :=
    funext isCaseIgnorable_toLower
  unfold beginsWithLetter
  rw [List.dropWhile_map, htransparent]
  cases text.dropWhile isCaseIgnorable with
  | nil => rfl
  | cons c rest => exact isCased_toLower c

theorem lowerChar_toLower (c : Char) : lowerChar c.toLower = lowerChar c :=
  toLower_invariant (by decide +kernel) c

theorem lowerAfter_map_toLower (before text : List Char) :
    lowerAfter (before.map Char.toLower) (text.map Char.toLower) = lowerAfter before text := by
  induction text generalizing before with
  | nil => rfl
  | cons c after ih =>
      have hrest := ih (c :: before)
      have hchar : lowerBetween (before.map Char.toLower) c.toLower (after.map Char.toLower) =
          lowerBetween before c after := by
        simp only [lowerBetween, toNat_toLower_eq_sigma_iff, beginsWithLetter_map_toLower,
          lowerChar_toLower]
      rw [List.map_cons, lowerAfter, hchar, ← List.map_cons, hrest, lowerAfter]

theorem lowercase_map_toLower (text : List Char) :
    lowercase (text.map Char.toLower) = lowercase text :=
  lowerAfter_map_toLower [] text

/-! ### Blanks and words -/

theorem isBlank_comp_toLower : isBlank ∘ Char.toLower = isBlank :=
  funext isBlank_toLower

theorem trim_map_toLower (text : List Char) :
    trim (text.map Char.toLower) = (trim text).map Char.toLower := by
  simp only [trim, List.dropWhile_map, isBlank_comp_toLower, ← List.map_reverse]

theorem words_map_toLower (text : List Char) :
    words (text.map Char.toLower) = (words text).map (List.map Char.toLower) := by
  have hpieces : (text.map Char.toLower).splitOnP isBlank =
      (text.splitOnP isBlank).map (List.map Char.toLower) := by
    induction text with
    | nil => rfl
    | cons c rest ih =>
        rw [List.map_cons, List.splitOnP_cons_eq_if_modifyHead, List.splitOnP_cons_eq_if_modifyHead,
          isBlank_toLower, ih]
        cases isBlank c with
        | true => rfl
        | false => cases rest.splitOnP isBlank <;> rfl
  rw [words, words, hpieces, List.filter_map]
  congr 2
  funext piece
  cases piece <;> rfl

end CronSchedule
