import Mathlib.Data.List.DropRight
import PolicyReplay.Text.Blank

/-!
# Blanks around a text

Trimming forgets blanks that stand around a text and nothing else. A text is its trimmed form with
blanks on either side, and two texts that differ only in such blanks have the same trimmed form.

## Key results

- `trim_padded`: blanks around a text are not seen
- `exists_trim`: what trimming takes away is blank
- `trim_eq_self`: a text that neither begins nor ends with a blank is left as it is
-/

namespace PolicyReplay.Text

variable {b s : List Char}

/-! ## Texts of blanks -/

/-- A text of blanks has no other characters. -/
theorem isBlankText_iff : isBlankText s = true ↔ ∀ c ∈ s, isBlank c = true := by
  rw [isBlankText, List.all_eq_true]

theorem isBlankText_nil : isBlankText [] = true := rfl

/-- Two texts of blanks, one behind the other. -/
theorem isBlankText_append :
    isBlankText (b ++ s) = true ↔ isBlankText b = true ∧ isBlankText s = true := by
  simp only [isBlankText, List.all_append, Bool.and_eq_true]

/-- A character that is not blank stands in no text of blanks. -/
theorem not_mem_of_isBlankText {c : Char} (hb : isBlankText b = true) (hc : isBlank c = false) :
    c ∉ b := by
  intro hmem
  rw [isBlankText_iff.mp hb c hmem] at hc
  exact nomatch hc

/-- No letter is blank. -/
theorem isBlank_eq_false_of_isAlpha {c : Char} (h : c.isAlpha = true) : isBlank c = false := by
  -- the letters are two ranges of numbers, and no blank has its number in them
  have hletter : (65 ≤ c.toNat ∧ c.toNat ≤ 90) ∨ (97 ≤ c.toNat ∧ c.toNat ≤ 122) := by
    have h : (decide (c.val ≥ 65 ∧ c.val ≤ 90) || (decide (c.val ≥ 97) && decide (c.val ≤ 122))) =
        true := h
    simpa [UInt32.le_iff_toNat_le] using h
  rw [← Bool.not_eq_true]
  simp only [isBlank, Bool.or_eq_true, Bool.and_eq_true, decide_eq_true_eq, beq_iff_eq]
  omega

/-- No blank is a letter. -/
theorem isAlpha_eq_false_of_isBlank {c : Char} (h : isBlank c = true) : c.isAlpha = false := by
  rw [← Bool.not_eq_true]
  intro hletter
  rw [isBlank_eq_false_of_isAlpha hletter] at h
  exact nomatch h

/-- A mark stands in no word of letters. -/
theorem not_mem_of_isAlpha {c : Char} {word : List Char} (h : ∀ c ∈ word, c.isAlpha = true)
    (hc : c.isAlpha = false) : c ∉ word := by
  intro hmem
  rw [h c hmem] at hc
  exact nomatch hc

/-! ## Trimming one side -/

/-- Trimming at the end is the library function that drops characters from the right. -/
theorem trimEnd_eq_rdropWhile (s : List Char) : trimEnd s = s.rdropWhile isBlank := rfl

/-- What is left of a text with blanks behind it. -/
theorem trimEnd_append_blank (hb : isBlankText b = true) : trimEnd (s ++ b) = trimEnd s := by
  rw [trimEnd, trimEnd, List.reverse_append, List.dropWhile_append_of_pos]
  intro c hc
  exact isBlankText_iff.mp hb c (List.mem_reverse.mp hc)

/-- What is left of a text with blanks in front of it. -/
theorem trimStart_append_blank (hb : isBlankText b = true) : trimStart (b ++ s) = trimStart s :=
  List.dropWhile_append_of_pos (isBlankText_iff.mp hb)

/-- Blanks, and then a text that does not begin with one. -/
theorem exists_trimStart (s : List Char) :
    ∃ left, isBlankText left = true ∧ s = left ++ trimStart s := by
  refine ⟨s.takeWhile isBlank, ?_, List.takeWhile_append_dropWhile.symm⟩
  exact isBlankText_iff.mpr fun c hc => List.mem_takeWhile_imp hc

/-- A text that does not end with a blank, and then blanks. -/
theorem exists_trimEnd (s : List Char) :
    ∃ right, isBlankText right = true ∧ s = trimEnd s ++ right := by
  -- behind a text is in front of its reverse
  obtain ⟨left, hleft, hs⟩ := exists_trimStart s.reverse
  refine ⟨left.reverse, ?_, ?_⟩
  · rw [isBlankText, List.all_reverse]
    exact hleft
  · rw [trimEnd, ← List.reverse_append, ← trimStart, ← hs, List.reverse_reverse]

/-- What is left of a text does not begin with a blank. -/
theorem isBlank_of_mem_head?_trimStart {c : Char} (h : c ∈ (trimStart s).head?) :
    isBlank c = false := by
  -- what is left begins with the first character that is not dropped
  have hhead := List.head?_dropWhile_not isBlank s
  rw [← trimStart, h] at hhead
  simpa using hhead

/-- What is left of a text does not end with a blank. -/
theorem isBlank_of_mem_getLast?_trimEnd {c : Char} (h : c ∈ (trimEnd s).getLast?) :
    isBlank c = false := by
  obtain ⟨hne, hlast⟩ := List.mem_getLast?_eq_getLast h
  rw [hlast]
  exact Bool.not_eq_true _ |>.mp (List.rdropWhile_last_not isBlank s hne)

/-- Nothing is left of a text of blanks only, trimmed at the end. -/
theorem trimEnd_eq_nil_iff : trimEnd s = [] ↔ isBlankText s = true := by
  rw [trimEnd_eq_rdropWhile, List.rdropWhile_eq_nil_iff, isBlankText_iff]

/-- Nothing is left of a text of blanks only, trimmed at the start. -/
theorem trimStart_eq_nil_iff : trimStart s = [] ↔ isBlankText s = true := by
  rw [trimStart, List.dropWhile_eq_nil_iff, isBlankText_iff]

/-! ## Trimming both sides -/

/-- Blanks in front of a text do not change its trimmed form. -/
theorem trim_append_left (hb : isBlankText b = true) : trim (b ++ s) = trim s := by
  rw [trim, trimStart_append_blank hb, trim]

/-- Blanks behind a text do not change its trimmed form. -/
theorem trim_append_right (hb : isBlankText b = true) : trim (s ++ b) = trim s := by
  -- either trimming from the left stops within `s`, or it takes `s` and `b` away
  by_cases hs : isBlankText s = true
  · rw [trim, trim, trimStart_eq_nil_iff.mpr hs,
      trimStart_eq_nil_iff.mpr (isBlankText_append.mpr ⟨hs, hb⟩)]
  · have hne : ¬ (List.dropWhile isBlank s).isEmpty = true := by
      rw [List.isEmpty_iff]
      exact fun h => hs (trimStart_eq_nil_iff.mp h)
    rw [trim, trimStart, List.dropWhile_append, if_neg hne, trimEnd_append_blank hb, ← trimStart,
      trim]

/-- A text with blanks around it has the trimmed form of the text. -/
theorem trim_padded {left right : List Char} (hleft : isBlankText left = true)
    (hright : isBlankText right = true) : trim (left ++ s ++ right) = trim s := by
  rw [trim_append_right hright, trim_append_left hleft]

/-- A text is its trimmed form with blanks around it. -/
theorem exists_trim (s : List Char) :
    ∃ left right, isBlankText left = true ∧ isBlankText right = true ∧
      s = left ++ trim s ++ right := by
  obtain ⟨left, hleft, hs⟩ := exists_trimStart s
  -- the end is trimmed after the start, so it is the end of what is left then
  obtain ⟨right, hright, hrest⟩ := exists_trimEnd (trimStart s)
  refine ⟨left, right, hleft, hright, ?_⟩
  rw [trim, List.append_assoc, ← hrest, ← hs]

/-- Trimming adds nothing. -/
theorem mem_of_mem_trim {c : Char} (h : c ∈ trim s) : c ∈ s := by
  obtain ⟨left, right, -, -, hs⟩ := exists_trim s
  rw [hs]
  simp [h]

/-- Trimming takes nothing but blanks. -/
theorem mem_trim_of_mem {c : Char} (h : c ∈ s) (hc : isBlank c = false) : c ∈ trim s := by
  obtain ⟨left, right, hleft, hright, hs⟩ := exists_trim s
  rw [hs, List.mem_append, List.mem_append] at h
  rcases h with (h | h) | h
  -- the parts that are taken away are blanks, which the character is not
  · exact absurd h (not_mem_of_isBlankText hleft hc)
  · exact h
  · exact absurd h (not_mem_of_isBlankText hright hc)

/-- A trimmed text does not begin with a blank. -/
theorem isBlank_of_mem_head?_trim {c : Char} (h : c ∈ (trim s).head?) : isBlank c = false := by
  -- trimming at the end takes nothing away from the front of what is left
  obtain ⟨right, -, hs⟩ := exists_trimEnd (trimStart s)
  refine isBlank_of_mem_head?_trimStart (s := s) ?_
  rw [hs, ← trim, List.head?_append, h]
  rfl

/-- A trimmed text does not end with a blank. -/
theorem isBlank_of_mem_getLast?_trim {c : Char} (h : c ∈ (trim s).getLast?) :
    isBlank c = false :=
  isBlank_of_mem_getLast?_trimEnd h

/-- Trimming again changes nothing. -/
theorem trim_trim (s : List Char) : trim (trim s) = trim s := by
  obtain ⟨left, right, hleft, hright, hs⟩ := exists_trim s
  conv_rhs => rw [hs]
  rw [trim_padded hleft hright]

/-- Only a text of blanks is trimmed to nothing. -/
theorem trim_eq_nil_iff : trim s = [] ↔ isBlankText s = true := by
  constructor
  · intro h
    obtain ⟨left, right, hleft, hright, hs⟩ := exists_trim s
    rw [hs, h, List.append_nil]
    exact isBlankText_append.mpr ⟨hleft, hright⟩
  · intro h
    -- all of the text can be seen as blanks in front of nothing
    have hpadded := trim_append_left (s := []) h
    rw [List.append_nil] at hpadded
    rw [hpadded]
    rfl

/-- A text that neither begins nor ends with a blank is its own trimmed form. -/
theorem trim_eq_self (hhead : ∀ c ∈ s.head?, isBlank c = false)
    (hlast : ∀ c ∈ s.getLast?, isBlank c = false) : trim s = s := by
  have hstart : trimStart s = s := by
    -- only the first character decides whether anything is dropped
    cases s with
    | nil => rfl
    | cons c s => simp [trimStart, hhead c rfl]
  rw [trim, hstart, trimEnd_eq_rdropWhile, List.rdropWhile_eq_self_iff]
  intro hne hblank
  rw [hlast _ (List.getLast?_eq_some_getLast hne)] at hblank
  exact nomatch hblank

end PolicyReplay.Text
