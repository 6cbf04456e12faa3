import Mathlib.Data.List.Basic
import PolicyReplay.Proofs.Text.Trim
import PolicyReplay.Text.Enclosed

/-!
# Parts of a text

Cutting at a separator and writing parts with the separator between them are inverse to each other.
Where a text is cut once, at a first or a last mark, the mark and the side without it say exactly
where: `splitFirst`, `splitLast` and `parenthesized?` are described by the text that they cut.

## Key results

- `splitFirst_eq_some_iff`, `splitLast_eq_some_iff`, `parenthesized?_eq_some_iff`
- `pieces_joinWith`, `joinWith_pieces`: cutting and joining are inverse
- `map_trim_pieces_trim`: trimming a text does not change its trimmed pieces
- `words_ne_nil_iff`: which texts have a word
- `unquote_quoted`, `unquote_cases`: one level of quotes
-/

namespace PolicyReplay.Text

variable {mark : Char} {s before after : List Char}

/-! ## Cutting once -/

/-- A text without the mark is not cut. -/
theorem splitFirst_of_not_mem (h : mark ∉ s) : splitFirst mark s = none := by
  -- induction on the text, as all the cuts are made character by character
  induction s with
  | nil => rfl
  | cons c s ih =>
    obtain ⟨hc, hs⟩ := not_or.mp (mt List.mem_cons.mpr h)
    rw [splitFirst, if_neg (Ne.symm hc), ih hs]
    rfl

/-- A text is cut at a mark that has none before it. -/
theorem splitFirst_append_cons (h : mark ∉ before) (after : List Char) :
    splitFirst mark (before ++ mark :: after) = some (before, after) := by
  induction before with
  | nil => rw [List.nil_append, splitFirst, if_pos rfl]
  | cons c before ih =>
    obtain ⟨hc, hbefore⟩ := not_or.mp (mt List.mem_cons.mpr h)
    rw [List.cons_append, splitFirst, if_neg (Ne.symm hc), ih hbefore]
    rfl

/-- The first cut is the one with no mark before it. -/
theorem splitFirst_eq_some_iff :
    splitFirst mark s = some (before, after) ↔ s = before ++ mark :: after ∧ mark ∉ before := by
  constructor
  · intro h
    by_cases hmem : mark ∈ s
    · -- cutting where the first mark is gives this very cut
      obtain ⟨b, a, rfl, hb⟩ := List.eq_append_cons_of_mem hmem
      rw [splitFirst_append_cons hb] at h
      obtain ⟨rfl, rfl⟩ := Prod.mk.inj (Option.some.inj h)
      exact ⟨rfl, hb⟩
    · rw [splitFirst_of_not_mem hmem] at h
      exact nomatch h
  · rintro ⟨rfl, hbefore⟩
    exact splitFirst_append_cons hbefore after

/-- Only a text without the mark is not cut. -/
theorem splitFirst_eq_none_iff : splitFirst mark s = none ↔ mark ∉ s := by
  refine ⟨fun h hmem => ?_, splitFirst_of_not_mem⟩
  obtain ⟨before, after, rfl, hbefore⟩ := List.eq_append_cons_of_mem hmem
  rw [splitFirst_append_cons hbefore] at h
  exact nomatch h

/-- The last mark of a text is the first one from behind. -/
theorem exists_last_mark (h : mark ∈ s) :
    ∃ before after, s = before ++ mark :: after ∧ mark ∉ after := by
  -- the text is turned around, where the mark in question is the first one
  obtain ⟨a, b, hs, ha⟩ := List.eq_append_cons_of_mem (List.mem_reverse.mpr h)
  refine ⟨b.reverse, a.reverse, ?_, mt List.mem_reverse.mp ha⟩
  rw [← List.reverse_reverse s, hs]
  simp

/-- A text without the mark is not cut at its last one. -/
theorem splitLast_of_not_mem (h : mark ∉ s) : splitLast mark s = none := by
  induction s with
  | nil => rfl
  | cons c s ih =>
    obtain ⟨hc, hs⟩ := not_or.mp (mt List.mem_cons.mpr h)
    -- the cut looks into the rest first, and there is no mark in it
    rw [splitLast, ih hs]
    exact if_neg (Ne.symm hc)

/-- A text is cut at a mark that has none after it. -/
theorem splitLast_append_cons (before : List Char) (h : mark ∉ after) :
    splitLast mark (before ++ mark :: after) = some (before, after) := by
  induction before with
  | nil =>
    -- a mark is the last one if none is found behind it
    rw [List.nil_append, splitLast, splitLast_of_not_mem h]
    exact if_pos rfl
  | cons c before ih => rw [List.cons_append, splitLast, ih]

/-- The last cut is the one with no mark after it. -/
theorem splitLast_eq_some_iff :
    splitLast mark s = some (before, after) ↔ s = before ++ mark :: after ∧ mark ∉ after := by
  constructor
  · intro h
    by_cases hmem : mark ∈ s
    · obtain ⟨b, a, rfl, ha⟩ := exists_last_mark hmem
      -- as for the first cut, cutting where the last mark is gives this very cut
      rw [splitLast_append_cons b ha] at h
      obtain ⟨rfl, rfl⟩ := Prod.mk.inj (Option.some.inj h)
      exact ⟨rfl, ha⟩
    · rw [splitLast_of_not_mem hmem] at h
      exact nomatch h
  · rintro ⟨rfl, hafter⟩
    exact splitLast_append_cons before hafter

/-- Only a text without the mark is not cut at its last one. -/
theorem splitLast_eq_none_iff : splitLast mark s = none ↔ mark ∉ s := by
  refine ⟨fun h hmem => ?_, splitLast_of_not_mem⟩
  obtain ⟨before, after, rfl, hafter⟩ := exists_last_mark hmem
  rw [splitLast_append_cons before hafter] at h
  exact nomatch h

/-- The outer parentheses of a text are its first `(` and its last `)`. -/
theorem parenthesized?_eq_some_iff {p : Parenthesized} :
    parenthesized? s = some p ↔
      s = p.before ++ '(' :: (p.inside ++ ')' :: p.after) ∧ '(' ∉ p.before ∧ ')' ∉ p.after := by
  constructor
  · intro h
    unfold parenthesized? at h
    split at h
    · exact nomatch h
    -- the last `)` is looked for only behind the first `(`
    · rename_i before rest hfirst
      split at h
      · exact nomatch h
      · rename_i inside after hlast
        obtain rfl := Option.some.inj h
        obtain ⟨rfl, hbefore⟩ := splitFirst_eq_some_iff.mp hfirst
        obtain ⟨rfl, hafter⟩ := splitLast_eq_some_iff.mp hlast
        exact ⟨rfl, hbefore, hafter⟩
  · rintro ⟨rfl, hbefore, hafter⟩
    rw [parenthesized?, splitFirst_append_cons hbefore]
    simp only [splitLast_append_cons _ hafter]

/-- Trimming a text does not reach into its parentheses. -/
theorem trim_enclosed (before inside after : List Char) :
    trim (before ++ '(' :: (inside ++ ')' :: after)) =
      trimStart before ++ '(' :: (inside ++ ')' :: trimEnd after) := by
  obtain ⟨left, hleft, hstart⟩ := exists_trimStart before
  obtain ⟨right, hright, hend⟩ := exists_trimEnd after
  have hparts : before ++ '(' :: (inside ++ ')' :: after) =
      left ++ (trimStart before ++ '(' :: (inside ++ ')' :: trimEnd after)) ++ right := by
    conv_lhs => rw [hstart, hend]
    simp
  rw [hparts, trim_padded hleft hright]
  -- at both ends stands a parenthesis or a character that trimming has left
  refine trim_eq_self (fun c hc => ?_) (fun c hc => ?_)
  · rw [List.head?_append, Option.mem_def, Option.or_eq_some_iff] at hc
    rcases hc with hc | ⟨-, hc⟩
    · exact isBlank_of_mem_head?_trimStart hc
    · obtain rfl := Option.some.inj hc
      decide
  · have hlast : (trimStart before ++ '(' :: (inside ++ ')' :: trimEnd after)).getLast? =
        (trimEnd after).getLast?.or (some ')') := by
      rw [← List.cons_append, ← List.append_assoc, List.getLast?_append, List.getLast?_cons]
      cases (trimEnd after).getLast? <;> rfl
    rw [hlast, Option.mem_def, Option.or_eq_some_iff] at hc
    rcases hc with hc | ⟨-, hc⟩
    · exact isBlank_of_mem_getLast?_trimEnd hc
    · obtain rfl := Option.some.inj hc
      decide

/-! ## Pieces -/

/-- Cutting at one character is the cutting of lists. -/
theorem pieces_eq_splitOn (mark : Char) (s : List Char) :
    pieces (· == mark) s = s.splitOn mark := by
  induction s with
  | nil => rfl
  | cons c s ih =>
    rw [pieces, List.splitOn_cons_eq_if_modifyHead, ih]
    split
    · rfl
    · cases hs : s.splitOn mark with
      | nil => exact absurd hs (List.splitOn_ne_nil mark s)
      | cons first rest => rfl

/-- Joining with a separator is that of lists. -/
theorem joinWith_eq_intercalate (separator : List Char) (items : List (List Char)) :
    joinWith separator items = separator.intercalate items := by
  induction items with
  | nil => rfl
  | cons item rest ih =>
    cases rest with
    | nil => simp [joinWith]
    | cons next rest => rw [joinWith, ih, List.intercalate_cons_cons]; simp

/-- Cutting at a character gives back the items that were joined with it. -/
theorem pieces_joinWith {items : List (List Char)} (hne : items ≠ [])
    (h : ∀ item ∈ items, mark ∉ item) : pieces (· == mark) (joinWith [mark] items) = items := by
  rw [pieces_eq_splitOn, joinWith_eq_intercalate]
  exact List.splitOn_intercalate mark h hne

/-- Joining the pieces gives back the text that was cut. -/
theorem joinWith_pieces (mark : Char) (s : List Char) :
    joinWith [mark] (pieces (· == mark) s) = s := by
  rw [pieces_eq_splitOn, joinWith_eq_intercalate]
  exact List.intercalate_splitOn mark

/-- Each item but the first stands behind a separator. -/
theorem joinWith_cons (mark : Char) (item : List Char) (items : List (List Char)) :
    joinWith [mark] (item :: items) = item ++ items.flatMap (mark :: ·) := by
  induction items generalizing item with
  | nil => simp [joinWith]
  | cons next rest ih =>
    rw [joinWith, ih]
    · simp
    · exact fun h => nomatch h

/-- A separator stands between an item and all that are behind it. -/
theorem joinWith_cons_of_ne_nil {items : List (List Char)} (h : items ≠ [])
    (separator item : List Char) :
    joinWith separator (item :: items) = item ++ separator ++ joinWith separator items := by
  rw [joinWith_eq_intercalate, List.intercalate_cons_of_ne_nil h, ← joinWith_eq_intercalate]

/-- Two runs of items that are not empty have one more separator between them. -/
theorem joinWith_append {items others : List (List Char)} (h : items ≠ []) (hothers : others ≠ [])
    (separator : List Char) :
    joinWith separator (items ++ others) =
      joinWith separator items ++ separator ++ joinWith separator others := by
  induction items with
  | nil => exact absurd rfl h
  | cons item items ih =>
    -- the last item has its separator to the others, and not to more items of its own
    by_cases hitems : items = []
    · subst hitems
      exact joinWith_cons_of_ne_nil hothers separator item
    · have hrest : items ++ others ≠ [] := List.append_ne_nil_of_left_ne_nil hitems others
      rw [List.cons_append, joinWith_cons_of_ne_nil hrest, ih hitems,
        joinWith_cons_of_ne_nil hitems]
      simp only [List.append_assoc]

/-- Joining what was joined is joining all at once, if nothing that was joined is empty. -/
theorem joinWith_flatten {groups : List (List (List Char))} (h : ∀ group ∈ groups, group ≠ [])
    (separator : List Char) :
    joinWith separator groups.flatten = joinWith separator (groups.map (joinWith separator)) := by
  induction groups with
  | nil => rfl
  | cons group groups ih =>
    obtain ⟨hgroup, hgroups⟩ := List.forall_mem_cons.mp h
    -- only between two groups there is a separator, so the last group is another case
    by_cases hne : groups = []
    · subst hne
      simp [joinWith]
    · obtain ⟨next, hnext⟩ := List.exists_mem_of_ne_nil groups hne
      -- the groups behind are not empty, and neither is what they are joined from
      have hflatten : groups.flatten ≠ [] :=
        List.flatten_ne_nil_iff.mpr ⟨next, hnext, hgroups next hnext⟩
      rw [List.flatten_cons, joinWith_append hgroup hflatten, ih hgroups, List.map_cons,
        joinWith_cons_of_ne_nil (mt List.map_eq_nil_iff.mp hne)]

/-- One of the items can be exchanged in the joined text. -/
theorem exists_joinWith_frame (separator : List Char) (before after : List (List Char)) :
    ∃ lead trail, ∀ item,
      joinWith separator (before ++ item :: after) = lead ++ item ++ trail := by
  induction before with
  | nil =>
    cases after with
    | nil => exact ⟨[], [], fun item => by simp [joinWith]⟩
    | cons next after =>
      exact ⟨[], separator ++ joinWith separator (next :: after), fun item => by simp [joinWith]⟩
  | cons first before ih =>
    obtain ⟨lead, trail, hframe⟩ := ih
    refine ⟨first ++ separator ++ lead, trail, fun item => ?_⟩
    rw [List.cons_append, joinWith_cons_of_ne_nil (by simp), hframe]
    simp

/-- What is written with marks between items comes from the items or from the marks. -/
theorem mem_of_mem_joinWith {c : Char} {items : List (List Char)}
    (h : c ∈ joinWith [mark] items) : c = mark ∨ ∃ item ∈ items, c ∈ item := by
  cases items with
  | nil => exact nomatch h
  | cons item items =>
    rw [joinWith_cons, List.mem_append, List.mem_flatMap] at h
    -- behind the first item, a character is a mark or in the item behind that mark
    rcases h with h | ⟨other, hother, h⟩
    · exact .inr ⟨item, List.mem_cons_self, h⟩
    · rcases List.mem_cons.mp h with rfl | h
      · exact .inl rfl
      · exact .inr ⟨other, List.mem_cons_of_mem _ hother, h⟩

/-- A piece is part of the text. -/
theorem mem_of_mem_piece {c : Char} {piece : List Char} (h : piece ∈ pieces (· == mark) s)
    (hc : c ∈ piece) : c ∈ s := by
  -- with the other pieces around it, the piece is a part of what they are joined to
  obtain ⟨before, after, hpieces⟩ := List.append_of_mem h
  obtain ⟨lead, trail, hframe⟩ := exists_joinWith_frame [mark] before after
  have hs : s = lead ++ piece ++ trail := by rw [← hframe, ← hpieces, joinWith_pieces]
  rw [hs]
  simp [hc]

/-- A text without the mark is one piece. -/
theorem pieces_of_not_mem (h : mark ∉ s) : pieces (· == mark) s = [s] := by
  rw [pieces_eq_splitOn, List.splitOn_eq_singleton h]

/-- A text is cut at each of its separators. -/
theorem pieces_append_cons (mark : Char) (s t : List Char) :
    pieces (· == mark) (s ++ mark :: t) = pieces (· == mark) s ++ pieces (· == mark) t := by
  simp only [pieces_eq_splitOn, List.splitOn_append_cons_self]

/-- No piece holds the mark. -/
theorem not_mem_of_mem_pieces {piece : List Char} (h : piece ∈ pieces (· == mark) s) :
    mark ∉ piece := by
  -- induction on the text, over all its pieces, since a character changes only the first
  induction s generalizing piece with
  | nil =>
    obtain rfl := List.mem_singleton.mp h
    exact List.not_mem_nil
  | cons c s ih =>
    by_cases hc : c = mark
    · rw [pieces, if_pos (beq_iff_eq.mpr hc)] at h
      rcases List.mem_cons.mp h with rfl | h
      · exact List.not_mem_nil
      · exact ih h
    · -- the first piece of the rest gets `c` in front of it
      obtain ⟨first, rest, hs⟩ := List.exists_cons_of_ne_nil (pieces_ne_nil (· == mark) s)
      rw [pieces, if_neg (mt beq_iff_eq.mp hc), hs] at h
      rw [hs] at ih
      rcases List.mem_cons.mp h with rfl | h
      · simp [Ne.symm hc, ih List.mem_cons_self]
      · exact ih (List.mem_cons_of_mem first h)

/-- Blanks in front of a text do not change its pieces, but for blanks around them. -/
theorem map_trim_pieces_append_left {b : List Char} (hmark : mark ∉ b)
    (hb : isBlankText b = true) :
    (pieces (· == mark) (b ++ s)).map trim = (pieces (· == mark) s).map trim := by
  -- the blanks go to the first piece, whether or not there are others
  by_cases hmem : mark ∈ s
  · obtain ⟨before, after, rfl, hbefore⟩ := List.eq_append_cons_of_mem hmem
    rw [← List.append_assoc, pieces_append_cons, pieces_append_cons, pieces_of_not_mem hbefore,
      pieces_of_not_mem (List.not_mem_append hmark hbefore)]
    simp [trim_append_left hb]
  · rw [pieces_of_not_mem hmem, pieces_of_not_mem (List.not_mem_append hmark hmem)]
    simp [trim_append_left hb]

/-- Blanks behind a text do not change its pieces, but for blanks around them. -/
theorem map_trim_pieces_append_right {b : List Char} (hmark : mark ∉ b)
    (hb : isBlankText b = true) :
    (pieces (· == mark) (s ++ b)).map trim = (pieces (· == mark) s).map trim := by
  -- the blanks go to the last piece
  by_cases hmem : mark ∈ s
  · obtain ⟨before, after, rfl, hafter⟩ := exists_last_mark hmem
    rw [List.append_assoc, List.cons_append, pieces_append_cons, pieces_append_cons,
      pieces_of_not_mem hafter, pieces_of_not_mem (List.not_mem_append hafter hmark)]
    simp [trim_append_right hb]
  · rw [pieces_of_not_mem hmem, pieces_of_not_mem (List.not_mem_append hmem hmark)]
    simp [trim_append_right hb]

/-- The pieces of a trimmed text are those of the text, but for blanks around them. -/
theorem map_trim_pieces_trim (hmark : isBlank mark = false) (s : List Char) :
    (pieces (· == mark) (trim s)).map trim = (pieces (· == mark) s).map trim := by
  obtain ⟨left, right, hleft, hright, hs⟩ := exists_trim s
  conv_rhs => rw [hs]
  -- the trimmed text is the text without blanks, which the mark is not among
  rw [map_trim_pieces_append_right (not_mem_of_isBlankText hright hmark) hright,
    map_trim_pieces_append_left (not_mem_of_isBlankText hleft hmark) hleft]

/-! ## Words -/

/-- The words of a text are its pieces between blanks that are not empty. -/
theorem mem_words_iff {word : List Char} :
    word ∈ words s ↔ word ∈ pieces isBlank s ∧ word ≠ [] := by
  simp [words, List.mem_filter]

/-- Some piece of a text is not empty exactly if the text has more than separators. -/
theorem exists_piece_ne_nil_iff {p : Char → Bool} :
    (∃ piece ∈ pieces p s, piece ≠ []) ↔ ∃ c ∈ s, p c = false := by
  induction s with
  | nil => simp [pieces]
  | cons c s ih =>
    cases hc : p c with
    | true => simpa [pieces, hc] using ih
    | false =>
      -- the character stands in the first piece
      obtain ⟨first, rest, hs⟩ := List.exists_cons_of_ne_nil (pieces_ne_nil p s)
      refine iff_of_true ⟨c :: first, ?_, List.cons_ne_nil _ _⟩ ⟨c, List.mem_cons_self, hc⟩
      simp [pieces, hc, hs]

/-- A text has a word exactly if not all of it is blank. -/
theorem words_ne_nil_iff : words s ≠ [] ↔ isBlankText s = false := by
  calc words s ≠ []
    _ ↔ ∃ word, word ∈ words s := by rw [ne_eq, List.eq_nil_iff_forall_not_mem, not_forall_not]
    _ ↔ ∃ piece ∈ pieces isBlank s, piece ≠ [] := by simp only [mem_words_iff]
    _ ↔ ∃ c ∈ s, isBlank c = false := exists_piece_ne_nil_iff
    _ ↔ isBlankText s = false := by simp [isBlankText]

/-! ## Quotes -/

/-- A text in quotes. -/
theorem unquote_quoted (s : List Char) : unquote ('"' :: (s ++ ['"'])) = s := by
  simp [unquote]

/-- Only a text that begins with a quote can lose its quotes. -/
theorem unquote_of_head_ne (h : s.head? ≠ some '"') : unquote s = s := by
  cases s with
  | nil => rfl
  | cons c s =>
    unfold unquote
    split
    · rename_i heq
      exact absurd (congrArg List.head? heq) h
    · rfl

/-- A text either stays as it is, or it stood in quotes. -/
theorem unquote_cases (s : List Char) : unquote s = s ∨ s = '"' :: (unquote s ++ ['"']) := by
  cases s with
  | nil => exact .inl rfl
  | cons c s =>
    unfold unquote
    split
    · rename_i t heq
      obtain ⟨rfl, rfl⟩ := List.cons.inj heq
      -- there is a quote at the front, and at the end there may be another
      split
      · rename_i hlast
        have hlast' := List.dropLast_append_getLast? '"' hlast
        exact .inr (by rw [hlast'])
      · exact .inl rfl
    · exact .inl rfl

/-- Only a text that ends with a quote can lose its quotes. -/
theorem unquote_of_getLast_ne (h : s.getLast? ≠ some '"') : unquote s = s := by
  rcases unquote_cases s with hs | hs
  · exact hs
  -- a text that stood in quotes ends with one
  · rw [hs, ← List.cons_append, List.getLast?_concat] at h
    exact absurd rfl h

/-- What stands in quotes can be exchanged, and so can what stands without them as long as it does
not end with a quote. -/
theorem exists_unquote_frame (s : List Char) :
    ∃ l r, s = l ++ unquote s ++ r ∧ ∀ t : List Char, t.getLast? ≠ some '"' →
      unquote (l ++ t ++ r) = t := by
  rcases unquote_cases s with hs | hs
  · exact ⟨[], [], by simp [hs], fun t ht => by simpa using unquote_of_getLast_ne ht⟩
  · exact ⟨['"'], ['"'], by simpa using hs, fun t _ => unquote_quoted t⟩

/-- What is left of a text without its quotes is a part of it. -/
theorem mem_of_mem_unquote {c : Char} (h : c ∈ unquote s) : c ∈ s := by
  rcases unquote_cases s with hs | hs
  · rwa [hs] at h
  · rw [hs]
    simp [h]

end PolicyReplay.Text
