import PolicyReplay.Proofs.Text.Split
import PolicyReplay.Trace.Placeholder

/-!
# Filling a text part by part

A placeholder consists of letters, so it reaches across no other character, and a text can be cut at
its marks before it is filled as well as after. The same goes for the blanks and the quotes around a
text, as long as the filler is a word: then it brings in no mark of its own, and it is there to be
seen.

## Key results

- `expandChars_append_cons`: what stands on both sides of a mark is filled on its own
- `pieces_expandChars`, `splitFirst_expandChars`: cutting
- `trim_expandChars`, `unquote_expandChars`: blanks and quotes
-/

namespace PolicyReplay.Trace

variable {word s t : List Char} {c mark : Char}

/-! ## Parts of a text -/

/-- Another character than the first of a placeholder is kept. -/
theorem expandChars_cons_of_ne (hc : c ≠ 'V') :
    expandChars word (c :: s) = c :: expandChars word s := by
  rw [expandChars]
  exact fun _ h => absurd h hc

/-- Text before the first `V` stays as it is. -/
theorem expandChars_append_of_not_mem (h : 'V' ∉ s) :
    expandChars word (s ++ t) = s ++ expandChars word t := by
  -- by induction on the text, no character of which begins a placeholder
  induction s with
  | nil => rfl
  | cons c s ih =>
    obtain ⟨hc, hs⟩ := not_or.mp (mt List.mem_cons.mpr h)
    rw [List.cons_append, expandChars_cons_of_ne (Ne.symm hc), ih hs, List.cons_append]

/-- A text without a `V` is filled to itself. -/
theorem expandChars_of_not_mem (h : 'V' ∉ s) : expandChars word s = s := by
  have hs : expandChars word (s ++ []) = s ++ [] := expandChars_append_of_not_mem h
  rwa [List.append_nil] at hs

/-- What is no letter is none of the letters of the placeholder. -/
theorem ne_of_isAlpha_eq_false {letter : Char} (hc : c.isAlpha = false)
    (hletter : letter.isAlpha = true) : c ≠ letter := by
  rintro rfl
  rw [hletter] at hc
  exact nomatch hc

/-- No placeholder reaches across a character that is no letter. -/
theorem expandChars_append_cons (hc : c.isAlpha = false) (s t : List Char) :
    expandChars word (s ++ c :: t) = expandChars word s ++ c :: expandChars word t := by
  fun_induction expandChars word s with
  | case1 rest ih => simp [expandChars, ih]
  | case2 d rest hne ih =>
    rw [List.cons_append, expandChars, ih, List.cons_append]
    -- a placeholder that begins at `d` would end before `c`, and so within `rest`
    rintro after rfl hrest
    have hne' {letter : Char} (hletter : letter.isAlpha = true) : c ≠ letter :=
      ne_of_isAlpha_eq_false hc hletter
    rcases rest with _ | ⟨a, _ | ⟨b, rest⟩⟩
    · exact hne' (by decide) (List.cons.inj hrest).1
    · exact hne' (by decide) (List.cons.inj (List.cons.inj hrest).2).1
    · obtain ⟨ha, hrest⟩ := List.cons.inj hrest
      obtain ⟨hb, -⟩ := List.cons.inj hrest
      exact hne rest rfl (by rw [ha, hb])
  | case3 => exact expandChars_cons_of_ne (ne_of_isAlpha_eq_false hc (by decide))

/-- A text with a mark in front of it. -/
theorem expandChars_cons (hc : c.isAlpha = false) (s : List Char) :
    expandChars word (c :: s) = c :: expandChars word s :=
  expandChars_append_cons hc [] s

/-- Items are filled one by one if there is a mark between them. -/
theorem expandChars_joinWith (hmark : mark.isAlpha = false) (items : List (List Char)) :
    expandChars word (Text.joinWith [mark] items) =
      Text.joinWith [mark] (items.map (expandChars word)) := by
  cases items with
  | nil => rfl
  | cons item items =>
    rw [List.map_cons, Text.joinWith_cons, Text.joinWith_cons]
    -- by induction on the items behind the first, each of which follows a mark
    induction items generalizing item with
    | nil => simp
    | cons next rest ih =>
      simp only [List.flatMap_cons, List.map_cons]
      rw [List.cons_append, expandChars_append_cons hmark, ih]
      rfl

/-- Blanks around a text stay as they are. -/
theorem expandChars_padded {left right : List Char} (hleft : Text.isBlankText left = true)
    (hright : Text.isBlankText right = true) (s : List Char) :
    expandChars word (left ++ s ++ right) = left ++ expandChars word s ++ right := by
  have hfree {b : List Char} (hb : Text.isBlankText b = true) : 'V' ∉ b :=
    Text.not_mem_of_isBlankText hb (by decide)
  rw [List.append_assoc, expandChars_append_of_not_mem (hfree hleft), List.append_assoc]
  -- the blanks on the right begin with a character that is no letter
  cases right with
  | nil => simp
  | cons c rest =>
    have hblank := Text.isBlankText_iff.mp hright c List.mem_cons_self
    have hc := Text.isAlpha_eq_false_of_isBlank hblank
    rw [expandChars_append_cons hc, ← expandChars_cons hc, expandChars_of_not_mem (hfree hright)]

/-! ## Fillers that are words -/

/-- A word of letters. -/
structure IsWord (word : List Char) : Prop where
  ne_nil : word ≠ []
  isAlpha : ∀ c ∈ word, c.isAlpha = true

/-- A filler of some size is a word. -/
theorem isWord_filler {size : Nat} (h : 1 ≤ size) : IsWord (filler size).toList := by
  rw [filler, String.toList_ofList]
  refine ⟨?_, fun c hc => ?_⟩
  · rw [ne_eq, List.replicate_eq_nil_iff]
    omega
  · rw [List.eq_of_mem_replicate hc]
    decide

/-- A filled text holds its own characters and those of the filler. -/
theorem mem_or_mem_of_mem_expandChars (h : c ∈ expandChars word s) : c ∈ s ∨ c ∈ word := by
  -- along the definition: a placeholder gives the filler, and another character itself
  fun_induction expandChars word s with
  | case1 rest ih =>
    rcases List.mem_append.mp h with h | h
    · exact .inr h
    · exact (ih h).imp_left fun h => by simp [h]
  | case2 d rest hne ih =>
    rcases List.mem_cons.mp h with rfl | h
    · exact .inl List.mem_cons_self
    · exact (ih h).imp_left fun h => List.mem_cons_of_mem d h
  | case3 => exact .inl h

/-- No mark comes in with the filler. -/
theorem IsWord.not_mem_expandChars (hword : IsWord word) (hc : c.isAlpha = false) (h : c ∉ s) :
    c ∉ expandChars word s := fun hmem =>
  (mem_or_mem_of_mem_expandChars hmem).elim h (Text.not_mem_of_isAlpha hword.isAlpha hc)

/-- Only the empty text is filled to the empty text. -/
theorem IsWord.expandChars_eq_nil_iff (hword : IsWord word) : expandChars word s = [] ↔ s = [] := by
  constructor
  · intro h
    -- neither a filler nor a character that is kept is nothing
    fun_induction expandChars word s with
    | case1 rest _ => exact absurd (List.append_eq_nil_iff.mp h).1 hword.ne_nil
    | case2 d rest _ _ => exact nomatch h
    | case3 => rfl
  · rintro rfl
    rfl

/-- A filled text begins as before or with a letter of the filler. -/
theorem IsWord.mem_head?_expandChars (hword : IsWord word) (h : c ∈ (expandChars word s).head?) :
    c ∈ s.head? ∨ c ∈ word := by
  fun_induction expandChars word s with
  | case1 rest _ =>
    rw [List.head?_append_of_ne_nil _ hword.ne_nil] at h
    exact .inr (List.mem_of_mem_head? h)
  | case2 d rest _ _ => exact .inl h
  | case3 => exact .inl h

/-- A filled text ends as before or with a letter of the filler. -/
theorem IsWord.mem_getLast?_expandChars (hword : IsWord word)
    (h : c ∈ (expandChars word s).getLast?) : c ∈ s.getLast? ∨ c ∈ word := by
  fun_induction expandChars word s with
  | case1 rest ih =>
    -- the end of a text is that of what stands behind its first placeholder or character
    by_cases hrest : rest = []
    · subst hrest
      rw [expandChars, List.append_nil] at h
      exact .inr (List.mem_of_mem_getLast? h)
    · rw [List.getLast?_append_of_ne_nil _ (mt hword.expandChars_eq_nil_iff.mp hrest)] at h
      refine (ih h).imp_left fun h => ?_
      rwa [List.getLast?_cons_cons, List.getLast?_cons_cons, List.getLast?_cons_of_ne_nil hrest]
  | case2 d rest hne ih =>
    by_cases hrest : rest = []
    · subst hrest
      exact .inl h
    · rw [List.getLast?_cons_of_ne_nil (mt hword.expandChars_eq_nil_iff.mp hrest)] at h
      rw [List.getLast?_cons_of_ne_nil hrest]
      exact ih h
  | case3 => exact .inl h

/-! ## Cutting, trimming and unquoting -/

/-- The pieces of a filled text are those of the text, each of them filled. -/
theorem IsWord.pieces_expandChars (hword : IsWord word) (hmark : mark.isAlpha = false)
    (s : List Char) :
    Text.pieces (· == mark) (expandChars word s) =
      (Text.pieces (· == mark) s).map (expandChars word) := by
  have hne : (Text.pieces (· == mark) s).map (expandChars word) ≠ [] :=
    mt List.map_eq_nil_iff.mp (Text.pieces_ne_nil _ s)
  have hfree : ∀ piece ∈ (Text.pieces (· == mark) s).map (expandChars word), mark ∉ piece :=
    List.forall_mem_map.mpr fun piece hpiece =>
      hword.not_mem_expandChars hmark (Text.not_mem_of_mem_pieces hpiece)
  -- the filled pieces hold no mark, so joining and cutting them again gives them back
  rw [← Text.pieces_joinWith hne hfree, ← expandChars_joinWith hmark, Text.joinWith_pieces]

/-- A filled text is cut where the text is. -/
theorem IsWord.splitFirst_expandChars (hword : IsWord word) (hmark : mark.isAlpha = false)
    (s : List Char) :
    Text.splitFirst mark (expandChars word s) =
      (Text.splitFirst mark s).map (Prod.map (expandChars word) (expandChars word)) := by
  cases hs : Text.splitFirst mark s with
  | none =>
    have hfree := Text.splitFirst_eq_none_iff.mp hs
    exact Text.splitFirst_of_not_mem (hword.not_mem_expandChars hmark hfree)
  -- what stands before the first mark holds none when it is filled either
  | some parts =>
    obtain ⟨before, after⟩ := parts
    obtain ⟨rfl, hfree⟩ := Text.splitFirst_eq_some_iff.mp hs
    rw [expandChars_append_cons hmark]
    exact Text.splitFirst_append_cons (hword.not_mem_expandChars hmark hfree) _

/-- The blanks around a text are those around the filled text. -/
theorem IsWord.trim_expandChars (hword : IsWord word) (s : List Char) :
    Text.trim (expandChars word s) = expandChars word (Text.trim s) := by
  obtain ⟨left, right, hleft, hright, hs⟩ := Text.exists_trim s
  have hletter {c : Char} (hc : c ∈ word) : Text.isBlank c = false :=
    Text.isBlank_eq_false_of_isAlpha (hword.isAlpha c hc)
  conv_lhs => rw [hs, expandChars_padded hleft hright, Text.trim_padded hleft hright]
  -- what is filled neither begins nor ends with a blank, as letters are none
  exact Text.trim_eq_self
    (fun c hc => (hword.mem_head?_expandChars hc).elim Text.isBlank_of_mem_head?_trim hletter)
    (fun c hc => (hword.mem_getLast?_expandChars hc).elim Text.isBlank_of_mem_getLast?_trim hletter)

/-- The quotes around a text are those around the filled text. -/
theorem IsWord.unquote_expandChars (hword : IsWord word) (s : List Char) :
    Text.unquote (expandChars word s) = expandChars word (Text.unquote s) := by
  have hquote : '"'.isAlpha = false := by decide
  have hfree : '"' ∉ word := Text.not_mem_of_isAlpha hword.isAlpha hquote
  cases s with
  | nil => rfl
  | cons c s =>
    -- only a text with a quote in front can have quotes around it
    by_cases hc : c = '"'
    · subst hc
      rw [expandChars_cons hquote]
      by_cases hlast : s.getLast? = some '"'
      · obtain ⟨t, rfl⟩ := List.getLast?_eq_some_iff.mp hlast
        rw [expandChars_append_cons hquote, Text.unquote_quoted]
        exact Text.unquote_quoted _
      · -- with one quote only, there is nothing to remove before filling and after it
        have hfilled : (expandChars word s).getLast? ≠ some '"' := fun h =>
          (hword.mem_getLast?_expandChars h).elim hlast hfree
        rw [Text.unquote, if_neg hfilled, Text.unquote, if_neg hlast, expandChars_cons hquote]
    · have hhead : (c :: s).head? ≠ some '"' := fun h => hc (Option.some.inj h)
      rw [Text.unquote_of_head_ne hhead, Text.unquote_of_head_ne]
      exact fun h => (hword.mem_head?_expandChars h).elim hhead hfree

end PolicyReplay.Trace
