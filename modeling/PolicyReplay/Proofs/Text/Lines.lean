import PolicyReplay.Proofs.Text.Split

/-!
# Lines of a text

`lines` is read off the pieces between newlines. `LineAt` says without it which line of a text has
which number: a line ends with a newline, or with a carriage return and a newline, and what stands
behind the last newline is a line unless it is empty.

## Key results

- `lines_append_cons`: the first line of a text, and the lines behind it
- `getElem?_lines_iff`: `lines` holds each line in the place of its number
- `lines_ended`: texts that are written one on a line are read back
-/

namespace PolicyReplay.Text

variable {s first rest line : List Char} {number : Nat}

/-- The line of a text with a number, counted from 1. -/
inductive LineAt : Nat → List Char → List Char → Prop
  /-- A line that a newline ends, with no carriage return before it. -/
  | ended (line rest : List Char) (hline : '\n' ∉ line) (hreturn : line.getLast? ≠ some '\r') :
    LineAt 1 (line ++ '\n' :: rest) line
  /-- A line that a carriage return and a newline end. -/
  | returned (line rest : List Char) (hline : '\n' ∉ line) :
    LineAt 1 (line ++ '\r' :: '\n' :: rest) line
  /-- The last line, which nothing ends. -/
  | unended (line : List Char) (hline : '\n' ∉ line) (hne : line ≠ []) : LineAt 1 line line
  /-- A line behind another one. -/
  | later {number : Nat} {rest line : List Char} (first : List Char) (hfirst : '\n' ∉ first)
    (h : LineAt number rest line) : LineAt (number + 1) (first ++ '\n' :: rest) line

/-! ## The carriage return of a line -/

/-- A carriage return at the end is dropped. -/
theorem dropReturn_concat (line : List Char) : dropReturn (line ++ ['\r']) = line := by
  rw [dropReturn, if_pos List.getLast?_concat, List.dropLast_concat]

/-- A line that does not end with a carriage return is kept as it is. -/
theorem dropReturn_of_getLast_ne (h : line.getLast? ≠ some '\r') : dropReturn line = line :=
  if_neg h

/-- Either there is a carriage return to drop, or there is not. -/
theorem dropReturn_cases (line : List Char) :
    line = dropReturn line ++ ['\r'] ∨ line.getLast? ≠ some '\r' ∧ dropReturn line = line := by
  by_cases h : line.getLast? = some '\r'
  · obtain ⟨t, rfl⟩ := List.getLast?_eq_some_iff.mp h
    rw [dropReturn_concat]
    exact .inl rfl
  · exact .inr ⟨h, dropReturn_of_getLast_ne h⟩

/-- What is left of a line was there before. -/
theorem mem_of_mem_dropReturn {c : Char} (h : c ∈ dropReturn line) : c ∈ line := by
  rcases dropReturn_cases line with hline | ⟨-, hline⟩
  · rw [hline]
    exact List.mem_append_left _ h
  · rwa [hline] at h

/-! ## The first line, and those behind it -/

/-- The first line of a text is what stands before the first newline. -/
theorem lines_append_cons (h : '\n' ∉ first) (rest : List Char) :
    lines (first ++ '\n' :: rest) = dropReturn first :: lines rest := by
  obtain ⟨piece, others, hrest⟩ := List.exists_cons_of_ne_nil (pieces_ne_nil (· == '\n') rest)
  rw [lines, pieces_append_cons, pieces_of_not_mem h, lines, hrest]
  rfl

/-- A text without a newline is one line, unless it is empty. -/
theorem lines_of_not_mem (h : '\n' ∉ s) : lines s = if s.isEmpty then [] else [s] := by
  rw [lines, pieces_of_not_mem h]
  rfl

/-- Lines are counted from 1. -/
theorem LineAt.pos (h : LineAt number s line) : 0 < number := by
  cases h <;> omega

/-- No line holds a newline, wherever it stands. -/
theorem LineAt.not_mem (h : LineAt number s line) : '\n' ∉ line := by
  induction h with
  | ended line rest hline hreturn => exact hline
  | returned line rest hline => exact hline
  | unended line hline hne => exact hline
  | later first hfirst h ih => exact ih

/-- A text has a line with a number exactly if `lines` has it in that place. -/
theorem getElem?_lines_iff : (lines s)[number]? = some line ↔ LineAt (number + 1) s line := by
  constructor
  · intro h
    -- by the number: every line before the one that is asked for takes a newline off the text
    induction number generalizing s with
    | zero =>
      by_cases hmem : '\n' ∈ s
      · obtain ⟨first, rest, rfl, hfirst⟩ := List.eq_append_cons_of_mem hmem
        rw [lines_append_cons hfirst, List.getElem?_cons_zero] at h
        obtain rfl := Option.some.inj h
        rcases dropReturn_cases first with hreturn | ⟨hreturn, hsame⟩
        · -- the line that is read is the one before the carriage return
          have hline : '\n' ∉ dropReturn first := fun hc => hfirst (mem_of_mem_dropReturn hc)
          have hsplit : first ++ '\n' :: rest = dropReturn first ++ '\r' :: '\n' :: rest := by
            conv_lhs => rw [hreturn]
            simp
          rw [hsplit]
          exact .returned (dropReturn first) rest hline
        · rw [hsame]
          exact .ended first rest hfirst hreturn
      · rw [lines_of_not_mem hmem] at h
        by_cases hempty : s = []
        · simp [hempty] at h
        · obtain rfl : s = line := by simpa [hempty] using h
          exact .unended s hmem hempty
    | succ number ih =>
      by_cases hmem : '\n' ∈ s
      · obtain ⟨first, rest, rfl, hfirst⟩ := List.eq_append_cons_of_mem hmem
        rw [lines_append_cons hfirst, List.getElem?_cons_succ] at h
        exact .later first hfirst (ih h)
      · -- without a newline there is no second line
        rw [lines_of_not_mem hmem] at h
        by_cases hempty : s = []
        · simp [hempty] at h
        · simp [hempty] at h
  · intro h
    generalize hplace : number + 1 = place at h
    -- by the relation, which takes the text apart in the same way
    induction h generalizing number with
    | ended line rest hline hreturn =>
      obtain rfl : number = 0 := by omega
      rw [lines_append_cons hline, dropReturn_of_getLast_ne hreturn]
      rfl
    | returned line rest hline =>
      obtain rfl : number = 0 := by omega
      -- up to its newline the line ends with a carriage return, which is dropped
      have hfirst : '\n' ∉ line ++ ['\r'] := by simp [hline]
      have hsplit : line ++ '\r' :: '\n' :: rest = (line ++ ['\r']) ++ '\n' :: rest := by simp
      rw [hsplit, lines_append_cons hfirst, dropReturn_concat]
      rfl
    | unended line hline hne =>
      obtain rfl : number = 0 := by omega
      simp [lines_of_not_mem hline, hne]
    | @later before rest line first hfirst hlater ih =>
      obtain rfl : number = before := by omega
      obtain ⟨place, rfl⟩ : ∃ place, number = place + 1 := ⟨number - 1, by have := hlater.pos; omega⟩
      rw [lines_append_cons hfirst, List.getElem?_cons_succ]
      exact ih rfl

/-- Texts that are written one on a line are the lines of what is written. A carriage return at the
end of one of them is taken for a part of the line's end. -/
theorem lines_ended {items : List (List Char)} (h : ∀ item ∈ items, '\n' ∉ item) :
    lines (items.flatMap (· ++ ['\n'])) = items.map dropReturn := by
  -- by induction on the texts, each of which ends its line with a newline
  induction items with
  | nil => rfl
  | cons item items ih =>
    have hitem : '\n' ∉ item := h item List.mem_cons_self
    have hitems := ih fun other hother => h other (List.mem_cons_of_mem _ hother)
    rw [List.flatMap_cons, List.append_assoc, List.singleton_append, lines_append_cons hitem,
      hitems, List.map_cons]

end PolicyReplay.Text
