import PolicyReplay.Proofs.Query.Spelling
import PolicyReplay.Proofs.Trace.Expansion

/-!
# Where the characters of a command come from

A command is made of parts of its line and of names and marks of its own. The names are letters and
the marks are few, so any other character of a command has to stand in the line.

## Key results

- `Query.mem_of_parse`: the texts of a query are parts of its line
- `Command.mem_of_compile`: the characters of a command, by its arguments
- `Command.mem_of_ofLine`: the characters of a command, by its line
-/

namespace PolicyReplay

variable {c : Char}

/-- Whether a character is of the kind that a command brings in by itself: the letters of its names,
the spaces between its words, the dash before a name and the mark of negation. -/
def Command.isOwn (c : Char) : Bool := c.isAlpha || c == ' ' || c == '-' || c == '!'

namespace Query

variable {texts : List (List Char)} {q : Query} {text : String}

/-- The texts of a query are parts of the segments that it is read from. -/
theorem Accepted.exists_mem (h : Accepted texts q)
    (htext : text ∈ q.key ∨ text ∈ q.value ∨ ∃ t ∈ q.filter, text = t.value)
    (hc : c ∈ text.toList) : ∃ segment ∈ texts, c ∈ segment := by
  obtain ⟨segment, hmem, value, hread, hcall⟩ := h.call
  have hcalled : c ∈ value → ∃ segment ∈ texts, c ∈ segment := fun hvalue =>
    ⟨segment, hmem, Segment.mem_of_mem_value hread hvalue⟩
  -- the call is a bare verb or a verb with arguments
  rcases Call.parse_eq_ok_iff.mp hcall with
    ⟨-, -, hkey, hvalue⟩ | ⟨verb, inside, rest, rfl, -, -, -, harguments⟩
  · -- a bare verb has no arguments, so the text is that of a term
    have hkey : q.key = none := hkey
    have hvalue : q.value = none := hvalue
    rcases htext with htext | htext | ⟨t, ht, rfl⟩
    · rw [hkey] at htext
      exact nomatch htext
    · rw [hvalue] at htext
      exact nomatch htext
    · obtain ⟨-, other, hother, hsub⟩ := exists_of_mem_terms (h.filter ▸ ht)
      exact ⟨other, hother, hsub c hc⟩
  -- keys and values stand in the arguments, and the terms in their own segments
  · obtain ⟨hkeys, hvalues⟩ := Call.of_arguments_eq harguments.symm
    rcases htext with htext | htext | ⟨t, ht, rfl⟩
    · have hinside : c ∈ inside := (hkeys text htext).2.2 c hc
      exact hcalled (by simp [hinside])
    · have hinside : c ∈ inside := (hvalues text htext).2 c hc
      exact hcalled (by simp [hinside])
    · obtain ⟨-, other, hother, hsub⟩ := exists_of_mem_terms (h.filter ▸ ht)
      exact ⟨other, hother, hsub c hc⟩

/-- The texts of a query are parts of the line that it is read from. -/
theorem mem_of_parse {line : String} (h : parse line = .ok q)
    (htext : text ∈ q.key ∨ text ∈ q.value ∨ ∃ t ∈ q.filter, text = t.value)
    (hc : c ∈ text.toList) : c ∈ line.toList := by
  obtain ⟨segment, hsegment, hmem⟩ := (parse_eq_ok_iff.mp h).exists_mem htext hc
  exact Text.mem_of_mem_piece hsegment hmem

end Query

/-- The letters of names are a command's own. -/
theorem Command.isOwn_of_isAlpha (h : c.isAlpha = true) : isOwn c = true := by simp [isOwn, h]

/-- The words of a term are its name and its value, and the marks before these. -/
theorem Term.mem_of_mem_words {t : Term} {word : List Char} (hword : word ∈ t.words)
    (hc : c ∈ word) : Command.isOwn c = true ∨ c ∈ t.value.toList := by
  -- the name behind its dash, and the value behind its sign
  rw [words, List.mem_cons, List.mem_singleton] at hword
  rcases hword with rfl | rfl
  · rcases List.mem_cons.mp hc with rfl | hc
    · exact .inl (by decide)
    · exact .inl (Command.isOwn_of_isAlpha (t.name.isAlpha_text.2 c hc))
  · rcases List.mem_append.mp hc with hc | hc
    · have hsign : c ∈ "!".toList := by
        unfold sign at hc
        split at hc
        · exact hc
        · exact absurd hc List.not_mem_nil
      obtain rfl : c = '!' := List.mem_singleton.mp hsign
      exact .inl (by decide)
    · exact .inr hc

namespace Command

variable {verb : Verb} {key : String} {value : Option String} {filter : Filter}
  {command : Command}

/-- A command comes from its arguments and brings in nothing but names and marks. -/
theorem mem_of_compile (h : compile verb key value filter = .ok command)
    (hc : c ∈ command.text.toList) :
    isOwn c = true ∨ c ∈ key.toList ∨ (∃ v ∈ value, c ∈ v.toList) ∨
      ∃ t ∈ filter, c ∈ t.value.toList := by
  rw [toList_text_of_compile h] at hc
  -- the character is a space between words, or it stands in one of the words
  rcases Text.mem_of_mem_joinWith hc with rfl | ⟨word, hword, hc⟩
  · exact .inl (by decide)
  · simp only [wordsOf, List.mem_cons, List.mem_append] at hword
    rcases hword with rfl | rfl | hword | hword
    · exact .inl (isOwn_of_isAlpha (verb.isAlpha_commandName c hc))
    · exact .inr (.inl hc)
    · -- the value is written for some verbs only
      split at hword
      · obtain ⟨v, hv, rfl⟩ := List.mem_map.mp hword
        exact .inr (.inr (.inl ⟨v, Option.mem_toList.mp hv, hc⟩))
      · exact absurd hword List.not_mem_nil
    · obtain ⟨t, ht, hword⟩ := List.mem_flatMap.mp hword
      rcases Term.mem_of_mem_words hword hc with hown | hvalue
      · exact .inl hown
      · exact .inr (.inr (.inr ⟨t, ht, hvalue⟩))

/-- A command comes from its line and brings in nothing but names and marks. -/
theorem mem_of_ofLine {line : String} (h : ofLine line = .ok command)
    (hc : c ∈ command.text.toList) : isOwn c = true ∨ c ∈ line.toList := by
  obtain ⟨q, hq, hcompile⟩ := ofLine_eq_ok_iff.mp h
  -- a text of the query comes from the line, whichever text it is
  rcases mem_of_compile hcompile hc with hown | hkey | ⟨v, hv, hvalue⟩ | ⟨t, ht, hvalue⟩
  · exact .inl hown
  · cases hsome : q.key with
    | none =>
      -- a key that is missing is written as the empty text
      rw [hsome] at hkey
      exact nomatch hkey
    | some key =>
      rw [hsome] at hkey
      exact .inr (Query.mem_of_parse hq (.inl hsome) hkey)
  · exact .inr (Query.mem_of_parse hq (.inr (.inl hv)) hvalue)
  · exact .inr (Query.mem_of_parse hq (.inr (.inr ⟨t, ht, rfl⟩)) hvalue)

/-- A line without newlines gives a command without newlines. -/
theorem newline_not_mem_of_ofLine {line : String} (h : ofLine line = .ok command)
    (hline : '\n' ∉ line.toList) : '\n' ∉ command.text.toList := by
  intro hc
  rcases mem_of_ofLine h hc with hown | hmem
  · exact absurd hown (by decide)
  · exact hline hmem

end Command
end PolicyReplay
