import PolicyReplay.Proofs.Command.Decoding
import PolicyReplay.Proofs.Query.Line
import PolicyReplay.Proofs.Trace.Placeholder

/-!
# Filling a line before it is compiled

The filler is put into a line before the line is taken apart. If the line is accepted as it stands,
the placeholders are in its texts only, because no verb and no predicate has a `V` in its name. So
the filled line is accepted too, as the same query with its texts filled, and the command that it is
compiled to is the filled command.

## Key results

- `Segment.parse_expandChars`, `Call.parse_expandChars`: one segment, one call
- `parse_expand`: a filled line is read as the filled query
- `Command.compile_expand`: filled arguments are compiled to the filled command
- `Command.ofLine_expand`: filling and compiling can change places
-/

namespace PolicyReplay

open Trace (expandChars IsWord)

/-- A term with its value filled. -/
def Term.expand (word : String) (t : Term) : Term := { t with value := Trace.expand word t.value }

/-- A query with its texts filled: the key, the value and the values of the terms. -/
def Query.expand (word : String) (q : Query) : Query :=
  { q with
    key := q.key.map (Trace.expand word)
    value := q.value.map (Trace.expand word)
    filter := q.filter.map (Term.expand word) }

/-- The letters of a filled text are the filled letters of the text. -/
theorem Trace.toList_expand (word text : String) :
    (Trace.expand word text).toList = expandChars word.toList text.toList := String.toList_ofList

/-- No text becomes empty by being filled, so neither a missing key nor a missing value appears. -/
theorem Trace.IsWord.expand_eq_empty_iff {word text : String} (hword : IsWord word.toList) :
    Trace.expand word text = "" ↔ text = "" := by
  rw [← String.toList_eq_nil_iff, toList_expand, hword.expandChars_eq_nil_iff,
    String.toList_eq_nil_iff]

/-! ## Names -/

/-- No predicate has a placeholder in its name. -/
theorem PredicateName.not_mem_text (name : PredicateName) : 'V' ∉ name.text.toList := by
  -- the names are finitely many and closed, so they are looked through
  have h : all.all (fun name => !name.text.toList.contains 'V') = true := by decide
  simpa using List.all_eq_true.mp h name name.mem_all

/-- No command has a placeholder in its first word. -/
theorem Verb.not_mem_commandName (verb : Verb) : 'V' ∉ verb.commandName.toList := by
  cases verb <;> decide

/-- No verb has a placeholder in its name, in whatever case it is written. -/
theorem Verb.not_mem_of_parse {text : List Char} {verb : Verb} (h : Verb.parse text = .ok verb) :
    'V' ∉ text := by
  intro hmem
  -- the name is matched in small letters, so a `V` in the text is a `v` in the name
  have hlower : 'v' ∈ verb.name.toList := by
    rw [← Verb.parse_eq_ok_iff.mp h]
    exact List.mem_map.mpr ⟨'V', Text.mem_trim_of_mem hmem (by decide), rfl⟩
  cases verb <;> exact absurd hlower (by decide)

namespace Query

variable {text value : List Char} {name : PredicateName} {negated : Bool}

/-! ## One segment, one call -/

/-- Before the parentheses stand the name, the mark of negation and blanks. -/
theorem Segment.mem_of_splitSign {before : List Char} {name : List Char} {c : Char}
    (h : splitSign before = (negated, name)) (hc : c ∈ before) (hblank : Text.isBlank c = false) :
    c = '!' ∨ c ∈ name := by
  have hmem := Text.mem_trim_of_mem hc hblank
  unfold splitSign at h
  split at h
  · rename_i signed hsigned
    obtain ⟨-, rfl⟩ := Prod.mk.inj h
    rw [hsigned] at hmem
    exact (List.mem_cons.mp hmem).imp_right fun hmem => Text.mem_trim_of_mem hmem hblank
  · obtain ⟨-, rfl⟩ := Prod.mk.inj h
    exact .inr hmem

/-- A filled segment is the same predicate with its value filled. -/
theorem Segment.parse_expandChars {word : List Char} (hword : IsWord word)
    (h : Segment.parse text = .ok ⟨name, negated, value⟩) :
    Segment.parse (expandChars word text) = .ok ⟨name, negated, expandChars word value⟩ := by
  obtain ⟨before, inside, after, rfl, hopen, hafter, hsign, rfl⟩ := Segment.parse_eq_ok_iff.mp h
  have hbefore : 'V' ∉ before := fun hmem =>
    (mem_of_splitSign hsign hmem (by decide)).elim (by decide) name.not_mem_text
  have hblank : 'V' ∉ after := Text.not_mem_of_isBlankText hafter (by decide)
  -- so only what stands in the parentheses is filled
  refine Segment.parse_eq_ok_iff.mpr ⟨before, expandChars word inside, after, ?_, hopen, hafter,
    hsign, (hword.unquote_expandChars inside).symm⟩
  rw [Trace.expandChars_append_of_not_mem hbefore, Trace.expandChars_cons (by decide),
    Trace.expandChars_append_cons (by decide), Trace.expandChars_of_not_mem hblank]

/-- An argument is filled as a text, and one that is missing stays missing. -/
theorem Call.argument?_expandChars {word : String} (hword : IsWord word.toList)
    (text : List Char) :
    argument? (expandChars word.toList text) = (argument? text).map (Trace.expand word) := by
  rw [argument?, argument?, hword.trim_expandChars, hword.unquote_expandChars]
  cases Text.unquote (Text.trim text) with
  | nil => rfl
  | cons c rest =>
    -- an argument that is there is still there when it is filled
    have hne := mt hword.expandChars_eq_nil_iff.mp (List.cons_ne_nil c rest)
    split
    · rename_i hnil
      exact absurd hnil hne
    · rw [Option.map_some, Trace.expand, String.toList_ofList]

/-- The comma is no letter, so the arguments of a filled call are cut apart at the same place. -/
theorem Call.arguments_expandChars {word : String} (hword : IsWord word.toList)
    (inside : List Char) :
    arguments (expandChars word.toList inside) =
      (arguments inside).map (Option.map (Trace.expand word)) (Option.map (Trace.expand word)) := by
  rw [arguments, arguments, hword.splitFirst_expandChars (by decide)]
  cases Text.splitFirst ',' inside with
  | none => simp [argument?_expandChars hword]
  | some parts => simp [argument?_expandChars hword]

/-- A filled call is the same call with its arguments filled. -/
theorem Call.parse_expandChars {word : String} (hword : IsWord word.toList) {verb : Verb}
    {key value : Option String} (h : Call.parse text = .ok ⟨verb, key, value⟩) :
    Call.parse (expandChars word.toList text) =
      .ok ⟨verb, key.map (Trace.expand word), value.map (Trace.expand word)⟩ := by
  -- a call without parentheses is its verb alone, and nothing in it is filled
  rcases Call.parse_eq_ok_iff.mp h with
    ⟨hopen, hverb, hkey, hvalue⟩ | ⟨before, inside, rest, rfl, hopen, hrest, hverb, harguments⟩
  · obtain rfl : key = none := hkey
    obtain rfl : value = none := hvalue
    rwa [Trace.expandChars_of_not_mem (Verb.not_mem_of_parse hverb)]
  · rw [Trace.expandChars_append_of_not_mem (Verb.not_mem_of_parse hverb),
      Trace.expandChars_cons (by decide), Trace.expandChars_append_cons (by decide)]
    -- what stands behind the arguments is filled as well, and not looked at
    refine Call.parse_eq_ok_iff.mpr (.inr ⟨before, _, _, rfl, hopen,
      hword.not_mem_expandChars (by decide) hrest, hverb, ?_⟩)
    rw [Call.arguments_expandChars hword, ← harguments, Prod.map_apply]

/-! ## Whole lines -/

/-- A filled segment is a call if and only if the segment is one. -/
theorem isCall_expandChars {word : List Char} (hword : IsWord word) {segment : Segment}
    (h : Segment.parse text = .ok segment) : isCall (expandChars word text) = isCall text := by
  rw [isCall, Segment.parse_expandChars hword h, isCall, h]

/-- The term of a filled segment is the term of the segment with its value filled. -/
theorem term?_expandChars {word : String} (hword : IsWord word.toList) {segment : Segment}
    (h : Segment.parse text = .ok segment) :
    term? (expandChars word.toList text) = (term? text).map (Term.expand word) := by
  have hfilled := Segment.parse_expandChars hword h
  by_cases hname : segment.name = .query
  · obtain ⟨name, negated, value⟩ := segment
    obtain rfl : name = .query := hname
    rw [term?_of_isCall (isCall_of_parse_query hfilled), term?_of_isCall (isCall_of_parse_query h)]
    rfl
  -- a call is no term, and neither is a filled call
  · rw [term?_of_parse hfilled hname, term?_of_parse h hname]
    simp [Term.expand, Trace.expand]

/-- The segments of a filled line are those of the line, each of them filled. -/
theorem segments_expand {word : String} (hword : IsWord word.toList) (line : String) :
    segments (Trace.expand word line) = (segments line).map (expandChars word.toList) := by
  rw [segments, Trace.toList_expand, hword.pieces_expandChars (by decide), segments]

/-- Filled segments are accepted as the filled query. -/
theorem Accepted.expand {word : String} (hword : IsWord word.toList) {texts : List (List Char)}
    {q : Query} (h : Accepted texts q) :
    Accepted (texts.map (expandChars word.toList)) (q.expand word) where
  read := List.forall_mem_map.mpr fun text htext =>
    (h.read text htext).elim fun _ hread => ⟨_, Segment.parse_expandChars hword hread⟩
  -- the calls are counted alike before and after, so there is still exactly one
  once := by
    rw [List.countP_map, ← h.once]
    refine List.countP_congr fun text htext => ?_
    obtain ⟨segment, hread⟩ := h.read text htext
    rw [Function.comp, isCall_expandChars hword hread]
  call := by
    obtain ⟨text, htext, value, hread, hcall⟩ := h.call
    exact ⟨_, List.mem_map_of_mem htext, _, Segment.parse_expandChars hword hread,
      Call.parse_expandChars hword hcall⟩
  valued hput hnone := h.valued hput (Option.map_eq_none_iff.mp hnone)
  filter := by
    rw [Query.expand, h.filter, terms, terms, List.filterMap_map, List.map_filterMap]
    refine List.filterMap_congr fun text htext => ?_
    obtain ⟨segment, hread⟩ := h.read text htext
    rw [Function.comp, term?_expandChars hword hread]

/-- A filled line is read as the filled query. -/
theorem parse_expand {word : String} (hword : IsWord word.toList) {line : String} {q : Query}
    (h : parse line = .ok q) : parse (Trace.expand word line) = .ok (q.expand word) := by
  rw [parse_eq_ok_iff, segments_expand hword]
  exact (parse_eq_ok_iff.mp h).expand hword

end Query

/-! ## Commands -/

/-- The two words of a filled term: its name as it was, its sign and its value filled. -/
theorem Term.words_expand (word : String) (t : Term) :
    (t.expand word).words = t.words.map (expandChars word.toList) := by
  have hname : 'V' ∉ '-' :: t.name.text.toList := by simp [t.name.not_mem_text]
  have hsign : 'V' ∉ t.sign.toList := by
    unfold sign
    split <;> decide
  simp only [words, List.map_cons, List.map_nil, Trace.expandChars_of_not_mem hname,
    Trace.expandChars_append_of_not_mem hsign]
  rw [expand, Trace.toList_expand]
  rfl

/-- The words of a filled filter are those of the filter, each of them filled. -/
theorem Filter.words_expand (word : String) (filter : Filter) :
    words (filter.map (Term.expand word)) = (words filter).map (expandChars word.toList) := by
  simp only [words, List.flatMap_map, List.map_flatMap, Term.words_expand]

namespace Command

open Trace (expand filler)

variable {verb : Verb} {key word : String} {value : Option String} {filter : Filter}
  {command : Command}

/-- The words of filled arguments are those of the arguments, each of them filled. -/
theorem wordsOf_expand :
    wordsOf verb (expand word key) (value.map (expand word)) (filter.map (Term.expand word)) =
      (wordsOf verb key value filter).map (expandChars word.toList) := by
  have hverb : expandChars word.toList verb.commandName.toList = verb.commandName.toList :=
    Trace.expandChars_of_not_mem verb.not_mem_commandName
  rw [wordsOf, wordsOf, Filter.words_expand, Trace.toList_expand]
  -- a value that the verb does not need is in no word, filled or not
  cases value with
  | none => simp [hverb]
  | some v => cases verb.needsValue <;> simp [hverb, Trace.toList_expand]

/-- Filled arguments are compiled if the arguments are. -/
theorem exists_compile_expand (hword : IsWord word.toList)
    (h : compile verb key value filter = .ok command) :
    ∃ filled, compile verb (expand word key) (value.map (expand word))
      (filter.map (Term.expand word)) = .ok filled := by
  obtain ⟨hkey, hrest⟩ := compile_eq_ok_iff.mp h
  -- what made the arguments acceptable is that they are not empty
  have hne {text : String} (htext : text ≠ "") : expand word text ≠ "" :=
    mt hword.expand_eq_empty_iff.mp htext
  rcases hrest with ⟨hneeds, v, rfl, hv, -⟩ | ⟨hneeds, -⟩
  · exact ⟨⟨_⟩, compile_eq_ok_iff.mpr ⟨hne hkey, .inl ⟨hneeds, _, rfl, hne hv, rfl⟩⟩⟩
  · exact ⟨⟨_⟩, compile_eq_ok_iff.mpr ⟨hne hkey, .inr ⟨hneeds, rfl⟩⟩⟩

/-- Filled arguments are compiled to the filled command. -/
theorem compile_expand (hword : IsWord word.toList)
    (h : compile verb key value filter = .ok command) :
    compile verb (expand word key) (value.map (expand word)) (filter.map (Term.expand word)) =
      .ok ⟨expand word command.text⟩ := by
  obtain ⟨filled, hfilled⟩ := exists_compile_expand hword h
  -- both commands are words with spaces between them, and a space is no letter
  have htext : filled.text = expand word command.text := by
    rw [← String.toList_inj, toList_text_of_compile hfilled, wordsOf_expand, Trace.toList_expand,
      toList_text_of_compile h, Trace.expandChars_joinWith (by decide)]
  rw [hfilled, ← htext]

/-- A line is compiled in two steps, and a missing key reads as the empty one. -/
theorem ofLine_eq_ok_iff {line : String} :
    ofLine line = .ok command ↔ ∃ q, Query.parse line = .ok q ∧
      compile q.verb (q.key.getD "") q.value q.filter = .ok command :=
  Except.bind_eq_ok_iff

/-- Filling a line and compiling it can change places: a line that is accepted is accepted when it
is filled, as the same query with its texts filled, and its command is the filled command. -/
theorem ofLine_expand (size : Nat) (hsize : 1 ≤ size) (line : String) (command : Command)
    (h : ofLine line = .ok command) :
    ofLine (expand (filler size) line) = .ok ⟨expand (filler size) command.text⟩ ∧
      ∃ q, Query.parse line = .ok q ∧
        Query.parse (expand (filler size) line) = .ok (q.expand (filler size)) := by
  have hword := Trace.isWord_filler hsize
  obtain ⟨q, hq, hcompile⟩ := ofLine_eq_ok_iff.mp h
  have hfilled := Query.parse_expand hword hq
  refine ⟨ofLine_eq_ok_iff.mpr ⟨_, hfilled, ?_⟩, q, hq, hfilled⟩
  -- a key that is missing reads as the empty text, which has no placeholder
  have hkey : (q.expand (filler size)).key.getD "" = expand (filler size) (q.key.getD "") := by
    rw [Query.expand]
    cases q.key <;> rfl
  rw [hkey]
  exact compile_expand hword hcompile

/-- Placeholders in the key, in the value and in two terms, in one of them between the letters of
another. -/
theorem ofLine_expand_everywhere :
    let line := "query(Put(\"kVAL\", VAL VALVAL))& !objPur(\"VVALAL\") &monitor(VAL,VA)"
    let filled := "query(Put(\"kxx\", xx xxxx))& !objPur(\"VxxAL\") &monitor(xx,VA)"
    expand (filler 2) line = filled ∧
      ofLine line = .ok ⟨"put kVAL VAL VALVAL -objPur !VVALAL -monitor VAL,VA"⟩ ∧
      ofLine filled = .ok ⟨"put kxx xx xxxx -objPur !VxxAL -monitor xx,VA"⟩ := by
  intro line filled
  have hline : ofLine line = .ok ⟨"put kVAL VAL VALVAL -objPur !VVALAL -monitor VAL,VA"⟩ := by
    decide +kernel
  have hfilled : expand (filler 2) line = filled := by decide +kernel
  have hcommand : expand (filler 2) "put kVAL VAL VALVAL -objPur !VVALAL -monitor VAL,VA" =
      "put kxx xx xxxx -objPur !VxxAL -monitor xx,VA" := by decide +kernel
  obtain ⟨hcompiled, -⟩ := ofLine_expand 2 (by decide) line _ hline
  rw [hfilled, hcommand] at hcompiled
  exact ⟨hfilled, hline, hcompiled⟩

-- The other way round it does not work: this filler completes a name.
example : (ofLine "query(get(k))&objEVALp(t)").toOption = none ∧
    (ofLine (expand (filler 1) "query(get(k))&objEVALp(t)")).toOption =
      some ⟨"get k -objExp t"⟩ := by decide +kernel

end Command
end PolicyReplay
