import PolicyReplay.Proofs.Query.Line

/-!
# Queries written on lines

A query is spelled out by its call, with both arguments in quotes, among the terms of its filter,
with their values in quotes. Case in the verb, the place of the call and blanks around segments are
free. What quotes, commas and ampersands cannot carry is excluded by `WellFormed`, and these are the
queries that lines have.

## Key results

- `Segment.parse_spell`, `Call.parse_spell`: one segment, one call
- `Accepted.wellFormed`: a query that is read can be written
- `parse_spells`: what is written is read, and what is read can be written
-/

namespace PolicyReplay.Query

/-! ## Writing -/

/-- A text in quotes. -/
def quote (text : String) : List Char := '"' :: (text.toList ++ ['"'])

/-- A predicate as it stands on a line. -/
def Segment.spell (name : PredicateName) (negated : Bool) (inside : List Char) : List Char :=
  (if negated then ['!'] else []) ++ name.text.toList ++ '(' :: (inside ++ [')'])

/-- A term as it stands on a line, with its value in quotes. -/
def spellTerm (t : Term) : List Char := Segment.spell t.name t.negated (quote t.value)

/-- A call whose verb is written `word`: `word("key","value")`. Without a key the value keeps its
comma, and without both of them there are no parentheses. -/
def Call.spell (word : List Char) : Option String → Option String → List Char
  | none, none => word
  | some key, none => word ++ '(' :: (quote key ++ [')'])
  | none, some value => word ++ '(' :: (',' :: quote value ++ [')'])
  | some key, some value => word ++ '(' :: (quote key ++ ',' :: quote value ++ [')'])

/-- A text with blanks around it. -/
def Padded (text padded : List Char) : Prop :=
  ∃ left right, Text.isBlankText left = true ∧ Text.isBlankText right = true ∧
    padded = left ++ text ++ right

/-- A line that spells a query out. -/
inductive Spells (q : Query) : String → Prop where
  /-- The call stands between two parts of the filter, and its verb is in any case. -/
  | join {word : List Char} {before after : Filter} {padded : List (List Char)}
    (hword : word.map Char.toLower = q.verb.name.toList) (hfilter : q.filter = before ++ after)
    (hpadded : List.Forall₂ Padded
      (before.map spellTerm ++
        Segment.spell .query false (Call.spell word q.key q.value) :: after.map spellTerm) padded) :
    Spells q (String.ofList (Text.joinWith ['&'] padded))

/-- The queries that can be written on a line. -/
structure WellFormed (q : Query) : Prop where
  key : ∀ key ∈ q.key, key ≠ "" ∧ ',' ∉ key.toList ∧ '&' ∉ key.toList
  value : ∀ value ∈ q.value, value ≠ "" ∧ '&' ∉ value.toList
  filter : ∀ t ∈ q.filter, t.name ≠ .query ∧ '&' ∉ t.value.toList
  valued : q.verb = .put → q.value ≠ none

instance (q : Query) : Decidable q.WellFormed :=
  decidable_of_iff
    ((∀ key ∈ q.key, key ≠ "" ∧ ',' ∉ key.toList ∧ '&' ∉ key.toList) ∧
      (∀ value ∈ q.value, value ≠ "" ∧ '&' ∉ value.toList) ∧
      (∀ t ∈ q.filter, t.name ≠ .query ∧ '&' ∉ t.value.toList) ∧
      (q.verb = .put → q.value ≠ none))
    ⟨fun ⟨key, value, filter, valued⟩ => ⟨key, value, filter, valued⟩,
      fun h => ⟨h.key, h.value, h.filter, h.valued⟩⟩

/-! ## One segment -/

/-- A word of letters has no blanks around it. -/
theorem trim_of_isAlpha {name : List Char} (h : ∀ c ∈ name, c.isAlpha = true) :
    Text.trim name = name :=
  Text.trim_eq_self
    (fun c hc => Text.isBlank_eq_false_of_isAlpha (h c (List.mem_of_mem_head? hc)))
    (fun c hc => Text.isBlank_eq_false_of_isAlpha (h c (List.mem_of_mem_getLast? hc)))

/-- The sign and the name of a predicate hold letters and the mark of negation. -/
theorem Segment.mem_signed {name : PredicateName} {negated : Bool} {c : Char}
    (h : c ∈ (if negated then ['!'] else []) ++ name.text.toList) :
    c = '!' ∨ c.isAlpha = true := by
  rcases List.mem_append.mp h with h | h
  · split at h
    · exact .inl (List.mem_singleton.mp h)
    · exact nomatch h
  · exact .inr (name.isAlpha_text.2 c h)

/-- The sign and the name of a predicate are read from what is written of them. -/
theorem Segment.splitSign_signed (name : PredicateName) (negated : Bool) :
    splitSign ((if negated then ['!'] else []) ++ name.text.toList) =
      (negated, name.text.toList) := by
  obtain ⟨hne, halpha⟩ := name.isAlpha_text
  cases negated with
  | true =>
    -- the mark at the front is no blank, and the name ends with a letter
    have htrim : Text.trim ('!' :: name.text.toList) = '!' :: name.text.toList := by
      refine Text.trim_eq_self (by simp; decide) fun c hc => ?_
      rw [List.getLast?_cons_of_ne_nil hne] at hc
      exact Text.isBlank_eq_false_of_isAlpha (halpha c (List.mem_of_mem_getLast? hc))
    simp [splitSign, htrim, trim_of_isAlpha halpha]
  | false =>
    simp only [Bool.false_eq_true, ↓reduceIte, List.nil_append, splitSign, trim_of_isAlpha halpha]
    split
    · -- a name does not begin with the mark
      rename_i other hother
      exact absurd (halpha '!' (by simp [hother])) (by decide)
    · rfl

/-- A predicate that is written is read, whatever stands in its parentheses. -/
theorem Segment.parse_spell (name : PredicateName) (negated : Bool) (inside : List Char) :
    Segment.parse (spell name negated inside) = .ok ⟨name, negated, Text.unquote inside⟩ := by
  -- the sign and the name hold no parenthesis, so the one that is written is the first
  have hopen : '(' ∉ (if negated then ['!'] else []) ++ name.text.toList :=
    fun h => absurd (mem_signed h) (by decide)
  exact Segment.parse_eq_ok_iff.mpr
    ⟨_, inside, [], rfl, hopen, rfl, splitSign_signed name negated, rfl⟩

/-- A predicate holds an ampersand only in its parentheses. -/
theorem Segment.not_mem_spell {name : PredicateName} {negated : Bool} {inside : List Char}
    (h : '&' ∉ inside) : '&' ∉ spell name negated inside := by
  intro hmem
  rcases List.mem_append.mp hmem with hmem | hmem
  · exact absurd (mem_signed hmem) (by decide)
  · simp [h] at hmem

/-! ## One call -/

/-- An argument in quotes is read as what is between them. -/
theorem Call.argument?_quote {text : String} (h : text ≠ "") :
    argument? (quote text) = some text := by
  -- both ends are quotes, which are no blanks
  have htrim : Text.trim (quote text) = quote text := by
    refine Text.trim_eq_self (fun c hc => ?_) (fun c hc => ?_)
    · obtain rfl := Option.some.inj hc
      decide
    · rw [quote, ← List.cons_append, List.getLast?_concat] at hc
      obtain rfl := Option.some.inj hc
      decide
  have hunquote : Text.unquote (quote text) = text.toList := Text.unquote_quoted text.toList
  have hne : text.toList ≠ [] := mt String.toList_eq_nil_iff.mp h
  -- an argument is there, since there is something between the quotes
  rw [argument?, htrim, hunquote]
  split
  · rename_i hnil
    exact absurd hnil hne
  · rw [String.ofList_toList]

/-- What stands in neither the text nor the quotes does not stand in the text in quotes. -/
theorem not_mem_quote {c : Char} {text : String} (hc : c ≠ '"') (h : c ∉ text.toList) :
    c ∉ quote text := by
  simp [quote, hc, h]

/-- A key alone is read as a key. -/
theorem Call.arguments_key {key : String} (hkey : key ≠ "" ∧ ',' ∉ key.toList) :
    arguments (quote key) = (some key, none) := by
  rw [arguments, Text.splitFirst_of_not_mem (not_mem_quote (by decide) hkey.2)]
  simp only [argument?_quote hkey.1]

/-- A value with its comma is read as a value. -/
theorem Call.arguments_value {value : String} (hvalue : value ≠ "") :
    arguments (',' :: quote value) = (none, some value) := by
  have hsplit : Text.splitFirst ',' (',' :: quote value) = some ([], quote value) := rfl
  rw [arguments, hsplit]
  simp only [argument?_quote hvalue]
  rfl

/-- The first comma stands behind the key, whatever the value holds. -/
theorem Call.arguments_key_value {key value : String} (hkey : key ≠ "" ∧ ',' ∉ key.toList)
    (hvalue : value ≠ "") :
    arguments (quote key ++ ',' :: quote value) = (some key, some value) := by
  rw [arguments, Text.splitFirst_append_cons (not_mem_quote (by decide) hkey.2)]
  simp only [argument?_quote hkey.1, argument?_quote hvalue]

/-- A call that is written is read: its arguments end at the last parenthesis, whatever they
hold. -/
theorem Call.parse_spell {word : List Char} {verb : Verb} {key value : Option String}
    (hword : word.map Char.toLower = verb.name.toList)
    (hkey : ∀ k ∈ key, k ≠ "" ∧ ',' ∉ k.toList) (hvalue : ∀ v ∈ value, v ≠ "") :
    Call.parse (spell word key value) = .ok ⟨verb, key, value⟩ := by
  -- the word of the verb is letters only, so the parenthesis behind it is the first one
  have halpha := Verb.isAlpha_of_map_toLower hword
  have hopen : '(' ∉ word := Text.not_mem_of_isAlpha halpha (by decide)
  have hverb : Verb.parse word = .ok verb := by
    rw [Verb.parse_eq_ok_iff, trim_of_isAlpha halpha, hword]
  -- with parentheses the call is what its arguments are, with any of the two there
  have hcall {inside : List Char} (harguments : arguments inside = (key, value)) :
      Call.parse (word ++ '(' :: (inside ++ [')'])) = .ok ⟨verb, key, value⟩ :=
    Call.parse_eq_ok_iff.mpr (.inr
      ⟨word, inside, [], rfl, hopen, List.not_mem_nil, hverb, harguments.symm⟩)
  match key, value with
  | none, none => exact Call.parse_eq_ok_iff.mpr (.inl ⟨hopen, hverb, rfl, rfl⟩)
  | some key, none => exact hcall (Call.arguments_key (hkey key rfl))
  | none, some value => exact hcall (Call.arguments_value (hvalue value rfl))
  | some key, some value =>
    exact hcall (Call.arguments_key_value (hkey key rfl) (hvalue value rfl))

/-- A written call does not stand in quotes. -/
theorem Call.unquote_spell {word : List Char} {verb : Verb} {key value : Option String}
    (hword : word.map Char.toLower = verb.name.toList) :
    Text.unquote (spell word key value) = spell word key value := by
  have halpha := Verb.isAlpha_of_map_toLower hword
  have hne : word ≠ [] := by
    rintro rfl
    cases verb <;> exact absurd hword (by decide)
  -- the call begins with the first letter of its verb
  have hhead : (spell word key value).head? = word.head? := by
    -- whatever arguments follow, the call begins as its word does
    match key, value with
    | none, none => rfl
    | some _, none => exact List.head?_append_of_ne_nil _ hne
    | none, some _ => exact List.head?_append_of_ne_nil _ hne
    | some _, some _ => exact List.head?_append_of_ne_nil _ hne
  refine Text.unquote_of_head_ne ?_
  rw [hhead]
  intro hquote
  exact absurd (halpha '"' (List.mem_of_mem_head? hquote)) (by decide)

/-- A written call has an ampersand only if its arguments have. -/
theorem Call.not_mem_spell {word : List Char} {verb : Verb} {key value : Option String}
    (hword : word.map Char.toLower = verb.name.toList)
    (hkey : ∀ k ∈ key, '&' ∉ k.toList) (hvalue : ∀ v ∈ value, '&' ∉ v.toList) :
    '&' ∉ spell word key value := by
  have hfree : '&' ∉ word := Text.not_mem_of_isAlpha (Verb.isAlpha_of_map_toLower hword) (by decide)
  have hquote {text : String} (h : '&' ∉ text.toList) : '&' ∉ quote text :=
    not_mem_quote (by decide) h
  match key, value with
  | none, none => exact hfree
  | some key, none => simp [spell, hfree, hquote (hkey key rfl)]
  | none, some value => simp [spell, hfree, hquote (hvalue value rfl)]
  | some key, some value =>
    simp [spell, hfree, hquote (hkey key rfl), hquote (hvalue value rfl)]

/-! ## Whole lines -/

/-- A written term is read with its value. -/
theorem parse_spellTerm (t : Term) :
    Segment.parse (spellTerm t) = .ok ⟨t.name, t.negated, t.value.toList⟩ := by
  rw [spellTerm, Segment.parse_spell, quote, Text.unquote_quoted]

/-- The terms of a written filter are the filter. -/
theorem terms_map_spellTerm {filter : Filter} (h : ∀ t ∈ filter, t.name ≠ .query) :
    terms (filter.map spellTerm) = filter := by
  -- induction on the filter; each of its terms is read as itself and is no call
  induction filter with
  | nil => rfl
  | cons t rest ih =>
    have hterm := term?_of_parse (parse_spellTerm t) (h t List.mem_cons_self)
    rw [String.ofList_toList] at hterm
    rw [terms, List.map_cons, List.filterMap_cons_some hterm, ← terms,
      ih fun t ht => h t (List.mem_cons_of_mem _ ht)]

/-- Blanks around the segments do not matter. -/
theorem accepted_map_trim {texts : List (List Char)} {q : Query} :
    Accepted (texts.map Text.trim) q ↔ Accepted texts q := by
  -- a segment is read alike with blanks around it, so it is a call or a term alike
  have hisCall : isCall ∘ Text.trim = isCall := by
    funext text
    rw [Function.comp, isCall, Segment.parse_trim, isCall]
  have hterms : terms (texts.map Text.trim) = terms texts := by
    rw [terms, List.filterMap_map, terms]
    congr 1
    funext text
    rw [Function.comp, term?, Segment.parse_trim, term?]
  constructor
  -- each part of what is accepted is about what the segments are read as, and so is the same
  · rintro ⟨hread, honce, ⟨text, hmem, value, hvalue, hcall⟩, hvalued, hfilter⟩
    obtain ⟨text, hmem', rfl⟩ := List.mem_map.mp hmem
    refine ⟨fun text htext => ?_, ?_, ⟨text, hmem', value, ?_, hcall⟩, hvalued, ?_⟩
    · rw [← Segment.parse_trim]
      exact hread _ (List.mem_map_of_mem htext)
    · rwa [List.countP_map, hisCall] at honce
    · rwa [Segment.parse_trim] at hvalue
    · rwa [hterms] at hfilter
  · rintro ⟨hread, honce, ⟨text, hmem, value, hvalue, hcall⟩, hvalued, hfilter⟩
    refine ⟨?_, ?_, ⟨_, List.mem_map_of_mem hmem, value, ?_, hcall⟩, hvalued, ?_⟩
    · intro _ htext
      obtain ⟨text, htext', rfl⟩ := List.mem_map.mp htext
      rw [Segment.parse_trim]
      exact hread text htext'
    · rwa [List.countP_map, hisCall]
    · rwa [Segment.parse_trim]
    · rwa [hterms]

/-- Blanks around texts are trimmed away. -/
theorem map_trim_of_padded {texts padded : List (List Char)} (h : List.Forall₂ Padded texts padded) :
    padded.map Text.trim = texts.map Text.trim := by
  induction h with
  | nil => rfl
  | cons hpadded _ ih =>
    obtain ⟨left, right, hleft, hright, rfl⟩ := hpadded
    rw [List.map_cons, List.map_cons, Text.trim_padded hleft hright, ih]

/-- The segments of a written line are accepted. -/
theorem accepted_spelled {q : Query} (h : q.WellFormed) {word : List Char} {before after : Filter}
    (hword : word.map Char.toLower = q.verb.name.toList) (hfilter : q.filter = before ++ after) :
    Accepted (before.map spellTerm ++
      Segment.spell .query false (Call.spell word q.key q.value) :: after.map spellTerm) q := by
  -- the one call is read as the predicate `query`, without quotes around it
  have hread := Segment.parse_spell .query false (Call.spell word q.key q.value)
  rw [Call.unquote_spell hword] at hread
  have hnamed : ∀ t ∈ before ++ after, t.name ≠ .query := fun t ht => (h.filter t (hfilter ▸ ht)).1
  have hisCall : ∀ t ∈ before ++ after, isCall (spellTerm t) = false := by
    intro t ht
    exact isCall_eq_false_of_parse (parse_spellTerm t) (hnamed t ht)
  have hcalled := isCall_of_parse_query hread
  refine ⟨?_, ?_, ⟨_, by simp, _, hread, ?_⟩, h.valued, ?_⟩
  -- every segment is read, the call and the terms
  · have hterms (part : Filter) :
        ∀ text ∈ part.map spellTerm, ∃ segment, Segment.parse text = .ok segment :=
      List.forall_mem_map.mpr fun t _ => ⟨_, parse_spellTerm t⟩
    exact List.forall_mem_append.mpr
      ⟨hterms before, List.forall_mem_cons.mpr ⟨⟨_, hread⟩, hterms after⟩⟩
  · -- the terms are no calls
    have hnone {part : Filter} (hpart : ∀ t ∈ part, t ∈ before ++ after) :
        (part.map spellTerm).countP isCall = 0 := by
      rw [List.countP_eq_zero]
      intro text htext
      obtain ⟨t, ht, rfl⟩ := List.mem_map.mp htext
      simp [hisCall t (hpart t ht)]
    rw [List.countP_append, List.countP_cons_of_pos hcalled,
      hnone fun t ht => List.mem_append_left _ ht, hnone fun t ht => List.mem_append_right _ ht]
  -- the call is the one that was written
  · exact Call.parse_spell hword (fun k hk => ⟨(h.key k hk).1, (h.key k hk).2.1⟩)
      fun v hv => (h.value v hv).1
  -- and of all the segments the filter is the terms, in their order
  · rw [hfilter, terms, List.filterMap_append, List.filterMap_cons_none (term?_of_isCall hcalled),
      ← terms, ← terms, terms_map_spellTerm fun t ht => hnamed t (List.mem_append_left _ ht),
      terms_map_spellTerm fun t ht => hnamed t (List.mem_append_right _ ht)]

/-- No written segment holds an ampersand. -/
theorem not_mem_spelled {q : Query} (h : q.WellFormed) {word : List Char} {before after : Filter}
    (hword : word.map Char.toLower = q.verb.name.toList) (hfilter : q.filter = before ++ after) :
    ∀ text ∈ before.map spellTerm ++
      Segment.spell .query false (Call.spell word q.key q.value) :: after.map spellTerm,
      '&' ∉ text := by
  -- neither a term nor the call holds an ampersand, since their values do not
  have hterm : ∀ t ∈ before ++ after, '&' ∉ spellTerm t := by
    intro t ht
    exact Segment.not_mem_spell (not_mem_quote (by decide) (h.filter t (hfilter ▸ ht)).2)
  have hcall : '&' ∉ Segment.spell .query false (Call.spell word q.key q.value) :=
    Segment.not_mem_spell (Call.not_mem_spell hword (fun k hk => (h.key k hk).2.2)
      fun v hv => (h.value v hv).2)
  obtain ⟨hbefore, hafter⟩ := List.forall_mem_append.mp hterm
  exact List.forall_mem_append.mpr ⟨List.forall_mem_map.mpr hbefore,
    List.forall_mem_cons.mpr ⟨hcall, List.forall_mem_map.mpr hafter⟩⟩

/-- Blanks hold no ampersand, so a text has none because of them. -/
theorem not_mem_of_padded {texts padded : List (List Char)}
    (hpadded : List.Forall₂ Padded texts padded) (hfree : ∀ text ∈ texts, '&' ∉ text) :
    ∀ text ∈ padded, '&' ∉ text := by
  induction hpadded with
  | nil => exact hfree
  | cons hhead _ ih =>
    intro text htext
    rcases List.mem_cons.mp htext with rfl | htext
    · obtain ⟨left, right, hleft, hright, rfl⟩ := hhead
      -- an ampersand is no blank
      have hblank {b : List Char} (hb : Text.isBlankText b = true) : '&' ∉ b :=
        Text.not_mem_of_isBlankText hb (by decide)
      simp [hblank hleft, hblank hright, hfree _ List.mem_cons_self]
    · exact ih (fun other hother => hfree other (List.mem_cons_of_mem _ hother)) text htext

/-- A line that spells a query out is read as this query. -/
theorem parse_of_spells {q : Query} {line : String} (h : q.WellFormed) (hline : Spells q line) :
    parse line = .ok q := by
  cases hline with
  | @join word before after padded hword hfilter hpadded =>
    -- cutting at ampersands gives the segments, as none of them holds one
    have hsegments : segments (String.ofList (Text.joinWith ['&'] padded)) = padded := by
      rw [segments, String.toList_ofList]
      refine Text.pieces_joinWith ?_
        (not_mem_of_padded hpadded (not_mem_spelled h hword hfilter))
      rintro rfl
      -- there is at least the segment of the call
      have hlength := hpadded.length_eq
      simp at hlength
    -- what is accepted does not depend on the blanks around the segments
    rw [parse_eq_ok_iff, hsegments, ← accepted_map_trim, map_trim_of_padded hpadded,
      accepted_map_trim]
    exact accepted_spelled h hword hfilter

/-! ## What is read -/

/-- An argument that is there is not empty and a part of what it was read from. -/
theorem Call.of_argument?_eq_some {text : List Char} {argument : String}
    (h : argument? text = some argument) :
    argument ≠ "" ∧ ∀ c ∈ argument.toList, c ∈ text := by
  unfold argument? at h
  split at h
  · exact nomatch h
  · rename_i s hne
    obtain rfl := Option.some.inj h
    refine ⟨fun hempty => hne (String.ofList_eq_empty_iff.mp hempty), fun c hc => ?_⟩
    rw [String.toList_ofList] at hc
    exact Text.mem_of_mem_trim (Text.mem_of_mem_unquote hc)

/-- The key is what stands before the first comma, and the value comes from what stands behind
it. -/
theorem Call.of_arguments_eq {inside : List Char} {key value : Option String}
    (h : arguments inside = (key, value)) :
    (∀ k ∈ key, k ≠ "" ∧ ',' ∉ k.toList ∧ ∀ c ∈ k.toList, c ∈ inside) ∧
      ∀ v ∈ value, v ≠ "" ∧ ∀ c ∈ v.toList, c ∈ inside := by
  unfold arguments at h
  split at h
  -- without a comma all of it is the key
  · rename_i hsplit
    obtain ⟨rfl, rfl⟩ := Prod.mk.inj h
    refine ⟨fun k hk => ?_, fun v hv => nomatch hv⟩
    obtain ⟨hne, hmem⟩ := of_argument?_eq_some hk
    exact ⟨hne, fun hc => Text.splitFirst_eq_none_iff.mp hsplit (hmem ',' hc), hmem⟩
  -- the first comma parts the key from the value
  · rename_i before after hsplit
    obtain ⟨rfl, rfl⟩ := Prod.mk.inj h
    obtain ⟨rfl, hcomma⟩ := Text.splitFirst_eq_some_iff.mp hsplit
    refine ⟨fun k hk => ?_, fun v hv => ?_⟩
    · obtain ⟨hne, hmem⟩ := of_argument?_eq_some hk
      exact ⟨hne, fun hc => hcomma (hmem ',' hc), fun c hc => by simp [hmem c hc]⟩
    · obtain ⟨hne, hmem⟩ := of_argument?_eq_some hv
      exact ⟨hne, fun c hc => by simp [hmem c hc]⟩

/-- The value of a segment is part of its text. -/
theorem Segment.mem_of_mem_value {text : List Char} {segment : Segment}
    (h : Segment.parse text = .ok segment) {c : Char} (hc : c ∈ segment.value) : c ∈ text := by
  obtain ⟨before, inside, after, rfl, -, -, -, hvalue⟩ := Segment.parse_eq_ok_iff.mp h
  have hinside : c ∈ inside := Text.mem_of_mem_unquote (hvalue ▸ hc)
  simp [hinside]

/-- A term of the filter comes from a segment that holds its value. -/
theorem exists_of_mem_terms {texts : List (List Char)} {t : Term} (h : t ∈ terms texts) :
    t.name ≠ .query ∧ ∃ text ∈ texts, ∀ c ∈ t.value.toList, c ∈ text := by
  -- a segment that is a term was read, and it is no call
  obtain ⟨text, hmem, hterm⟩ := List.mem_filterMap.mp h
  cases hread : Segment.parse text with
  | error e =>
    rw [term?, hread] at hterm
    cases hterm
  | ok segment =>
    by_cases hname : segment.name = .query
    · obtain ⟨name, negated, value⟩ := segment
      obtain rfl : name = .query := hname
      rw [term?_of_isCall (isCall_of_parse_query hread)] at hterm
      cases hterm
    · rw [term?_of_parse hread hname] at hterm
      obtain rfl := Option.some.inj hterm
      refine ⟨hname, text, hmem, fun c hc => ?_⟩
      rw [String.toList_ofList] at hc
      exact Segment.mem_of_mem_value hread hc

/-- A query that is read from segments without ampersands can be written. -/
theorem Accepted.wellFormed {texts : List (List Char)} {q : Query} (h : Accepted texts q)
    (hfree : ∀ text ∈ texts, '&' ∉ text) : q.WellFormed := by
  -- what is read comes from the segments, so it has no ampersand either
  obtain ⟨text, hmem, value, hread, hcall⟩ := h.call
  have hvalue : '&' ∉ value := fun hc => hfree text hmem (Segment.mem_of_mem_value hread hc)
  have hfilter : ∀ t ∈ q.filter, t.name ≠ .query ∧ '&' ∉ t.value.toList := by
    intro t ht
    obtain ⟨hname, other, hother, hsub⟩ := exists_of_mem_terms (h.filter ▸ ht)
    exact ⟨hname, fun hc => hfree other hother (hsub '&' hc)⟩
  rcases Call.parse_eq_ok_iff.mp hcall with
    ⟨-, -, hkey, hvalue'⟩ | ⟨verb, inside, rest, hparts, -, -, -, harguments⟩
  · -- a bare verb has no arguments
    have hkey : q.key = none := hkey
    have hvalue' : q.value = none := hvalue'
    exact {
      key := fun k hk => by rw [hkey] at hk; exact nomatch hk
      value := fun v hv => by rw [hvalue'] at hv; exact nomatch hv
      filter := hfilter
      valued := h.valued }
  -- what stands in the parentheses is a part of the call
  · have hinside : '&' ∉ inside := fun hc => hvalue (by rw [hparts]; simp [hc])
    obtain ⟨hkeys, hvalues⟩ := Call.of_arguments_eq harguments.symm
    exact {
      key := fun k hk => ⟨(hkeys k hk).1, (hkeys k hk).2.1, fun hc =>
        hinside ((hkeys k hk).2.2 '&' hc)⟩
      value := fun v hv => ⟨(hvalues v hv).1, fun hc => hinside ((hvalues v hv).2 '&' hc)⟩
      filter := hfilter
      valued := h.valued }

/-- Every query can be spelled out, whether or not it is read back. -/
theorem exists_spells (q : Query) : ∃ line, Spells q line := by
  -- the name of a verb is in lower case already
  have hcase : q.verb.name.toList.map Char.toLower = q.verb.name.toList := by
    cases q.verb <;> decide
  have hpadded (texts : List (List Char)) : List.Forall₂ Padded texts texts :=
    List.forall₂_same.mpr fun text _ => ⟨[], [], rfl, rfl, by simp⟩
  exact ⟨_, .join hcase (List.nil_append q.filter).symm (hpadded _)⟩

/-- What is written is read, and what is read can be written. -/
theorem parse_spells :
    (∀ q : Query, q.WellFormed → ∀ line, Spells q line → parse line = .ok q) ∧
      (∀ line q, parse line = .ok q → q.WellFormed) ∧
      ∀ q : Query, q.WellFormed ↔ ∃ line, Spells q line ∧ parse line = .ok q := by
  -- the segments of a line are its pieces between ampersands
  have hread (line : String) (q : Query) (h : parse line = .ok q) : q.WellFormed :=
    (parse_eq_ok_iff.mp h).wellFormed fun _ => Text.not_mem_of_mem_pieces
  refine ⟨fun q h line hline => parse_of_spells h hline, hread, fun q => ⟨fun h => ?_, ?_⟩⟩
  · obtain ⟨line, hline⟩ := exists_spells q
    exact ⟨line, hline, parse_of_spells h hline⟩
  · rintro ⟨line, -, hline⟩
    exact hread line q hline

/-- A call with quotes, parentheses and commas in its arguments, between two terms. -/
theorem parse_spells_adversarial :
    let q : Query := ⟨.put, some "\")(\"", some ",! \"v)", [⟨.monitor, true, "(\","⟩,
      ⟨.assign .purpose, false, ""⟩]⟩
    let line := " !monitor(\"(\",\")&query(PuT(\"\")(\"\",\",! \"v)\"))\t& objPur(\"\")"
    q.WellFormed ∧ Spells q line ∧ parse line = .ok q := by
  intro q line
  -- the query is well-formed by computation, and its segments have blanks around them
  have hq : q.WellFormed := by decide
  have hpadded : List.Forall₂ Padded
      [spellTerm ⟨.monitor, true, "(\","⟩,
        Segment.spell .query false (Call.spell "PuT".toList q.key q.value),
        spellTerm ⟨.assign .purpose, false, ""⟩]
      [" !monitor(\"(\",\")".toList, "query(PuT(\"\")(\"\",\",! \"v)\"))\t".toList,
        " objPur(\"\")".toList] :=
    .cons ⟨[' '], [], rfl, rfl, rfl⟩ (.cons ⟨[], ['\t'], rfl, rfl, rfl⟩
      (.cons ⟨[' '], [], rfl, rfl, rfl⟩ .nil))
  have hline : Spells q line :=
    @Spells.join q "PuT".toList [⟨.monitor, true, "(\","⟩] [⟨.assign .purpose, false, ""⟩] _
      (by decide) rfl
      hpadded
  exact ⟨hq, hline, parse_spells.1 q hq line hline⟩

end PolicyReplay.Query
