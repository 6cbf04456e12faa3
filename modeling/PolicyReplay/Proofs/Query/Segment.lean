import PolicyReplay.Proofs.Text.Split
import PolicyReplay.Query.Parser

/-!
# Segments and calls

What a segment of a query line has to look like to be read, and what is read from it: a name with
its sign before the parentheses, a value in them. A `query` segment holds a call, which is a verb
alone or a verb with arguments in parentheses.

## Key results

- `Segment.parse_eq_ok_iff`, `Call.parse_eq_ok_iff`: the texts that are read, and as what
- `Segment.of_parse_eq_error`, `Call.of_parse_eq_error`: what can be wrong with the others
- `Segment.parse_trim`: blanks around a segment are not seen
-/

namespace PolicyReplay

/-! ## Names -/

/-- A name is a word of letters. -/
theorem PredicateName.isAlpha_text (name : PredicateName) :
    name.text.toList ≠ [] ∧ ∀ c ∈ name.text.toList, c.isAlpha = true := by
  -- there are finitely many names, and each of them is looked at
  have h : all.all (fun name => !name.text.toList.isEmpty && name.text.toList.all Char.isAlpha) :=
    by decide
  simpa using List.all_eq_true.mp h name name.mem_all

/-- A text names the predicate whose text it is, and no other. -/
theorem PredicateName.ofText?_eq_some_iff {text : String} {name : PredicateName} :
    ofText? text = some name ↔ name.text = text := by
  constructor
  · intro h
    simpa [ofText?] using List.find?_some h
  · rintro rfl
    exact ofText?_text name

/-- A text names no predicate if it is the text of none. -/
theorem PredicateName.ofText?_eq_none_iff {text : String} :
    ofText? text = none ↔ ∀ name : PredicateName, name.text ≠ text := by
  simp only [ofText?, List.find?_eq_none, beq_iff_eq]
  exact ⟨fun h name => h name name.mem_all, fun h name _ => h name⟩

/-- A name is read as the predicate whose text it is, letter for letter. -/
theorem PredicateName.parse_eq_ok_iff {text : List Char} {name : PredicateName} :
    PredicateName.parse text = .ok name ↔ text = name.text.toList := by
  have hname : name.text = String.ofList text ↔ text = name.text.toList := by
    rw [← String.toList_inj, String.toList_ofList, eq_comm]
  rw [← hname, ← ofText?_eq_some_iff, PredicateName.parse]
  cases ofText? (String.ofList text) <;> simp

/-- A name that is not read is refused in its own words, and no predicate is spelled like it. -/
theorem PredicateName.of_parse_eq_error {text : List Char} {e : Query.Error}
    (h : PredicateName.parse text = .error e) :
    ∃ name, e = .unsupportedPredicate name ∧ ∀ p : PredicateName, p.text ≠ name := by
  unfold PredicateName.parse at h
  split at h
  · exact nomatch h
  · rename_i hnone
    exact ⟨_, (Except.error.inj h).symm, ofText?_eq_none_iff.mp hnone⟩

/-- A name is that of the verb it is the name of, and of no other. -/
theorem Verb.ofName?_eq_some_iff {name : String} {verb : Verb} :
    ofName? name = some verb ↔ verb.name = name := by
  constructor
  · intro h
    simpa [ofName?] using List.find?_some h
  · rintro rfl
    exact ofName?_name verb

/-- A verb is read without the blanks around it and without regard to case. -/
theorem Verb.parse_eq_ok_iff {text : List Char} {verb : Verb} :
    Verb.parse text = .ok verb ↔ (Text.trim text).map Char.toLower = verb.name.toList := by
  have hname : verb.name = String.ofList ((Text.trim text).map Char.toLower) ↔
      (Text.trim text).map Char.toLower = verb.name.toList := by
    rw [← String.toList_inj, String.toList_ofList, eq_comm]
  rw [← hname, ← ofName?_eq_some_iff, Verb.parse]
  cases ofName? (String.ofList ((Text.trim text).map Char.toLower)) <;> simp

/-- Only a letter is a letter when it is made small. -/
theorem isAlpha_of_isAlpha_toLower {c : Char} (h : c.toLower.isAlpha = true) :
    c.isAlpha = true := by
  unfold Char.toLower at h
  split at h
  · rename_i hupper
    exact Bool.or_eq_true _ _ |>.mpr (.inl (decide_eq_true hupper))
  · exact h

/-- A verb is a word of letters, in whatever case it is written. -/
theorem Verb.isAlpha_of_map_toLower {word : List Char} {verb : Verb}
    (h : word.map Char.toLower = verb.name.toList) : ∀ c ∈ word, c.isAlpha = true := by
  have hname : verb.name.toList.all Char.isAlpha = true := by cases verb <;> decide
  intro c hc
  refine isAlpha_of_isAlpha_toLower (List.all_eq_true.mp hname c.toLower ?_)
  rw [← h]
  exact List.mem_map_of_mem hc

/-- A verb that is not read is refused in its own words. -/
theorem Verb.of_parse_eq_error {text : List Char} {e : Query.Error}
    (h : Verb.parse text = .error e) : ∃ name, e = .unsupportedVerb name := by
  simp only [Verb.parse] at h
  split at h
  · exact nomatch h
  · exact ⟨_, (Except.error.inj h).symm⟩

/-- A text of blanks names no verb. -/
theorem Verb.parse_ne_ok_of_isBlankText {text : List Char} (h : Text.isBlankText text = true)
    (verb : Verb) : Verb.parse text ≠ .ok verb := by
  rw [ne_eq, parse_eq_ok_iff, Text.trim_eq_nil_iff.mpr h]
  cases verb <;> decide

namespace Query

/-! ## Segments -/

/-- Reading a segment, case by case. -/
theorem Segment.parse_eq (text : List Char) :
    Segment.parse text =
      if Text.trim text = [] then .error (.malformed .emptySegment)
      else match Text.parenthesized? (Text.trim text) with
        | none => .error (.malformed (.unbalancedSegment (String.ofList (Text.trim text))))
        | some ⟨before, inside, after⟩ =>
          if Text.isBlankText after then
            if (splitSign before).2 = [] then
              .error (.malformed (.namelessSegment (String.ofList (Text.trim text))))
            else
              (PredicateName.parse (splitSign before).2).map fun name =>
                ⟨name, (splitSign before).1, Text.unquote inside⟩
          else .error (.malformed (.textAfterSegment (String.ofList (Text.trim text)))) := by
  simp only [Segment.parse, bind, Except.bind, pure, Except.pure, throw, throwThe,
    MonadExceptOf.throw, List.isEmpty_iff]
  split
  · rfl
  · cases Text.parenthesized? (Text.trim text) with
    | none => rfl
    | some p =>
      -- the remaining choices are those of the definition, written with `Except.map`
      cases PredicateName.parse (splitSign p.before).2 <;> rfl

/-- Blanks around a segment are not seen. -/
theorem Segment.parse_trim (text : List Char) :
    Segment.parse (Text.trim text) = Segment.parse text := by
  rw [Segment.parse_eq, Segment.parse_eq, Text.trim_trim]

/-- The sign and the name are read without the blanks around them. -/
theorem Segment.splitSign_append_left {blanks before : List Char}
    (h : Text.isBlankText blanks = true) : splitSign (blanks ++ before) = splitSign before := by
  rw [splitSign, Text.trim_append_left h, splitSign]

/-- A segment is read if it is a known name before the first parenthesis, with nothing but blanks
behind the last one. -/
theorem Segment.parse_eq_ok_iff {text : List Char} {segment : Segment} :
    Segment.parse text = .ok segment ↔
      ∃ before inside after, text = before ++ '(' :: (inside ++ ')' :: after) ∧ '(' ∉ before ∧
        Text.isBlankText after = true ∧
        splitSign before = (segment.negated, segment.name.text.toList) ∧
        segment.value = Text.unquote inside := by
  rw [Segment.parse_eq]
  constructor
  · intro h
    split at h
    · exact nomatch h
    · split at h
      · exact nomatch h
      · rename_i before inside after hp
        obtain ⟨htrim, hbefore, -⟩ := Text.parenthesized?_eq_some_iff.mp hp
        split at h
        · rename_i hafter
          split at h
          · exact nomatch h
          · cases hname : PredicateName.parse (splitSign before).2 with
            | error e => rw [hname] at h; exact nomatch h
            | ok name =>
              rw [hname] at h
              obtain rfl := Except.ok.inj h
              -- the blanks around the text go to what stands before and behind the parentheses
              obtain ⟨left, right, hleft, hright, htext⟩ := Text.exists_trim text
              refine ⟨left ++ before, inside, after ++ right, ?_, ?_,
                Text.isBlankText_append.mpr ⟨hafter, hright⟩, ?_, rfl⟩
              · rw [htext, htrim]
                simp
              · simp [hbefore, Text.not_mem_of_isBlankText hleft (by decide : Text.isBlank '(' = false)]
              · rw [splitSign_append_left hleft, ← PredicateName.parse_eq_ok_iff.mp hname]
        · exact nomatch h
  -- the other way, the parentheses of the trimmed text are still the first and the last
  · rintro ⟨before, inside, after, rfl, hbefore, hafter, hsign, hvalue⟩
    obtain ⟨left, hleft, hstart⟩ := Text.exists_trimStart before
    have hfree : '(' ∉ Text.trimStart before := fun h => hbefore (by rw [hstart]; simp [h])
    have hp : Text.parenthesized? (Text.trimStart before ++ '(' :: (inside ++ [')'])) =
        some ⟨Text.trimStart before, inside, []⟩ :=
      Text.parenthesized?_eq_some_iff.mpr ⟨rfl, hfree, List.not_mem_nil⟩
    rw [hstart, splitSign_append_left hleft] at hsign
    rw [Text.trim_enclosed, Text.trimEnd_eq_nil_iff.mpr hafter, if_neg (by simp), hp]
    simp only [Text.isBlankText_nil, ↓reduceIte, hsign, segment.name.isAlpha_text.1,
      PredicateName.parse_eq_ok_iff.mpr rfl, ← hvalue]
    rfl

/-- What can be wrong with a segment: its name, or its form. -/
theorem Segment.of_parse_eq_error {text : List Char} {e : Error}
    (h : Segment.parse text = .error e) :
    (∃ name, e = .unsupportedPredicate name ∧ ∀ p : PredicateName, p.text ≠ name) ∨
      ∃ cause, e = .malformed cause ∧ ∀ line, cause ≠ .noCall line := by
  -- each fault of form is a fault of the segment, none of them the lack of a call in a line
  have malformed {cause : Malformation} (hcause : ∀ line, cause ≠ .noCall line)
      (h : (.error (.malformed cause) : Except Error Segment) = .error e) :
      ∃ cause, e = .malformed cause ∧ ∀ line, cause ≠ .noCall line :=
    ⟨cause, (Except.error.inj h).symm, hcause⟩
  rw [Segment.parse_eq] at h
  split at h
  · exact .inr (malformed (by simp) h)
  · split at h
    · exact .inr (malformed (by simp) h)
    · split at h
      · split at h
        · exact .inr (malformed (by simp) h)
        · rename_i before _ _ _ _ _
          cases hname : PredicateName.parse (splitSign before).2 with
          | ok name => rw [hname] at h; exact nomatch h
          | error e' =>
            rw [hname] at h
            obtain rfl := Except.error.inj h
            exact .inl (PredicateName.of_parse_eq_error hname)
      · exact .inr (malformed (by simp) h)

/-! ## Calls -/

/-- Reading a call, case by case. -/
theorem Call.parse_eq (text : List Char) :
    Call.parse text =
      match split text with
      | .error e => .error e
      | .ok (verb, arguments?) =>
        if Text.isBlankText verb then .error (.malformed (.noVerb (String.ofList text)))
        else (Verb.parse verb).map fun verb =>
          let (key, value) := (arguments?.map arguments).getD (none, none)
          ⟨verb, key, value⟩ := by
  simp only [Call.parse, bind, Except.bind, pure, Except.pure, throw, throwThe,
    MonadExceptOf.throw]
  cases split text with
  | error e => rfl
  | ok parts =>
    obtain ⟨verb, arguments?⟩ := parts
    cases Verb.parse verb <;> rfl

theorem Call.split_eq_ok_iff {text verb : List Char} {arguments? : Option (List Char)} :
    split text = .ok (verb, arguments?) ↔
      ('(' ∉ text ∧ verb = text ∧ arguments? = none) ∨
        ∃ inside rest, text = verb ++ '(' :: (inside ++ ')' :: rest) ∧ '(' ∉ verb ∧ ')' ∉ rest ∧
          arguments? = some inside := by
  unfold split
  -- a text without a parenthesis is not cut, and one with a parenthesis is cut or refused
  by_cases hopen : '(' ∈ text
  · rw [if_pos hopen]
    constructor
    · intro h
      split at h
      · rename_i p hp
        obtain ⟨rfl, rfl⟩ := Prod.mk.inj (Except.ok.inj h)
        obtain ⟨htext, hbefore, hafter⟩ := Text.parenthesized?_eq_some_iff.mp hp
        exact .inr ⟨p.inside, p.after, htext, hbefore, hafter, rfl⟩
      · exact nomatch h
    · rintro (⟨hclosed, -⟩ | ⟨inside, rest, htext, hverb, hrest, rfl⟩)
      · exact absurd hopen hclosed
      · have hp : Text.parenthesized? text = some ⟨verb, inside, rest⟩ :=
          Text.parenthesized?_eq_some_iff.mpr ⟨htext, hverb, hrest⟩
        rw [hp]
  · rw [if_neg hopen]
    constructor
    · intro h
      obtain ⟨rfl, rfl⟩ := Prod.mk.inj (Except.ok.inj h)
      exact .inl ⟨hopen, rfl, rfl⟩
    · rintro (⟨-, rfl, rfl⟩ | ⟨inside, rest, htext, -⟩)
      · rfl
      · rw [htext] at hopen
        simp at hopen

/-- A text is read as a call in two steps: it is cut, and its parts are read. -/
theorem Call.parse_eq_ok_iff_split {text : List Char} {call : Call} :
    Call.parse text = .ok call ↔ ∃ verb arguments?, split text = .ok (verb, arguments?) ∧
      Verb.parse verb = .ok call.verb ∧
      (call.key, call.value) = (arguments?.map arguments).getD (none, none) := by
  rw [Call.parse_eq]
  constructor
  · intro h
    split at h
    · exact nomatch h
    · rename_i verb arguments? hsplit
      split at h
      · exact nomatch h
      · cases hverb : Verb.parse verb with
        | error e => rw [hverb] at h; exact nomatch h
        | ok v =>
          rw [hverb] at h
          obtain rfl := Except.ok.inj h
          exact ⟨verb, arguments?, hsplit, hverb, rfl⟩
  · rintro ⟨verb, arguments?, hsplit, hverb, harguments⟩
    -- blanks are no verb, so the check for them is passed by every verb that is read
    have hnamed : ¬ Text.isBlankText verb = true :=
      fun h => Verb.parse_ne_ok_of_isBlankText h call.verb hverb
    simp only [hsplit, if_neg hnamed, hverb, Except.map, ← harguments]

/-- A call is a verb alone, or a verb with arguments. What stands behind the arguments is not
looked at. -/
theorem Call.parse_eq_ok_iff {text : List Char} {call : Call} :
    Call.parse text = .ok call ↔
      ('(' ∉ text ∧ Verb.parse text = .ok call.verb ∧ call.key = none ∧ call.value = none) ∨
        ∃ verb inside rest, text = verb ++ '(' :: (inside ++ ')' :: rest) ∧ '(' ∉ verb ∧
          ')' ∉ rest ∧ Verb.parse verb = .ok call.verb ∧
          (call.key, call.value) = arguments inside := by
  rw [parse_eq_ok_iff_split]
  constructor
  · rintro ⟨verb, arguments?, h, hverb, harguments⟩
    rcases split_eq_ok_iff.mp h with ⟨hopen, rfl, rfl⟩ | ⟨inside, rest, htext, hopen, hrest, rfl⟩
    · obtain ⟨hkey, hvalue⟩ := Prod.mk.inj harguments
      exact .inl ⟨hopen, hverb, hkey, hvalue⟩
    · exact .inr ⟨verb, inside, rest, htext, hopen, hrest, hverb, harguments⟩
  · rintro (⟨hopen, hverb, hkey, hvalue⟩ |
      ⟨verb, inside, rest, htext, hopen, hrest, hverb, harguments⟩)
    · refine ⟨text, none, split_eq_ok_iff.mpr (.inl ⟨hopen, rfl, rfl⟩), hverb, ?_⟩
      rw [hkey, hvalue]
      rfl
    · exact ⟨verb, some inside,
        split_eq_ok_iff.mpr (.inr ⟨inside, rest, htext, hopen, hrest, rfl⟩), hverb, harguments⟩

/-- What can be wrong with a call: its verb, or its form. -/
theorem Call.of_parse_eq_error {text : List Char} {e : Error} (h : Call.parse text = .error e) :
    (∃ name, e = .unsupportedVerb name) ∨
      ∃ cause, e = .malformed cause ∧ ∀ line, cause ≠ .noCall line := by
  rw [Call.parse_eq] at h
  split at h
  -- either the parentheses do not match, or the verb is missing or unknown
  · rename_i e' hsplit
    obtain rfl := Except.error.inj h
    unfold split at hsplit
    split at hsplit
    · split at hsplit
      · exact nomatch hsplit
      · exact .inr ⟨_, (Except.error.inj hsplit).symm, by simp⟩
    · exact nomatch hsplit
  · rename_i verb arguments? _
    split at h
    · exact .inr ⟨_, (Except.error.inj h).symm, by simp⟩
    · cases hverb : Verb.parse verb with
      | ok v => rw [hverb] at h; exact nomatch h
      | error e' =>
        rw [hverb] at h
        obtain rfl := Except.error.inj h
        exact .inl (Verb.of_parse_eq_error hverb)

end Query
end PolicyReplay
