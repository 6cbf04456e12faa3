import PolicyReplay.Proofs.Query.Line

/-!
# What stands behind a closing parenthesis

A predicate ends with its closing parenthesis, and a segment that goes on behind it is refused. A
call does not: what stands between the parenthesis that closes its arguments and the end of the
predicate is never looked at, so a line is read as if that text were not there.

## Key results

- `Segment.parse_append_of_not_blank`: a segment that goes on behind its parentheses is refused
- `Call.code_parse_remainder`: a call is read alike, whatever stands behind its arguments
- `code_parse_exchange`: lines are read alike if their calls are
- `parse_remainder`: a line is read as if nothing stood behind the arguments of its call
- `accepted_with_remainder`: a predicate that is lost in this way
-/

namespace PolicyReplay.Query

/-! ## One segment, one call -/

/-- A segment that goes on behind its closing parenthesis is refused. -/
theorem Segment.parse_append_of_not_blank {text after : List Char} {segment : Segment}
    (hread : Segment.parse text = .ok segment) (hclose : ')' ∉ after)
    (hafter : ¬ Text.isBlankText after = true) :
    Segment.parse (text ++ after) =
      .error (.malformed (.textAfterSegment (String.ofList (Text.trim (text ++ after))))) := by
  obtain ⟨before, inside, blanks, rfl, hopen, hblanks, -, -⟩ := Segment.parse_eq_ok_iff.mp hread
  -- trimming stops at the text, so it is still there behind the last parenthesis
  have hrest : ¬ Text.isBlankText (Text.trimEnd (blanks ++ after)) = true := by
    obtain ⟨right, hright, hend⟩ := Text.exists_trimEnd (blanks ++ after)
    intro hblank
    have hall : Text.isBlankText (blanks ++ after) = true := by
      rw [hend]
      exact Text.isBlankText_append.mpr ⟨hblank, hright⟩
    exact hafter (Text.isBlankText_append.mp hall).2
  have htrim : Text.trim (before ++ '(' :: (inside ++ ')' :: blanks) ++ after) =
      Text.trimStart before ++ '(' :: (inside ++ ')' :: Text.trimEnd (blanks ++ after)) := by
    rw [← Text.trim_enclosed]
    simp
  have hp : Text.parenthesized?
      (Text.trimStart before ++ '(' :: (inside ++ ')' :: Text.trimEnd (blanks ++ after))) =
        some ⟨Text.trimStart before, inside, Text.trimEnd (blanks ++ after)⟩ := by
    obtain ⟨left, -, hstart⟩ := Text.exists_trimStart before
    obtain ⟨right, -, hend⟩ := Text.exists_trimEnd (blanks ++ after)
    have hfree : ')' ∉ blanks ++ after :=
      List.not_mem_append (Text.not_mem_of_isBlankText hblanks (by decide)) hclose
    refine Text.parenthesized?_eq_some_iff.mpr ⟨rfl, fun h => hopen ?_, fun h => hfree ?_⟩
    · rw [hstart]; simp [h]
    · rw [hend]; simp [h]
  rw [Segment.parse_eq, htrim, if_neg (by simp), hp]
  exact if_neg hrest

/-- The value of a segment can be exchanged for another one that does not end with a quote. -/
theorem Segment.exists_value_frame {text value : List Char} {name : PredicateName} {negated : Bool}
    (hread : Segment.parse text = .ok ⟨name, negated, value⟩) :
    ∃ l r, text = l ++ value ++ r ∧ ∀ value', value'.getLast? ≠ some '"' →
      Segment.parse (l ++ value' ++ r) = .ok ⟨name, negated, value'⟩ := by
  obtain ⟨before, inside, after, rfl, hopen, hafter, hsign, rfl⟩ := Segment.parse_eq_ok_iff.mp hread
  -- quotes around the value, if there are any, belong to what stands around it
  obtain ⟨l, r, hquotes, hframe⟩ := Text.exists_unquote_frame inside
  refine ⟨before ++ '(' :: l, r ++ ')' :: after, ?_, fun value' hlast => ?_⟩
  · conv_lhs => rw [hquotes]
    simp
  · exact Segment.parse_eq_ok_iff.mpr ⟨before, l ++ value' ++ r, after, by simp, hopen, hafter, hsign,
      (hframe value' hlast).symm⟩

/-- A call is read alike, whatever stands behind its arguments. -/
theorem Call.code_parse_remainder {verb inside rest other : List Char} (hverb : '(' ∉ verb)
    (hrest : ')' ∉ rest) (hother : ')' ∉ other) :
    (Call.parse (verb ++ '(' :: (inside ++ ')' :: rest))).mapError Error.code =
      (Call.parse (verb ++ '(' :: (inside ++ ')' :: other))).mapError Error.code := by
  have hsplit {rest : List Char} (hrest : ')' ∉ rest) :
      split (verb ++ '(' :: (inside ++ ')' :: rest)) = .ok (verb, some inside) :=
    split_eq_ok_iff.mpr (.inr ⟨inside, rest, rfl, hverb, hrest, rfl⟩)
  -- either way the call is split into the same verb and the same arguments
  rw [parse_eq, parse_eq, hsplit hrest, hsplit hother]
  simp only
  split
  · rfl
  · rfl

/-! ## Whole lines -/

/-- The line is seen only in the words of an error. -/
theorem Draft.code_add (line line' : List Char) (draft : Draft) (text : List Char) :
    (Draft.add line draft text).mapError Error.code =
      (Draft.add line' draft text).mapError Error.code := by
  rw [Draft.add_eq, Draft.add_eq]
  -- the segment is read without the line, and so is every check; only messages show the line
  cases Segment.parse text with
  | error e => rfl
  | ok segment =>
    simp only
    split
    · split
      · rfl
      · split <;> rfl
    · rfl

/-- The line is seen only in the words of an error, also at its end. -/
theorem Draft.code_finish (line line' : List Char) (draft : Draft) :
    (draft.finish line).mapError Error.code = (draft.finish line').mapError Error.code := by
  simp only [Draft.finish]
  cases draft.call with
  | none => rfl
  | some call => rfl

/-- Segments with calls that are read alike are taken in alike. -/
theorem Draft.code_add_call {line line' text text' value value' : List Char}
    (hread : Segment.parse text = .ok ⟨.query, false, value⟩)
    (hread' : Segment.parse text' = .ok ⟨.query, false, value'⟩)
    (hcall : (Call.parse value).mapError Error.code = (Call.parse value').mapError Error.code)
    (draft : Draft) :
    (Draft.add line draft text).mapError Error.code =
      (Draft.add line' draft text').mapError Error.code := by
  rw [Draft.add_eq, Draft.add_eq, hread, hread']
  simp only [↓reduceIte, Bool.false_eq_true]
  -- a second call is refused on both sides, and a first one is read
  split
  · rfl
  · exact Except.mapError_map_congr _ hcall

/-- Lines are read alike if they differ in the text of a call only, and the calls are read alike. -/
theorem code_parse_exchange {line line' : String} {front back : List (List Char)}
    {text text' value value' : List Char} (hline : segments line = front ++ text :: back)
    (hline' : segments line' = front ++ text' :: back)
    (hread : Segment.parse text = .ok ⟨.query, false, value⟩)
    (hread' : Segment.parse text' = .ok ⟨.query, false, value'⟩)
    (hcall : (Call.parse value).mapError Error.code = (Call.parse value').mapError Error.code) :
    (parse line).mapError Error.code = (parse line').mapError Error.code := by
  -- neither line is blank, for both have a segment that can be read
  rw [parse_eq, parse_eq, if_neg (not_isBlankText_of_read (by simp [hline]) hread),
    if_neg (not_isBlankText_of_read (by simp [hline']) hread'), hline, hline']
  refine Except.mapError_bind_congr (Except.mapError_foldlM_congr ?_ _) (Draft.code_finish _ _)
  -- the segments around the call are the same in both lines
  have hsame (texts : List (List Char)) : List.Forall₂ (fun text text' => ∀ draft,
      (Draft.add (Text.trim line.toList) draft text).mapError Error.code =
        (Draft.add (Text.trim line'.toList) draft text').mapError Error.code) texts texts :=
    List.forall₂_same.mpr fun text _ draft => Draft.code_add _ _ draft text
  exact List.rel_append (hsame front) (.cons (Draft.code_add_call hread hread' hcall) (hsame back))

/-- A segment of a line can be exchanged for another one. -/
theorem exists_segments_frame {line : String} {before after : List (List Char)} {text : List Char}
    (h : segments line = before ++ text :: after) :
    ∃ lead trail, line.toList = lead ++ text ++ trail ∧ ∀ text', '&' ∉ text' →
      segments (String.ofList (lead ++ text' ++ trail)) = before ++ text' :: after := by
  obtain ⟨lead, trail, hjoin⟩ := Text.exists_joinWith_frame ['&'] before after
  refine ⟨lead, trail, ?_, fun text' htext' => ?_⟩
  -- the pieces joined again are the line
  · rw [← hjoin, ← h, segments, Text.joinWith_pieces]
  · rw [segments, String.toList_ofList, ← hjoin]
    -- no segment holds an ampersand, so the line with the other segment is cut at the same places
    have hfree : ∀ item ∈ before ++ text :: after, '&' ∉ item := fun item hitem =>
      Text.not_mem_of_mem_pieces (h ▸ hitem)
    obtain ⟨hbefore, hrest⟩ := List.forall_mem_append.mp hfree
    exact Text.pieces_joinWith (by simp) (List.forall_mem_append.mpr
      ⟨hbefore, List.forall_mem_cons.mpr ⟨htext', (List.forall_mem_cons.mp hrest).2⟩⟩)

/-- A line whose call has `rest` between its arguments and the end of its predicate. -/
def lineWith (lead verb inside rest trail : List Char) : String :=
  String.ofList (lead ++ (verb ++ '(' :: (inside ++ ')' :: rest)) ++ trail)

/-- The results that have the code of a malformed query. -/
theorem code_eq_malformed_iff {result : Except Error Query} :
    result.mapError Error.code = .error "POLICY_QUERY_MALFORMED" ↔
      ∃ cause, result = .error (.malformed cause) := by
  -- no other error has this code
  cases result with
  | ok q => simp [Except.mapError]
  | error e => cases e <;> simp [Except.mapError, Error.code]

/-- What stands behind the arguments of a call can be cut out of the line. -/
theorem exists_shortened {line : String} {text verb inside rest : List Char}
    (htext : text ∈ segments line)
    (hread : Segment.parse text = .ok ⟨.query, false, verb ++ '(' :: (inside ++ ')' :: rest)⟩) :
    ∃ lead trail front back text', line = lineWith lead verb inside rest trail ∧
      segments line = front ++ text :: back ∧
      segments (lineWith lead verb inside [] trail) = front ++ text' :: back ∧
      Segment.parse text' = .ok ⟨.query, false, verb ++ '(' :: (inside ++ [')'])⟩ := by
  -- the segment stands in the line, and the value stands in the segment
  obtain ⟨front, back, hsegments⟩ := List.append_of_mem htext
  obtain ⟨lead, trail, hline, hexchange⟩ := exists_segments_frame hsegments
  obtain ⟨l, r, htext', hframe⟩ := Segment.exists_value_frame hread
  -- the shortened value ends with a parenthesis, so no quote is lost with the end of it
  have hlast : (verb ++ '(' :: (inside ++ [')'])).getLast? ≠ some '"' := by
    rw [← List.cons_append, ← List.append_assoc, List.getLast?_concat]
    decide
  -- and it holds no ampersand, so it stays one segment
  have hfree : '&' ∉ l ++ (verb ++ '(' :: (inside ++ [')'])) ++ r := by
    have hfree := Text.not_mem_of_mem_pieces htext
    rw [htext'] at hfree
    simp only [List.mem_append, List.mem_cons, not_or] at hfree
    simp [hfree]
  refine ⟨lead ++ l, r ++ trail, front, back, _, ?_, hsegments, ?_, hframe _ hlast⟩
  · rw [← String.toList_inj, hline, lineWith, String.toList_ofList, htext']
    simp
  · rw [← hexchange _ hfree, lineWith]
    simp

/-- A line is read as if nothing stood behind the arguments of its call: accepted as the same query,
or refused for a reason of the same kind. With a text there it is refused as malformed exactly if it
is malformed without the text. Behind the predicate itself, any such text is refused. -/
theorem parse_remainder (line : String) {text verb inside rest : List Char}
    (htext : text ∈ segments line)
    (hread : Segment.parse text = .ok ⟨.query, false, verb ++ '(' :: (inside ++ ')' :: rest)⟩)
    (hverb : '(' ∉ verb) (hrest : ')' ∉ rest) :
    (∃ lead trail, line = lineWith lead verb inside rest trail ∧
      let short := lineWith lead verb inside [] trail
      (∃ text' ∈ segments short,
        Segment.parse text' = .ok ⟨.query, false, verb ++ '(' :: (inside ++ [')'])⟩) ∧
      (parse line).mapError Error.code = (parse short).mapError Error.code ∧
      ((¬ Text.isBlankText rest = true → ∃ cause, parse line = .error (.malformed cause)) ↔
        Text.isBlankText rest = true ∨ ∃ cause, parse short = .error (.malformed cause))) ∧
    ∀ after, ')' ∉ after → ¬ Text.isBlankText after = true →
      Segment.parse (text ++ after) =
        .error (.malformed (.textAfterSegment (String.ofList (Text.trim (text ++ after))))) := by
  refine ⟨?_, fun after => Segment.parse_append_of_not_blank hread⟩
  obtain ⟨lead, trail, front, back, text', hline, hsegments, hshort, hread'⟩ :=
    exists_shortened htext hread
  -- both lines have the same code, since their calls have
  have hcode : (parse line).mapError Error.code =
      (parse (lineWith lead verb inside [] trail)).mapError Error.code :=
    code_parse_exchange hsegments hshort hread hread'
      (Call.code_parse_remainder hverb hrest List.not_mem_nil)
  refine ⟨lead, trail, hline, ⟨text', by simp [hshort], hread'⟩, hcode, ?_⟩
  -- being malformed can be told from the code
  rw [← code_eq_malformed_iff, ← code_eq_malformed_iff, hcode]
  exact Decidable.imp_iff_not_or.trans (by rw [Decidable.not_not])

/-- What stands behind the arguments of this call can go, and the query stays. -/
theorem parse_remainder_purpose :
    let line := "query(get(\"k\"), objPur \"ads\")"
    parse line = .ok ⟨.get, some "k", none, []⟩ ∧ ∃ lead trail,
      line = lineWith lead "get".toList "\"k\"".toList ", objPur \"ads\"".toList trail ∧
      (parse (lineWith lead "get".toList "\"k\"".toList [] trail)).mapError Error.code =
        .ok ⟨.get, some "k", none, []⟩ := by
  have hread : Segment.parse "query(get(\"k\"), objPur \"ads\")".toList = .ok ⟨.query, false,
      "get".toList ++ '(' :: ("\"k\"".toList ++ ')' :: ", objPur \"ads\"".toList)⟩ := rfl
  obtain ⟨⟨lead, trail, hline, -, hcode, -⟩, -⟩ := parse_remainder
    "query(get(\"k\"), objPur \"ads\")" (by decide) hread (by decide) (by decide)
  -- only the code of the long line is computed; that of the short one follows
  exact ⟨rfl, lead, trail, hline, hcode.symm⟩

/-- A predicate behind the arguments of the call is lost, where the same text behind the predicate of
the call is refused. -/
theorem accepted_with_remainder :
    let line := "query(get(\"k\"), objPur \"ads\")"
    let rest := ", objPur \"ads\"".toList
    segments line = [line.toList] ∧
      Segment.parse line.toList =
        .ok ⟨.query, false, "get".toList ++ '(' :: ("\"k\"".toList ++ ')' :: rest)⟩ ∧
      ')' ∉ rest ∧ ¬ Text.isBlankText rest = true ∧
      parse line = .ok ⟨.get, some "k", none, []⟩ ∧
      parse "query(get(\"k\")), objPur \"ads\"" = .error
        (.malformed (.textAfterSegment "query(get(\"k\")), objPur \"ads\"")) := by
  refine ⟨rfl, rfl, by decide, by decide, rfl, rfl⟩

end PolicyReplay.Query
