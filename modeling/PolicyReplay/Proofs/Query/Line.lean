import PolicyReplay.Proofs.Except
import PolicyReplay.Proofs.Query.Segment

/-!
# Lines are read segment by segment

Whether a line is accepted, and as which query, depends on what each of its segments is on its own;
the order of the segments is seen in the filter and in nothing else. When a line is refused, the
first segment at fault says why, and only a line without such a segment is refused as a whole.

## Key results

- `collected_of_foldlM`: what the segments read so far amount to
- `foldlM_add_eq_error_iff`: reading stops at the first segment at fault
- `parse_by_segments`: acceptance, permutations, further segments, and errors
-/

namespace PolicyReplay.Query

variable {line : List Char} {texts : List (List Char)} {text : List Char} {e : Error}

/-! ## What a segment is on its own -/

/-- The segments of a line: what stands between its `&`s. -/
def segments (line : String) : List (List Char) := Text.pieces (· == '&') line.toList

/-- Whether a segment is read as the predicate that holds the call. -/
def isCall (text : List Char) : Bool :=
  match Segment.parse text with
  | .ok segment => segment.name = .query
  | .error _ => false

/-- The term of the filter that a segment gives. -/
def term? (text : List Char) : Option Term :=
  match Segment.parse text with
  | .ok ⟨.query, _, _⟩ => none
  | .ok ⟨name, negated, value⟩ => some ⟨name, negated, String.ofList value⟩
  | .error _ => none

/-- The filter of a line: the terms of its segments, in their order. -/
def terms (texts : List (List Char)) : Filter := texts.filterMap term?

/-- A line with these segments is accepted, and this is its query. -/
structure Accepted (texts : List (List Char)) (q : Query) : Prop where
  /-- Every segment is a predicate with a known name. -/
  read : ∀ text ∈ texts, ∃ segment, Segment.parse text = .ok segment
  /-- One of them is the predicate that holds the call. -/
  once : texts.countP isCall = 1
  /-- That one is not negated, and it holds a call. -/
  call : ∃ text ∈ texts, ∃ value, Segment.parse text = .ok ⟨.query, false, value⟩ ∧
    Call.parse value = .ok ⟨q.verb, q.key, q.value⟩
  /-- A `put` has a value. -/
  valued : q.verb = .put → q.value ≠ none
  /-- All other predicates are the filter. -/
  filter : q.filter = terms texts

/-- A segment at fault, and the error that it gives in a line with the segments `before` it. -/
inductive Offence (line : List Char) (before : List (List Char)) (text : List Char) :
    Error → Prop where
  /-- The segment does not split, or its name is not known. -/
  | unread {e : Error} (hread : Segment.parse text = .error e) : Offence line before text e
  | negated {value : List Char} (hread : Segment.parse text = .ok ⟨.query, true, value⟩) :
    Offence line before text (.malformed .negatedCall)
  | second {value : List Char} (hread : Segment.parse text = .ok ⟨.query, false, value⟩)
    (hbefore : ∃ other ∈ before, isCall other = true) :
    Offence line before text (.malformed (.secondCall (String.ofList line)))
  /-- The segment holds something else than a call. -/
  | uncallable {value : List Char} {e : Error}
    (hread : Segment.parse text = .ok ⟨.query, false, value⟩)
    (hbefore : ∀ other ∈ before, isCall other = false) (hcall : Call.parse value = .error e) :
    Offence line before text e

/-- No segment is at fault. -/
def Faultless (line : List Char) (texts : List (List Char)) : Prop :=
  ∀ before text after, texts = before ++ text :: after → ∀ e, ¬ Offence line before text e

/-- What is wrong with a line as a whole. -/
inductive Incomplete (line : List Char) (texts : List (List Char)) : Error → Prop where
  | uncalled (hcalls : texts.countP isCall = 0) :
    Incomplete line texts (.malformed (.noCall (String.ofList line)))
  /-- A `put` without a value. -/
  | unvalued {text value : List Char} {key : Option String} (hmem : text ∈ texts)
    (hread : Segment.parse text = .ok ⟨.query, false, value⟩)
    (hcall : Call.parse value = .ok ⟨.put, key, none⟩) :
    Incomplete line texts (.missingValue (key.getD ""))

/-- A segment that is read as the predicate of the call holds the call. -/
theorem isCall_of_parse_query {negated : Bool} {value : List Char}
    (h : Segment.parse text = .ok ⟨.query, negated, value⟩) : isCall text = true := by
  rw [isCall, h]
  rfl

/-- A segment that is read as another predicate holds no call. -/
theorem isCall_eq_false_of_parse {segment : Segment} (h : Segment.parse text = .ok segment)
    (hname : segment.name ≠ .query) : isCall text = false := by
  rw [isCall, h]
  exact decide_eq_false hname

/-- A segment that is read as another predicate gives its term. -/
theorem term?_of_parse {segment : Segment} (h : Segment.parse text = .ok segment)
    (hname : segment.name ≠ .query) :
    term? text = some ⟨segment.name, segment.negated, String.ofList segment.value⟩ := by
  obtain ⟨name, negated, value⟩ := segment
  rw [term?, h]
  split
  · rename_i heq
    obtain rfl := (Segment.mk.inj (Except.ok.inj heq)).1
    exact absurd rfl hname
  · rename_i heq
    obtain ⟨rfl, rfl, rfl⟩ := Segment.mk.inj (Except.ok.inj heq)
    rfl
  · rename_i heq
    exact nomatch heq

/-- The segment that holds the call gives no term. -/
theorem term?_of_isCall (h : isCall text = true) : term? text = none := by
  unfold isCall at h
  unfold term?
  split at h
  · rename_i segment hread
    obtain ⟨name, negated, value⟩ := segment
    obtain rfl := of_decide_eq_true h
    simp only [hread]
  · exact nomatch h

/-! ## One segment after the other -/

/-- Taking in one segment, case by case. -/
theorem Draft.add_eq (line : List Char) (draft : Draft) (text : List Char) :
    Draft.add line draft text =
      match Segment.parse text with
      | .error e => .error e
      | .ok segment =>
        if segment.name = .query then
          if segment.negated then .error (.malformed .negatedCall)
          else if draft.call.isSome then .error (.malformed (.secondCall (String.ofList line)))
          else (Call.parse segment.value).map fun call => { draft with call := some call }
        else .ok { draft with filter :=
          draft.filter ++ [⟨segment.name, segment.negated, String.ofList segment.value⟩] } := by
  -- the cases are those of the definition, and the last of them is reading the call
  simp only [Draft.add, bind, Except.bind, pure, Except.pure, throw, throwThe,
    MonadExceptOf.throw]
  cases Segment.parse text with
  | error e => rfl
  | ok segment => cases hcall : Call.parse segment.value <;> simp [hcall, Except.map]

/-- A segment that is taken in holds the first call or gives a term. -/
theorem Draft.of_add_eq_ok {draft next : Draft} (h : Draft.add line draft text = .ok next) :
    (∃ value call, Segment.parse text = .ok ⟨.query, false, value⟩ ∧ draft.call = none ∧
      Call.parse value = .ok call ∧ next = { draft with call := some call }) ∨
    ∃ segment, Segment.parse text = .ok segment ∧ segment.name ≠ .query ∧
      next = { draft with filter :=
        draft.filter ++ [⟨segment.name, segment.negated, String.ofList segment.value⟩] } := by
  rw [Draft.add_eq] at h
  split at h
  · exact nomatch h
  · rename_i segment hread
    split at h
    · rename_i hname
      -- only a first call without a sign is let through
      split at h
      · exact nomatch h
      · rename_i hsign
        split at h
        · exact nomatch h
        · rename_i hfirst
          cases hcall : Call.parse segment.value with
          | error e => rw [hcall] at h; exact nomatch h
          | ok call =>
            rw [hcall] at h
            obtain rfl := Except.ok.inj h
            refine .inl ⟨segment.value, call, ?_, by simpa using hfirst, hcall, rfl⟩
            rw [hread, ← hname, ← Bool.not_eq_true _ |>.mp hsign]
    · rename_i hname
      obtain rfl := Except.ok.inj h
      exact .inr ⟨segment, hread, hname, rfl⟩

/-- What the segments read so far amount to. -/
structure Collected (texts : List (List Char)) (draft : Draft) : Prop where
  read : ∀ text ∈ texts, ∃ segment, Segment.parse text = .ok segment
  calls : texts.countP isCall = if draft.call.isSome then 1 else 0
  call : ∀ call ∈ draft.call, ∃ text ∈ texts, ∃ value,
    Segment.parse text = .ok ⟨.query, false, value⟩ ∧ Call.parse value = .ok call
  filter : draft.filter = terms texts

/-- No segments amount to the empty draft. -/
theorem Collected.nil : Collected [] {} :=
  ⟨fun _ h => (List.not_mem_nil h).elim, rfl, fun _ h => (nomatch h), rfl⟩

/-- A call has been read if one of the segments holds it. -/
theorem Collected.isSome_iff {draft : Draft} (h : Collected texts draft) :
    draft.call.isSome = true ↔ ∃ text ∈ texts, isCall text = true := by
  rw [← List.countP_pos_iff, h.calls]
  split <;> simp_all

/-- One more segment is taken in. -/
theorem Collected.add {draft next : Draft} (h : Collected texts draft)
    (hadd : Draft.add line draft text = .ok next) : Collected (texts ++ [text]) next := by
  have hreads {segment : Segment} (hread : Segment.parse text = .ok segment) :
      ∀ other ∈ texts ++ [text], ∃ segment, Segment.parse other = .ok segment :=
    List.forall_mem_append.mpr ⟨h.read, List.forall_mem_singleton.mpr ⟨segment, hread⟩⟩
  -- either the call is there now, or the filter has one term more
  rcases Draft.of_add_eq_ok hadd with
    ⟨value, call, hread, hfirst, hcall, rfl⟩ | ⟨segment, hread, hname, rfl⟩
  · have hisCall := isCall_of_parse_query hread
    refine ⟨hreads hread, ?_, ?_, ?_⟩
    · simp [h.calls, hfirst, hisCall]
    · intro call' hcall'
      obtain rfl := Option.some.inj hcall'
      exact ⟨text, by simp, value, hread, hcall⟩
    · simp [terms, h.filter, term?_of_isCall hisCall]
  · have hisCall := isCall_eq_false_of_parse hread hname
    refine ⟨hreads hread, ?_, ?_, ?_⟩
    · simp [h.calls, hisCall]
    · intro call hcall
      obtain ⟨other, hother, hrest⟩ := h.call call hcall
      exact ⟨other, List.mem_append_left _ hother, hrest⟩
    · simp [terms, h.filter, term?_of_parse hread hname]

/-- Segments that are read one after the other. -/
theorem collected_of_foldlM {draft : Draft} (h : texts.foldlM (Draft.add line) {} = .ok draft) :
    Collected texts draft := by
  -- by induction from the end: the last segment is taken in behind the others
  induction texts using List.reverseRecOn generalizing draft with
  | nil =>
    obtain rfl := Except.ok.inj h
    exact .nil
  | append_singleton texts text ih =>
    rw [List.foldlM_append, Except.bind_eq_ok_iff] at h
    obtain ⟨before, hbefore, hadd⟩ := h
    rw [List.foldlM_cons, Except.bind_eq_ok_iff] at hadd
    obtain ⟨next, hadd, hnext⟩ := hadd
    obtain rfl := Except.ok.inj hnext
    exact (ih hbefore).add hadd

/-! ## The first segment at fault -/

/-- A segment that is not taken in is at fault. -/
theorem Offence.of_add {draft : Draft} (h : Collected texts draft)
    (hadd : Draft.add line draft text = .error e) : Offence line texts text e := by
  rw [Draft.add_eq] at hadd
  split at hadd
  · rename_i hread
    obtain rfl := Except.error.inj hadd
    exact .unread hread
  · rename_i segment hread
    obtain ⟨name, negated, value⟩ := segment
    split at hadd
    · rename_i hname
      obtain rfl : name = .query := hname
      split at hadd
      · rename_i hsign
        obtain rfl : negated = true := hsign
        obtain rfl := Except.error.inj hadd
        exact .negated hread
      · rename_i hsign
        obtain rfl : negated = false := Bool.not_eq_true _ |>.mp hsign
        split at hadd
        · rename_i hcalled
          obtain rfl := Except.error.inj hadd
          exact .second hread (h.isSome_iff.mp hcalled)
        · rename_i hcalled
          -- the draft has no call, so none of the segments before this one holds one
          have hbefore : ∀ other ∈ texts, isCall other = false := by
            intro other hother
            by_contra hother'
            exact hcalled (h.isSome_iff.mpr ⟨other, hother, Bool.not_eq_false _ |>.mp hother'⟩)
          cases hcall : Call.parse value with
          | ok call => simp only [hcall] at hadd; exact nomatch hadd
          | error e' =>
            simp only [hcall] at hadd
            obtain rfl := Except.error.inj hadd
            exact .uncallable hread hbefore hcall
    · -- a term is always taken in
      exact nomatch hadd

/-- A segment at fault is not taken in. -/
theorem Offence.add_eq {draft : Draft} (h : Collected texts draft)
    (hoffence : Offence line texts text e) : Draft.add line draft text = .error e := by
  rw [Draft.add_eq]
  cases hoffence with
  | unread hread => rw [hread]
  | negated hread => rw [hread]; rfl
  | second hread hbefore => simp [hread, h.isSome_iff.mpr hbefore]
  -- no segment before this one holds a call, so it cannot be the second one
  | uncallable hread hbefore hcall =>
    have hcalled : ¬ draft.call.isSome = true := by
      intro hsome
      obtain ⟨other, hother, hcall'⟩ := h.isSome_iff.mp hsome
      rw [hbefore other hother] at hcall'
      exact nomatch hcall'
    simp [hread, hcalled, hcall, Except.map]

/-- Taking in a segment fails exactly if the segment is at fault. -/
theorem Draft.add_eq_error_iff {draft : Draft} (h : Collected texts draft) :
    Draft.add line draft text = .error e ↔ Offence line texts text e :=
  ⟨Offence.of_add h, Offence.add_eq h⟩

/-- Segments are all taken in exactly if none of them is at fault. -/
theorem exists_foldlM_add_iff :
    (∃ draft, texts.foldlM (Draft.add line) {} = .ok draft) ↔ Faultless line texts := by
  constructor
  · rintro ⟨draft, hdraft⟩ before text after rfl e hoffence
    -- the fold gets past `before`, and then it fails at `text`
    rw [List.foldlM_append, Except.bind_eq_ok_iff] at hdraft
    obtain ⟨middle, hmiddle, hrest⟩ := hdraft
    rw [List.foldlM_cons, (Draft.add_eq_error_iff (collected_of_foldlM hmiddle)).mpr hoffence]
      at hrest
    exact nomatch hrest
  · intro hfaultless
    cases hdraft : texts.foldlM (Draft.add line) {} with
    | ok draft => exact ⟨draft, rfl⟩
    | error e =>
      obtain ⟨before, text, after, middle, htexts, hmiddle, hadd⟩ :=
        Except.foldlM_eq_error_iff.mp hdraft
      -- what has been read up to the failing segment says what is wrong with it
      have hoffence := (Draft.add_eq_error_iff (collected_of_foldlM hmiddle)).mp hadd
      exact absurd hoffence (hfaultless before text after htexts e)

/-- Reading stops at the first segment at fault, with its error. -/
theorem foldlM_add_eq_error_iff :
    texts.foldlM (Draft.add line) {} = .error e ↔ ∃ before text after,
      texts = before ++ text :: after ∧ Faultless line before ∧ Offence line before text e := by
  rw [Except.foldlM_eq_error_iff]
  constructor
  · rintro ⟨before, text, after, draft, htexts, hdraft, hadd⟩
    exact ⟨before, text, after, htexts, exists_foldlM_add_iff.mp ⟨draft, hdraft⟩,
      (Draft.add_eq_error_iff (collected_of_foldlM hdraft)).mp hadd⟩
  · rintro ⟨before, text, after, htexts, hfaultless, hoffence⟩
    obtain ⟨draft, hdraft⟩ := exists_foldlM_add_iff.mpr hfaultless
    exact ⟨before, text, after, draft, htexts, hdraft,
      (Draft.add_eq_error_iff (collected_of_foldlM hdraft)).mpr hoffence⟩

/-- A segment at fault is never blamed for what is wrong with a line as a whole. -/
theorem Offence.cases_error {before : List (List Char)} (h : Offence line before text e) :
    (∃ name, e = .unsupportedPredicate name ∧ ∀ p : PredicateName, p.text ≠ name) ∨
      (∃ name, e = .unsupportedVerb name) ∨
      ∃ cause, e = .malformed cause ∧ ∀ line, cause ≠ .noCall line := by
  cases h with
  -- what a segment or a call is blamed for is never the lack of a call in the line
  | unread hread =>
    rcases Segment.of_parse_eq_error hread with hname | hcause
    · exact .inl hname
    · exact .inr (.inr hcause)
  | negated hread => exact .inr (.inr ⟨_, rfl, by simp⟩)
  | second hread hbefore => exact .inr (.inr ⟨_, rfl, by simp⟩)
  | uncallable hread hbefore hcall => exact .inr (Call.of_parse_eq_error hcall)

/-! ## Whole lines -/

/-- Reading a line, case by case. -/
theorem parse_eq (line : String) :
    parse line =
      if Text.isBlankText line.toList then .error (.malformed .emptyLine)
      else (segments line).foldlM (Draft.add (Text.trim line.toList)) {} >>=
        Draft.finish (Text.trim line.toList) := by
  -- only the trimmed segments matter, and those of the trimmed line are the same
  have htrim (texts : List (List Char)) :
      (texts.map Text.trim).foldlM (Draft.add (Text.trim line.toList)) {} =
        texts.foldlM (Draft.add (Text.trim line.toList)) {} := by
    rw [List.foldlM_map]
    congr 1
    funext draft text
    rw [Draft.add_eq, Draft.add_eq, Segment.parse_trim]
  rw [segments, ← htrim, ← Text.map_trim_pieces_trim (by decide), htrim]
  simp only [parse, bind, Except.bind, throw, throwThe, MonadExceptOf.throw, List.isEmpty_iff,
    Text.trim_eq_nil_iff]

/-- The only verb that needs a value is `put`. -/
theorem needsValue_eq_true_iff {verb : Verb} : verb.needsValue = true ↔ verb = .put := by
  cases verb <;> decide

/-- The query of a draft with a call. -/
theorem Draft.finish_eq_ok_iff {draft : Draft} {q : Query} :
    draft.finish line = .ok q ↔ draft.call = some ⟨q.verb, q.key, q.value⟩ ∧
      draft.filter = q.filter ∧ (q.verb = .put → q.value ≠ none) := by
  -- without a call a draft is no query, and with one all that can be missing is the value
  obtain ⟨_ | ⟨verb, key, value⟩, filter⟩ := draft
  · simp [Draft.finish]
  · obtain ⟨verb', key', value', filter'⟩ := q
    simp only [Draft.finish, Bool.and_eq_true, needsValue_eq_true_iff, Option.isNone_iff_eq_none]
    constructor
    · intro h
      split at h
      · exact nomatch h
      · rename_i hvalued
        obtain ⟨rfl, rfl, rfl, rfl⟩ := Query.mk.inj (Except.ok.inj h)
        exact ⟨rfl, rfl, fun hput hnone => hvalued ⟨hput, hnone⟩⟩
    · rintro ⟨hcall, rfl, hvalued⟩
      obtain ⟨rfl, rfl, rfl⟩ := Call.mk.inj (Option.some.inj hcall)
      exact if_neg fun h => hvalued h.1 h.2

/-- A draft that is no query. -/
theorem Draft.finish_eq_error_iff {draft : Draft} :
    draft.finish line = .error e ↔
      (draft.call = none ∧ e = .malformed (.noCall (String.ofList line))) ∨
        ∃ key, draft.call = some ⟨.put, key, none⟩ ∧ e = .missingValue (key.getD "") := by
  obtain ⟨_ | ⟨verb, key, value⟩, filter⟩ := draft
  · simp [Draft.finish, eq_comm]
  · simp only [Draft.finish, Bool.and_eq_true, needsValue_eq_true_iff, Option.isNone_iff_eq_none]
    constructor
    · intro h
      split at h
      · rename_i hput
        obtain ⟨rfl, rfl⟩ := hput
        exact .inr ⟨key, rfl, (Except.error.inj h).symm⟩
      · exact nomatch h
    · rintro (⟨hnone, -⟩ | ⟨key', hcall, rfl⟩)
      · exact nomatch hnone
      · obtain ⟨rfl, rfl, rfl⟩ := Call.mk.inj (Option.some.inj hcall)
        exact if_pos ⟨rfl, rfl⟩

/-- What is read of the only call is the same, wherever it is found. -/
theorem eq_of_parse_query {other value value' : List Char} {negated negated' : Bool}
    (honce : texts.countP isCall = 1) (htext : text ∈ texts) (hother : other ∈ texts)
    (hread : Segment.parse text = .ok ⟨.query, negated, value⟩)
    (hread' : Segment.parse other = .ok ⟨.query, negated', value'⟩) :
    negated = negated' ∧ value = value' := by
  rw [List.countP_eq_length_filter, List.length_eq_one_iff] at honce
  obtain ⟨only, honly⟩ := honce
  have heq {t : List Char} (ht : t ∈ texts) (hc : isCall t = true) : t = only := by
    have hmem : t ∈ texts.filter isCall := List.mem_filter.mpr ⟨ht, hc⟩
    -- both segments are the only one with a call, so they are read as the same
    rwa [honly, List.mem_singleton] at hmem
  rw [heq htext (isCall_of_parse_query hread)] at hread
  rw [heq hother (isCall_of_parse_query hread'), hread] at hread'
  exact (Segment.mk.inj (Except.ok.inj hread')).2

/-- The call of a draft is that of the only segment with a call. -/
theorem Collected.call_eq_some_iff {draft : Draft} {call : Call} (h : Collected texts draft) :
    draft.call = some call ↔ ∃ text ∈ texts, ∃ value,
      Segment.parse text = .ok ⟨.query, false, value⟩ ∧ Call.parse value = .ok call := by
  refine ⟨h.call call, ?_⟩
  rintro ⟨text, hmem, value, hread, hcall⟩
  have hsome := h.isSome_iff.mpr ⟨text, hmem, isCall_of_parse_query hread⟩
  -- exactly one segment holds a call, so the one that is given is the one that was read
  have honce := h.calls
  rw [if_pos hsome] at honce
  obtain ⟨call', hcall'⟩ := Option.isSome_iff_exists.mp hsome
  obtain ⟨text', hmem', value', hread', hparse'⟩ := h.call call' hcall'
  obtain ⟨-, rfl⟩ := eq_of_parse_query honce hmem hmem' hread hread'
  rw [hcall] at hparse'
  rw [hcall', Except.ok.inj hparse']

/-- The call of an accepted line is that of its only segment with a call. -/
theorem Accepted.call_eq {q : Query} {value : List Char} (h : Accepted texts q)
    (hmem : text ∈ texts) (hread : Segment.parse text = .ok ⟨.query, false, value⟩) :
    Call.parse value = .ok ⟨q.verb, q.key, q.value⟩ := by
  obtain ⟨called, hcalled, value', hread', hcall⟩ := h.call
  obtain ⟨-, rfl⟩ := eq_of_parse_query h.once hmem hcalled hread hread'
  exact hcall

/-- No segment of an accepted line is at fault. -/
theorem Accepted.faultless {q : Query} (h : Accepted texts q) (line : List Char) :
    Faultless line texts := by
  rintro before text after rfl e hoffence
  have hmem : text ∈ before ++ text :: after := by simp
  obtain ⟨called, hcalled, value, hread, hcall⟩ := h.call
  cases hoffence with
  | unread hread' =>
    obtain ⟨segment, hsegment⟩ := h.read text hmem
    rw [hsegment] at hread'
    exact nomatch hread'
  | negated hread' =>
    exact absurd (eq_of_parse_query h.once hcalled hmem hread hread').1 Bool.false_ne_true
  | second hread' hbefore =>
    -- one call before the segment, and one in it
    have honce := h.once
    rw [List.countP_append, List.countP_cons_of_pos (isCall_of_parse_query hread')] at honce
    have hpos := List.countP_pos_iff.mpr hbefore
    omega
  | uncallable hread' hbefore hcall' =>
    rw [h.call_eq hmem hread'] at hcall'
    exact nomatch hcall'

/-- A line is not blank if one of its segments is read. -/
theorem not_isBlankText_of_read {line : String} {segment : Segment} (hmem : text ∈ segments line)
    (hread : Segment.parse text = .ok segment) : ¬ Text.isBlankText line.toList = true := by
  intro hblank
  -- a blank line is one segment, and that one is not read
  rw [segments, Text.pieces_of_not_mem (Text.not_mem_of_isBlankText hblank (by decide)),
    List.mem_singleton] at hmem
  rw [hmem, Segment.parse_eq, if_pos (Text.trim_eq_nil_iff.mpr hblank)] at hread
  exact nomatch hread

/-- A line is accepted by what its segments are. -/
theorem parse_eq_ok_iff {line : String} {q : Query} :
    parse line = .ok q ↔ Accepted (segments line) q := by
  rw [parse_eq]
  constructor
  · intro h
    split at h
    · exact nomatch h
    · obtain ⟨draft, hdraft, hfinish⟩ := Except.bind_eq_ok_iff.mp h
      obtain ⟨hcall, hfilter, hvalued⟩ := Draft.finish_eq_ok_iff.mp hfinish
      have hcollected := collected_of_foldlM hdraft
      refine ⟨hcollected.read, ?_, hcollected.call _ hcall, hvalued, ?_⟩
      · rw [hcollected.calls, hcall]; rfl
      · rw [← hfilter, hcollected.filter]
  · intro h
    obtain ⟨called, hcalled, value, hread, -⟩ := h.call
    -- the line has a segment that is read, and none at fault, so the fold comes to its end
    rw [if_neg (not_isBlankText_of_read hcalled hread)]
    obtain ⟨draft, hdraft⟩ := exists_foldlM_add_iff.mpr (h.faultless (Text.trim line.toList))
    have hcollected := collected_of_foldlM hdraft
    rw [hdraft]
    refine Draft.finish_eq_ok_iff.mpr ⟨hcollected.call_eq_some_iff.mpr h.call, ?_, h.valued⟩
    rw [hcollected.filter, h.filter]

/-- What is left to refuse when all segments have been taken in. -/
theorem Collected.finish_eq_error_iff {draft : Draft} (h : Collected texts draft) :
    draft.finish line = .error e ↔ Incomplete line texts e := by
  rw [Draft.finish_eq_error_iff]
  constructor
  · rintro (⟨hnone, rfl⟩ | ⟨key, hcall, rfl⟩)
    -- what the draft lacks is what the segments together lack
    · refine .uncalled ?_
      rw [h.calls, hnone]
      rfl
    · obtain ⟨text, hmem, value, hread, hparse⟩ := h.call_eq_some_iff.mp hcall
      exact .unvalued hmem hread hparse
  · intro hincomplete
    cases hincomplete with
    | uncalled hcalls =>
      refine .inl ⟨?_, rfl⟩
      by_contra hsome
      have hone := h.calls
      rw [if_pos (Option.isSome_iff_ne_none.mpr hsome), hcalls] at hone
      exact nomatch hone
    | unvalued hmem hread hcall =>
      exact .inr ⟨_, h.call_eq_some_iff.mpr ⟨_, hmem, _, hread, hcall⟩, rfl⟩

/-- A line is refused by its first segment at fault, or else as a whole. -/
theorem parse_eq_error_iff {line : String} (hline : ¬ Text.isBlankText line.toList = true) :
    parse line = .error e ↔
      (∃ before text after, segments line = before ++ text :: after ∧
        Faultless (Text.trim line.toList) before ∧
        Offence (Text.trim line.toList) before text e) ∨
      (Faultless (Text.trim line.toList) (segments line) ∧
        Incomplete (Text.trim line.toList) (segments line) e) := by
  rw [parse_eq, if_neg hline, ← foldlM_add_eq_error_iff, ← exists_foldlM_add_iff]
  -- reading stops within the segments or at the whole, and not at both
  cases hdraft : (segments line).foldlM (Draft.add (Text.trim line.toList)) {} with
  | error e' => simp [bind, Except.bind]
  | ok draft =>
    refine (collected_of_foldlM hdraft).finish_eq_error_iff.trans ?_
    simp

/-- How a line that is not blank is read, from what each of its segments is on its own. -/
structure ReadBySegments (line : String) : Prop where
  /-- Which lines are accepted, and as which query. -/
  accepted : ∀ q, parse line = .ok q ↔ Accepted (segments line) q
  /-- The order of the segments shows only in the order of the filter. -/
  permuted : ∀ line', (segments line').Perm (segments line) →
    ((∃ q, parse line' = .ok q) ↔ ∃ q, parse line = .ok q) ∧
      ∀ q, parse line = .ok q → parse line' = .ok { q with filter := terms (segments line') } ∧
        (terms (segments line')).Perm q.filter
  /-- A further segment that holds no call adds its term. -/
  extended : ∀ q text segment, parse line = .ok q → '&' ∉ text.toList →
    Segment.parse text.toList = .ok segment → segment.name ≠ .query →
    parse (line ++ "&" ++ text) = .ok { q with filter :=
      q.filter ++ [⟨segment.name, segment.negated, String.ofList segment.value⟩] }
  /-- The first segment at fault gives the error, and a line without one is refused as a whole. -/
  refused : ∀ e, parse line = .error e ↔
    (∃ before text after, segments line = before ++ text :: after ∧
      Faultless (Text.trim line.toList) before ∧ Offence (Text.trim line.toList) before text e) ∨
    (Faultless (Text.trim line.toList) (segments line) ∧
      Incomplete (Text.trim line.toList) (segments line) e)
  /-- A missing call or value is told only when no segment is at fault. -/
  whole : ∀ e, parse line = .error e →
    ((∃ l, e = .malformed (.noCall l)) ∨ ∃ key, e = .missingValue key) →
    Faultless (Text.trim line.toList) (segments line)
  /-- A predicate is called unsupported only if there is none of this name. -/
  unsupported : ∀ name, parse line = .error (.unsupportedPredicate name) →
    ∀ p : PredicateName, p.text ≠ name

/-- Acceptance does not depend on the order of the segments. -/
theorem Accepted.perm {q : Query} {texts' : List (List Char)} (h : Accepted texts q)
    (hperm : texts'.Perm texts) : Accepted texts' { q with filter := terms texts' } := by
  obtain ⟨text, hmem, hcall⟩ := h.call
  exact {
    read := fun text htext => h.read text (hperm.subset htext)
    once := by rw [hperm.countP_eq isCall, h.once]
    call := ⟨text, hperm.symm.subset hmem, hcall⟩
    valued := h.valued
    filter := rfl }

/-- A further segment without a call adds its term. -/
theorem Accepted.append {q : Query} {segment : Segment} (h : Accepted texts q)
    (hread : Segment.parse text = .ok segment) (hname : segment.name ≠ .query) :
    Accepted (texts ++ [text]) { q with filter :=
      q.filter ++ [⟨segment.name, segment.negated, String.ofList segment.value⟩] } := by
  have hisCall := isCall_eq_false_of_parse hread hname
  obtain ⟨called, hmem, hcall⟩ := h.call
  refine ⟨?_, ?_, ⟨called, List.mem_append_left _ hmem, hcall⟩, h.valued, ?_⟩
  · exact List.forall_mem_append.mpr ⟨h.read, List.forall_mem_singleton.mpr ⟨segment, hread⟩⟩
  · simp [h.once, hisCall]
  · simp [terms, h.filter, term?_of_parse hread hname]

/-- The segments of a line with one more behind it. -/
theorem segments_append {line text : String} (h : '&' ∉ text.toList) :
    segments (line ++ "&" ++ text) = segments line ++ [text.toList] := by
  have hline : (line ++ "&" ++ text).toList = line.toList ++ '&' :: text.toList := by simp
  rw [segments, hline, Text.pieces_append_cons, Text.pieces_of_not_mem h, segments]

/-- A line that is not blank is read segment by segment. -/
theorem parse_by_segments (line : String) (hline : ¬ Text.isBlankText line.toList = true) :
    ReadBySegments line where
  accepted q := parse_eq_ok_iff
  permuted := by
    intro line' hperm
    -- a line and its reordering are treated alike, so one direction does for both
    have hmove {line line' : String} (hperm : (segments line').Perm (segments line)) (q : Query)
        (hq : parse line = .ok q) : parse line' = .ok { q with filter := terms (segments line') } :=
      parse_eq_ok_iff.mpr ((parse_eq_ok_iff.mp hq).perm hperm)
    refine ⟨⟨?_, ?_⟩, fun q hq => ⟨hmove hperm q hq, ?_⟩⟩
    · rintro ⟨q, hq⟩
      exact ⟨_, hmove hperm.symm q hq⟩
    · rintro ⟨q, hq⟩
      exact ⟨_, hmove hperm q hq⟩
    · rw [(parse_eq_ok_iff.mp hq).filter]
      exact hperm.filterMap term?
  extended := by
    intro q text segment hq hfree hread hname
    refine parse_eq_ok_iff.mpr ?_
    rw [segments_append hfree]
    exact (parse_eq_ok_iff.mp hq).append hread hname
  refused e := parse_eq_error_iff hline
  whole := by
    intro e he hwhole
    rcases (parse_eq_error_iff hline).mp he with ⟨before, text, after, -, -, hoffence⟩ | ⟨hall, -⟩
    · -- no segment at fault gives such an error
      exfalso
      rcases hoffence.cases_error with ⟨name, rfl, -⟩ | ⟨name, rfl⟩ | ⟨cause, rfl, hcause⟩
      · simp at hwhole
      · simp at hwhole
      · simp only [Error.malformed.injEq, reduceCtorEq, exists_false, or_false] at hwhole
        obtain ⟨l, hl⟩ := hwhole
        exact hcause l hl
    · exact hall
  unsupported := by
    intro name he
    rcases (parse_eq_error_iff hline).mp he with
      ⟨before, text, after, -, -, hoffence⟩ | ⟨-, hincomplete⟩
    · rcases hoffence.cases_error with ⟨name', heq, hname⟩ | ⟨name', heq⟩ | ⟨cause, heq, -⟩
      · rw [Error.unsupportedPredicate.inj heq]
        exact hname
      · exact nomatch heq
      · exact nomatch heq
    · exact nomatch hincomplete

/-- A line whose call stands behind a negated term. -/
theorem parse_by_segments_call_last :
    let line := " !monitor(\"\"(\") & query( GetM(\"k\") )"
    ¬ Text.isBlankText line.toList = true ∧ ReadBySegments line ∧
      parse line = .ok ⟨.getMeta, some "k", none, [⟨.monitor, true, "\"("⟩]⟩ :=
  ⟨by decide, parse_by_segments _ (by decide), rfl⟩

end PolicyReplay.Query
