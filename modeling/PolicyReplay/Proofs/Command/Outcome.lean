import PolicyReplay.Proofs.Query.Spelling
import PolicyReplay.Proofs.Trace.Expansion

/-!
# What becomes of a line

A line that is read as a query with a key becomes the command that spells the query out. Reading
leaves no text empty and no `put` without a value, so a query that is compiled lacks its key or
nothing, and the complaint about a missing value is that of the reader alone.

## Key results

- `Query.wellFormed_of_parse`: what holds of every query that is read
- `Command.compile_eq_error_iff`: what is not compiled, and why
- `Command.ofLine_by_query`: when there is a command, its text, and the errors
-/

namespace PolicyReplay

/-- A term in a command: the name behind a dash and the value, which an exclamation mark negates. -/
def Term.written (t : Term) : String :=
  if t.negated then " -" ++ t.name.text ++ " !" ++ t.value
  else " -" ++ t.name.text ++ " " ++ t.value

/-- The command of a query with this key: the verb, the key, the value of a `put`, and the terms of
the filter in order. -/
def Query.commandText (q : Query) (key : String) : String :=
  q.verb.commandName ++ " " ++ key ++
    (if q.verb = .put then q.value.elim "" (" " ++ ·) else "") ++
    String.join (q.filter.map Term.written)

/-- Every query that is read can be written on a line. -/
theorem Query.wellFormed_of_parse {line : String} {q : Query} (h : parse line = .ok q) :
    q.WellFormed :=
  (parse_eq_ok_iff.mp h).wellFormed fun _ => Text.not_mem_of_mem_pieces

/-- The text of a filter is made of its terms, as they are written in a command. -/
theorem Filter.text_eq_join (filter : Filter) :
    text filter = String.join (filter.map Term.written) := by
  induction filter with
  | nil => rfl
  | cons t rest ih =>
    -- a term is written the same way in both, with its sign as a text or as a case
    have hterm : t.text = t.written := by
      rw [Term.text, Term.sign, Term.written]
      split <;> simp [String.append_assoc]
    rw [text, ih, hterm, List.map_cons, String.join_cons]

namespace Command

variable {line : String} {q : Query} {verb : Verb} {key : String} {value : Option String}
  {filter : Filter} {command : Command} {e : Query.Error}

/-- What is not compiled, and why: a missing key is told before a missing value. -/
theorem compile_eq_error_iff :
    compile verb key value filter = .error e ↔
      (key = "" ∧ e = .missingKey verb) ∨
        (key ≠ "" ∧ verb = .put ∧ (∀ v ∈ value, v = "") ∧ e = .missingValue key) := by
  have herror (cause : Query.Error) : (.error cause : Except Query.Error Command) = .error e ↔
      e = cause := by
    rw [Except.error.injEq]
    exact eq_comm
  -- the checks are made in this order: the key, then the value of a `put`
  unfold compile
  by_cases hkey : key = ""
  · simp [hkey, herror]
  · by_cases hverb : verb = .put
    · cases value with
      | none => simp [hkey, hverb, Verb.needsValue, herror]
      | some v => by_cases hv : v = "" <;> simp [hkey, hverb, hv, Verb.needsValue, herror]
    · have hneeds : ¬ verb.needsValue = true := mt Query.needsValue_eq_true_iff.mp hverb
      simp [hkey, hverb, hneeds]

/-- Without a `put`, the value is not looked at. -/
theorem compile_congr_value (hverb : verb ≠ .put) (value' : Option String) :
    compile verb key value' filter = compile verb key value filter := by
  have hneeds : ¬ verb.needsValue = true := mt Query.needsValue_eq_true_iff.mp hverb
  simp only [compile, hneeds, Bool.false_eq_true, ↓reduceIte]

/-- A query with a key is compiled to the command that spells it out. -/
theorem compile_eq_commandText (hq : q.WellFormed) (hkey : q.key = some key) :
    compile q.verb (q.key.getD "") q.value q.filter = .ok ⟨q.commandText key⟩ := by
  -- a key that is read is never the empty text, so the default is told apart from it
  have hne : key ≠ "" := (hq.key key hkey).1
  rw [hkey, Option.getD_some, compile_eq_ok_iff, Filter.text_eq_join]
  refine ⟨hne, ?_⟩
  -- a `put` has its value, and no other verb writes one
  by_cases hput : q.verb = .put
  · obtain ⟨v, hv⟩ := Option.ne_none_iff_exists'.mp (hq.valued hput)
    refine .inl ⟨Query.needsValue_eq_true_iff.mpr hput, v, hv, (hq.value v hv).1, ?_⟩
    simp [Query.commandText, hput, hv, String.append_assoc]
  · refine .inr ⟨Bool.not_eq_true _ |>.mp (mt Query.needsValue_eq_true_iff.mp hput), ?_⟩
    simp [Query.commandText, hput]

/-- A query that is compiled lacks its key or nothing. -/
theorem compile_eq_error_iff_of_wellFormed (hq : q.WellFormed) :
    compile q.verb (q.key.getD "") q.value q.filter = .error e ↔
      q.key = none ∧ e = .missingKey q.verb := by
  rw [compile_eq_error_iff]
  cases hkey : q.key with
  | none => simp
  | some key =>
    have hne : key ≠ "" := (hq.key key hkey).1
    simp only [Option.getD_some, hne, false_and, false_or, reduceCtorEq, iff_false]
    rintro ⟨-, hput, hempty, -⟩
    -- the value of a `put` is there, and it is not empty
    obtain ⟨v, hv⟩ := Option.ne_none_iff_exists'.mp (hq.valued hput)
    exact (hq.value v hv).1 (hempty v hv)

/-- What a line becomes, by the query that it is read as. -/
structure CompiledByQuery (line : String) : Prop where
  /-- There is a command exactly if there is a query with a key, and it spells the query out. -/
  accepted : ∀ command, ofLine line = .ok command ↔
    ∃ q key, Query.parse line = .ok q ∧ q.key = some key ∧ command.text = q.commandText key
  /-- What is not read is refused with the error of the reader, and what is read is refused only for
  want of a key. -/
  refused : ∀ e, ofLine line = .error e ↔
    Query.parse line = .error e ∨
      ∃ q, Query.parse line = .ok q ∧ q.key = none ∧ e = .missingKey q.verb
  /-- No text of a query is empty, and a `put` has a value. -/
  present : ∀ q, Query.parse line = .ok q → (∀ key ∈ q.key, key ≠ "") ∧ (∀ v ∈ q.value, v ≠ "") ∧
    (q.verb = .put → ∃ v, q.value = some v ∧ v ≠ "")
  /-- So compiling a query never ends for want of a value. -/
  valued : ∀ q, Query.parse line = .ok q →
    ∀ key, compile q.verb (q.key.getD "") q.value q.filter ≠ .error (.missingValue key)
  /-- Without a `put`, any other value gives the same. -/
  unvalued : ∀ q, Query.parse line = .ok q → q.verb ≠ .put →
    ∀ value, compile q.verb (q.key.getD "") value q.filter = ofLine line

/-- When a line becomes a command and which one, and what it is refused for. -/
theorem ofLine_by_query (line : String) : CompiledByQuery line where
  accepted command := by
    rw [ofLine_eq_ok_iff]
    constructor
    · rintro ⟨q, hq, hcompile⟩
      have hwell := Query.wellFormed_of_parse hq
      -- a query lacks its key, or it is compiled to the command that spells it out
      cases hkey : q.key with
      | none =>
        rw [(compile_eq_error_iff_of_wellFormed hwell).mpr ⟨hkey, rfl⟩] at hcompile
        exact nomatch hcompile
      | some key =>
        rw [compile_eq_commandText hwell hkey] at hcompile
        obtain rfl := Except.ok.inj hcompile
        exact ⟨q, key, hq, hkey, rfl⟩
    · rintro ⟨q, key, hq, hkey, htext⟩
      refine ⟨q, hq, ?_⟩
      rw [compile_eq_commandText (Query.wellFormed_of_parse hq) hkey, ← htext]
  refused e := by
    unfold ofLine
    -- the error is that of the reader, or that of the compiler
    cases hq : Query.parse line with
    | error cause => simp [bind, Except.bind]
    | ok q =>
      refine (compile_eq_error_iff_of_wellFormed (Query.wellFormed_of_parse hq)).trans ?_
      simp
  present q hq := by
    have hwell := Query.wellFormed_of_parse hq
    refine ⟨fun key hkey => (hwell.key key hkey).1, fun v hv => (hwell.value v hv).1,
      fun hput => ?_⟩
    obtain ⟨v, hv⟩ := Option.ne_none_iff_exists'.mp (hwell.valued hput)
    exact ⟨v, hv, (hwell.value v hv).1⟩
  valued q hq key := by
    intro h
    -- the only error of a query that was read is that of a missing key
    obtain ⟨-, he⟩ := (compile_eq_error_iff_of_wellFormed (Query.wellFormed_of_parse hq)).mp h
    exact nomatch he
  unvalued q hq hverb value := by
    rw [compile_congr_value hverb, ofLine, hq]
    rfl

-- An empty key counts as none, also beside a value.
example : (ofLine "query(put(\"\",\"v\"))").toOption = none ∧
    Query.parse "query(put(\"\",\"v\"))" = .ok ⟨.put, none, some "v", []⟩ := by decide +kernel

end Command
end PolicyReplay
