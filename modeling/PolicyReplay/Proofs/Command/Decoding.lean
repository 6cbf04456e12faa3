import PolicyReplay.Command
import PolicyReplay.Proofs.Query.Segment

/-!
# Commands are unambiguous

A command is a row of words with one space between neighbours, and what it was compiled from can be
read off the words by their place alone: the verb, the key, the value if the verb has one, and then
two words for each term. So arguments without spaces may look like anything, even like terms; only a
value that begins with the mark of negation has to be that of a negated term.

## Key results

- `compile_eq_ok_iff`: what is compiled, and to which text
- `toList_text_of_compile`: the words of a command
- `compile_decodes`: what a command was compiled from is read off it
-/

namespace PolicyReplay

/-! ## Reading a command -/

/-- The verb that a command names. -/
def Verb.ofCommandName? (word : List Char) : Option Verb :=
  all.find? (·.commandName.toList == word)

/-- The term of two words: the name behind a dash, and the value behind its sign. -/
def Term.ofWords? (name value : List Char) : Option Term :=
  match name with
  | '-' :: name => (PredicateName.ofText? (String.ofList name)).map fun name =>
    match value with
    | '!' :: value => ⟨name, true, String.ofList value⟩
    | value => ⟨name, false, String.ofList value⟩
  | _ => none

/-- The terms of words, two words for each. -/
def Filter.ofWords? : List (List Char) → Option Filter
  | [] => some []
  | [_] => none
  | name :: value :: rest =>
    match Term.ofWords? name value, ofWords? rest with
    | some term, some terms => some (term :: terms)
    | _, _ => none

namespace Command

/-- What a command asks for. -/
structure Meaning where
  verb : Verb
  key : String
  value : Option String
  filter : Filter
  deriving DecidableEq, Repr

/-- What the words of a command ask for. -/
def Meaning.ofWords? : List (List Char) → Option Meaning
  | verb :: key :: rest =>
    match Verb.ofCommandName? verb with
    | none => none
    | some verb =>
      if verb.needsValue then
        match rest with
        | [] => none
        | value :: rest => (Filter.ofWords? rest).map
            (⟨verb, String.ofList key, some (String.ofList value), ·⟩)
      else (Filter.ofWords? rest).map (⟨verb, String.ofList key, none, ·⟩)
  | _ => none

/-- What a command asks for, by the words between its single spaces. -/
def decode? (command : Command) : Option Meaning :=
  Meaning.ofWords? (Text.pieces (· == ' ') command.text.toList)

/-- Arguments of `compile` whose words can be told apart. What is not written does not matter. -/
structure Separable (verb : Verb) (key : String) (value : Option String) (filter : Filter) :
    Prop where
  key : ' ' ∉ key.toList
  value : verb.needsValue = true → ∀ v ∈ value, ' ' ∉ v.toList
  terms : ∀ t ∈ filter, ' ' ∉ t.value.toList
  signs : ∀ t ∈ filter, t.negated = false → t.value.toList.head? ≠ some '!'

end Command

/-! ## Words -/

/-- A verb is read off the name it has in a command. -/
theorem Verb.ofCommandName?_commandName (verb : Verb) :
    ofCommandName? verb.commandName.toList = some verb := by
  cases verb <;> decide

/-- The name of a verb is made of letters. -/
theorem Verb.isAlpha_commandName (verb : Verb) :
    ∀ c ∈ verb.commandName.toList, c.isAlpha = true := by
  have h : verb.commandName.toList.all Char.isAlpha = true := by cases verb <;> decide
  exact List.all_eq_true.mp h

/-- The words of a term: its name behind a dash, and its value behind its sign. -/
def Term.words (t : Term) : List (List Char) :=
  ['-' :: t.name.text.toList, t.sign.toList ++ t.value.toList]

/-- The words of a filter. -/
def Filter.words (filter : Filter) : List (List Char) := filter.flatMap Term.words

/-- A term is read off its words if its sign can be told from its value. -/
theorem Term.ofWords?_words (t : Term)
    (hsign : t.negated = false → t.value.toList.head? ≠ some '!') :
    ofWords? ('-' :: t.name.text.toList) (t.sign.toList ++ t.value.toList) = some t := by
  obtain ⟨name, negated, value⟩ := t
  simp only [ofWords?, String.ofList_toList, PredicateName.ofText?_text, Option.map_some]
  -- a term that is not negated must not look negated: its value is told apart by its first letter
  cases negated with
  | true => simp [sign]
  | false =>
    simp only [sign, Bool.false_eq_true, ↓reduceIte, String.toList_empty, List.nil_append]
    split
    · rename_i rest hvalue
      exact absurd (by rw [hvalue]; rfl) (hsign rfl)
    · rw [String.ofList_toList]

/-- A filter is read off its words. -/
theorem Filter.ofWords?_words {filter : Filter}
    (hsigns : ∀ t ∈ filter, t.negated = false → t.value.toList.head? ≠ some '!') :
    ofWords? (words filter) = some filter := by
  -- two words for each term, so the words are used up term by term
  induction filter with
  | nil => rfl
  | cons t rest ih =>
    have hterm := t.ofWords?_words (hsigns t List.mem_cons_self)
    have hrest := ih fun t ht => hsigns t (List.mem_cons_of_mem _ ht)
    have hwords : words (t :: rest) =
        ('-' :: t.name.text.toList) :: (t.sign.toList ++ t.value.toList) :: words rest := rfl
    rw [hwords, ofWords?, hterm, hrest]

/-- No word of a filter holds a space if no value does. -/
theorem Filter.not_mem_of_mem_words {filter : Filter}
    (hterms : ∀ t ∈ filter, ' ' ∉ t.value.toList) : ∀ word ∈ words filter, ' ' ∉ word := by
  intro word hword
  obtain ⟨t, ht, hword⟩ := List.mem_flatMap.mp hword
  rcases List.mem_cons.mp hword with rfl | hword
  -- the first word is a dash and a name of letters
  · have hname := Text.not_mem_of_isAlpha t.name.isAlpha_text.2 (by decide : ' '.isAlpha = false)
    simp [hname]
  · obtain rfl := List.mem_singleton.mp hword
    -- the second is a sign and a value, and no sign holds a space
    have hsign : ' ' ∉ t.sign.toList := by
      unfold Term.sign
      split <;> decide
    simp [hsign, hterms t ht]

/-- In the text of a filter, each of its words stands behind a space. -/
theorem Filter.toList_text (filter : Filter) :
    (text filter).toList = (words filter).flatMap (' ' :: ·) := by
  induction filter with
  | nil => rfl
  | cons t rest ih =>
    have hterm : t.text.toList =
        ' ' :: '-' :: t.name.text.toList ++ ' ' :: (t.sign.toList ++ t.value.toList) := by
      simp [Term.text]
    rw [text, String.toList_append, hterm, ih]
    simp [words, Term.words]

namespace Command

variable {verb : Verb} {key : String} {value : Option String} {filter : Filter}
  {command : Command}

/-! ## Compiled commands -/

/-- What is compiled, and to which text. -/
theorem compile_eq_ok_iff :
    compile verb key value filter = .ok command ↔ key ≠ "" ∧
      ((verb.needsValue = true ∧ ∃ v, value = some v ∧ v ≠ "" ∧
          command.text = verb.commandName ++ " " ++ key ++ " " ++ v ++ filter.text) ∨
        (verb.needsValue = false ∧
          command.text = verb.commandName ++ " " ++ key ++ filter.text)) := by
  -- commands are told apart by their texts
  have htext (text : String) : (.ok ⟨text⟩ : Except Query.Error Command) = .ok command ↔
      command.text = text := by
    obtain ⟨other⟩ := command
    rw [Except.ok.injEq, mk.injEq]
    exact eq_comm
  unfold compile
  -- the checks are made in this order: the key, then, where one is needed, the value
  by_cases hkey : key = ""
  · simp [hkey]
  · cases hneeds : verb.needsValue with
    | false => simp [hkey, htext]
    | true =>
      cases value with
      | none => simp [hkey]
      | some v =>
        by_cases hv : v = ""
        · simp [hkey, hv]
        · simp [hkey, hv, htext]

/-- The words that arguments are compiled to. -/
def wordsOf (verb : Verb) (key : String) (value : Option String) (filter : Filter) :
    List (List Char) :=
  verb.commandName.toList :: key.toList ::
    ((if verb.needsValue then value.toList.map String.toList else []) ++ filter.words)

/-- A command is its words with a space between neighbours. -/
theorem toList_text_of_compile (h : compile verb key value filter = .ok command) :
    command.text.toList = Text.joinWith [' '] (wordsOf verb key value filter) := by
  rw [wordsOf, Text.joinWith_cons]
  -- with a value and without one: the words of the filter bring their spaces with them
  rcases (compile_eq_ok_iff.mp h).2 with ⟨hneeds, v, rfl, -, htext⟩ | ⟨hneeds, htext⟩
  · simp [htext, hneeds, Filter.toList_text]
  · simp [htext, hneeds, Filter.toList_text]

/-- No word of separable arguments holds a space. -/
theorem Separable.not_mem_words (h : Separable verb key value filter) :
    ∀ word ∈ wordsOf verb key value filter, ' ' ∉ word := by
  intro word hword
  simp only [wordsOf, List.mem_cons, List.mem_append] at hword
  -- the four kinds of words: verb, key, value and the words of the terms
  rcases hword with rfl | rfl | hword | hword
  · exact Text.not_mem_of_isAlpha verb.isAlpha_commandName (by decide)
  · exact h.key
  · split at hword
    · rename_i hneeds
      obtain ⟨v, hv, rfl⟩ := List.mem_map.mp hword
      exact h.value hneeds v (Option.mem_toList.mp hv)
    · exact absurd hword List.not_mem_nil
  · exact Filter.not_mem_of_mem_words h.terms word hword

/-- What a command was compiled from is read off its words. -/
theorem decode?_of_compile (hcompile : compile verb key value filter = .ok command)
    (h : Separable verb key value filter) :
    command.decode? = some ⟨verb, key, if verb.needsValue then value else none, filter⟩ := by
  have hne : wordsOf verb key value filter ≠ [] := List.cons_ne_nil _ _
  -- no word holds a space, so cutting at the spaces gives the words back
  rw [decode?, toList_text_of_compile hcompile, Text.pieces_joinWith hne h.not_mem_words]
  have hfilter := Filter.ofWords?_words h.signs
  rcases (compile_eq_ok_iff.mp hcompile).2 with ⟨hneeds, v, rfl, -, -⟩ | ⟨hneeds, -⟩
  · simp [wordsOf, Meaning.ofWords?, Verb.ofCommandName?_commandName, hneeds, hfilter]
  · simp [wordsOf, Meaning.ofWords?, Verb.ofCommandName?_commandName, hneeds, hfilter]

/-- The verb, the key, the terms and, for a `put`, the value of a command are read off its words, so
two compilations to the same command agree on all of these. -/
theorem compile_decodes (verb : Verb) (key : String) (value : Option String) (filter : Filter)
    (command : Command) (hcompile : compile verb key value filter = .ok command)
    (h : Separable verb key value filter) :
    command.decode? = some ⟨verb, key, if verb.needsValue then value else none, filter⟩ ∧
      ∀ verb' key' value' filter', compile verb' key' value' filter' = .ok command →
        Separable verb' key' value' filter' →
        verb' = verb ∧ key' = key ∧ filter' = filter ∧ (verb = .put → value' = value) := by
  have hdecode := decode?_of_compile hcompile h
  refine ⟨hdecode, fun verb' key' value' filter' hcompile' h' => ?_⟩
  -- two readings of the same command are the same reading
  rw [decode?_of_compile hcompile' h'] at hdecode
  obtain ⟨rfl, rfl, hvalue, rfl⟩ := Meaning.mk.inj (Option.some.inj hdecode)
  refine ⟨rfl, rfl, rfl, ?_⟩
  rintro rfl
  exact hvalue

/-- A key that looks negated, a value that looks like the name of a term, and terms with an empty
value and with one that looks like a name. -/
theorem compile_decodes_disguised :
    let filter : Filter := [⟨.assign .purpose, true, ""⟩, ⟨.monitor, false, "-objExp"⟩,
      ⟨.assign .purpose, false, ""⟩]
    let command : Command := ⟨"put !x -objPur -objPur ! -monitor -objExp -objPur "⟩
    compile .put "!x" (some "-objPur") filter = .ok command ∧
      Separable .put "!x" (some "-objPur") filter ∧
      command.decode? = some ⟨.put, "!x", some "-objPur", filter⟩ ∧
      ∀ verb' key' value' filter', compile verb' key' value' filter' = .ok command →
        Separable verb' key' value' filter' →
        verb' = .put ∧ key' = "!x" ∧ filter' = filter ∧
          (Verb.put = .put → value' = some "-objPur") := by
  intro filter command
  have hcompile : compile .put "!x" (some "-objPur") filter = .ok command := by decide +kernel
  have hseparable : Separable .put "!x" (some "-objPur") filter :=
    ⟨by decide, by decide, by decide, by decide⟩
  exact ⟨hcompile, hseparable, compile_decodes _ _ _ _ _ hcompile hseparable⟩

end Command
end PolicyReplay
