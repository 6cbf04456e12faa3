import Mathlib.Data.List.Nodup
import PolicyReplay.Log.Entry
import PolicyReplay.Proofs.Json.Object
import PolicyReplay.Proofs.Text.Order

/-!
# What a log line says

A line holds no control character, so that the newline behind it is the only one, and a reader of
JSON gets back from it what was logged: the event, the severity and the fields in the order of their
names. `SortedByName` says what that order is without saying how it is reached.

## Key results

- `SortedByName.unique`: there is one such order
- `faithful_escape`, `printable_escape`: what a line has for a character
- `Entry.legible`: what is written for an entry, and what is read from it
-/

namespace PolicyReplay.Log

/-! ## The order of the fields -/

/-- The fields of one name, in their order. -/
def named (name : String) (fields : Fields) : Fields := fields.filter (·.1 = name)

/-- The fields in the order of the octets of their names, those of one name as they were given. -/
structure SortedByName (fields sorted : Fields) : Prop where
  perm : sorted.Perm fields
  ordered : sorted.Pairwise fun a b => Text.Precedes a.1 b.1 ∨ a.1 = b.1
  stable : ∀ name, named name sorted = named name fields

section

variable {name : String} {field : String × String} {fields s t : Fields}

/-- The fields of a name are those that have it. -/
theorem mem_named : field ∈ named name fields ↔ field ∈ fields ∧ field.1 = name := by
  rw [named, List.mem_filter, decide_eq_true_iff]

theorem named_cons_of_eq (h : field.1 = name) :
    named name (field :: fields) = field :: named name fields :=
  List.filter_cons_of_pos (decide_eq_true h)

theorem named_cons_of_ne (h : field.1 ≠ name) :
    named name (field :: fields) = named name fields :=
  List.filter_cons_of_neg (mt of_decide_eq_true h)

/-- Rows with the same fields of each name have the same fields. -/
theorem mem_of_named_eq (h : ∀ name, named name s = named name t) (hfield : field ∈ s) :
    field ∈ t := by
  -- every field is one of those that have its name
  have hnamed := mem_named.mpr ⟨hfield, rfl⟩
  rw [h] at hnamed
  exact (mem_named.mp hnamed).1

/-- No name is below that of the first field of a row in order. -/
theorem le_of_mem_cons {first : String × String} (h : (first :: s).Pairwise (·.1 ≤ ·.1))
    (hfield : field ∈ first :: s) : first.1 ≤ field.1 := by
  rcases List.mem_cons.mp hfield with rfl | hfield
  · exact String.le_refl _
  · exact List.rel_of_pairwise_cons h hfield

/-- The first field has the least name and is the first one with that name, whatever the row. -/
theorem eq_of_named_eq (hs : s.Pairwise (·.1 ≤ ·.1)) (ht : t.Pairwise (·.1 ≤ ·.1))
    (h : ∀ name, named name s = named name t) : s = t := by
  -- induction on one row; the other one changes with it, as both lose their first field
  induction s generalizing t with
  | nil =>
    cases t with
    | nil => rfl
    | cons b t => exact nomatch mem_of_named_eq (fun name => (h name).symm) List.mem_cons_self
  | cons a s ih =>
    cases t with
    | nil => exact nomatch mem_of_named_eq h List.mem_cons_self
    | cons b t =>
      -- each first name is among the names of the other row, so neither is below the other
      have hle : a.1 ≤ b.1 :=
        le_of_mem_cons hs (mem_of_named_eq (fun name => (h name).symm) List.mem_cons_self)
      have hge : b.1 ≤ a.1 := le_of_mem_cons ht (mem_of_named_eq h List.mem_cons_self)
      have hname : b.1 = a.1 := String.le_antisymm hge hle
      have hfirst := h a.1
      rw [named_cons_of_eq rfl, named_cons_of_eq hname] at hfirst
      obtain ⟨rfl, hrest⟩ := List.cons.inj hfirst
      -- without the first field the rows agree on each name, on that of the first field and on
      -- others
      rw [ih hs.of_cons ht.of_cons fun name => ?_]
      by_cases hother : a.1 = name
      · rwa [← hother]
      · have hskip := h name
        rwa [named_cons_of_ne hother, named_cons_of_ne hother] at hskip

/-- Where the names are distinct, there is one field of each name at most. -/
theorem named_eq_of_perm (h : s.Perm t) (hnodup : (t.map Prod.fst).Nodup) (name : String) :
    named name s = named name t := by
  -- two fields with the same name are one field
  have hname {a b : String × String} (ha : a ∈ named name s) (hb : b ∈ named name t) : a = b := by
    obtain ⟨hs, hname⟩ := mem_named.mp ha
    obtain ⟨ht, rfl⟩ := mem_named.mp hb
    exact List.inj_on_of_nodup_map hnodup (h.mem_iff.mp hs) ht hname
  have htrivial (fields : Fields) : fields.Pairwise fun _ _ => True :=
    List.pairwise_of_forall fun _ _ => trivial
  exact (h.filter _).eq_of_pairwise (fun _ _ ha hb _ _ => hname ha hb) (htrivial _) (htrivial _)

end

/-- There is one row of the fields in this order. -/
theorem SortedByName.unique {fields sorted sorted' : Fields} (h : SortedByName fields sorted)
    (h' : SortedByName fields sorted') : sorted = sorted' :=
  eq_of_named_eq (h.ordered.imp Text.precedes_or_eq_iff_le.mp)
    (h'.ordered.imp Text.precedes_or_eq_iff_le.mp) fun name =>
      (h.stable name).trans (h'.stable name).symm

/-- Where the names are distinct, it does not matter in which order the fields are given. -/
theorem SortedByName.of_perm {fields fields' sorted : Fields} (h : SortedByName fields sorted)
    (hperm : fields.Perm fields') (hnodup : (fields'.map Prod.fst).Nodup) :
    SortedByName fields' sorted where
  perm := h.perm.trans hperm
  ordered := h.ordered
  stable := fun name => (h.stable name).trans (named_eq_of_perm hperm hnodup name)

/-- The fields are sorted by their names. -/
theorem sortedByName_sortFields (fields : Fields) : SortedByName fields (sortFields fields) := by
  -- the order of names, as the sorting uses it, is transitive and total
  have htrans (a b c : String × String) : decide (a.1 ≤ b.1) = true → decide (b.1 ≤ c.1) = true →
      decide (a.1 ≤ c.1) = true := by
    simp only [decide_eq_true_eq]
    exact String.le_trans
  have htotal (a b : String × String) : (decide (a.1 ≤ b.1) || decide (b.1 ≤ a.1)) = true := by
    simp only [Bool.or_eq_true, decide_eq_true_eq]
    exact String.le_total a.1 b.1
  have hperm : (sortFields fields).Perm fields := List.mergeSort_perm _ _
  refine ⟨hperm, ?_, fun name => ?_⟩
  · refine (List.pairwise_mergeSort htrans htotal fields).imp fun h => ?_
    exact Text.precedes_or_eq_iff_le.mpr (of_decide_eq_true h)
  · -- the fields of one name are in order already, and stay a part of the row
    have hordered : (named name fields).Pairwise fun a b => decide (a.1 ≤ b.1) = true := by
      refine List.pairwise_of_forall_mem_list fun a ha b hb => decide_eq_true ?_
      have hname : a.1 = b.1 := (mem_named.mp ha).2.trans (mem_named.mp hb).2.symm
      exact hname ▸ String.le_refl a.1
    have hpart : (named name fields).Sublist (sortFields fields) :=
      List.sublist_mergeSort htrans htotal hordered List.filter_sublist
    -- that part is all that has the name, as nothing is lost or added
    have hkept : (named name fields).Sublist (named name (sortFields fields)) := by
      have hsub := hpart.filter fun field => decide (field.1 = name)
      rwa [List.filter_eq_self.mpr fun field hfield => decide_eq_true (mem_named.mp hfield).2]
        at hsub
    exact (hkept.eq_of_length (hperm.filter _).length_eq.symm).symm

/-! ## Characters -/

/-- What is no control character is not below the blank. -/
theorem le_of_not_isControl {c : Char} (h : ¬ isControl c = true) : ' ' ≤ c := by
  simp only [isControl, Bool.or_eq_true, decide_eq_true_eq] at h
  exact UInt32.le_iff_toNat_le.mpr (Nat.not_lt.mp fun hlt => h (.inl hlt))

/-- The literals of a line read back. -/
theorem faithful_escape : Json.Faithful escape := by
  intro c
  unfold escape
  -- each branch is one of the three ways to write a character, and tells by itself which one
  split_ifs with hquote hbackslash hline hreturn htab hcontrol
  · exact .letter hquote rfl
  · exact .letter hbackslash rfl
  · exact .letter hline rfl
  · exact .letter hreturn rfl
  · exact .letter htab rfl
  · simp only [isControl, Bool.or_eq_true, Bool.and_eq_true, decide_eq_true_eq] at hcontrol
    exact .unitEscape (by omega)
  · exact .self (le_of_not_isControl hcontrol) hquote hbackslash

/-- A hexadecimal digit is no control character. -/
theorem printable_hexDigit (n : Nat) : ' ' ≤ Json.hexDigit (n % 16) := by
  have hall : ∀ n < 16, ' ' ≤ Json.hexDigit n := by decide
  exact hall _ (Nat.mod_lt n (by decide))

/-- No character below the blank is written for any character. -/
theorem printable_escape (c : Char) : ∀ d ∈ escape c, ' ' ≤ d := by
  -- a backslash with a letter behind it
  have hletter {e : Char} (he : ' ' ≤ e) : ∀ d ∈ ['\\', e], ' ' ≤ d :=
    List.forall_mem_cons.mpr ⟨by decide, List.forall_mem_singleton.mpr he⟩
  unfold escape
  split_ifs with hquote hbackslash hline hreturn htab hcontrol
  · exact hletter (by decide)
  · exact hletter (by decide)
  · exact hletter (by decide)
  · exact hletter (by decide)
  · exact hletter (by decide)
  · simp only [Json.unitEscape, List.forall_mem_cons]
    exact ⟨by decide, by decide, printable_hexDigit _, printable_hexDigit _, printable_hexDigit _,
      printable_hexDigit _, List.forall_mem_nil _⟩
  · exact List.forall_mem_singleton.mpr (le_of_not_isControl hcontrol)

/-- A character may have an escape that need not have one. -/
example : "\t\x7Fé".toList.flatMap escape = "\\t\\u007fé".toList := by decide +kernel

/-! ## Lines -/

/-- What is written for a field is a member of an object. -/
theorem isMember_member (m : String × String) : Json.IsMember (member m.1 m.2) m.1 m.2 :=
  ⟨quote m.1, quote m.2, rfl, faithful_escape.isLiteral m.1, faithful_escape.isLiteral m.2⟩

/-- What is written for a field has no character below the blank. -/
theorem printable_member (m : String × String) : ∀ d ∈ member m.1 m.2, ' ' ≤ d := by
  -- a literal is its two quotes and what is written for each character
  have hquoted (s : String) : ∀ d ∈ quote s, ' ' ≤ d := by
    intro d hd
    rw [quote, List.mem_append, List.mem_cons, List.mem_flatMap, List.mem_singleton] at hd
    rcases hd with (rfl | ⟨c, -, hd⟩) | rfl
    · decide
    · exact printable_escape c d hd
    · decide
  intro d hd
  rw [member, List.mem_append, List.mem_cons] at hd
  rcases hd with hd | rfl | hd
  · exact hquoted m.1 d hd
  · decide
  · exact hquoted m.2 d hd

namespace Entry

/-- A line has no character below the blank. -/
theorem printable_line (e : Entry) : ∀ d ∈ e.line.toList, ' ' ≤ d := by
  intro d hd
  rw [line, String.toList_ofList, List.mem_append, List.mem_cons, List.mem_singleton,
    ← Text.joinWith_eq_intercalate] at hd
  -- a character of a line is a brace, a comma, or one of a member
  rcases hd with (rfl | hd) | rfl
  · decide
  · rcases Text.mem_of_mem_joinWith hd with rfl | ⟨text, htext, hd⟩
    · decide
    · obtain ⟨m, -, rfl⟩ := List.mem_map.mp htext
      exact printable_member m d hd
  · decide

/-- What is written for an entry is its line and the end of that. -/
theorem toList_render (e : Entry) : e.render.toList = e.line.toList ++ ['\n'] :=
  String.toList_append

end Entry

/-- A text is a document: an object with these members, which are strings. A repeated name is
repeated in the text, though a value has one member for it. -/
structure IsObject (fields : Fields) (text : List Char) : Prop where
  members : Json.members? text = some (fields.map fun m => (m.1, .string m.2))
  value : ∃ kept, Json.parse? text = some (.object kept)
  distinct : (fields.map Prod.fst).Nodup →
    Json.parse? text = some (.object (fields.map fun m => (m.1, .string m.2)))

/-- A line is the object of its members, whatever blanks come behind it. -/
theorem isObject_line (e : Entry) (blanks : List Char)
    (hblanks : Json.Raw.skipBlanks blanks = []) :
    IsObject e.members (e.line.toList ++ blanks) := by
  have hmembers : Json.members? (e.line.toList ++ blanks) =
      some (e.members.map fun m => (m.1, .string m.2)) := by
    have hwritten := Json.members?_written isMember_member e.members hblanks
    -- a line is a brace, the members with commas, and a brace
    rwa [Entry.line, String.toList_ofList, List.append_assoc]
  have hvalue := Json.parse?_of_members? hmembers
  refine ⟨hmembers, ⟨_, hvalue⟩, fun hnodup => ?_⟩
  -- where the names are distinct, no member takes the place of another
  rw [hvalue, Json.foldl_setMember]
  · rfl
  · rwa [List.nil_append, List.map_map]

/-- What is written for an entry is one line, and all that was logged is read from it. -/
structure Legible (e : Entry) : Prop where
  ended : e.render.toList = e.line.toList ++ ['\n']
  printable : ∀ c ∈ e.line.toList, ' ' ≤ c
  decoded : ∃ sorted, SortedByName e.fields sorted ∧ ∀ written ∈ [e.line, e.render],
    IsObject (("event", e.event) :: ("severity", e.severity.name) :: sorted) written.toList
  /-- Fields with distinct names may be given in any order. -/
  unordered : (e.fields.map Prod.fst).Nodup → ∀ fields, fields.Perm e.fields →
    Entry.render ⟨e.severity, e.event, fields⟩ = e.render

/-- Every entry is legible. -/
theorem Entry.legible (e : Entry) : Legible e where
  ended := e.toList_render
  printable := e.printable_line
  decoded := by
    refine ⟨sortFields e.fields, sortedByName_sortFields e.fields, fun written hwritten => ?_⟩
    rw [List.mem_cons, List.mem_singleton] at hwritten
    rcases hwritten with rfl | rfl
    -- the line ends with its last brace, and what is written with a line break, which is blank
    · have hline := isObject_line e [] rfl
      rwa [List.append_nil] at hline
    · rw [toList_render]
      exact isObject_line e ['\n'] rfl
  unordered := by
    intro hnodup fields hperm
    -- both rows are the one row in order, so both lines are the same
    have hsorted : sortFields fields = sortFields e.fields :=
      ((sortedByName_sortFields fields).of_perm hperm hnodup).unique
        (sortedByName_sortFields e.fields)
    simp only [render, line, Entry.members, hsorted]

end PolicyReplay.Log
