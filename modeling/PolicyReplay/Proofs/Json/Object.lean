import PolicyReplay.Json.Parser
import PolicyReplay.Proofs.Json.Literal
import PolicyReplay.Proofs.Text.Split

/-!
# Reading objects back

An object whose values are strings is written as its members between braces, with commas between
them. `members?` is what a text has for members, in the order of the text and with the repeated
names, of which a value keeps the last one each.

## Key results

- `members?_written`: the members of such an object, whatever their number
- `parse?_of_members?`: the value of an object by its members
-/

namespace PolicyReplay.Json

/-- The members of the object that a text is, repeated names included. -/
def members? (s : List Char) : Option (List (String × Json)) :=
  match Raw.parse? s with
  | some (.object members) => membersOfRaw? (maxDepth - 1) members
  | _ => none

/-! ## Strings and members -/

/-- A text is read as a literal, and the literal means a string. -/
def IsLiteral (written : List Char) (s : String) : Prop :=
  ∃ body pieces, written = '"' :: body ∧ resolve pieces = some s.toList ∧
    ∀ rest, readQuoted (body ++ rest) = some (pieces, rest)

/-- A text is the literal of a name, a colon and the literal of a value. -/
def IsMember (written : List Char) (name value : String) : Prop :=
  ∃ first second, written = first ++ ':' :: second ∧ IsLiteral first name ∧ IsLiteral second value

/-- A text that is escaped faithfully and put in quotes is a literal of it. -/
theorem Faithful.isLiteral {escape : Char → List Char} (h : Faithful escape) (s : String) :
    IsLiteral ('"' :: s.toList.flatMap escape ++ ['"']) s := by
  obtain ⟨pieces, hmeans, hread⟩ := h.readQuoted s.toList
  refine ⟨s.toList.flatMap escape ++ ['"'], pieces, rfl, hmeans, fun rest => ?_⟩
  rw [List.append_assoc]
  exact hread rest

/-- A value that starts with a quote is read as a literal. -/
theorem Raw.readValue_quote (fuel : Nat) (s : List Char) :
    readValue (fuel + 1) ('"' :: s) =
      (readQuoted s).map fun (pieces, rest) => (.string pieces, rest) := by
  rw [readValue]
  rfl

/-- A value that starts with a brace and a quote is read as the members of an object. -/
theorem Raw.readValue_brace_quote (fuel : Nat) (s : List Char) :
    readValue (fuel + 1) ('{' :: '"' :: s) =
      (readMembers fuel ('"' :: s)).map fun (members, rest) => (.object members, rest) := by
  rw [readValue]
  rfl

/-- A value that is read up to blanks is what the whole text is read as. -/
theorem Raw.parse?_of_readValue {s rest : List Char} {value : Raw}
    (h : readValue (2 * s.length + 1) s = some (value, rest)) (hrest : skipBlanks rest = []) :
    parse? s = some value := by
  rw [parse?, h]
  simp only [hrest, List.isEmpty_nil, ↓reduceIte]

/-- A member is read up to what stands behind it, which decides whether another one follows. -/
theorem IsMember.readMembers {written : List Char} {name value : String}
    (h : IsMember written name value) : ∃ names values, resolve names = some name.toList ∧
      resolve values = some value.toList ∧ ∀ fuel rest,
        Raw.readMembers (fuel + 2) (written ++ '}' :: rest) =
          some ([(names, .string values)], rest) ∧
        Raw.readMembers (fuel + 2) (written ++ ',' :: rest) =
          (Raw.readMembers (fuel + 1) rest).map
            fun (members, rest) => ((names, .string values) :: members, rest) := by
  obtain ⟨_, _, rfl, ⟨nameBody, names, rfl, hname, hreadName⟩,
    ⟨valueBody, values, rfl, hvalue, hreadValue⟩⟩ := h
  -- there are no blanks before the four marks that a member is read by
  have hquote (s : List Char) : Raw.skipBlanks ('"' :: s) = '"' :: s := rfl
  have hcolon (s : List Char) : Raw.skipBlanks (':' :: s) = ':' :: s := rfl
  have hcomma (s : List Char) : Raw.skipBlanks (',' :: s) = ',' :: s := rfl
  have hbrace (s : List Char) : Raw.skipBlanks ('}' :: s) = '}' :: s := rfl
  refine ⟨names, values, hname, hvalue, fun fuel rest => ⟨?_, ?_⟩⟩
  -- behind the value stands a brace, and the members end, or a comma, and they go on
  · simp only [List.cons_append, List.append_assoc, Raw.readMembers, Raw.readValue_quote, hquote,
      hreadName, hcolon, hreadValue, Option.map_some, hbrace]
  · simp only [List.cons_append, List.append_assoc]
    rw [Raw.readMembers]
    simp only [Raw.readValue_quote, hquote, hreadName, hcolon, hreadValue, Option.map_some, hcomma]

/-! ## Objects -/

/-- A member whose name and value mean strings is added to the members behind it. -/
theorem membersOfRaw?_cons {depth : Nat} {names values : List Piece}
    {raws : List (List Piece × Raw)} {name value : String} {members : List (String × Json)}
    (hname : resolve names = some name.toList) (hvalue : resolve values = some value.toList)
    (h : membersOfRaw? depth raws = some members) :
    membersOfRaw? depth ((names, .string values) :: raws) =
      some ((name, .string value) :: members) := by
  simp only [membersOfRaw?, ofRaw?, hname, hvalue, h, Option.map_some, String.ofList_toList]

/-- Every item is written with a mark, so there are no more items than letters. -/
theorem length_le_length_flatMap_cons (mark : Char) (items : List (List Char)) :
    items.length ≤ (items.flatMap (mark :: ·)).length := by
  induction items with
  | nil => exact Nat.le_refl 0
  | cons item items ih =>
    rw [List.flatMap_cons, List.length_append, List.length_cons, List.length_cons]
    omega

section

variable {member : String × String → List Char} (hmember : ∀ m, IsMember (member m) m.1 m.2)

include hmember

/-- Members with commas between them are read as they are, by as much fuel as there are members. -/
theorem readMembers_intercalate (depth : Nat) (m : String × String)
    (ms : List (String × String)) :
    ∃ raws, membersOfRaw? depth raws = some ((m :: ms).map fun m => (m.1, .string m.2)) ∧
      ∀ fuel rest, ms.length < fuel →
        Raw.readMembers (fuel + 1) ([','].intercalate ((m :: ms).map member) ++ '}' :: rest) =
          some (raws, rest) := by
  -- by induction on the members behind the first, each of which takes one unit of fuel
  induction ms generalizing m with
  | nil =>
    obtain ⟨names, values, hname, hvalue, hread⟩ := (hmember m).readMembers
    refine ⟨[(names, .string values)], membersOfRaw?_cons hname hvalue rfl,
      fun fuel rest hfuel => ?_⟩
    obtain ⟨fuel, rfl⟩ := Nat.exists_eq_add_one.mpr hfuel
    rw [List.map_singleton, List.intercalate_singleton]
    exact (hread fuel rest).1
  | cons next ms ih =>
    obtain ⟨names, values, hname, hvalue, hread⟩ := (hmember m).readMembers
    obtain ⟨raws, hmeans, hrest⟩ := ih next
    refine ⟨(names, .string values) :: raws, membersOfRaw?_cons hname hvalue hmeans,
      fun fuel rest hfuel => ?_⟩
    obtain ⟨fuel, rfl⟩ := Nat.exists_eq_add_one.mpr (Nat.zero_lt_of_lt hfuel)
    rw [List.map_cons, List.map_cons, List.intercalate_cons_cons, List.append_assoc,
      List.append_assoc, List.singleton_append, (hread fuel _).2, ← List.map_cons,
      hrest fuel rest (Nat.lt_of_succ_lt_succ hfuel)]
    rfl

/-- The text of an object is read as its members, whatever blanks there are behind it. -/
theorem parse?_written (depth : Nat) (ms : List (String × String)) {blanks : List Char}
    (hblanks : Raw.skipBlanks blanks = []) :
    ∃ raws, membersOfRaw? depth raws = some (ms.map fun m => (m.1, .string m.2)) ∧
      Raw.parse? ('{' :: [','].intercalate (ms.map member) ++ '}' :: blanks) =
        some (.object raws) := by
  cases ms with
  | nil => exact ⟨[], rfl, Raw.parse?_of_readValue (by rw [Raw.readValue]; rfl) hblanks⟩
  | cons m ms =>
    obtain ⟨raws, hmeans, hread⟩ := readMembers_intercalate hmember depth m ms
    obtain ⟨_, second, hm, ⟨body, -, rfl, -⟩, -⟩ := hmember m
    have hcut : [','].intercalate ((m :: ms).map member) =
        '"' :: (body ++ ':' :: second ++ (ms.map member).flatMap (',' :: ·)) := by
      rw [← Text.joinWith_eq_intercalate, List.map_cons, Text.joinWith_cons, hm]
      rfl
    -- the fuel is twice the length of the text, and each member has a comma of its own
    have hlength := length_le_length_flatMap_cons ',' (ms.map member)
    rw [List.length_map] at hlength
    refine ⟨raws, hmeans, Raw.parse?_of_readValue ?_ hblanks⟩
    rw [hcut] at hread ⊢
    rw [List.cons_append, List.cons_append, Raw.readValue_brace_quote, List.length_cons,
      Nat.mul_add, Nat.mul_one, ← List.cons_append, hread _ blanks ?_]
    · rfl
    · simp only [List.length_cons, List.length_append]
      omega

/-- The members of a written object are those that were written, in order. -/
theorem members?_written (ms : List (String × String)) {blanks : List Char}
    (hblanks : Raw.skipBlanks blanks = []) :
    members? ('{' :: [','].intercalate (ms.map member) ++ '}' :: blanks) =
      some (ms.map fun m => (m.1, .string m.2)) := by
  obtain ⟨raws, hmeans, hread⟩ := parse?_written hmember (maxDepth - 1) ms hblanks
  rw [members?, hread]
  exact hmeans

end

/-! ## Values -/

/-- The value of an object takes its members in turn, so that of members of one name it keeps the
last value. -/
theorem parse?_of_members? {s : List Char} {members : List (String × Json)}
    (h : members? s = some members) :
    parse? s = some (.object
      (members.foldl (fun object (name, value) => setMember name value object) [])) := by
  unfold members? at h
  split at h
  · next raws hread =>
    -- the object takes one level of the depth, and its members have the others
    rw [parse?, hread, Option.bind_some, maxDepth, ofRaw?]
    rw [show membersOfRaw? 126 raws = some members from h]
    rfl
  · cases h

/-- A member of a new name is added behind the others. -/
theorem setMember_of_notMem {name : String} {members : List (String × α)}
    (h : name ∉ members.map Prod.fst) (value : α) :
    setMember name value members = members ++ [(name, value)] := by
  induction members with
  | nil => rfl
  | cons m members ih =>
    rw [List.map_cons, List.mem_cons, not_or] at h
    rw [setMember, if_neg (Ne.symm h.1), ih h.2]
    rfl

/-- Members with distinct names are added as they are. -/
theorem foldl_setMember {before members : List (String × α)}
    (h : ((before ++ members).map Prod.fst).Nodup) :
    members.foldl (fun object (name, value) => setMember name value object) before =
      before ++ members := by
  -- by induction on the members that are still to be added, behind those that are there
  induction members generalizing before with
  | nil => exact (List.append_nil before).symm
  | cons m members ih =>
    obtain ⟨name, value⟩ := m
    -- the name is new to those that are there, as all names are distinct
    have hnew : name ∉ before.map Prod.fst := by
      rw [List.map_append, List.nodup_append] at h
      exact fun hmem => h.2.2 name hmem name List.mem_cons_self rfl
    have hsplit : before ++ (name, value) :: members = before ++ [(name, value)] ++ members :=
      (List.append_assoc before [(name, value)] members).symm
    rw [hsplit] at h ⊢
    rw [List.foldl_cons, ← ih h]
    simp only [setMember_of_notMem hnew]

end PolicyReplay.Json
