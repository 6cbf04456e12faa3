import PolicyReplay.Proofs.Trace.Placeholder

/-!
# What filling leaves behind

A line is the text outside its placeholders with a placeholder between each two parts of it, and
filling puts the filler in the place of each. The filler has no letter of the placeholder, so none
can come about where kept text and filler meet: nothing is left to fill, and a filled line is as
much longer than the line as its fillers are longer than its placeholders.

## Key results

- `joinWith_outside`, `expandChars_eq_joinWith`: a line and the filled line have the same parts
- `not_infix_joinWith`: no placeholder comes about at the seams
- `fill_complete`: filling is complete, stable and of exact size
-/

namespace PolicyReplay.Trace

open Text (joinWith)

variable {word s t : List Char} {parts : List (List Char)}

/-! ## Placeholders and what is outside them -/

/-- The letters of the placeholder. -/
def placeholder : List Char := ['V', 'A', 'L']

/-- How many placeholders there are, counted by the places where one begins. -/
def occurrences (s : List Char) : Nat := s.tails.countP placeholder.isPrefixOf

/-- The text outside the placeholders, in order: what stands before the first one, between each two
and behind the last. -/
def outside : List Char → List (List Char)
  | 'V' :: 'A' :: 'L' :: rest => [] :: outside rest
  | c :: rest => (outside rest).modifyHead (c :: ·)
  | [] => [[]]

/-- There is always a part outside, if only an empty one. -/
theorem outside_ne_nil (s : List Char) : outside s ≠ [] := by
  fun_induction outside s with
  | case1 rest _ => exact List.cons_ne_nil _ _
  | case2 c rest _ ih => simpa using ih
  | case3 => exact List.cons_ne_nil _ _

/-- A placeholder stands in front only as its three letters. -/
theorem placeholder_prefix_iff {c : Char} :
    placeholder <+: c :: s ↔ ∃ rest, c = 'V' ∧ s = 'A' :: 'L' :: rest := by
  constructor
  · rintro ⟨rest, h⟩
    obtain ⟨rfl, rfl⟩ := List.cons.inj h
    exact ⟨rest, rfl, rfl⟩
  · rintro ⟨rest, rfl, rfl⟩
    exact ⟨rest, rfl⟩

/-- A character in front begins one placeholder more, or none. -/
theorem occurrences_cons (c : Char) (s : List Char) :
    occurrences (c :: s) = occurrences s + if placeholder <+: c :: s then 1 else 0 := by
  simp only [occurrences, List.tails, List.countP_cons, List.isPrefixOf_iff_prefix]

/-- There is one part more than there are placeholders. -/
theorem length_outside (s : List Char) : (outside s).length = occurrences s + 1 := by
  fun_induction outside s with
  | case1 rest ih =>
    -- of the three letters only the first begins a placeholder
    have hfirst : placeholder <+: 'V' :: 'A' :: 'L' :: rest := ⟨rest, rfl⟩
    have hsecond : ¬ placeholder <+: 'A' :: 'L' :: rest := by simp [placeholder_prefix_iff]
    have hthird : ¬ placeholder <+: 'L' :: rest := by simp [placeholder_prefix_iff]
    rw [occurrences_cons, occurrences_cons, occurrences_cons, if_pos hfirst, if_neg hsecond,
      if_neg hthird, List.length_cons, ih]
  | case2 c rest hne ih =>
    have hfirst : ¬ placeholder <+: c :: rest := by
      rw [placeholder_prefix_iff]
      exact fun ⟨after, hc, hrest⟩ => hne after hc hrest
    rw [occurrences_cons, if_neg hfirst, List.length_modifyHead, ih]
  | case3 => rfl

/-! ## The same parts before and after filling -/

/-- A character in front of the first part stands in front of the whole. -/
theorem joinWith_modifyHead (h : parts ≠ []) (separator : List Char) (c : Char) :
    joinWith separator (parts.modifyHead (c :: ·)) = c :: joinWith separator parts := by
  match parts, h with
  | [part], _ => rfl
  | part :: next :: rest, _ => rfl

/-- A filled text has the filler between the parts. -/
theorem expandChars_eq_joinWith (word s : List Char) :
    expandChars word s = joinWith word (outside s) := by
  fun_induction expandChars word s with
  | case1 rest ih =>
    rw [ih, outside, Text.joinWith_cons_of_ne_nil (outside_ne_nil rest), List.nil_append]
  | case2 c rest hne ih =>
    rw [outside, joinWith_modifyHead (outside_ne_nil rest), ih]
    exact hne
  | case3 => rfl

/-- A text filled with the placeholder itself stays as it is. -/
theorem expandChars_placeholder (s : List Char) : expandChars placeholder s = s := by
  fun_induction expandChars placeholder s with
  | case1 rest ih => rw [ih, placeholder]; rfl
  | case2 c rest _ ih => rw [ih]
  | case3 => rfl

/-- A text has the placeholder between the parts. -/
theorem joinWith_outside (s : List Char) : joinWith placeholder (outside s) = s := by
  rw [← expandChars_eq_joinWith, expandChars_placeholder]

/-- The first part is what a joined text begins with. -/
theorem prefix_joinWith (separator part : List Char) (parts : List (List Char)) :
    part <+: joinWith separator (part :: parts) := by
  cases parts with
  | nil => exact List.prefix_rfl
  | cons next rest =>
    rw [Text.joinWith_cons_of_ne_nil (List.cons_ne_nil next rest), List.append_assoc]
    exact List.prefix_append _ _

/-- No part has a placeholder in it. -/
theorem not_infix_of_mem_outside {part : List Char} (h : part ∈ outside s) :
    ¬ placeholder <:+: part := by
  -- along the definition: a placeholder ends a part, and another character belongs to one
  fun_induction outside s generalizing part with
  | case1 rest ih =>
    rcases List.mem_cons.mp h with rfl | h
    · decide
    · exact ih h
  | case2 c rest hne ih =>
    obtain ⟨first, others, hparts⟩ := List.exists_cons_of_ne_nil (outside_ne_nil rest)
    rw [hparts, List.modifyHead_cons] at h
    rw [hparts] at ih
    rcases List.mem_cons.mp h with rfl | h
    · have hstart : c :: first <+: c :: rest := by
        conv_rhs => rw [← joinWith_outside rest, hparts]
        exact List.prefix_cons_inj c |>.mpr (prefix_joinWith placeholder first others)
      rw [List.infix_cons_iff]
      rintro (hfirst | hinner)
      · -- a placeholder at the start of the part would stand at the start of the text
        obtain ⟨after, hc, hrest⟩ := placeholder_prefix_iff.mp (hfirst.trans hstart)
        exact hne after hc hrest
      · exact ih List.mem_cons_self hinner
    · exact ih (List.mem_cons_of_mem _ h)
  | case3 =>
    obtain rfl := List.mem_singleton.mp h
    decide

/-! ## Seams -/

/-- What is in neither of two texts is not across their seam either, if one of the characters at
the seam cannot be part of it. -/
theorem not_infix_append {pattern : List Char} (hs : ¬ pattern <:+: s) (ht : ¬ pattern <:+: t)
    (hseam : (∀ c ∈ s.getLast?, c ∉ pattern) ∨ ∀ c ∈ t.head?, c ∉ pattern) :
    ¬ pattern <:+: s ++ t := by
  rw [List.infix_append_iff]
  rintro (h | h | ⟨left, right, rfl, hleft, hright⟩)
  · exact hs h
  · exact ht h
  · -- a part of the pattern on each side would reach both characters at the seam
    rcases List.eq_nil_or_concat left with rfl | ⟨left, a, rfl⟩
    · exact ht hright.isInfix
    · cases right with
      | nil => exact hs (by simpa using hleft.isInfix)
      | cons b right =>
        rcases hseam with hseam | hseam
        · obtain ⟨before, rfl⟩ := hleft
          exact hseam a (by simp) (by simp)
        · obtain ⟨after, rfl⟩ := hright
          exact hseam b (by simp) (by simp)

/-- No pattern comes about between parts that do not hold it when they are joined with a word that
has no character of it. -/
theorem not_infix_joinWith {pattern : List Char} (hpattern : pattern ≠ []) (hword : word ≠ [])
    (hforeign : ∀ c ∈ word, c ∉ pattern) (hparts : ∀ part ∈ parts, ¬ pattern <:+: part) :
    ¬ pattern <:+: joinWith word parts := by
  -- a word without a character of the pattern does not hold it either
  have hfree : ¬ pattern <:+: word := fun h => by
    obtain ⟨c, hc⟩ := List.exists_mem_of_ne_nil pattern hpattern
    exact hforeign c (h.subset hc) hc
  induction parts with
  | nil => simpa [joinWith] using hpattern
  | cons part parts ih =>
    obtain ⟨hpart, hrest⟩ := List.forall_mem_cons.mp hparts
    by_cases hne : parts = []
    · subst hne
      exact hpart
    · rw [Text.joinWith_cons_of_ne_nil hne, List.append_assoc]
      -- the word keeps the part and what follows it apart
      have hbehind : ¬ pattern <:+: word ++ joinWith word parts :=
        not_infix_append hfree (ih hrest)
          (.inl fun c hc => hforeign c (List.mem_of_mem_getLast? hc))
      refine not_infix_append hpart hbehind (.inr fun c hc => hforeign c ?_)
      rw [List.head?_append_of_ne_nil _ hword] at hc
      exact List.mem_of_mem_head? hc

/-! ## Sizes -/

/-- Texts of the same parts differ in size as their separators do. -/
theorem utf8ByteSize_joinWith {count : Nat} (h : parts.length = count + 1) (s t : List Char) :
    (String.ofList (joinWith t parts)).utf8ByteSize + count * (String.ofList s).utf8ByteSize =
      (String.ofList (joinWith s parts)).utf8ByteSize + count * (String.ofList t).utf8ByteSize := by
  -- each part but the last brings one separator
  induction parts generalizing count with
  | nil => exact nomatch h
  | cons part parts ih =>
    cases count with
    | zero =>
      obtain rfl := List.eq_nil_of_length_eq_zero (Nat.succ.inj h)
      simp [joinWith]
    | succ count =>
      have hlength : parts.length = count + 1 := Nat.succ.inj h
      have hne : parts ≠ [] := List.ne_nil_of_length_eq_add_one hlength
      have hrest := ih hlength
      simp only [Text.joinWith_cons_of_ne_nil hne, String.ofList_append, String.utf8ByteSize_append,
        Nat.add_mul]
      omega

/-- A filler is of exactly the size that is asked for. -/
theorem utf8ByteSize_filler (size : Nat) : (filler size).utf8ByteSize = size := by
  rw [filler]
  induction size with
  | zero => rfl
  | succ size ih =>
    rw [List.replicate_succ', String.ofList_append, String.utf8ByteSize_append, ih]
    rfl

/-! ## Filling -/

/-- What there is to say of a line and of what it is filled to. -/
structure Filling (size : Nat) (line out : String) : Prop where
  /-- There is nothing left to fill. -/
  free : ¬ placeholder <:+: out.toList
  /-- Filling once more changes nothing. -/
  stable : expand (filler size) out = out
  /-- Each placeholder makes the difference between its size and that of the filler. -/
  size_eq : (out.utf8ByteSize : Int) =
    line.utf8ByteSize + occurrences line.toList * ((size : Int) - 3)
  /-- The text outside the placeholders is kept, in order, and stands between fillers instead. -/
  kept : ∃ parts, parts.length = occurrences line.toList + 1 ∧
    (∀ part ∈ parts, ¬ placeholder <:+: part) ∧
    line.toList = joinWith placeholder parts ∧ out.toList = joinWith (filler size).toList parts

/-- The search for a placeholder finds one exactly if there is one. -/
theorem hasPlaceholder_eq_true_iff : hasPlaceholder s = true ↔ placeholder <:+: s := by
  fun_induction hasPlaceholder s with
  | case1 rest => exact iff_of_true rfl (List.prefix_append placeholder rest).isInfix
  | case2 c rest hne ih =>
    have hstart : ¬ placeholder <+: c :: rest := by
      rw [placeholder_prefix_iff]
      rintro ⟨after, hc, hrest⟩
      exact hne after hc hrest
    rw [ih, List.infix_cons_iff]
    exact (or_iff_right hstart).symm
  | case3 => exact iff_of_false Bool.false_ne_true (by decide)

/-- Only a text with a placeholder is changed by filling it. -/
theorem expandChars_of_not_infix (h : ¬ placeholder <:+: s) (word : List Char) :
    expandChars word s = s :=
  have hnone : hasPlaceholder s = false :=
    Bool.eq_false_iff.mpr (mt hasPlaceholder_eq_true_iff.mp h)
  expandChars_of_hasPlaceholder_eq_false hnone word

/-- A line that is filled has no placeholder left and is filled for good, its size is exact, and
its text outside the placeholders is that of the line. The filler has to be longer than nothing: it
keeps apart what stands on both sides of a placeholder. It is there unless it is longer than any
text can be. -/
theorem fill_complete (size : Nat) (line : String) (hsize : 1 ≤ size) :
    Filling size line (expand (filler size) line) ∧
      ∀ out, fill size line = .returned out ↔
        size ≤ Capacity.maxOctets ∧ out = expand (filler size) line := by
  have hword : (filler size).toList ≠ [] := (isWord_filler hsize).ne_nil
  have hforeign : ∀ c ∈ (filler size).toList, c ∉ placeholder := by
    rw [filler, String.toList_ofList]
    intro c hc
    rw [List.eq_of_mem_replicate hc]
    decide
  have hout : (expand (filler size) line).toList =
      joinWith (filler size).toList (outside line.toList) := by
    rw [expand, String.toList_ofList, expandChars_eq_joinWith]
  have hfree : ¬ placeholder <:+: (expand (filler size) line).toList := by
    rw [hout]
    exact not_infix_joinWith (List.cons_ne_nil _ _) hword hforeign fun _ => not_infix_of_mem_outside
  refine ⟨⟨hfree, ?_, ?_, ?_⟩, fun out => ?_⟩
  · rw [expand, expandChars_of_not_infix hfree, String.ofList_toList]
  · have hsizes := utf8ByteSize_joinWith (length_outside line.toList) placeholder
      (filler size).toList
    rw [joinWith_outside, ← hout, String.ofList_toList, String.ofList_toList, String.ofList_toList,
      utf8ByteSize_filler] at hsizes
    have hplaceholder : (String.ofList placeholder).utf8ByteSize = 3 := rfl
    rw [hplaceholder] at hsizes
    have hcast := congrArg (Nat.cast (R := Int)) hsizes
    push_cast at hcast
    rw [Int.mul_sub]
    omega
  · exact ⟨outside line.toList, length_outside _, fun _ => not_infix_of_mem_outside,
      (joinWith_outside _).symm, hout⟩
  · rw [fill, Capacity.reserve_eq_returned_iff, Nat.mul_one, filled_eq_expand, eq_comm (a := out)]

/-- A placeholder with another one around it, one next to it and characters of several octets: what
is left of the outer one does not come together again. -/
theorem fill_complete_nested :
    1 ≤ 1 ∧ expand (filler 1) "VVALALéVALVAL€" = "VxALéxx€" ∧
      Filling 1 "VVALALéVALVAL€" "VxALéxx€" ∧ fill 1 "VVALALéVALVAL€" = .returned "VxALéxx€" := by
  have hout : expand (filler 1) "VVALALéVALVAL€" = "VxALéxx€" := by decide +kernel
  obtain ⟨hfilling, hreturned⟩ := fill_complete 1 "VVALALéVALVAL€" (by decide)
  rw [hout] at hfilling hreturned
  exact ⟨by decide, hout, hfilling, (hreturned _).mpr ⟨by decide, rfl⟩⟩

/-- With an empty filler, a placeholder can come about at a seam. -/
example : expand (filler 0) "VVALAL" = "VAL" := by decide +kernel

end PolicyReplay.Trace
