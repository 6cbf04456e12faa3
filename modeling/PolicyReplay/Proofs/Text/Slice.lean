import Mathlib.Tactic.MkIffOfInductiveProp
import PolicyReplay.Fate
import PolicyReplay.Proofs.Text.Split
import PolicyReplay.Proofs.Text.Utf8

/-!
# Slices of a text

A text can be cut by offsets into its octets. A slice is there if its offsets are in order, not
behind the end of the text, and not inside of a character; who asks for another one crashes. The
octets of marks such as parentheses stand for nothing else, so an offset at which one is found is
the end of the text before the mark.

## Key results

- `isBoundary_iff`: the offsets at which a text can be cut
- `Slice.IsDefined.exists_parts`, `Slice.read?_of_parts`: the slices that are there are the parts of
  the text, and they are read as these
- `enclosing?_eq`, `read?_parenthesized`: the outer parentheses and the parts around them
- `Reads.slice`, `Reads.bind`: a reading ends without a crash if its slices are there
-/

namespace PolicyReplay.Text

variable {s t : List Char} {c mark : Char} {b : UInt8} {octets : Bytes} {n : Nat}

/-! ## Octets of characters -/

/-- The number of octets of a text. -/
def size (s : List Char) : Nat := (encode s).length

/-- Whether an octet continues a character that was started before. -/
def continues (b : UInt8) : Bool := 0x80 ≤ b && b ≤ 0xBF

/-- The octet of a character that takes only one. -/
def octet (c : Char) : UInt8 := UInt8.ofNat c.toNat

@[simp] theorem size_nil : size [] = 0 := rfl

/-- The octets of two texts add up. -/
@[simp] theorem size_append (s t : List Char) : size (s ++ t) = size s + size t := by
  rw [size, encode_append, List.length_append, size, size]

/-- The octets that continue a character, by their numbers. -/
theorem continues_iff : continues b = true ↔ 0x80 ≤ b.toNat ∧ b.toNat ≤ 0xBF := by
  simp [continues, UInt8.le_iff_toNat_le]

theorem toNat_octet (h : c.toNat < 0x80) : (octet c).toNat = c.toNat := by
  rw [octet, UInt8.toNat_ofNat']
  omega

/-- Octets of which the first starts a character and the others continue it, by their numbers. -/
theorem exists_started {ns : List Nat}
    (h : octets.map UInt8.toNat = n :: ns) (hn : 0xBF < n) (hns : ∀ m ∈ ns, 0x80 ≤ m ∧ m ≤ 0xBF) :
    ∃ first rest, octets = first :: rest ∧ 0xBF < first.toNat ∧
      ∀ b ∈ rest, continues b = true := by
  obtain ⟨first, rest, rfl, rfl, rfl⟩ := List.map_eq_cons_iff.mp h
  exact ⟨first, rest, rfl, hn, fun b hb => continues_iff.mpr (hns b.toNat (List.mem_map_of_mem hb))⟩

/-- A character below 0x80 takes one octet. Of the octets of another one, the first starts it and
the others continue it. -/
theorem octets_cases (c : Char) :
    (c.toNat < 0x80 ∧ String.utf8EncodeChar c = [octet c]) ∨
      (0x80 ≤ c.toNat ∧ ∃ first rest, String.utf8EncodeChar c = first :: rest ∧
        0xBF < first.toNat ∧ ∀ b ∈ rest, continues b = true) := by
  -- the numbers of the octets decide: there are one, two, three or four of them
  have hnumbers := map_toNat_utf8EncodeChar c
  have hcontinued (m : Nat) : 0x80 ≤ m % 64 + 0x80 ∧ m % 64 + 0x80 ≤ 0xBF := by omega
  split_ifs at hnumbers with hone
  · obtain ⟨b, rest, hoctets, hb, hrest⟩ := List.map_eq_cons_iff.mp hnumbers
    obtain rfl := List.map_eq_nil_iff.mp hrest
    refine .inl ⟨by omega, ?_⟩
    rw [hoctets, octet, ← hb, UInt8.ofNat_toNat]
  -- from two octets on, the first number is above 0xBF and the others are six bits on top of 0x80
  all_goals
    refine .inr ⟨by omega, exists_started hnumbers (by omega) ?_⟩
    simp only [List.forall_mem_cons, hcontinued, true_and]
    exact fun m hm => nomatch hm

/-- The octets of a character begin with one that continues nothing. -/
theorem exists_octets (c : Char) :
    ∃ first rest, String.utf8EncodeChar c = first :: rest ∧ continues first = false ∧
      ∀ b ∈ rest, continues b = true := by
  rcases octets_cases c with ⟨hc, hoctets⟩ | ⟨-, first, rest, hoctets, hfirst, hrest⟩
  · refine ⟨octet c, [], hoctets, ?_, fun b hb => nomatch hb⟩
    -- a single octet is below 0x80, so it continues nothing
    rw [← Bool.not_eq_true, continues_iff, toNat_octet hc]
    omega
  · refine ⟨first, rest, hoctets, ?_, hrest⟩
    -- and the start of a longer character is above 0xBF
    rw [← Bool.not_eq_true, continues_iff]
    omega

/-- The octet of a mark stands in no other character. -/
theorem octet_mem_utf8EncodeChar_iff (hmark : mark.toNat < 0x80) :
    octet mark ∈ String.utf8EncodeChar c ↔ mark = c := by
  have hoctet := toNat_octet hmark
  rcases octets_cases c with ⟨hc, hoctets⟩ | ⟨hc, first, rest, hoctets, hfirst, hrest⟩
  · rw [hoctets, List.mem_singleton, ← UInt8.toNat_inj, hoctet, toNat_octet hc, Char.toNat_inj]
  · refine iff_of_false (fun h => ?_) (fun h => ?_)
    · rw [hoctets] at h
      -- the first octet of a longer character is above the mark, and so are those that continue it
      rcases List.mem_cons.mp h with h | h
      · rw [← h] at hfirst
        omega
      · have := continues_iff.mp (hrest _ h)
        omega
    · rw [h] at hmark
      omega

/-- The octet of a mark stands in a text only where the mark does. -/
theorem octet_mem_encode_iff (hmark : mark.toNat < 0x80) : octet mark ∈ encode s ↔ mark ∈ s := by
  simp [encode, List.mem_flatMap, octet_mem_utf8EncodeChar_iff hmark]

/-- A mark at the front takes one octet. -/
theorem encode_cons_mark (hmark : mark.toNat < 0x80) (s : List Char) :
    encode (mark :: s) = octet mark :: encode s := by
  rcases octets_cases mark with ⟨-, hoctets⟩ | ⟨hge, -⟩
  · rw [encode_cons, hoctets, List.singleton_append]
  · omega

theorem size_cons_mark (hmark : mark.toNat < 0x80) (s : List Char) :
    size (mark :: s) = size s + 1 := by
  rw [size, encode_cons_mark hmark, List.length_cons, size]

/-! ## Where a text can be cut -/

/-- Whether an offset is not inside of a character and not behind the end. -/
def isBoundary (octets : Bytes) (offset : Nat) : Bool :=
  match octets[offset]? with
  | some b => !continues b
  | none => offset == octets.length

/-- Whether a text can be cut at an offset is decided behind whatever stands in front. -/
theorem isBoundary_append (octets more : Bytes) (n : Nat) :
    isBoundary (octets ++ more) (octets.length + n) = isBoundary more n := by
  rw [isBoundary, List.getElem?_append_right (Nat.le_add_right ..), Nat.add_sub_cancel_left,
    isBoundary]
  -- past the last octet only the very end is a place to cut
  cases more[n]? with
  | none =>
    rw [Bool.eq_iff_iff]
    simp
  | some b => rfl

/-- There is no cut in front of an octet that continues a character. -/
theorem isBoundary_of_continues (h : b ∈ octets[n]?) (hb : continues b = true) :
    isBoundary octets n = false := by
  simp [isBoundary, Option.mem_def.mp h, hb]

/-- A text can be cut where one of its characters begins, and at its end. -/
theorem isBoundary_iff :
    isBoundary (encode s) n = true ↔ ∃ before after, s = before ++ after ∧ n = size before := by
  constructor
  · intro h
    -- induction on the text, of which the first character is taken off together with its octets
    induction s generalizing n with
    | nil =>
      have hend : n = 0 := by simpa [isBoundary, encode] using h
      exact ⟨[], [], rfl, hend⟩
    | cons c s ih =>
      obtain ⟨first, rest, hoctets, -, hrest⟩ := exists_octets c
      have hencode : encode (c :: s) = first :: rest ++ encode s := by rw [encode_cons, hoctets]
      rw [hencode] at h
      -- the offset is the start of the character, an offset within it, or one in the rest
      rcases Nat.eq_zero_or_pos n with rfl | hpos
      · exact ⟨[], c :: s, rfl, rfl⟩
      rcases Nat.lt_or_ge n (first :: rest).length with hlt | hge
      -- within the character, an octet is not the first, so it continues it
      · have hb : (first :: rest)[n] ∈ rest := by
          rw [List.getElem_cons, dif_neg (by omega)]
          exact List.getElem_mem _
        rw [isBoundary_of_continues (List.getElem?_append_left hlt ▸ List.getElem?_eq_getElem hlt)
          (hrest _ hb)] at h
        exact nomatch h
      · obtain ⟨m, rfl⟩ := Nat.exists_eq_add_of_le hge
        -- in the rest the offset counts from where the rest starts
        rw [isBoundary_append] at h
        obtain ⟨before, after, rfl, rfl⟩ := ih h
        refine ⟨c :: before, after, rfl, ?_⟩
        rw [size, size, encode_cons, hoctets, List.length_append]
  · rintro ⟨before, after, rfl, rfl⟩
    -- the cut is at offset zero of what comes after it
    rw [encode_append, size, ← Nat.add_zero (encode before).length, isBoundary_append]
    cases after with
    | nil => rfl
    | cons c after =>
      obtain ⟨first, rest, hoctets, hfirst, -⟩ := exists_octets c
      rw [encode_cons, hoctets]
      simp [isBoundary, hfirst]

/-- A slice of a text, from one offset up to another one. -/
structure Slice where
  text : List Char
  start : Nat
  stop : Nat
  deriving DecidableEq, Repr

namespace Slice

/-- The text has this slice. -/
@[mk_iff]
structure IsDefined (slice : Slice) : Prop where
  ordered : slice.start ≤ slice.stop
  bounded : slice.stop ≤ size slice.text
  start_boundary : isBoundary (encode slice.text) slice.start = true
  stop_boundary : isBoundary (encode slice.text) slice.stop = true

instance (slice : Slice) : Decidable slice.IsDefined :=
  decidable_of_iff _ (isDefined_iff slice).symm

/-- The text of a slice that is there. -/
def read? (slice : Slice) : Option (List Char) :=
  if slice.IsDefined then decode? (((encode slice.text).take slice.stop).drop slice.start)
  else none

/-- Only a slice that is there has a text. -/
theorem isDefined_of_read? {slice : Slice} (h : slice.read? = some t) : slice.IsDefined :=
  (Option.ite_none_right_eq_some.mp h).1

/-- Every part of a text is a slice of it. -/
theorem isDefined_append (before t after : List Char) :
    IsDefined ⟨before ++ t ++ after, size before, size before + size t⟩ where
  ordered := Nat.le_add_right ..
  bounded := by simp
  start_boundary := isBoundary_iff.mpr ⟨before, t ++ after, by simp, rfl⟩
  stop_boundary := isBoundary_iff.mpr ⟨before ++ t, after, rfl, by simp⟩

/-- A part of a text is read between the offsets at which it begins and ends. -/
theorem read?_of_parts {start stop : Nat} (before after : List Char)
    (htext : s = before ++ t ++ after) (hstart : start = size before)
    (hstop : stop = size before + size t) : read? ⟨s, start, stop⟩ = some t := by
  subst htext hstart hstop
  rw [read?, if_pos (isDefined_append before t after), decode?_eq_some_iff, encode_append,
    encode_append, size, size, ← List.length_append, List.take_left' rfl, List.drop_left' rfl]

/-- The slices that are there are the parts of the text. -/
theorem IsDefined.exists_parts {slice : Slice} (h : slice.IsDefined) :
    ∃ before t after, slice = ⟨before ++ t ++ after, size before, size before + size t⟩ := by
  -- each end of the slice cuts the text in two, and the two cuts are compared
  obtain ⟨text, start, stop⟩ := slice
  obtain ⟨hordered, -, hstart, hstop⟩ := h
  obtain ⟨before, rest, rfl, rfl⟩ := isBoundary_iff.mp hstart
  obtain ⟨lead, after, hs, rfl⟩ := isBoundary_iff.mp hstop
  simp only at hordered hs
  rcases List.append_eq_append_iff.mp hs with ⟨t, rfl, rfl⟩ | ⟨between, rfl, -⟩
  · exact ⟨before, t, after, by simp⟩
  · -- the offsets are in order, so nothing is between the two cuts
    rw [size_append] at hordered
    have hstop : size lead = size (lead ++ between) + size [] := by
      rw [size_append, size_nil]
      omega
    exact ⟨lead ++ between, [], rest, by rw [hstop, List.append_nil]⟩

end Slice

/-- A character of two octets is not cut. -/
example : ¬ Slice.IsDefined ⟨['é'], 0, 1⟩ := by decide

/-! ## Offsets of marks -/

/-- The offset of the first octet that is a mark. -/
def firstOffset? (mark : Char) (s : List Char) : Option Nat := (encode s).idxOf? (octet mark)

/-- The offset of the last octet that is a mark. -/
def lastOffset? (mark : Char) (s : List Char) : Option Nat :=
  ((encode s).reverse.idxOf? (octet mark)).map fun behind => size s - (behind + 1)

/-- The offsets of the outer parentheses of a text: its first `(` and its last `)`, if that stands
behind the first. -/
def enclosing? (s : List Char) : Option (Nat × Nat) := do
  let opening ← firstOffset? '(' s
  let closing ← lastOffset? ')' s
  if opening < closing then some (opening, closing) else none

/-- The first octet of a kind stands behind those that are of another kind. -/
theorem idxOf?_append_cons {octets : Bytes} (h : b ∉ octets) (more : Bytes) :
    (octets ++ b :: more).idxOf? b = some octets.length := by
  induction octets with
  | nil => simp [List.idxOf?_cons]
  | cons a octets ih =>
    obtain ⟨ha, hoctets⟩ := not_or.mp (mt List.mem_cons.mpr h)
    rw [List.cons_append, List.idxOf?_cons, if_neg (by simpa using Ne.symm ha), ih hoctets]
    rfl

/-- The first octet of a mark is where the text is split at its first mark. -/
theorem firstOffset?_eq (hmark : mark.toNat < 0x80) (s : List Char) :
    firstOffset? mark s = (splitFirst mark s).map fun (before, _) => size before := by
  cases h : splitFirst mark s with
  | none =>
    -- without the mark there is no octet to find
    exact List.idxOf?_eq_none_iff.mpr
      (mt (octet_mem_encode_iff hmark).mp (splitFirst_eq_none_iff.mp h))
  | some parts =>
    obtain ⟨before, after⟩ := parts
    obtain ⟨rfl, hbefore⟩ := splitFirst_eq_some_iff.mp h
    -- what stands before the first mark has no mark, and so none of its octets either
    rw [firstOffset?, encode_append, encode_cons_mark hmark,
      idxOf?_append_cons (mt (octet_mem_encode_iff hmark).mp hbefore)]
    rfl

/-- The last octet of a mark is where the text is split at its last mark. -/
theorem lastOffset?_eq (hmark : mark.toNat < 0x80) (s : List Char) :
    lastOffset? mark s = (splitLast mark s).map fun (before, _) => size before := by
  cases h : splitLast mark s with
  | none =>
    have hnone : octet mark ∉ (encode s).reverse := fun hmem =>
      splitLast_eq_none_iff.mp h ((octet_mem_encode_iff hmark).mp (List.mem_reverse.mp hmem))
    rw [lastOffset?, List.idxOf?_eq_none_iff.mpr hnone]
    rfl
  | some parts =>
    obtain ⟨before, after⟩ := parts
    obtain ⟨rfl, hafter⟩ := splitLast_eq_some_iff.mp h
    -- read from behind, the last mark is the first one
    have hafter' : octet mark ∉ (encode after).reverse :=
      fun h => hafter ((octet_mem_encode_iff hmark).mp (List.mem_reverse.mp h))
    have hreverse : (encode (before ++ mark :: after)).reverse =
        (encode after).reverse ++ octet mark :: (encode before).reverse := by
      rw [encode_append, encode_cons_mark hmark]
      simp
    rw [lastOffset?, hreverse, idxOf?_append_cons hafter', List.length_reverse, Option.map_some,
      size_append, size_cons_mark hmark, ← size, ← Nat.add_assoc]
    simp

/-- The outer parentheses by their offsets are those by the parts of the text. -/
theorem enclosing?_eq (s : List Char) :
    enclosing? s = (parenthesized? s).map fun p =>
      (size p.before, size p.before + 1 + size p.inside) := by
  rw [enclosing?, parenthesized?, firstOffset?_eq (by decide), lastOffset?_eq (by decide)]
  cases hfirst : splitFirst '(' s with
  | none => rfl
  | some parts =>
    obtain ⟨before, rest⟩ := parts
    obtain ⟨rfl, -⟩ := splitFirst_eq_some_iff.mp hfirst
    cases hlast : splitLast ')' rest with
    | none =>
      -- a `)` can only stand before the first `(`
      simp only [hlast, Option.map_none]
      cases h : splitLast ')' (before ++ '(' :: rest) with
      | none => rfl
      | some parts =>
        obtain ⟨left, right⟩ := parts
        obtain ⟨hs, -⟩ := splitLast_eq_some_iff.mp h
        -- such a `)` is not behind the `(`, so there are no parentheses by offsets either
        have hle : size left ≤ size before := by
          rcases List.append_eq_append_iff.mp hs with ⟨between, -, hrest⟩ | ⟨between, rfl, -⟩
          · have hmem : ')' ∈ '(' :: rest := by simp [hrest]
            exact absurd (by simpa using hmem) (splitLast_eq_none_iff.mp hlast)
          · simp
        exact if_neg (Nat.not_lt.mpr hle)
    | some parts =>
      obtain ⟨inside, after⟩ := parts
      obtain ⟨rfl, hafter⟩ := splitLast_eq_some_iff.mp hlast
      -- the last `)` of the rest is the last one of the whole text
      have hsplit : splitLast ')' (before ++ '(' :: (inside ++ ')' :: after)) =
          some (before ++ '(' :: inside, after) :=
        splitLast_eq_some_iff.mpr ⟨by simp, hafter⟩
      have hclosing : size (before ++ '(' :: inside) = size before + 1 + size inside := by
        rw [size_append, size_cons_mark (by decide)]
        omega
      have hlt : size before < size before + 1 + size inside := by omega
      simp only [hsplit, hlast, Option.map_some, hclosing]
      exact if_pos hlt

/-- The parts around the outer parentheses are there. -/
theorem read?_parenthesized {p : Parenthesized} (h : parenthesized? s = some p) :
    Slice.read? ⟨s, 0, size p.before⟩ = some p.before ∧
      Slice.read? ⟨s, size p.before + 1, size p.before + 1 + size p.inside⟩ = some p.inside ∧
      Slice.read? ⟨s, size p.before + 1 + size p.inside + 1, size s⟩ = some p.after := by
  obtain ⟨before, inside, after⟩ := p
  obtain ⟨rfl, -, -⟩ := parenthesized?_eq_some_iff.mp h
  -- each parenthesis is one octet, which is what the offsets add to the sizes of the parts
  have hopening (t : List Char) : size ('(' :: t) = size t + 1 := size_cons_mark (by decide) t
  have hclosing (t : List Char) : size (')' :: t) = size t + 1 := size_cons_mark (by decide) t
  refine ⟨Slice.read?_of_parts [] ('(' :: (inside ++ ')' :: after)) rfl rfl (Nat.zero_add _).symm,
    Slice.read?_of_parts (before ++ ['(']) (')' :: after) (by simp) ?_ ?_,
    Slice.read?_of_parts (before ++ '(' :: (inside ++ [')'])) [] (by simp) ?_ ?_⟩
  all_goals simp only [size_append, hopening, hclosing, size_nil] <;> omega

/-! ## Readings that ask for slices -/

/-- A computation that asks for slices, and crashes at the first one that is not there. -/
structure Slicing (α : Type) where
  asked : List Slice
  fate : Fate α

instance : Monad Slicing where
  pure a := ⟨[], .returned a⟩
  bind x f :=
    match x.fate with
    | .returned a => ⟨x.asked ++ (f a).asked, (f a).fate⟩
    | .crashed message => ⟨x.asked, .crashed message⟩

/-- Ask for a slice. -/
def slice (s : List Char) (start stop : Nat) : Slicing (List Char) where
  asked := [⟨s, start, stop⟩]
  fate :=
    match Slice.read? ⟨s, start, stop⟩ with
    | some t => .returned t
    | none => .crashed "no such slice"

/-- A text stands in quotes if it begins and ends with one, and these are two. -/
def isQuoted (s : List Char) : Bool :=
  2 ≤ size s && s.head? == some '"' && s.getLast? == some '"'

/-- Remove one level of quotes by offsets. -/
def unquoteSliced (s : List Char) : Slicing (List Char) :=
  if isQuoted s then slice s 1 (size s - 1) else pure s

/-- The quotes around a text are two octets more. -/
theorem size_quoted (t : List Char) : size ('"' :: (t ++ ['"'])) = 1 + size t + 1 := by
  rw [size_cons_mark (by decide), size_append, size_cons_mark (by decide), size_nil]
  omega

/-- A text in quotes is two quotes with something between them. -/
theorem isQuoted_iff : isQuoted s = true ↔ ∃ t, s = '"' :: (t ++ ['"']) := by
  simp only [isQuoted, Bool.and_eq_true, decide_eq_true_eq, beq_iff_eq]
  constructor
  · rintro ⟨⟨hsize, hhead⟩, hlast⟩
    obtain ⟨rest, rfl⟩ := List.head?_eq_some_iff.mp hhead
    rcases List.eq_nil_or_concat rest with rfl | ⟨t, c, rfl⟩
    · -- one quote is not both of them
      exact absurd hsize (by decide)
    · rw [List.concat_eq_append, ← List.cons_append, List.getLast?_concat] at hlast
      obtain rfl := Option.some.inj hlast
      exact ⟨t, by rw [List.concat_eq_append]⟩
  · rintro ⟨t, rfl⟩
    rw [size_quoted, ← List.cons_append, List.getLast?_concat]
    exact ⟨⟨by omega, rfl⟩, rfl⟩

/-- What stands in quotes is there. -/
theorem read?_quoted (t : List Char) :
    Slice.read? ⟨'"' :: (t ++ ['"']), 1, size ('"' :: (t ++ ['"'])) - 1⟩ = some t :=
  Slice.read?_of_parts ['"'] ['"'] rfl (by decide) (by rw [size_quoted]; rfl)

section

variable {ε σ α β : Type} {e : ε} {a : α}

/-- What is asked for first comes before what is asked for then. -/
theorem Slicing.bind_of_returned {x : Slicing α} (h : x.fate = .returned a) (f : α → Slicing β) :
    x >>= f = ⟨x.asked ++ (f a).asked, (f a).fate⟩ := by
  simp only [bind, h]

/-- A reading ends with `r`, and every slice that it asks for is there. -/
structure Reads (x : ExceptT ε Slicing α) (r : Except ε α) : Prop where
  returned : x.run.fate = .returned r
  defined : ∀ slice ∈ x.run.asked, slice.IsDefined

namespace Reads

variable {x : ExceptT ε Slicing α} {f : α → ExceptT ε Slicing β} {r : Except ε α}

/-- What asks for no slice. -/
theorem ofExcept (r : Except ε α) : Reads (liftM r : ExceptT ε Slicing α) r where
  returned := rfl
  defined := fun _ h => nomatch h

/-- To give a result asks for no slice. -/
theorem pure (a : α) : Reads (Pure.pure a : ExceptT ε Slicing α) (.ok a) := ofExcept (.ok a)

/-- To give an error asks for no slice. -/
theorem throw (e : ε) : Reads (MonadExcept.throw e : ExceptT ε Slicing α) (.error e) :=
  ofExcept (.error e)

/-- After a result the reading goes on, and both parts ask for slices that are there. -/
theorem bind_ok {r : Except ε β} (hx : Reads x (.ok a)) (hf : Reads (f a) r) :
    Reads (x >>= f) r := by
  have hrun : (x >>= f).run = ⟨x.run.asked ++ (f a).run.asked, (f a).run.fate⟩ := by
    rw [ExceptT.run_bind, Slicing.bind_of_returned hx.returned]
  constructor
  · rw [hrun]
    exact hf.returned
  · rw [hrun]
    exact List.forall_mem_append.mpr ⟨hx.defined, hf.defined⟩

/-- After an error nothing more is asked for. -/
theorem bind_error (hx : Reads x (.error e)) : Reads (x >>= f) (.error e) := by
  have hrun : (x >>= f).run = ⟨x.run.asked ++ [], .returned (.error e)⟩ := by
    rw [ExceptT.run_bind, Slicing.bind_of_returned hx.returned]
    rfl
  constructor
  · rw [hrun]
  · rw [hrun, List.append_nil]
    exact hx.defined

/-- One reading after the other. -/
theorem bind {g : α → Except ε β} (hx : Reads x r) (hf : ∀ a, Reads (f a) (g a)) :
    Reads (x >>= f) (r >>= g) := by
  cases r with
  | error e => exact hx.bind_error
  | ok a => exact hx.bind_ok (hf a)

/-- A reading of items, each with its own reading. -/
theorem foldlM {f : σ → α → ExceptT ε Slicing σ} {g : σ → α → Except ε σ}
    (h : ∀ state a, Reads (f state a) (g state a)) (items : List α) (state : σ) :
    Reads (items.foldlM f state) (items.foldlM g state) := by
  -- induction on the items; the state after one of them is where the next reading starts
  induction items generalizing state with
  | nil => exact pure state
  | cons a items ih =>
    rw [List.foldlM_cons, List.foldlM_cons]
    exact (h state a).bind ih

/-- What asks for slices and gives no error. -/
theorem lift {x : Slicing α} (h : x.fate = .returned a)
    (hasked : ∀ slice ∈ x.asked, slice.IsDefined) :
    Reads (liftM x : ExceptT ε Slicing α) (.ok a) := by
  have hrun : (liftM x : ExceptT ε Slicing α).run = ⟨x.asked ++ [], .returned (.ok a)⟩ :=
    Slicing.bind_of_returned h fun a => Pure.pure (Except.ok a)
  constructor
  · rw [hrun]
  · rw [hrun, List.append_nil]
    exact hasked

/-- A slice that is there. -/
theorem slice {start stop : Nat} (h : Slice.read? ⟨s, start, stop⟩ = some t) :
    Reads (liftM (slice s start stop) : ExceptT ε Slicing (List Char)) (.ok t) := by
  refine lift ?_ fun slice hslice => ?_
  · rw [Text.slice, h]
  · rw [List.mem_singleton.mp hslice]
    exact Slice.isDefined_of_read? h

/-- Removing quotes by offsets is removing quotes. -/
theorem unquote (s : List Char) :
    Reads (liftM (unquoteSliced s) : ExceptT ε Slicing (List Char)) (.ok (Text.unquote s)) := by
  by_cases hquoted : isQuoted s = true
  -- a text in quotes has the slice between them
  · obtain ⟨t, rfl⟩ := isQuoted_iff.mp hquoted
    rw [unquoteSliced, if_pos hquoted, unquote_quoted]
    exact slice (read?_quoted t)
  · rw [unquoteSliced, if_neg hquoted]
    -- any other text is left as it is and asks for nothing
    rcases unquote_cases s with hs | hs
    · rw [hs]
      exact pure s
    · exact absurd (isQuoted_iff.mpr ⟨_, hs⟩) hquoted

end Reads
end

end PolicyReplay.Text
