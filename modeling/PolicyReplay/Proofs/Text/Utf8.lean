import Mathlib.Tactic.SplitIfs
import PolicyReplay.Proofs.List
import PolicyReplay.Text.Utf8

/-!
# Reading UTF-8 strictly

The octets that lead from a state of the scan to a character are a relation, which the scan follows
as long as it finds no broken piece. From the start of a character these octets are its encoding, so
octets are read as a text exactly if they are the octets of that text.

## Key results

- `scan_spelled`, `scan_cases`: the scan reads the octets of a character, or finds a broken piece
- `spells_start_iff`: the octets of a character are its encoding
- `decode?_eq_some_iff`: reading octets strictly is inverse to writing them
-/

namespace PolicyReplay.Text

/-- The octets that lead from somewhere within a character to its end. -/
inductive Spells : Progress → Bytes → Char → Prop where
  | complete (c : Char) : Spells (.complete c) [] c
  | next {p : Pending} {b : UInt8} {octets : Bytes} {c : Char} :
    Spells (p.next b) octets c → Spells (.pending p) (b :: octets) c

/-! ## The scan -/

section

variable {p : Pending} {b : UInt8} {octets : Bytes} {c : Char}

/-- From within a character the octets that lead to its end are read as the character. -/
theorem scan_pending (h : Spells (.pending p) octets c) (rest : Bytes) :
    scan (some p) (octets ++ rest) = some c :: scan none rest := by
  -- by induction on the octets that lead to the end, from any state within the character
  generalize hfrom : Progress.pending p = origin at h
  induction h generalizing p with
  | complete c => exact nomatch hfrom
  | @next q b octets c hnext ih =>
    obtain rfl := Progress.pending.inj hfrom
    rw [List.cons_append, scan]
    -- either this octet was the last one, or the scan goes on within the character
    generalize hprogress : p.next b = progress at hnext ih
    cases hnext with
    | complete c => rfl
    | next hrest => exact ih rfl

/-- The octets of a character are read as the character. -/
theorem scan_spelled (h : Spells (start b) octets c) (rest : Bytes) :
    scan none (b :: octets ++ rest) = some c :: scan none rest := by
  rw [List.cons_append, scan]
  generalize start b = progress at h
  cases h with
  | complete c => rfl
  | next hnext => exact scan_pending (.next hnext) rest

/-- From within a character there is its end, or a broken piece is found. -/
theorem scan_pending_cases (p : Pending) (bytes : Bytes) :
    (∃ octets rest c, bytes = octets ++ rest ∧ Spells (.pending p) octets c) ∨
      none ∈ scan (some p) bytes := by
  -- by induction on the octets: if they end within a character, that is a broken piece
  induction bytes generalizing p with
  | nil => exact .inr List.mem_cons_self
  | cons b bytes ih =>
    -- the next octet ends the character, breaks it, or leads further into it
    cases hnext : p.next b with
    | complete c => exact .inl ⟨[b], bytes, c, rfl, .next (hnext ▸ .complete c)⟩
    | broken =>
      right
      rw [scan, hnext]
      exact List.mem_cons_self
    | pending q =>
      rcases ih q with ⟨octets, rest, c, rfl, hspells⟩ | hbroken
      · exact .inl ⟨b :: octets, rest, c, rfl, .next (hnext ▸ hspells)⟩
      · right
        rw [scan, hnext]
        exact hbroken

/-- At the start there is a character, or a broken piece is found. -/
theorem scan_cases (b : UInt8) (bytes : Bytes) :
    (∃ octets rest c, bytes = octets ++ rest ∧ Spells (start b) octets c) ∨
      none ∈ scan none (b :: bytes) := by
  rw [scan]
  cases start b with
  | complete c => exact .inl ⟨[], bytes, c, rfl, .complete c⟩
  | broken => exact .inr List.mem_cons_self
  | pending p => exact scan_pending_cases p bytes

end

/-! ## The octets of a character -/

section

variable {bits owed : Nat} {low high : UInt8} {octets : Bytes} {c d : Char}

/-- Nothing leads from the end of a character but to it. -/
theorem spells_complete_iff : Spells (.complete d) octets c ↔ octets = [] ∧ c = d := by
  constructor
  · rintro ⟨⟩
    exact ⟨rfl, rfl⟩
  · rintro ⟨rfl, rfl⟩
    exact .complete c

/-- Nothing leads from a broken piece to a character. -/
theorem not_spells_broken : ¬ Spells .broken octets c := nofun

/-- The last octet of a character. -/
theorem spells_last_iff :
    Spells (.pending ⟨bits, 0, low, high⟩) octets c ↔
      ∃ b : UInt8, octets = [b] ∧ (low.toNat ≤ b.toNat ∧ b.toNat ≤ high.toNat) ∧
        c = Char.ofNat (bits * 64 + (b.toNat - 0x80)) := by
  simp only [← UInt8.le_iff_toNat_le]
  constructor
  -- an octet out of its range breaks the character, and then nothing leads to its end
  · rintro (_ | @⟨_, b, octets, _, hnext⟩)
    simp only [Pending.next, Bool.and_eq_true, decide_eq_true_eq] at hnext
    split at hnext
    · rename_i hb
      obtain ⟨rfl, hc⟩ := spells_complete_iff.mp hnext
      exact ⟨b, rfl, hb, hc⟩
    · exact absurd hnext not_spells_broken
  · rintro ⟨b, rfl, hb, hc⟩
    refine .next ?_
    simp only [Pending.next, Bool.and_eq_true, decide_eq_true_eq, if_pos hb]
    exact spells_complete_iff.mpr ⟨rfl, hc⟩

/-- An octet of a character that is not the last one. -/
theorem spells_inner_iff :
    Spells (.pending ⟨bits, owed + 1, low, high⟩) octets c ↔
      ∃ b : UInt8, ∃ rest, octets = b :: rest ∧
        (low.toNat ≤ b.toNat ∧ b.toNat ≤ high.toNat) ∧
        Spells (.pending ⟨bits * 64 + (b.toNat - 0x80), owed, 0x80, 0xBF⟩) rest c := by
  simp only [← UInt8.le_iff_toNat_le]
  constructor
  · rintro (_ | @⟨_, b, rest, _, hnext⟩)
    simp only [Pending.next, Bool.and_eq_true, decide_eq_true_eq] at hnext
    split at hnext
    · rename_i hb
      exact ⟨b, rest, rfl, hb, hnext⟩
    · exact absurd hnext not_spells_broken
  · rintro ⟨b, rest, rfl, hb, hrest⟩
    refine .next ?_
    simp only [Pending.next, Bool.and_eq_true, decide_eq_true_eq, if_pos hb]
    exact hrest

/-- An octet that is a character. -/
theorem start_one {b : UInt8} (h : b.toNat < 0x80) :
    start b = .complete (Char.ofNat b.toNat) := by
  simp [start, h]

/-- An octet with which no character starts. -/
theorem start_broken {b : UInt8}
    (h : (0x80 ≤ b.toNat ∧ b.toNat < 0xC2) ∨ 0xF5 ≤ b.toNat) : start b = .broken := by
  simp only [start]
  rw [if_neg (by omega)]
  -- the other ranges of first octets do not meet this one
  split_ifs <;> first
    | rfl
    | omega

/-- What may follow the first octet of two. -/
theorem spells_two_iff {b : UInt8} (hlow : 0xC2 ≤ b.toNat) (hhigh : b.toNat < 0xE0) :
    Spells (start b) octets c ↔ ∃ x : UInt8, octets = [x] ∧
      (0x80 ≤ x.toNat ∧ x.toNat ≤ 0xBF) ∧
      c = Char.ofNat ((b.toNat - 0xC0) * 64 + (x.toNat - 0x80)) := by
  have hstart : start b = .pending { bits := b.toNat - 0xC0, owed := 0 } := by
    simp only [start]
    rw [if_neg (by omega), if_neg (by omega), if_pos hhigh]
  rw [hstart]
  exact spells_last_iff

/-- How a character of three octets starts. -/
theorem start_three {b : UInt8} (hlow : 0xE0 ≤ b.toNat) (hhigh : b.toNat < 0xF0) :
    start b = .pending ⟨b.toNat - 0xE0, 1, if b.toNat = 0xE0 then 0xA0 else 0x80,
      if b.toNat = 0xED then 0x9F else 0xBF⟩ := by
  simp only [start]
  rw [if_neg (by omega), if_neg (by omega), if_neg (by omega)]
  -- only the least and the greatest first octet narrow what may follow them
  by_cases hfirst : b.toNat = 0xE0
  · simp [hfirst]
  · by_cases hlast : b.toNat = 0xED
    · simp [hlast]
    · simp [hfirst, hlast, hhigh]

/-- How a character of four octets starts. -/
theorem start_four {b : UInt8} (hlow : 0xF0 ≤ b.toNat) (hhigh : b.toNat < 0xF5) :
    start b = .pending ⟨b.toNat - 0xF0, 2, if b.toNat = 0xF0 then 0x90 else 0x80,
      if b.toNat = 0xF4 then 0x8F else 0xBF⟩ := by
  simp only [start]
  rw [if_neg (by omega), if_neg (by omega), if_neg (by omega), if_neg (by omega),
    if_neg (by omega), if_neg (by omega)]
  -- here too only the least and the greatest first octet narrow what may follow them
  by_cases hfirst : b.toNat = 0xF0
  · simp [hfirst]
  · by_cases hlast : b.toNat = 0xF4
    · simp [hlast]
    · have hbetween : b.toNat < 0xF4 := by omega
      simp [hfirst, hlast, hbetween]

/-- The second octet, where the least or the greatest first octet asks more of it. -/
theorem second_iff {b x first last low high : Nat} (hlow : 0x80 ≤ low)
    (hhigh : high ≤ 0xBF) :
    ((if b = first then low else 0x80) ≤ x ∧ x ≤ if b = last then high else 0xBF) ↔
      (0x80 ≤ x ∧ x ≤ 0xBF) ∧ (b = first → low ≤ x) ∧ (b = last → x ≤ high) := by
  split_ifs <;> omega

/-- What may follow the first octet of three: no shorter form and no surrogate. -/
theorem spells_three_iff {b : UInt8} (hlow : 0xE0 ≤ b.toNat) (hhigh : b.toNat < 0xF0) :
    Spells (start b) octets c ↔ ∃ x y : UInt8, octets = [x, y] ∧
      ((0x80 ≤ x.toNat ∧ x.toNat ≤ 0xBF) ∧ (b.toNat = 0xE0 → 0xA0 ≤ x.toNat) ∧
        (b.toNat = 0xED → x.toNat ≤ 0x9F)) ∧
      (0x80 ≤ y.toNat ∧ y.toNat ≤ 0xBF) ∧
      c = Char.ofNat (((b.toNat - 0xE0) * 64 + (x.toNat - 0x80)) * 64 + (y.toNat - 0x80)) := by
  -- the second octet is an inner one, with its own range, and the third is the last one
  rw [start_three hlow hhigh, spells_inner_iff]
  simp only [spells_last_iff, apply_ite UInt8.toNat]
  constructor
  · rintro ⟨x, rest, rfl, hx, y, rfl, hy, hc⟩
    exact ⟨x, y, rfl, (second_iff (by decide) (by decide)).mp hx, hy, hc⟩
  · rintro ⟨x, y, rfl, hx, hy, hc⟩
    exact ⟨x, [y], rfl, (second_iff (by decide) (by decide)).mpr hx, y, rfl, hy, hc⟩

/-- What may follow the first octet of four: no shorter form, and nothing beyond the last code. -/
theorem spells_four_iff {b : UInt8} (hlow : 0xF0 ≤ b.toNat) (hhigh : b.toNat < 0xF5) :
    Spells (start b) octets c ↔ ∃ x y z : UInt8, octets = [x, y, z] ∧
      ((0x80 ≤ x.toNat ∧ x.toNat ≤ 0xBF) ∧ (b.toNat = 0xF0 → 0x90 ≤ x.toNat) ∧
        (b.toNat = 0xF4 → x.toNat ≤ 0x8F)) ∧
      (0x80 ≤ y.toNat ∧ y.toNat ≤ 0xBF) ∧ (0x80 ≤ z.toNat ∧ z.toNat ≤ 0xBF) ∧
      c = Char.ofNat ((((b.toNat - 0xF0) * 64 + (x.toNat - 0x80)) * 64 + (y.toNat - 0x80)) * 64 +
        (z.toNat - 0x80)) := by
  rw [start_four hlow hhigh, spells_inner_iff]
  -- two inner octets, of which only the first has its own range, and the last one
  simp only [spells_inner_iff, spells_last_iff, apply_ite UInt8.toNat]
  constructor
  · rintro ⟨x, _, rfl, hx, y, _, rfl, hy, z, rfl, hz, hc⟩
    exact ⟨x, y, z, rfl, (second_iff (by decide) (by decide)).mp hx, hy, hz, hc⟩
  · rintro ⟨x, y, z, rfl, hx, hy, hz, hc⟩
    exact ⟨x, [y, z], rfl, (second_iff (by decide) (by decide)).mpr hx, y, [z], rfl, hy, z, rfl,
      hz, hc⟩

/-- The octets of a character as numbers, by how many it takes. -/
theorem map_toNat_utf8EncodeChar (c : Char) :
    (String.utf8EncodeChar c).map UInt8.toNat =
      if c.toNat ≤ 127 then [c.toNat]
      else if c.toNat ≤ 2047 then [c.toNat / 64 + 0xC0, c.toNat % 64 + 0x80]
      else if c.toNat ≤ 65535 then
        [c.toNat / 4096 + 0xE0, c.toNat / 64 % 64 + 0x80, c.toNat % 64 + 0x80]
      else
        [c.toNat / 262144 + 0xF0, c.toNat / 4096 % 64 + 0x80, c.toNat / 64 % 64 + 0x80,
          c.toNat % 64 + 0x80] := by
  -- the code of a character has an upper bound, so each number below fits into an octet
  have hvalid : c.toNat.isValidChar := c.valid
  rw [Nat.isValidChar] at hvalid
  have hcode : c.val.toNat = c.toNat := rfl
  simp only [String.utf8EncodeChar, hcode]
  split_ifs
  all_goals
    simp only [List.map_cons, List.map_nil, UInt8.toNat_ofNat', List.cons.injEq, and_true]
    omega

/-- The code of a character is the number that it is made of. -/
theorem toNat_of_eq_ofNat {n : Nat} (hc : c = Char.ofNat n) (hn : n.isValidChar) :
    c.toNat = n := by
  rw [hc, Char.ofNat, dif_pos hn]
  rfl

/-- The octets that lead to a character from the start are its encoding. -/
theorem map_toNat_of_spells {b : UInt8} (h : Spells (start b) octets c) :
    (b :: octets).map UInt8.toNat = (String.utf8EncodeChar c).map UInt8.toNat := by
  -- the first octet says how many there are, and two ranges of it start no character
  have hb : b.toNat < 0x100 := b.toNat_lt
  rw [map_toNat_utf8EncodeChar]
  rcases Nat.lt_or_ge b.toNat 0x80 with hone | hone
  · rw [start_one hone, spells_complete_iff] at h
    obtain ⟨rfl, hc⟩ := h
    have hcode := toNat_of_eq_ofNat hc (by left; omega)
    rw [if_pos (by omega), hcode]
    rfl
  rcases Nat.lt_or_ge b.toNat 0xC2 with hbroken | htwo
  · rw [start_broken (.inl ⟨hone, hbroken⟩)] at h
    exact absurd h not_spells_broken
  rcases Nat.lt_or_ge b.toNat 0xE0 with htwo' | hthree
  · rw [spells_two_iff htwo htwo'] at h
    obtain ⟨x, rfl, hx, hc⟩ := h
    have hcode := toNat_of_eq_ofNat hc (by left; omega)
    rw [if_neg (by omega), if_pos (by omega)]
    simp only [List.map_cons, List.map_nil, List.cons.injEq, and_true]
    omega
  rcases Nat.lt_or_ge b.toNat 0xF0 with hthree' | hfour
  · rw [spells_three_iff hthree hthree'] at h
    obtain ⟨x, y, rfl, hx, hy, hc⟩ := h
    have hcode := toNat_of_eq_ofNat hc (by rw [Nat.isValidChar]; omega)
    rw [if_neg (by omega), if_neg (by omega), if_pos (by omega)]
    simp only [List.map_cons, List.map_nil, List.cons.injEq, and_true]
    omega
  rcases Nat.lt_or_ge b.toNat 0xF5 with hfour' | hbroken
  · rw [spells_four_iff hfour hfour'] at h
    obtain ⟨x, y, z, rfl, hx, hy, hz, hc⟩ := h
    have hcode := toNat_of_eq_ofNat hc (by rw [Nat.isValidChar]; omega)
    rw [if_neg (by omega), if_neg (by omega), if_neg (by omega)]
    simp only [List.map_cons, List.map_nil, List.cons.injEq, and_true]
    omega
  · rw [start_broken (.inr hbroken)] at h
    exact absurd h not_spells_broken

/-- The encoding of a character leads to it from the start. -/
theorem spells_of_map_toNat {b : UInt8}
    (h : (b :: octets).map UInt8.toNat = (String.utf8EncodeChar c).map UInt8.toNat) :
    Spells (start b) octets c := by
  have hvalid : c.toNat.isValidChar := c.valid
  rw [Nat.isValidChar] at hvalid
  -- the number is the code of a character, so the character is the one with that number
  have hcode {n : Nat} (hn : n = c.toNat) : c = Char.ofNat n := by rw [hn, Char.ofNat_toNat]
  rw [map_toNat_utf8EncodeChar] at h
  simp only [List.map_cons] at h
  -- the cases are those of the code: it takes one octet, or two, three or four
  split_ifs at h with hone htwo hthree
  · simp only [List.cons.injEq, List.map_eq_nil_iff] at h
    obtain ⟨hb, rfl⟩ := h
    rw [start_one (by omega), spells_complete_iff]
    exact ⟨rfl, hcode hb⟩
  · simp only [List.cons.injEq, List.map_eq_cons_iff, List.map_eq_nil_iff] at h
    obtain ⟨hb, x, _, rfl, hx, rfl⟩ := h
    rw [spells_two_iff (by omega) (by omega)]
    exact ⟨x, rfl, by omega, hcode (by omega)⟩
  · simp only [List.cons.injEq, List.map_eq_cons_iff, List.map_eq_nil_iff] at h
    obtain ⟨hb, x, _, rfl, hx, y, _, rfl, hy, rfl⟩ := h
    rw [spells_three_iff (by omega) (by omega)]
    exact ⟨x, y, rfl, by omega, by omega, hcode (by omega)⟩
  · simp only [List.cons.injEq, List.map_eq_cons_iff, List.map_eq_nil_iff] at h
    obtain ⟨hb, x, _, rfl, hx, y, _, rfl, hy, z, _, rfl, hz, rfl⟩ := h
    rw [spells_four_iff (by omega) (by omega)]
    exact ⟨x, y, z, rfl, by omega, by omega, by omega, hcode (by omega)⟩

/-- Octets lead from the start to a character exactly if they are its encoding. -/
theorem spells_start_iff {b : UInt8} :
    Spells (start b) octets c ↔ b :: octets = String.utf8EncodeChar c := by
  -- octets are compared as numbers
  have hinjective : Function.Injective (List.map UInt8.toNat) :=
    List.map_injective_iff.mpr fun _ _ => UInt8.toNat_inj.mp
  rw [← hinjective.eq_iff]
  exact ⟨map_toNat_of_spells, spells_of_map_toNat⟩

end

/-! ## Texts -/

/-- The encoding of a text starts with that of its first character. -/
theorem encode_cons (c : Char) (s : List Char) :
    encode (c :: s) = String.utf8EncodeChar c ++ encode s := rfl

/-- The encoding of texts one behind the other is their encodings one behind the other. -/
theorem encode_append (s t : List Char) : encode (s ++ t) = encode s ++ encode t :=
  List.flatMap_append

/-- The octets of a text are read as the text. -/
theorem scan_encode (s : List Char) : scan none (encode s) = s.map some := by
  induction s with
  | nil => rfl
  -- by induction on the text, reading one character off its encoding at a time
  | cons c s ih =>
    obtain ⟨b, octets, hc⟩ := List.exists_cons_of_ne_nil (String.utf8EncodeChar_ne_nil (c := c))
    rw [encode_cons, hc, scan_spelled (spells_start_iff.mpr hc.symm), ih,
      List.map_cons]

/-- Octets that are read without a broken piece are those of the text that is read. -/
theorem eq_encode_of_scan {bytes : Bytes} {s : List Char} (h : scan none bytes = s.map some) :
    bytes = encode s := by
  -- by induction on the text that is read: the octets start with the encoding of its first
  -- character
  induction s generalizing bytes with
  | nil =>
    cases bytes with
    | nil => rfl
    | cons b bytes =>
      rcases scan_cases b bytes with ⟨octets, rest, c, rfl, hspells⟩ | hbroken
      · rw [← List.cons_append, scan_spelled hspells] at h
        exact nomatch h
      -- a broken piece is no character, and only characters are read
      · rw [h] at hbroken
        exact nomatch hbroken
  | cons c s ih =>
    cases bytes with
    | nil => exact nomatch h
    | cons b bytes =>
      rcases scan_cases b bytes with ⟨octets, rest, d, rfl, hspells⟩ | hbroken
      · rw [← List.cons_append, scan_spelled hspells, List.map_cons] at h
        obtain ⟨hd, hrest⟩ := List.cons.inj h
        obtain rfl := Option.some.inj hd
        rw [ih hrest, encode_cons, ← spells_start_iff.mp hspells, List.cons_append]
      · rw [h] at hbroken
        simp at hbroken

/-- Octets are read as a text exactly if they are the octets of that text. -/
theorem decode?_eq_some_iff {bytes : Bytes} {s : List Char} :
    decode? bytes = some s ↔ bytes = encode s := by
  rw [decode?, List.mapM_eq_some_iff, List.map_id]
  refine ⟨eq_encode_of_scan, ?_⟩
  rintro rfl
  exact scan_encode s

/-- No two texts have the same octets. -/
theorem encode_injective : Function.Injective encode := by
  intro s t h
  have hread := decode?_eq_some_iff.mpr h
  rw [decode?_eq_some_iff.mpr rfl] at hread
  exact Option.some.inj hread

end PolicyReplay.Text
