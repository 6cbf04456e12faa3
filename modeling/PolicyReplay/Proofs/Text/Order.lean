import Mathlib.Data.List.Lex
import Mathlib.Tactic.SplitIfs
import PolicyReplay.Text.Utf8

/-!
# The order of texts

Texts are compared octet by octet. UTF-8 keeps the order of the characters, so it is the order in
which the strings of this library are compared, character by character.

## Key results

- `lex_utf8EncodeChar`: the octets of two characters are in the order of the characters
- `precedes_iff_lt`: the order of the octets is the order of the strings
-/

namespace PolicyReplay.Text

/-- The octets of a text come before those of another one: they end before the others do, or the
first that is not the same is smaller. -/
def Precedes (s t : String) : Prop :=
  List.Lex (· < ·) (encode s.toList) (encode t.toList)

/-! ## Characters -/

section

variable {n m : Nat} {a b : UInt8} {as bs : Bytes}

/-- A smaller first octet decides. -/
theorem lex_ofNat_of_lt (h : n < m) (hm : m < 256) :
    List.Lex (· < ·) (UInt8.ofNat n :: as) (UInt8.ofNat m :: bs) := by
  refine .rel (UInt8.lt_iff_toNat_lt.mpr ?_)
  simp only [UInt8.toNat_ofNat']
  omega

/-- Where the first octets may be the same, the ones behind them decide. -/
theorem lex_ofNat_of_le (h : n ≤ m) (hm : m < 256) (htail : n = m → List.Lex (· < ·) as bs) :
    List.Lex (· < ·) (UInt8.ofNat n :: as) (UInt8.ofNat m :: bs) := by
  rcases Nat.lt_or_eq_of_le h with hlt | rfl
  · exact lex_ofNat_of_lt hlt hm
  · exact .cons (htail rfl)

end

/-- More octets begin with a greater one, and among as many the digits to the base 64 are in the
order of the numbers. -/
theorem lex_utf8EncodeChar {c d : Char} (h : c < d) (s t : Bytes) :
    List.Lex (· < ·) (String.utf8EncodeChar c ++ s) (String.utf8EncodeChar d ++ t) := by
  have hlt : c.val.toNat < d.val.toNat := UInt32.lt_iff_toNat_lt.mp h
  have hd : d.val.toNat < 1114112 := by
    -- a code is below the bound of codes, so the first octet of any of its forms is an octet
    have hvalid : d.val.toNat.isValidChar := d.valid
    rcases hvalid with hvalid | hvalid <;> omega
  simp only [String.utf8EncodeChar]
  generalize c.val.toNat = n at hlt
  generalize d.val.toNat = m at hlt hd
  -- the cases are the forms: a shorter one begins lower, and in equal ones the digits decide
  by_cases hshorter : (n ≤ 127 ∧ 127 < m) ∨ (n ≤ 2047 ∧ 2047 < m) ∨ (n ≤ 65535 ∧ 65535 < m)
  · split_ifs <;> first
      | omega
      | exact lex_ofNat_of_lt (by omega) (by omega)
  · split_ifs <;> try omega
    · exact lex_ofNat_of_lt hlt (by omega)
    · exact lex_ofNat_of_le (by omega) (by omega) fun hlead =>
        lex_ofNat_of_lt (by omega) (by omega)
    · exact lex_ofNat_of_le (by omega) (by omega) fun hlead =>
        lex_ofNat_of_le (by omega) (by omega) fun hsecond =>
        lex_ofNat_of_lt (by omega) (by omega)
    · exact lex_ofNat_of_le (by omega) (by omega) fun hlead =>
        lex_ofNat_of_le (by omega) (by omega) fun hsecond =>
        lex_ofNat_of_le (by omega) (by omega) fun hthird =>
        lex_ofNat_of_lt (by omega) (by omega)

/-! ## Texts -/

/-- The octets of texts are in the order of the texts. -/
theorem lex_encode {s t : List Char} (h : List.Lex (· < ·) s t) :
    List.Lex (· < ·) (encode s) (encode t) := by
  -- by the order of the texts: one ends, or a character is smaller, or the first is the same
  induction h with
  | @nil c t =>
    obtain ⟨octet, octets, hc⟩ := List.exists_cons_of_ne_nil (String.utf8EncodeChar_ne_nil (c := c))
    rw [encode, encode, List.flatMap_cons, hc]
    exact .nil
  | rel h => exact lex_utf8EncodeChar h _ _
  | cons _ ih => exact ih.append_left (· < ·) _

/-- The order of the octets is that of the characters. -/
theorem precedes_iff_lt {s t : String} : Precedes s t ↔ s < t := by
  -- the order of the characters is total, so the other way round it would hold of the octets
  refine ⟨fun h => ?_, lex_encode⟩
  by_contra hlt
  have hle : t ≤ s := String.not_lt.mp hlt
  by_cases hge : s ≤ t
  · rw [String.le_antisymm hle hge] at h
    exact List.lex_irrefl (fun _ => UInt8.lt_irrefl _) _ h
  · have hback : Precedes t s := lex_encode (String.not_le.mp hge)
    exact (List.Lex.asymm (· < ·)).asymm _ _ h hback

/-- A text comes before another or is the same exactly if it is not greater. -/
theorem precedes_or_eq_iff_le {s t : String} : Precedes s t ∨ s = t ↔ s ≤ t := by
  rw [precedes_iff_lt]
  refine ⟨?_, fun h => ?_⟩
  · rintro (h | rfl)
    · exact String.not_lt.mp (String.lt_asymm h)
    · exact String.le_refl _
  · by_cases hge : t ≤ s
    · exact .inr (String.le_antisymm h hge)
    · exact .inl (String.not_le.mp hge)

end PolicyReplay.Text
