import Mathlib.Tactic.SplitIfs
import PolicyReplay.Json.Quoted

/-!
# Reading string literals back

A writer of literals puts something for each character of a text and closes the row with a quote.
It reads back if what it puts for a character is read as one piece, whatever follows, and the piece
means that character wherever it stands: `Reads` says this of one character and `Faithful` of all.

## Key results

- `Reads.self`, `Reads.letter`, `Reads.unitEscape`: the three ways to write a character
- `Faithful.readQuoted`: a literal is read up to its closing quote and means the text
- `faithful_escape`: the literals of this library read back
-/

namespace PolicyReplay.Json

/-! ## Pieces -/

/-- What a piece means by itself. A unit that is a character is no surrogate. -/
inductive Piece.Means : Piece → Char → Prop
  | char (c : Char) : Means (.char c) c
  | unit (c : Char) : Means (.unit c.toNat) c

/-- No character is a surrogate, neither a high one nor a low one. -/
theorem not_surrogate (c : Char) : isHigh c.toNat = false ∧ isLow c.toNat = false := by
  have hvalid : c.toNat < 0xD800 ∨ 0xDFFF < c.toNat := c.valid.imp_right And.left
  constructor
  · rw [isHigh, Bool.and_eq_false_iff, decide_eq_false_iff_not, decide_eq_false_iff_not]
    omega
  · rw [isLow, Bool.and_eq_false_iff, decide_eq_false_iff_not, decide_eq_false_iff_not]
    omega

/-- A piece that means a character by itself is not joined with the next one. -/
theorem resolve_cons {piece : Piece} {c : Char} (h : piece.Means c) (rest : List Piece) :
    resolve (piece :: rest) = (resolve rest).map (c :: ·) := by
  cases h with
  | char => rfl
  | unit =>
    obtain ⟨hhigh, hlow⟩ := not_surrogate c
    -- only a surrogate is joined with what comes next, and this unit is none
    rcases rest with _ | ⟨⟨d⟩ | ⟨n⟩, rest⟩ <;>
      simp only [resolve, hhigh, hlow, Bool.or_self, Bool.false_eq_true, ↓reduceIte,
        Char.ofNat_toNat]

/-! ## Hexadecimal digits -/

/-- A digit that is written for a number is read as the number. -/
theorem hexValue?_hexDigit {n : Nat} (h : n < 16) : hexValue? (hexDigit n) = some n := by
  -- there are sixteen digits
  have hall : ∀ n < 16, hexValue? (hexDigit n) = some n := by decide
  exact hall n h

/-- The four digits of a unit are read as the unit. -/
theorem unitValue?_hexDigit {n : Nat} (h : n < 0x10000) :
    unitValue? (hexDigit (n / 4096 % 16)) (hexDigit (n / 256 % 16)) (hexDigit (n / 16 % 16))
      (hexDigit (n % 16)) = some n := by
  have hdigit (k : Nat) : hexValue? (hexDigit (k % 16)) = some (k % 16) :=
    hexValue?_hexDigit (Nat.mod_lt k (by decide))
  -- the digits in base 16 of a number below 16 to the fourth power make it up again
  simp only [unitValue?, hdigit, Option.bind_eq_bind, Option.bind_some, Option.pure_def,
    Option.some.injEq]
  omega

/-! ## Characters -/

/-- What is written for a character is read as one piece, which means it. -/
def Reads (written : List Char) (c : Char) : Prop :=
  ∃ piece : Piece, piece.Means c ∧ ∀ rest,
    readQuoted (written ++ rest) =
      (readQuoted rest).map fun (pieces, rest) => (piece :: pieces, rest)

namespace Reads

variable {c e : Char}

/-- A character that is written as it is. -/
theorem self (hprintable : ' ' ≤ c) (hquote : c ≠ '"') (hbackslash : c ≠ '\\') : Reads [c] c := by
  refine ⟨.char c, .char c, fun rest => ?_⟩
  rw [List.singleton_append, readQuoted.eq_5 c rest hquote (fun _ _ _ _ _ h _ => hbackslash h)
    (fun _ _ h _ => hbackslash h), if_neg]
  -- a character that is neither a control character nor a backslash is taken as it is
  simp only [Bool.or_eq_true, decide_eq_true_eq]
  exact not_or.mpr ⟨Char.not_lt.mpr hprintable, hbackslash⟩

/-- A character that a letter behind a backslash stands for. -/
theorem letter {d : Char} (hc : c = d) (h : escaped? e = some d) : Reads ['\\', e] c := by
  subst hc
  -- a letter that stands for a character is not the one that announces a unit
  have hunit : e ≠ 'u' := by
    rintro rfl
    cases h
  refine ⟨.char c, .char c, fun rest => ?_⟩
  rw [List.cons_append, List.singleton_append,
    readQuoted.eq_4 e rest (fun _ _ _ _ _ he _ => hunit he), h]
  exact (Option.map_eq_bind ..).symm

/-- A character that is written as a unit. -/
theorem unitEscape (h : c.toNat < 0x10000) : Reads (unitEscape c) c := by
  refine ⟨.unit c.toNat, .unit c, fun rest => ?_⟩
  simp only [Json.unitEscape, List.cons_append, List.nil_append]
  rw [readQuoted.eq_3, unitValue?_hexDigit h]
  exact (Option.map_eq_bind ..).symm

end Reads

/-! ## Texts -/

/-- A way to write characters from which they are read back. -/
def Faithful (escape : Char → List Char) : Prop := ∀ c, Reads (escape c) c

/-- A literal is read up to its closing quote, and its pieces mean the text. -/
theorem Faithful.readQuoted {escape : Char → List Char} (h : Faithful escape) (s : List Char) :
    ∃ pieces, resolve pieces = some s ∧ ∀ rest,
      readQuoted (s.flatMap escape ++ '"' :: rest) = some (pieces, rest) := by
  -- by induction on the text: what is written for its first character is read as one piece
  induction s with
  | nil => exact ⟨[], rfl, fun _ => rfl⟩
  | cons c s ih =>
    obtain ⟨pieces, hmeans, hread⟩ := ih
    obtain ⟨piece, hpiece, hfirst⟩ := h c
    refine ⟨piece :: pieces, ?_, fun rest => ?_⟩
    · rw [resolve_cons hpiece, hmeans]
      rfl
    · rw [List.flatMap_cons, List.append_assoc, hfirst, hread]
      rfl

/-- The literals of this library read back. -/
theorem faithful_escape : Faithful escape := by
  intro c
  unfold escape
  -- one case for each way in which a character is written
  split_ifs with hquote hbackslash hbackspace hfeed hline hreturn htab hcontrol
  · exact .letter hquote rfl
  · exact .letter hbackslash rfl
  · exact .letter hbackspace rfl
  · exact .letter hfeed rfl
  · exact .letter hline rfl
  · exact .letter hreturn rfl
  · exact .letter htab rfl
  -- what has no letter of its own is a control character, and its code fits into a unit
  · have hlt : c.toNat < 0x20 := UInt32.lt_iff_toNat_lt.mp hcontrol
    exact .unitEscape (by omega)
  · exact .self (Char.not_lt.mp hcontrol) hquote hbackslash

end PolicyReplay.Json
