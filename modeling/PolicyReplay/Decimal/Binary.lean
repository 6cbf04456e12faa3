/-!
# Finite doubles as exact numbers

A finite double is a sign and a natural number times a power of two, read off its bits. Rounding
such a number to a decimal grid is arithmetic on naturals.
-/

namespace PolicyReplay.Decimal

/-- The number ± `mantissa` · 2 ^ `exponent`. -/
structure Binary where
  negative : Bool
  mantissa : Nat
  exponent : Int
  /-- The double next below in magnitude is only half as far away as the one next above. -/
  closeBelow : Bool
  deriving DecidableEq, Repr

namespace Binary

/-- The bit above the 52 bits of a fraction, which is not stored. -/
def hiddenBit : Nat := 0x10000000000000

/-- The number that the bits of a double stand for; infinities and not-a-numbers stand for none. -/
def ofBits (bits : Nat) : Option Binary :=
  let fraction : Nat := bits % hiddenBit
  let field : Nat := bits / hiddenBit % 0x800
  let negative := bits / hiddenBit / 0x800 % 2 == 1
  if field = 2047 then none
  else if field = 0 then some ⟨negative, fraction, -1074, false⟩
  else some ⟨negative, hiddenBit + fraction, (field : Int) - 1075, fraction == 0 && field > 1⟩

/-- The number that a double is. -/
def ofFloat? (x : Float) : Option Binary := ofBits x.toBits.toNat

/-- Numerator and denominator of 2 ^ `two` · 10 ^ `ten`. -/
def factor (two ten : Int) : Nat × Nat :=
  (Nat.pow 2 two.toNat * Nat.pow 10 ten.toNat,
    Nat.pow 2 (-two).toNat * Nat.pow 10 (-ten).toNat)

/-- The quotient rounded to the nearest natural number, a half to the even one. -/
def roundDiv (numerator denominator : Nat) : Nat :=
  let quotient := numerator / denominator
  let remainder := numerator % denominator
  if 2 * remainder < denominator then quotient
  else if 2 * remainder > denominator then quotient + 1
  else if quotient % 2 = 0 then quotient else quotient + 1

/-- The magnitude in units of 10 ^ -`places`, rounded to the nearest, a half to the even one. -/
def scaled (b : Binary) (places : Nat) : Nat :=
  let (up, down) := factor b.exponent places
  roundDiv (b.mantissa * up) down

end Binary
end PolicyReplay.Decimal
