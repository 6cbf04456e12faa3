import PolicyReplay.Json.Basic

/-!
# Reading JSON numbers

A literal without fraction and exponent is a whole number as long as it fits 64 bits; every other
literal is a double. The digits of a double are first collected into a 64-bit significand: digits
of the whole part that no longer fit count as zeros, and digits of the fraction that no longer fit
are dropped. The significand is then scaled by the power of ten in one multiplication or division,
so the last place may differ from that of correct rounding.
-/

namespace PolicyReplay.Json

/-- A number as it is written. Digits are the values 0 to 9, the first digit first. -/
structure Literal where
  negative : Bool
  whole : List Nat
  fraction : List Nat
  /-- The sign of the exponent and its digits. -/
  exponent : Option (Bool × List Nat)
  deriving DecidableEq, Repr

/-- The greatest significand. -/
def maxSignificand : Nat := 0xFFFFFFFFFFFFFFFF

/-- The value of digits, and how many digits at their end were left out because a further one
would not fit. -/
def takeWhole (digits : List Nat) : Nat × Nat :=
  digits.foldl (fun (value, dropped) digit =>
    if dropped = 0 && value * 10 + digit ≤ maxSignificand then (value * 10 + digit, 0)
    else (value, dropped + 1)) (0, 0)

/-- A significand with the digits of a fraction appended as long as they fit, and how many were. -/
def takeFraction (value : Nat) : List Nat → Nat × Nat
  | [] => (value, 0)
  | digit :: rest =>
    if value * 10 + digit ≤ maxSignificand then
      let (value, taken) := takeFraction (value * 10 + digit) rest
      (value, taken + 1)
    else (value, 0)

/-- The value of digits. -/
def digitsValue (digits : List Nat) : Nat := digits.foldl (fun value digit => value * 10 + digit) 0

/-- The power of ten, the nearest double to it. -/
def powerOfTen (k : Nat) : Float := Float.ofScientific 1 false k

/-- The greatest power of ten that is a double. -/
def maxPower : Nat := 308

/-- Divide by a power of ten, in steps that are doubles. -/
def scaleDown (x : Float) (k : Nat) : Float :=
  if k ≤ maxPower then x / powerOfTen k
  else if x == 0 then x
  else scaleDown (x / powerOfTen maxPower) (k - maxPower)
termination_by k
decreasing_by simp only [maxPower] at *; omega

/-- Scale by a power of ten; a product beyond the doubles is none. -/
def scale? (x : Float) (exponent : Int) : Option Float :=
  if exponent < 0 then some (scaleDown x exponent.natAbs)
  else if exponent.natAbs ≤ maxPower then
    let product := x * powerOfTen exponent.natAbs
    if product.isInf then none else some product
  else if x == 0 then some x
  else none

/-- The greatest magnitude of a negative whole number. -/
def maxMagnitude : Nat := 0x8000000000000000

/-- The greatest exponent that is read; beyond it only zero is a number. -/
def maxExponent : Nat := 0x7FFFFFFF

namespace Literal

/-- The literal as a double without its sign. -/
def magnitude? (l : Literal) : Option Float :=
  let (value, dropped) := takeWhole l.whole
  let (value, taken) := takeFraction value l.fraction
  let significand := (UInt64.ofNat value).toFloat
  let point : Int := (dropped : Int) - taken
  match l.exponent with
  | none => scale? significand point
  | some (negative, digits) =>
    let exponent := digitsValue digits
    if exponent ≤ maxExponent then
      scale? significand (if negative then point - exponent else point + exponent)
    else if value ≠ 0 && !negative then none
    else some 0

/-- The literal as a double. -/
def real? (l : Literal) : Option Number :=
  l.magnitude?.map fun x => .real (if l.negative then -x else x)

/-- The number that a literal stands for, if there is one. -/
def number? (l : Literal) : Option Number :=
  if l.fraction.isEmpty && l.exponent.isNone then
    let n := digitsValue l.whole
    if l.negative then
      if 0 < n && n ≤ maxMagnitude then some (.whole (-n)) else l.real?
    else if n ≤ maxSignificand then some (.whole n)
    else l.real?
  else l.real?

end Literal
end PolicyReplay.Json
