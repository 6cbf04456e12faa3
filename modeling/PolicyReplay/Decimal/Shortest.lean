import PolicyReplay.Decimal.Binary

/-!
# The shortest decimal of a double

Among the decimals that lie nearer to a double than to any other, those with the fewest digits are
taken, and of these the one nearest to the double, an exact tie going to the even digit. All
arithmetic is on naturals: with `mantissa` · 2 ^ `exponent` written as 4 · `mantissa` quarters of
the last place, the ends of the interval are whole quarters too.
-/

namespace PolicyReplay.Decimal

/-- The number d₁.d₂d₃… · 10 ^ `exponent`. -/
structure Digits where
  digits : List Nat
  exponent : Int
  deriving DecidableEq, Repr

/-- The decimal digits of a number, the most significant first. -/
def digitsOf (n : Nat) : List Nat := (Nat.toDigits 10 n).map fun c => c.toNat - '0'.toNat

/-- The digits without the zeros at their end. -/
def stripZeros (digits : List Nat) : List Nat := (digits.reverse.dropWhile (· == 0)).reverse

/-- The exponent of the first digit of `numerator` / `denominator`, for a positive quotient. -/
def leadingExponent (numerator denominator : Nat) : Int :=
  if denominator ≤ numerator then ((digitsOf (numerator / denominator)).length : Int) - 1
  else -((digitsOf ((denominator + numerator - 1) / numerator - 1)).length : Int)

namespace Binary

/-- The end of the interval below the number, in quarters of the last place. -/
def lowQuarters (b : Binary) : Nat := 4 * b.mantissa - if b.closeBelow then 1 else 2

/-- The end of the interval above the number, in quarters of the last place. -/
def highQuarters (b : Binary) : Nat := 4 * b.mantissa + 2

/-- Whether `candidate` · `down` / `up` quarters lie in the interval, whose ends belong to it when
the mantissa is even. -/
def holds (b : Binary) (up down candidate : Nat) : Bool :=
  if b.mantissa % 2 = 0 then
    b.lowQuarters * up ≤ candidate * down && candidate * down ≤ b.highQuarters * up
  else b.lowQuarters * up < candidate * down && candidate * down < b.highQuarters * up

/-- The point of the grid with step 10 ^ `step` that lies in the interval, the nearer one of
two. -/
def onGrid (b : Binary) (step : Int) : Option Nat :=
  let (up, down) := factor (b.exponent - 2) (-step)
  let below := 4 * b.mantissa * up / down
  match b.holds up down below, b.holds up down (below + 1) with
  | true, true => some (roundDiv (4 * b.mantissa * up) down)
  | true, false => some below
  | false, true => some (below + 1)
  | false, false => none

/-- The shortest decimal of the magnitude; seventeen digits always suffice. -/
def shortest (b : Binary) : Digits :=
  if b.mantissa = 0 then ⟨[0], 0⟩
  else
    let (up, down) := factor b.exponent 0
    let leading := leadingExponent (b.mantissa * up) down
    let found := (List.range' 1 17).findSome? fun (count : Nat) =>
      let step := leading - count + 1
      (b.onGrid step).map (·, step)
    match found with
    | some (point, step) =>
      let digits := digitsOf point
      ⟨stripZeros digits, step + digits.length - 1⟩
    | none => ⟨[], 0⟩

end Binary
end PolicyReplay.Decimal
