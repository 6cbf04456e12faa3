import PolicyReplay.Decimal.Shortest

/-!
# Writing decimals

How the digits of a double are laid out: with all its digits around a point, or with an exponent.
Which of the two is taken depends on the exponent of the first digit, and a `Layout` says from
where to where the point alone is used.
-/

namespace PolicyReplay.Decimal

/-- The exponents of a first digit for which a decimal is written without an exponent. -/
structure Layout where
  plainFrom : Int
  plainBelow : Int

/-- Digits as characters. -/
def digitChars (digits : List Nat) : List Char := digits.map fun d => Char.ofNat ('0'.toNat + d)

/-- As many zeros as asked. -/
def zeros (count : Nat) : List Char := List.replicate count '0'

/-- Digits around a point, at least one on each side of it. -/
def plain (d : Digits) : List Char :=
  let digits := digitChars d.digits
  if d.exponent < 0 then "0.".toList ++ zeros ((-d.exponent).toNat - 1) ++ digits
  else
    let width := d.exponent.toNat + 1
    let whole := digits.take width ++ zeros (width - digits.length)
    let rest := digits.drop width
    whole ++ '.' :: if rest.isEmpty then ['0'] else rest

/-- One digit, the others after a point if there are any, and the exponent with its sign. -/
def scientific (d : Digits) : List Char :=
  let digits := digitChars d.digits
  let rest := digits.drop 1
  let sign := if d.exponent < 0 then '-' else '+'
  digits.take 1 ++ (if rest.isEmpty then [] else '.' :: rest) ++
    'e' :: sign :: (Nat.toDigits 10 d.exponent.natAbs)

/-- Digits laid out. -/
def Layout.write (layout : Layout) (d : Digits) : List Char :=
  if layout.plainFrom ≤ d.exponent && d.exponent < layout.plainBelow then plain d
  else scientific d

/-- The shortest decimal of a finite double, laid out. -/
def Layout.writeFloat? (layout : Layout) (x : Float) : Option (List Char) :=
  (Binary.ofFloat? x).map fun b =>
    (if b.negative then ['-'] else []) ++ layout.write b.shortest

/-- A finite double with a fixed number of places, rounded to the nearest, a half to the even
one. -/
def fixed? (places : Nat) (x : Float) : Option (List Char) :=
  (Binary.ofFloat? x).map fun b =>
    let digits := Nat.toDigits 10 (b.scaled places)
    let digits := zeros (places + 1 - digits.length) ++ digits
    let whole := digits.length - places
    (if b.negative then ['-'] else []) ++ digits.take whole ++
      if places = 0 then [] else '.' :: digits.drop whole

end PolicyReplay.Decimal
