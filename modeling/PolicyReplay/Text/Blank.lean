/-!
# Blank characters

Queries, traces and settings ignore blanks around their parts. Blank means the Unicode property
White_Space, which is wider than `Char.isWhitespace`: it holds no-break and ideographic spaces,
the separators U+2028 and U+2029 and the next-line control U+0085, and not the zero-width space.
-/

namespace PolicyReplay.Text

/-- The characters with the property White_Space. -/
def isBlank (c : Char) : Bool :=
  let n := c.toNat
  (0x09 ≤ n && n ≤ 0x0D) || n == 0x20 || n == 0x85 || n == 0xA0 || n == 0x1680 ||
    (0x2000 ≤ n && n ≤ 0x200A) || n == 0x2028 || n == 0x2029 || n == 0x202F || n == 0x205F ||
    n == 0x3000

/-- A text of blanks only; the empty text is one. -/
def isBlankText (s : List Char) : Bool := s.all isBlank

/-- The text without its leading blanks. -/
def trimStart (s : List Char) : List Char := s.dropWhile isBlank

/-- The text without its trailing blanks. -/
def trimEnd (s : List Char) : List Char := (s.reverse.dropWhile isBlank).reverse

/-- The text without the blanks around it. -/
def trim (s : List Char) : List Char := trimEnd (trimStart s)

end PolicyReplay.Text
