import PolicyReplay.Capacity

/-!
# The placeholder of a trace

A trace leaves the size of its values open: wherever it says `VAL`, the filler is put in before the
line is compiled. Occurrences are found from left to right and do not overlap. Main statement:
`filled_eq_expand`.
-/

namespace PolicyReplay.Trace

/-- Put `filler` in the place of every `VAL`. -/
def expandChars (filler : List Char) : List Char → List Char
  | 'V' :: 'A' :: 'L' :: rest => filler ++ expandChars filler rest
  | c :: rest => c :: expandChars filler rest
  | [] => []

/-- Put `filler` in the place of every `VAL` of a line. -/
def expand (filler line : String) : String := String.ofList (expandChars filler.toList line.toList)

/-- The filler of a given size. -/
def filler (size : Nat) : String := String.ofList (List.replicate size 'x')

/-- Whether there is a placeholder. -/
def hasPlaceholder : List Char → Bool
  | 'V' :: 'A' :: 'L' :: _ => true
  | _ :: rest => hasPlaceholder rest
  | [] => false

/-- A line with the filler of a given size, which is made only if the line has a place for it. -/
def filled (size : Nat) (line : String) : String :=
  if hasPlaceholder line.toList then expand (filler size) line else line

/-- Text without a placeholder stays as it is. -/
theorem expandChars_of_hasPlaceholder_eq_false {s : List Char} (h : hasPlaceholder s = false)
    (filler : List Char) : expandChars filler s = s := by
  fun_induction hasPlaceholder s with
  | case1 => simp at h
  | case2 c rest hne ih =>
    rw [expandChars]
    · rw [ih h]
    · exact hne
  | case3 => rfl

/-- Whether the filler is made does not show in the line. -/
theorem filled_eq_expand (size : Nat) (line : String) :
    filled size line = expand (filler size) line := by
  unfold filled
  split
  · rfl
  · next h =>
    rw [expand, expandChars_of_hasPlaceholder_eq_false (by simpa using h), String.ofList_toList]

/-- Fill a line. The room for the filler is needed whether the line has a place for it or not. -/
def fill (size : Nat) (line : String) : Fate String :=
  Capacity.reserve size 1 fun _ => filled size line

end PolicyReplay.Trace
