import PolicyReplay.Fate

/-!
# Room for lists

The items of a list stand side by side in one stretch of memory, and no stretch has more than
`maxOctets` octets. Whoever asks for a longer list crashes, however much memory there is, and does
so before anything is put into it. Main statement: `reserve_eq_returned_iff`.
-/

namespace PolicyReplay.Capacity

/-- The number of octets in the longest stretch of memory. -/
def maxOctets : Nat := 0x7FFFFFFFFFFFFFFF

/-- Whether a stretch of memory can hold so many items of so many octets each. -/
def holds (count size : Nat) : Bool := count * size ≤ maxOctets

/-- What is said of a list that is too long. -/
def message : String := "capacity overflow"

/-- Make something for which so many items of so many octets each are needed. -/
def reserve (count size : Nat) (make : Unit → α) : Fate α :=
  if holds count size then .returned (make ()) else .crashed message

/-- What is returned is what was to be made, and only a list that is too long is not made. -/
theorem reserve_eq_returned_iff {count size : Nat} {make : Unit → α} {value : α} :
    reserve count size make = .returned value ↔ count * size ≤ maxOctets ∧ make () = value := by
  by_cases h : count * size ≤ maxOctets <;> simp [reserve, holds, h]

end PolicyReplay.Capacity
