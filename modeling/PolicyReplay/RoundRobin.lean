import PolicyReplay.Capacity

/-!
# Dealing a list

Items are dealt like cards: one to each hand in turn, and again from the first hand, so hand `i`
holds the items `i`, `i + hands`, `i + 2 * hands` and so on, in order.
-/

namespace PolicyReplay.RoundRobin

/-- Deal items to hands in turn. The last item is laid down first, and each earlier one in front of
those that its hand already holds. -/
def deal (hands : Nat) (items : List α) : List (List α) :=
  items.zipIdx.foldr (fun (item, index) dealt => dealt.modify (index % hands) (item :: ·))
    (List.replicate hands [])

/-- A hand takes three words of memory, whatever it holds: where its items are, how many they are,
and for how many there is room. -/
def handSize : Nat := 24

/-- Deal items to hands in turn, if all hands can be laid out at once. -/
def layOut (hands : Nat) (items : List α) : Fate (List (List α)) :=
  Capacity.reserve hands handSize fun _ => deal hands items

end PolicyReplay.RoundRobin
