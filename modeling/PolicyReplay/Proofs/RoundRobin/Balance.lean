import Mathlib.Algebra.Order.Floor.Div
import PolicyReplay.Proofs.Except
import PolicyReplay.Proofs.RoundRobin

/-!
# Dealing is exact and even

Where an item goes is its index divided by the number of hands: the remainder names the hand, and
the quotient the place in it. So the hands can be collected again, and none has more than one item
more than another. The room that a hand takes can be told before anything is dealt, and dealing one
item after the other, the first one first, fills each hand exactly. There is no division by zero in
it, because without hands nothing is measured and nothing is dealt.

## Key results

- `length_dealtTo`: how many items a hand holds
- `collect_deal`: reading the hands in turn gives the items back
- `dealInTurn?_eq`: dealing from the front divides by no zero and fills the room of each hand
- `layOut_even`: all of this, for as many hands as there can be
-/

namespace PolicyReplay.RoundRobin

variable {α : Type} {hands : Nat} {items : List α}

/-! ## Where the items are -/

/-- An item is in the hand whose turn it is, after those of the rounds before. -/
theorem getElem?_deal_of_lt (hhands : 0 < hands) (k : Nat) :
    ((deal hands items)[k % hands]?.bind fun share => share[k / hands]?) = items[k]? := by
  have hturn : k % hands < hands := Nat.mod_lt k hhands
  rw [getElem?_deal, if_pos hturn, Option.bind_some, getElem?_dealtTo hturn, Nat.mod_add_div']

/-- The quotient and the remainder of an index by the number of hands. -/
theorem div_mod_of_turn {hand : Nat} (hhand : hand < hands) (round : Nat) :
    (hand + round * hands) % hands = hand ∧ (hand + round * hands) / hands = round := by
  have hpos : 0 < hands := Nat.zero_lt_of_lt hhand
  rw [Nat.add_mul_mod_self_right, Nat.add_mul_div_right _ _ hpos, Nat.mod_eq_of_lt hhand,
    Nat.div_eq_of_lt hhand, Nat.zero_add]
  exact ⟨rfl, rfl⟩

/-- A hand that is there has the items that were dealt to it. -/
theorem of_getElem?_deal {hand : Nat} {share : List α}
    (h : (deal hands items)[hand]? = some share) :
    hand < hands ∧ share = dealtTo hands hand items := by
  rw [getElem?_deal] at h
  split at h
  · exact ⟨‹_›, (Option.some.inj h).symm⟩
  · exact nomatch h

/-- The items of a hand are in the order in which they were dealt. -/
theorem dealtTo_sublist (hands hand : Nat) (items : List α) :
    (dealtTo hands hand items).Sublist items := by
  have h := (List.filter_sublist (p := fun card => card.2 % hands = hand)
    (l := items.zipIdx)).map Prod.fst
  rwa [List.zipIdx_map_fst] at h

/-! ## How many items a hand holds -/

/-- A hand holds no more than `k` items exactly if they are dealt out after `k` of its turns. -/
theorem length_dealtTo_le_iff {hand : Nat} (hhand : hand < hands) (items : List α) (k : Nat) :
    (dealtTo hands hand items).length ≤ k ↔ items.length ≤ hand + k * hands := by
  rw [← List.getElem?_eq_none_iff, getElem?_dealtTo hhand, List.getElem?_eq_none_iff]

/-- A hand holds one item for each full or begun round that is left from its first turn on. -/
theorem length_dealtTo {hand : Nat} (hhand : hand < hands) :
    (dealtTo hands hand items).length = (items.length - hand) ⌈/⌉ hands := by
  have hpos : 0 < hands := Nat.zero_lt_of_lt hhand
  -- both sides are no more than the same numbers
  refine eq_of_forall_ge_iff fun k => ?_
  rw [length_dealtTo_le_iff hhand items, ceilDiv_le_iff_le_mul hpos, Nat.mul_comm]
  omega

/-- A later hand holds no more than an earlier one, and at most one item less. -/
theorem length_dealtTo_of_le {first second : Nat} (hle : first ≤ second) (hhand : second < hands)
    (items : List α) :
    (dealtTo hands second items).length ≤ (dealtTo hands first items).length ∧
      (dealtTo hands first items).length ≤ (dealtTo hands second items).length + 1 := by
  have hfirst := (length_dealtTo_le_iff (by omega : first < hands) items _).mp le_rfl
  have hsecond := (length_dealtTo_le_iff hhand items _).mp le_rfl
  constructor
  · rw [length_dealtTo_le_iff hhand items]
    omega
  · -- one more turn of the first hand comes after the last turn of the second
    rw [length_dealtTo_le_iff (by omega) items, Nat.add_mul]
    omega

/-! ## Collecting the hands -/

/-- As many rounds as the fullest hand has items. -/
def rounds (dealt : List (List α)) : Nat := (dealt.map List.length).max?.getD 0

/-- Collect dealt items in turn: the first item of each hand, then the second of each, and so on. -/
def collect (dealt : List (List α)) : List α :=
  (List.range (rounds dealt)).flatMap fun round => dealt.filterMap (·[round]?)

/-- A place in a range that is mapped holds its image, if the range goes so far. -/
theorem getElem?_map_range {β : Type} (f : Nat → β) (count i : Nat) :
    ((List.range count).map f)[i]? = if i < count then some (f i) else none := by
  rw [List.getElem?_map]
  split
  · rw [List.getElem?_range ‹_›, Option.map_some]
  · rw [List.getElem?_eq_none (by simp; omega), Option.map_none]

/-- The hands are what is dealt to each of them. -/
theorem deal_eq_map (hands : Nat) (items : List α) :
    deal hands items = (List.range hands).map fun hand => dealtTo hands hand items := by
  refine List.ext_getElem? fun hand => ?_
  rw [getElem?_deal, getElem?_map_range]

/-- Places in a row hold neighbours. -/
theorem filterMap_getElem?_range (items : List α) (start count : Nat) :
    ((List.range count).filterMap fun i => items[i + start]?) = (items.drop start).take count := by
  -- by induction on how many places are asked for, the last of them last
  induction count with
  | zero => rfl
  | succ count ih =>
    rw [List.range_succ, List.filterMap_append, ih, List.take_add_one, List.getElem?_drop,
      Nat.add_comm start]
    cases hitem : items[count + start]? <;> simp [hitem]

/-- What the hands got in one round are neighbours among the items. -/
theorem filterMap_deal (hands : Nat) (items : List α) (round : Nat) :
    (deal hands items).filterMap (·[round]?) = (items.drop (round * hands)).take hands := by
  rw [deal_eq_map, List.filterMap_map, ← filterMap_getElem?_range]
  refine List.filterMap_congr fun hand hhand => ?_
  exact getElem?_dealtTo (List.mem_range.mp hhand) items round

/-- After some rounds, so many items of each hand have been collected. -/
theorem flatMap_rounds (hands : Nat) (items : List α) (count : Nat) :
    ((List.range count).flatMap fun round => (deal hands items).filterMap (·[round]?)) =
      items.take (count * hands) := by
  -- by induction on the rounds, the last of which is added behind the others
  induction count with
  | zero => simp
  | succ count ih =>
    rw [List.range_succ, List.flatMap_append, ih, List.flatMap_singleton, filterMap_deal,
      Nat.add_mul, Nat.one_mul, List.take_add]

/-- Reading the hands in turn gives the items back. -/
theorem collect_deal (hhands : 0 < hands) : collect (deal hands items) = items := by
  rw [collect, flatMap_rounds]
  refine List.take_of_length_le ?_
  -- the first hand is one of those that are counted
  have hfirst : dealtTo hands 0 items ∈ deal hands items :=
    List.mem_of_getElem? (i := 0) (by rw [getElem?_deal, if_pos hhands])
  have hrounds : (dealtTo hands 0 items).length ≤ rounds (deal hands items) :=
    List.le_max?_getD_of_mem (List.mem_map_of_mem hfirst)
  have h := (length_dealtTo_le_iff hhands items _).mp hrounds
  rwa [Nat.zero_add] at h

/-! ## Dealing from the front -/

/-- A hand while items are dealt: for how many items there is room, and those that it has. -/
structure Hand (α : Type) where
  room : Nat
  items : List α

/-- The remainder of a division, which there is not by zero. -/
def remainder? (n divisor : Nat) : Option Nat :=
  if divisor = 0 then none else some (n % divisor)

/-- A quotient rounded up, which there is not by zero. -/
def roundedUp? (n divisor : Nat) : Option Nat :=
  if divisor = 0 then none else some (n ⌈/⌉ divisor)

/-- The hands before anything is dealt, with room for all that each of them will get. -/
def emptyHands? (hands count : Nat) : Option (List (Hand α)) :=
  (List.range hands).mapM fun hand => (roundedUp? (count - hand) hands).map fun room => ⟨room, []⟩

/-- Lay an item down behind those that its hand has. -/
def lay? (hands : Nat) (dealt : List (Hand α)) (card : α × Nat) : Option (List (Hand α)) :=
  (remainder? card.2 hands).map fun turn =>
    dealt.modify turn fun hand => { hand with items := hand.items ++ [card.1] }

/-- Deal items one after the other, the first one first; `none` if anything is divided by zero. -/
def dealInTurn? (hands : Nat) (items : List α) : Option (List (Hand α)) := do
  let dealt ← emptyHands? hands items.length
  if hands = 0 then return dealt
  items.zipIdx.foldlM (lay? hands) dealt

/-- Without hands nothing is measured, and with hands no division is by zero. -/
theorem emptyHands?_eq (hands count : Nat) :
    (emptyHands? hands count : Option (List (Hand α))) =
      some ((List.range hands).map fun hand => ⟨(count - hand) ⌈/⌉ hands, []⟩) := by
  have hmap (turns : List Nat) (h : ∀ hand ∈ turns, hand < hands) :
      (turns.mapM fun hand => (roundedUp? (count - hand) hands).map fun room => ⟨room, []⟩) =
        some (turns.map fun hand => (⟨(count - hand) ⌈/⌉ hands, []⟩ : Hand α)) := by
    -- by induction on the turns, each of which is that of a hand there is
    induction turns with
    | nil => rfl
    | cons hand rest ih =>
      obtain ⟨hhand, hrest⟩ := List.forall_mem_cons.mp h
      have hne : hands ≠ 0 := by omega
      rw [List.mapM_cons, ih hrest, roundedUp?, if_neg hne]
      rfl
  exact hmap _ fun hand hhand => List.mem_range.mp hhand

/-- Laying one item down gives it to the hand whose turn it is. -/
theorem lay?_eq (hhands : 0 < hands) (dealt : List (Hand α)) (card : α × Nat) :
    lay? hands dealt card = some (dealt.modify (card.2 % hands) fun hand =>
      { hand with items := hand.items ++ [card.1] }) := by
  rw [lay?, remainder?, if_neg hhands.ne', Option.map_some]

/-- Laying items down one after the other gives each hand those of its turns, in their order. -/
theorem foldlM_lay? (hhands : 0 < hands) (cards : List (α × Nat)) (dealt : List (Hand α)) :
    ∃ dealt', cards.foldlM (lay? hands) dealt = some dealt' ∧
      ∀ turn : Nat, dealt'[turn]? = dealt[turn]?.map fun hand =>
        { hand with items :=
          hand.items ++ (cards.filter fun card => card.2 % hands = turn).map Prod.fst } := by
  -- for any hands to begin with, since the first item changes one of them
  induction cards generalizing dealt with
  | nil => exact ⟨dealt, rfl, fun turn => by simp⟩
  | cons card cards ih =>
    obtain ⟨dealt', hrun, hdealt⟩ := ih (dealt.modify (card.2 % hands) fun hand =>
      { hand with items := hand.items ++ [card.1] })
    refine ⟨dealt', ?_, fun turn => ?_⟩
    · rw [List.foldlM_cons, lay?_eq hhands]
      exact hrun
    · rw [hdealt, List.getElem?_modify, List.filter_cons]
      by_cases hturn : card.2 % hands = turn
      · simp [hturn, Function.comp_def]
      · simp [hturn]

/-- Dealing from the front divides by no zero, and it gives each hand the items of its turns, for
which there is room and no more. -/
theorem dealInTurn?_eq (hands : Nat) (items : List α) :
    dealInTurn? hands items = some ((List.range hands).map fun hand =>
      ⟨(items.length - hand) ⌈/⌉ hands, dealtTo hands hand items⟩) := by
  rw [dealInTurn?, emptyHands?_eq]
  rcases Nat.eq_zero_or_pos hands with rfl | hhands
  · rfl
  -- what is laid down in turn fills each hand with the items of its turns
  · obtain ⟨dealt, hrun, hdealt⟩ := foldlM_lay? hhands items.zipIdx
      ((List.range hands).map fun hand => ⟨(items.length - hand) ⌈/⌉ hands, []⟩)
    simp only [Option.bind_eq_bind, Option.bind_some, if_neg hhands.ne']
    rw [hrun]
    congr 1
    refine List.ext_getElem? fun hand => ?_
    rw [hdealt, getElem?_map_range, getElem?_map_range]
    split <;> rfl

/-! ## All of it -/

/-- What dealt lists are: where each item is, how many a list has, and that nothing is lost. -/
structure DealtEvenly (hands : Nat) (items : List α) (dealt : List (List α)) : Prop where
  length : dealt.length = hands
  /-- The item with the index `k` is in the list `k % hands` at the place `k / hands`. -/
  place : ∀ k item, items[k]? = some item →
    ∃ share, dealt[k % hands]? = some share ∧ share[k / hands]? = some item
  /-- There is nothing else in any of the lists. -/
  only : ∀ (hand : Nat) (share : List α) (round : Nat) (item : α),
    dealt[hand]? = some share → share[round]? = some item →
    ∃ k, k % hands = hand ∧ k / hands = round ∧ items[k]? = some item
  /-- Reading the lists in turn gives the items back. -/
  collected : collect dealt = items
  permuted : dealt.flatten.Perm items
  /-- Each list keeps the order of the items. -/
  ordered : ∀ share ∈ dealt, share.Sublist items
  /-- Later lists are not longer, and no list is longer than another by more than one. -/
  even : ∀ (first second : Nat) (share share' : List α),
    dealt[first]? = some share → dealt[second]? = some share' →
    share.length ≤ share'.length + 1 ∧ (first ≤ second → share'.length ≤ share.length)
  /-- A list has one item for each full or begun round that is left from its first turn on. -/
  sizes : ∀ (hand : Nat) (share : List α), dealt[hand]? = some share →
    share.length = (items.length - hand) ⌈/⌉ hands

/-- Dealing to any hands at all is even. -/
theorem deal_even (hhands : 0 < hands) (items : List α) :
    DealtEvenly hands items (deal hands items) where
  length := length_deal hands items
  place k item hitem := by
    rw [← getElem?_deal_of_lt hhands] at hitem
    exact Option.bind_eq_some_iff.mp hitem
  only hand share round item hshare hitem := by
    have hhand := (of_getElem?_deal hshare).1
    rw [getElem?_of_deal hshare] at hitem
    obtain ⟨hmod, hdiv⟩ := div_mod_of_turn hhand round
    exact ⟨_, hmod, hdiv, hitem⟩
  collected := collect_deal hhands
  permuted := flatten_deal_perm hhands items
  ordered share hshare := by
    obtain ⟨hand, hhand⟩ := List.mem_iff_getElem?.mp hshare
    rw [(of_getElem?_deal hhand).2]
    exact dealtTo_sublist hands hand items
  even first second share share' hshare hshare' := by
    obtain ⟨hfirst, rfl⟩ := of_getElem?_deal hshare
    obtain ⟨hsecond, rfl⟩ := of_getElem?_deal hshare'
    rcases Nat.le_total first second with hle | hle
    · obtain ⟨hmore, hless⟩ := length_dealtTo_of_le hle hsecond items
      exact ⟨hless, fun _ => hmore⟩
    · obtain ⟨hmore, -⟩ := length_dealtTo_of_le hle hfirst items
      refine ⟨Nat.le_succ_of_le hmore, fun hle' => ?_⟩
      obtain rfl := Nat.le_antisymm hle hle'
      exact le_rfl
  sizes hand share hshare := by
    obtain ⟨hhand, rfl⟩ := of_getElem?_deal hshare
    exact length_dealtTo hhand

/-- As long as the hands can be laid out at all, dealing returns lists that hold the items evenly,
each of them in the room that was measured for it, without a division by zero; and without hands
nothing is dealt. -/
theorem layOut_even (hands : Nat) (items : List α)
    (hroom : hands * handSize ≤ Capacity.maxOctets) :
    ∃ dealt, layOut hands items = .returned dealt ∧
      (0 < hands → DealtEvenly hands items dealt) ∧
      (hands = 0 → dealt = []) ∧
      ∃ filled, dealInTurn? hands items = some filled ∧ filled.map Hand.items = dealt ∧
        ∀ hand ∈ filled, hand.items.length = hand.room := by
  refine ⟨deal hands items, Capacity.reserve_eq_returned_iff.mpr ⟨hroom, rfl⟩,
    fun hhands => deal_even hhands items, ?_, _, dealInTurn?_eq hands items, ?_, ?_⟩
  · rintro rfl
    exact List.eq_nil_of_length_eq_zero (length_deal 0 items)
  · rw [deal_eq_map, List.map_map]
    rfl
  · intro hand hmem
    obtain ⟨turn, hturn, rfl⟩ := List.mem_map.mp hmem
    exact length_dealtTo (List.mem_range.mp hturn)

/-- Seven items for three hands. -/
theorem layOut_even_seven :
    3 * handSize ≤ Capacity.maxOctets ∧
      ∃ dealt, layOut 3 [0, 1, 2, 3, 4, 5, 6] = .returned dealt ∧
        DealtEvenly 3 [0, 1, 2, 3, 4, 5, 6] dealt ∧ dealt = [[0, 3, 6], [1, 4], [2, 5]] := by
  have hroom : 3 * handSize ≤ Capacity.maxOctets := by decide
  obtain ⟨dealt, hdealt, heven, -⟩ := layOut_even 3 [0, 1, 2, 3, 4, 5, 6] hroom
  refine ⟨hroom, dealt, hdealt, heven (by decide), ?_⟩
  exact (Capacity.reserve_eq_returned_iff.mp hdealt).2.symm

/-- There are numbers of hands that cannot be laid out, and then nothing is returned at all. -/
theorem layOut_too_many :
    layOut 1000000000000000000 [1] = .crashed Capacity.message ∧
      ¬ ∃ dealt, layOut 1000000000000000000 [1] = .returned dealt := by
  have hcrashed : layOut 1000000000000000000 [1] = .crashed Capacity.message := by
    rw [layOut, Capacity.reserve, if_neg (by decide)]
  refine ⟨hcrashed, ?_⟩
  rintro ⟨dealt, hdealt⟩
  rw [hcrashed] at hdealt
  cases hdealt

end PolicyReplay.RoundRobin
