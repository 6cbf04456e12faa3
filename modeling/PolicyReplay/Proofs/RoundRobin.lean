import Mathlib.Data.List.Induction
import PolicyReplay.RoundRobin

/-!
# Dealt lists

Dealing a list loses nothing and doubles nothing: the hands together hold what was dealt, and each
hand holds every so many items in their order.

## Key results

- `length_deal`: there are as many hands as were asked for, empty ones included
- `flatten_deal_perm`: the hands together hold the items
- `getElem?_of_deal`: which item stands where in which hand
-/

namespace PolicyReplay.RoundRobin

variable {α : Type}

/-- Lay numbered items down in front of hands that already hold some. -/
def layDown (hands : Nat) (cards : List (α × Nat)) (dealt : List (List α)) : List (List α) :=
  cards.foldr (fun (item, index) dealt => dealt.modify (index % hands) (item :: ·)) dealt

/-- Dealing is laying the items down with their numbers, in front of empty hands. -/
theorem deal_eq_layDown (hands : Nat) (items : List α) :
    deal hands items = layDown hands items.zipIdx (List.replicate hands []) := rfl

/-- The first card is laid down last, in front of the hand whose turn it is. -/
theorem layDown_cons (hands : Nat) (item : α) (index : Nat) (cards : List (α × Nat))
    (dealt : List (List α)) :
    layDown hands ((item, index) :: cards) dealt =
      (layDown hands cards dealt).modify (index % hands) (item :: ·) := rfl

/-- Laying cards down neither adds a hand nor takes one away. -/
@[simp] theorem length_layDown (hands : Nat) (cards : List (α × Nat)) (dealt : List (List α)) :
    (layDown hands cards dealt).length = dealt.length := by
  induction cards with
  | nil => rfl
  | cons card cards ih => rw [layDown_cons, List.length_modify, ih]

/-- There are as many hands as were asked for. -/
theorem length_deal (hands : Nat) (items : List α) : (deal hands items).length = hands := by
  rw [deal_eq_layDown, length_layDown, List.length_replicate]

/-- An item in front of one hand is one more among all. -/
theorem flatten_modify_perm (item : α) {index : Nat} {dealt : List (List α)}
    (hindex : index < dealt.length) :
    (dealt.modify index (item :: ·)).flatten.Perm (item :: dealt.flatten) := by
  obtain ⟨front, hand, rest, hdealt, -, hmodify⟩ := List.exists_of_modify (item :: ·) hindex
  rw [hmodify, hdealt]
  simp only [List.flatten_append, List.flatten_cons, List.cons_append]
  exact List.perm_middle

/-- The hands together hold the cards laid down and what they held before. -/
theorem flatten_layDown_perm {hands : Nat} (hhands : 0 < hands) (cards : List (α × Nat))
    {dealt : List (List α)} (hdealt : dealt.length = hands) :
    (layDown hands cards dealt).flatten.Perm (cards.map Prod.fst ++ dealt.flatten) := by
  -- the first card is laid down last, on what the others have come to
  induction cards with
  | nil => exact .refl _
  | cons card cards ih =>
    have hindex : card.2 % hands < (layDown hands cards dealt).length := by
      rw [length_layDown, hdealt]
      exact Nat.mod_lt _ hhands
    rw [layDown_cons]
    exact (flatten_modify_perm card.1 hindex).trans (ih.cons card.1)

/-- The hands together hold what was dealt, if there is any hand to deal to. -/
theorem flatten_deal_perm {hands : Nat} (hhands : 0 < hands) (items : List α) :
    (deal hands items).flatten.Perm items := by
  have hreplicate : (List.replicate hands ([] : List α)).length = hands := List.length_replicate
  have h := flatten_layDown_perm hhands items.zipIdx hreplicate
  rwa [List.zipIdx_map_fst, List.flatten_replicate_nil, List.append_nil] at h

/-! ## Where the items are -/

/-- The items that are dealt to a hand: those whose index leaves the number of the hand. -/
def dealtTo (hands hand : Nat) (items : List α) : List α :=
  (items.zipIdx.filter fun card => card.2 % hands = hand).map Prod.fst

/-- The cards laid down in front of a hand are those whose turn is that of the hand. -/
theorem getElem?_layDown (hands : Nat) (cards : List (α × Nat)) (dealt : List (List α))
    (hand : Nat) :
    (layDown hands cards dealt)[hand]? =
      dealt[hand]?.map (((cards.filter fun card => card.2 % hands = hand).map Prod.fst) ++ ·) := by
  -- by induction on the cards: the first of them is put in front of one hand
  induction cards with
  | nil => simp [layDown]
  | cons card cards ih =>
    rw [layDown_cons, List.getElem?_modify, ih, List.filter_cons]
    by_cases hturn : card.2 % hands = hand
    · simp [hturn, Function.comp_def]
    · simp [hturn]

/-- Each hand there is gets what is dealt to it, and no others get anything. -/
theorem getElem?_deal (hands hand : Nat) (items : List α) :
    (deal hands items)[hand]? =
      if hand < hands then some (dealtTo hands hand items) else none := by
  rw [deal_eq_layDown, getElem?_layDown, List.getElem?_replicate]
  split
  · simp [dealtTo]
  · rfl

/-- A last item goes to the hand whose turn its index is, and to no other. -/
theorem dealtTo_concat (hands hand : Nat) (items : List α) (item : α) :
    dealtTo hands hand (items ++ [item]) =
      dealtTo hands hand items ++ if items.length % hands = hand then [item] else [] := by
  rw [dealtTo, List.zipIdx_append, List.filter_append, List.map_append]
  by_cases hturn : items.length % hands = hand
  · simp [hturn, dealtTo]
  · simp [hturn, dealtTo]

/-- The turns of a hand come every so many cards: its `k`-th item is the one with the index
`hand + k * hands`. -/
theorem getElem?_dealtTo {hands hand : Nat} (hhand : hand < hands) (items : List α) (k : Nat) :
    (dealtTo hands hand items)[k]? = items[hand + k * hands]? := by
  -- the hand grows with the last item if that is its turn
  induction items using List.reverseRecOn generalizing k with
  | nil => simp [dealtTo]
  | append_singleton items item ih =>
    -- what is known of the places so far also tells how many items the hand has
    have hbound : ∀ k, (dealtTo hands hand items).length ≤ k ↔
        items.length ≤ hand + k * hands := by
      intro k
      rw [← List.getElem?_eq_none_iff, ih, List.getElem?_eq_none_iff]
    have hrounds : items.length % hands + items.length / hands * hands = items.length :=
      Nat.mod_add_div' items.length hands
    rw [dealtTo_concat]
    by_cases hturn : items.length % hands = hand
    · -- so far the hand has had one item in each full round
      have hlength : (dealtTo hands hand items).length = items.length / hands := by
        have hle := (hbound (items.length / hands)).2 (by omega)
        have hge := (hbound _).1 (Nat.le_refl (dealtTo hands hand items).length)
        have hmul : items.length / hands * hands ≤
            (dealtTo hands hand items).length * hands := by omega
        have hdiv := Nat.le_of_mul_le_mul_right hmul (by omega)
        omega
      rw [if_pos hturn]
      rcases Nat.lt_trichotomy k (dealtTo hands hand items).length with hk | hk | hk
      · have hindex := (hbound k).2.mt (by omega)
        rw [List.getElem?_append_left hk, List.getElem?_append_left (by omega), ih]
      · have hindex : hand + k * hands = items.length := by rw [hk, hlength]; omega
        rw [hk, List.getElem?_concat_length, ← hk, hindex, List.getElem?_concat_length]
      · have hmul := Nat.mul_le_mul_right hands (show items.length / hands + 1 ≤ k by omega)
        rw [Nat.add_mul] at hmul
        rw [List.getElem?_eq_none (by simp; omega), List.getElem?_eq_none (by simp; omega)]
    · rw [if_neg hturn, List.append_nil, ih]
      have hne : hand + k * hands ≠ items.length := by
        intro h
        rw [← h, Nat.add_mul_mod_self_right, Nat.mod_eq_of_lt hhand] at hturn
        exact hturn rfl
      rcases Nat.lt_or_gt_of_ne hne with h | h
      · rw [List.getElem?_append_left h]
      · rw [List.getElem?_eq_none (by omega), List.getElem?_eq_none (by simp; omega)]

/-- The items of a hand are those at every so many places, beginning with the number of the hand. -/
theorem getElem?_of_deal {hands hand : Nat} {items share : List α}
    (h : (deal hands items)[hand]? = some share) (k : Nat) :
    share[k]? = items[hand + k * hands]? := by
  rw [getElem?_deal] at h
  split at h
  · rename_i hhand
    obtain rfl := Option.some.inj h
    exact getElem?_dealtTo hhand items k
  · exact nomatch h

end PolicyReplay.RoundRobin
