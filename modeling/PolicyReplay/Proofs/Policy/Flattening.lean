import PolicyReplay.Policy.Setup
import PolicyReplay.Proofs.Text.Split

/-!
# Arrays in a command

A command has no brackets: the items of an array are written with commas between them, and so are
those of an array within it. As long as no array is empty, how the arrays nest does not show, and
the text is that of the leaves, one after the other.

## Key results

- `Json.inductionThroughArrays`: what goes from the items of arrays to the arrays
- `Json.mem_leaves_iff`: the leaves are what is reached through arrays and is no array
- `valueText_flattens`: a value is written as its leaves with commas between them
-/

namespace PolicyReplay

open Text (joinWith)

namespace Json

/-! ## Leaves -/

/-- What is reached from a value through arrays: the value itself, and what is reached from the
items of an array. Objects are not entered. -/
inductive Reaches : Json → Json → Prop where
  | self (value : Json) : Reaches value value
  | item {items : List Json} {item part : Json} (hitem : item ∈ items) (h : Reaches item part) :
    Reaches (.array items) part

/-- A value that is no array. -/
def IsLeaf (value : Json) : Prop := ∀ items, value ≠ .array items

mutual

/-- The values in an array, however deep, that are no arrays, from left to right. A value that is
no array is its only leaf. -/
def leaves : Json → List Json
  | .array items => leavesOf items
  | leaf => [leaf]

/-- The leaves of items, one item after the other. -/
def leavesOf : List Json → List Json
  | [] => []
  | item :: rest => leaves item ++ leavesOf rest

end

variable {value part : Json} {items : List Json}

/-- What holds of every leaf, and of an array if it holds of its items, holds of every value. -/
theorem inductionThroughArrays {motive : Json → Prop} (leaf : ∀ value, value.IsLeaf → motive value)
    (array : ∀ items, (∀ item ∈ items, motive item) → motive (.array items)) :
    (value : Json) → motive value
  | .array items => array items fun item _ => inductionThroughArrays leaf array item
  | .null | .bool _ | .number _ | .string _ | .object _ => leaf _ (by simp [IsLeaf])

/-- The leaves of an array are those of its items, one item after the other. -/
theorem leaves_array (items : List Json) : leaves (.array items) = items.flatMap leaves := by
  -- by induction on the items, as `leavesOf` takes them one by one
  rw [leaves]
  induction items with
  | nil => rw [leavesOf, List.flatMap_nil]
  | cons item rest ih => rw [leavesOf, ih, List.flatMap_cons]

/-- A leaf is its only leaf. -/
theorem IsLeaf.leaves_eq (h : value.IsLeaf) : value.leaves = [value] := by
  unfold leaves
  split
  · rename_i items
    exact absurd rfl (h items)
  · rfl

/-- From an array it and what its items reach are reached. -/
theorem reaches_array_iff :
    Reaches (.array items) part ↔ part = .array items ∨ ∃ item ∈ items, item.Reaches part := by
  constructor
  · intro h
    cases h with
    | self => exact .inl rfl
    | item hitem h => exact .inr ⟨_, hitem, h⟩
  · rintro (rfl | ⟨item, hitem, h⟩)
    · exact .self _
    · exact .item hitem h

/-- From a leaf nothing else is reached. -/
theorem IsLeaf.reaches_iff (h : value.IsLeaf) : value.Reaches part ↔ part = value := by
  constructor
  · intro hpart
    cases hpart with
    | self => rfl
    | item => exact absurd rfl (h _)
  · rintro rfl
    exact .self _

/-- The leaves are what is reached through arrays and is no array. -/
theorem mem_leaves_iff (value : Json) :
    part ∈ value.leaves ↔ value.Reaches part ∧ part.IsLeaf := by
  -- through arrays: a leaf reaches itself only, and an array reaches through its items
  induction value using inductionThroughArrays with
  | leaf value h =>
    rw [h.leaves_eq, List.mem_singleton, h.reaches_iff]
    exact ⟨fun hpart => ⟨hpart, hpart ▸ h⟩, And.left⟩
  | array items ih =>
    rw [leaves_array, List.mem_flatMap, reaches_array_iff]
    constructor
    · rintro ⟨item, hitem, hpart⟩
      obtain ⟨hreaches, hleaf⟩ := (ih item hitem).mp hpart
      exact ⟨.inr ⟨item, hitem, hreaches⟩, hleaf⟩
    -- the array itself is reached, but it is no leaf
    · rintro ⟨rfl | ⟨item, hitem, hreaches⟩, hleaf⟩
      · exact absurd rfl (hleaf items)
      · exact ⟨item, hitem, (ih item hitem).mpr ⟨hreaches, hleaf⟩⟩

/-- A value from which no empty array is reached has a leaf. -/
theorem leaves_ne_nil (value : Json) (h : ¬ value.Reaches (.array [])) : value.leaves ≠ [] := by
  induction value using inductionThroughArrays with
  | leaf value hleaf => simp [hleaf.leaves_eq]
  | array items ih =>
    cases items with
    | nil => exact absurd (.self _) h
    -- the first item has a leaf already, as nothing empty is reached from it either
    | cons first rest =>
      have hfirst := ih first List.mem_cons_self fun hempty => h (.item List.mem_cons_self hempty)
      simp [leaves_array, hfirst]

end Json

namespace Setup

/-! ## Texts -/

/-- The text of a leaf: a string as it is, nothing for null, and all else as JSON. -/
def leafText : Json → List Char
  | .string s => s.toList
  | .null => []
  | leaf => leaf.compactChars

/-- A leaf is written as its text. -/
theorem valueText_of_isLeaf {value : Json} (h : value.IsLeaf) :
    valueText value = leafText value := by
  cases value with
  | array items => exact absurd rfl (h items)
  | null | bool | number | string | object => rw [valueText, leafText] <;> simp

/-- An array is written as its items with commas between them. -/
theorem valueText_array (items : List Json) :
    valueText (.array items) = joinWith [','] (items.map valueText) := by
  rw [valueText]
  -- the cases of the definition: no item, the last one, and one with others behind it
  induction items with
  | nil => rw [itemsText]; rfl
  | cons item rest ih =>
    cases rest with
    | nil => rw [itemsText]; rfl
    | cons next rest =>
      rw [itemsText, ih, List.map_cons (l := next :: rest), Text.joinWith_cons_of_ne_nil]
      · simp
      · exact List.cons_ne_nil _ _
      · exact List.cons_ne_nil _ _

/-- A value from which no empty array is reached is written as its leaves with commas between
them. -/
theorem valueText_eq_joinWith (value : Json) (h : ¬ value.Reaches (.array [])) :
    valueText value = joinWith [','] (value.leaves.map leafText) := by
  -- an array joins what its items join, and no item is left out as each has a leaf
  induction value using Json.inductionThroughArrays with
  | leaf value hleaf => rw [valueText_of_isLeaf hleaf, hleaf.leaves_eq]; rfl
  | array items ih =>
    have hfull : ∀ item ∈ items, ¬ item.Reaches (.array []) := fun item hitem hempty =>
      h (.item hitem hempty)
    have htexts : items.map valueText =
        (items.map fun item => item.leaves.map leafText).map (joinWith [',']) := by
      rw [List.map_map]
      exact List.map_congr_left fun item hitem => ih item hitem (hfull item hitem)
    have hgroups : ∀ group ∈ items.map fun item => item.leaves.map leafText, group ≠ [] :=
      List.forall_mem_map.mpr fun item hitem =>
        mt List.map_eq_nil_iff.mp (item.leaves_ne_nil (hfull item hitem))
    rw [valueText_array, htexts, ← Text.joinWith_flatten hgroups, Json.leaves_array,
      List.map_flatMap, List.flatMap_def]

/-- Arrays are written without regard to how they nest, unless one is empty: a value is written as
its leaves from left to right with commas between them, so values with the same leaves are written
in the same way. -/
theorem valueText_flattens (value : Json) (h : ¬ value.Reaches (.array [])) :
    (∀ part, part ∈ value.leaves ↔ value.Reaches part ∧ part.IsLeaf) ∧
      valueText value = joinWith [','] (value.leaves.map leafText) ∧
      ∀ other : Json, ¬ other.Reaches (.array []) → other.leaves = value.leaves →
        valueText other = valueText value := by
  refine ⟨fun part => Json.mem_leaves_iff value, valueText_eq_joinWith value h, ?_⟩
  intro other hother hleaves
  rw [valueText_eq_joinWith other hother, valueText_eq_joinWith value h, hleaves]

/-- Arrays within arrays, beside a text with a comma, null and an object that holds an empty array:
it is not reached through arrays. -/
theorem valueText_flattens_nested :
    let value : Json := .array [.array [.string "a,b", .null], .array [.array [.bool true]],
      .object [("k", .array [])], .ofNat 7]
    ¬ value.Reaches (.array []) ∧
      value.leaves = [.string "a,b", .null, .bool true, .object [("k", .array [])], .ofNat 7] ∧
      valueText value = "a,b,,true,\x7b\"k\":[]\x7d,7".toList := by
  intro value
  -- each of the leaves reaches itself only, and none is an empty array
  have hfull : ¬ value.Reaches (.array []) := by
    have hleaf (leaf : Json) (h : leaf.IsLeaf) : ¬ leaf.Reaches (.array []) := fun hempty =>
      h [] (h.reaches_iff.mp hempty).symm
    simp [value, Json.reaches_array_iff, hleaf (.string "a,b") nofun, hleaf .null nofun,
      hleaf (.bool true) nofun, hleaf (.object [("k", .array [])]) nofun, hleaf (.ofNat 7) nofun]
  have hleaves : value.leaves =
      [.string "a,b", .null, .bool true, .object [("k", .array [])], .ofNat 7] := rfl
  obtain ⟨-, htext, -⟩ := valueText_flattens value hfull
  refine ⟨hfull, hleaves, ?_⟩
  rw [htext, hleaves]
  decide +kernel

/-- An empty array is written as an item of no text, which is no leaf. -/
example : valueText (.array [.array [], .string "a"]) = ",a".toList := by decide +kernel

end Setup
end PolicyReplay
