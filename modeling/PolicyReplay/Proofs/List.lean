import Mathlib.Data.List.Basic

/-!
# Lemmas on lists

Looking up a key that is there once, and mapping a list with a function that may give nothing.
-/

namespace List

variable {κ α β : Type} [BEq κ] [LawfulBEq κ]

/-- Where no key comes twice, each entry is found by its key. -/
theorem lookup_eq_some_iff_mem {entries : List (κ × α)} {key : κ} {value : α}
    (hnodup : (entries.map (·.1)).Nodup) :
    entries.lookup key = some value ↔ (key, value) ∈ entries := by
  rw [lookup_eq_some_iff]
  constructor
  · rintro ⟨before, after, rfl, -⟩
    exact mem_append_right _ mem_cons_self
  · intro h
    -- an entry before it with the same key would be a second one
    obtain ⟨before, after, rfl⟩ := append_of_mem h
    refine ⟨before, after, rfl, fun entry hentry => bne_iff_ne.mpr fun heq => ?_⟩
    rw [map_append, map_cons] at hnodup
    exact (nodup_append.mp hnodup).2.2 entry.1 (mem_map_of_mem hentry) key mem_cons_self heq.symm

/-- A list is mapped to something exactly if each item is. -/
theorem mapM_eq_some_iff {f : α → Option β} {items : List α} {results : List β} :
    items.mapM f = some results ↔ items.map f = results.map some := by
  -- item by item; the first item that is mapped to nothing ends both sides
  induction items generalizing results with
  | nil => cases results <;> simp
  | cons item items ih =>
    cases hitem : f item with
    | none => cases results <;> simp [hitem]
    | some b => cases results <;> simp [hitem, Option.bind_eq_some_iff, ih, and_comm]

end List
