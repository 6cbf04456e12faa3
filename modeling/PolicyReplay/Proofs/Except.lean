import Mathlib.Data.List.Perm.Basic

/-!
# Lemmas on `Except`

What it takes for a computation that may fail to succeed, for the combinators with which readers
and compilers are put together.
-/

namespace Except

variable {ε ε' α β : Type}

/-- A result that is left when the error is forgotten. -/
theorem eq_ok_of_toOption {x : Except ε α} {a : α} (h : x.toOption = some a) : x = .ok a := by
  cases x with
  | error e => exact nomatch h
  | ok b =>
    obtain rfl : b = a := Option.some.inj h
    rfl

/-- A chain of two steps succeeds exactly if the first step does and the second one from there. -/
theorem bind_eq_ok_iff {x : Except ε α} {f : α → Except ε β} {b : β} :
    (x >>= f) = .ok b ↔ ∃ a, x = .ok a ∧ f a = .ok b := by
  cases x with
  | error e =>
    constructor
    · intro h; exact nomatch h
    · rintro ⟨a, h, -⟩; exact nomatch h
  | ok a =>
    constructor
    · intro h; exact ⟨a, rfl, h⟩
    · rintro ⟨a', h, hf⟩
      obtain rfl := Except.ok.inj h
      exact hf

/-- A mapped result is the image of the result. -/
theorem map_eq_ok_iff {x : Except ε α} {f : α → β} {b : β} :
    x.map f = .ok b ↔ ∃ a, x = .ok a ∧ f a = b := by
  cases x with
  | error e => simp [Except.map]
  | ok a => simp [Except.map]

/-- Mapping the result leaves the error as it is. -/
theorem map_eq_error_iff {x : Except ε α} {f : α → β} {e : ε} :
    x.map f = .error e ↔ x = .error e := by
  cases x with
  | error e' => simp [Except.map]
  | ok a => simp [Except.map]

/-- Mapping the error leaves the result as it is. -/
theorem mapError_eq_ok_iff {x : Except ε α} {f : ε → ε'} {a : α} :
    x.mapError f = .ok a ↔ x = .ok a := by
  cases x with
  | error e =>
    constructor
    · intro h; exact nomatch h
    · intro h; exact nomatch h
  | ok b => rw [Except.mapError, Except.ok.injEq, Except.ok.injEq]

/-- A mapped error is the image of the error. -/
theorem mapError_eq_error_iff {x : Except ε α} {f : ε → ε'} {e' : ε'} :
    x.mapError f = .error e' ↔ ∃ e, x = .error e ∧ f e = e' := by
  cases x with
  | error e => simp [Except.mapError]
  | ok a => simp [Except.mapError]

/-- A list is mapped without a failure exactly if each item is. -/
theorem mapM_eq_ok_iff {f : α → Except ε β} {items : List α} {results : List β} :
    items.mapM f = .ok results ↔ List.Forall₂ (fun a b => f a = .ok b) items results := by
  induction items generalizing results with
  | nil =>
    constructor
    · intro h
      obtain rfl : [] = results := Except.ok.inj h
      exact .nil
    · intro h
      cases h
      rfl
  | cons a items ih =>
    -- the first item comes first, and the others are mapped from there
    simp only [List.mapM_cons, bind_eq_ok_iff, ih]
    constructor
    · rintro ⟨b, hb, rest, hrest, h⟩
      obtain rfl : b :: rest = results := Except.ok.inj h
      exact .cons hb hrest
    · intro h
      cases h with
      | cons hb hrest => exact ⟨_, hb, _, hrest, rfl⟩

/-- Each result comes from an item. -/
theorem exists_of_mapM_eq_ok {f : α → Except ε β} {items : List α} {results : List β} {result : β}
    (h : items.mapM f = .ok results) (hresult : result ∈ results) :
    ∃ item ∈ items, f item = .ok result := by
  have hitems := mapM_eq_ok_iff.mp h
  -- by induction on the pairs of an item and its result
  clear h
  induction hitems with
  | nil => exact nomatch hresult
  | @cons item first items rest hfirst _ ih =>
    rcases List.mem_cons.mp hresult with rfl | hresult
    · exact ⟨item, List.mem_cons_self, hfirst⟩
    · obtain ⟨other, hother, heq⟩ := ih hresult
      exact ⟨other, List.mem_cons_of_mem _ hother, heq⟩

/-- What results tell of their items one by one they tell of all items. -/
theorem map_eq_map_of_mapM {γ : Type} {f : α → Except ε β} {items : List α} {results : List β}
    {g : α → γ} {g' : β → γ} (h : items.mapM f = .ok results)
    (heach : ∀ item result, f item = .ok result → g item = g' result) :
    items.map g = results.map g' := by
  have hitems := mapM_eq_ok_iff.mp h
  clear h
  induction hitems with
  | nil => rfl
  | cons hfirst _ ih => rw [List.map_cons, List.map_cons, heach _ _ hfirst, ih]

/-- Items in another order have the same results in another order. -/
theorem mapM_perm {f : α → Except ε β} {items items' : List α} {results : List β}
    (hperm : items'.Perm items) (h : items.mapM f = .ok results) :
    ∃ results', items'.mapM f = .ok results' ∧ results'.Perm results := by
  -- the results are moved as the items are
  obtain ⟨results', hresults', hperm'⟩ := List.perm_comp_forall₂ hperm (mapM_eq_ok_iff.mp h)
  exact ⟨results', mapM_eq_ok_iff.mpr hresults', hperm'⟩

/-- A list is mapped without a failure exactly if each item can be. -/
theorem exists_mapM_eq_ok_iff {f : α → Except ε β} {items : List α} :
    (∃ results, items.mapM f = .ok results) ↔ ∀ item ∈ items, ∃ result, f item = .ok result := by
  induction items with
  | nil => exact ⟨fun _ => by simp, fun _ => ⟨[], rfl⟩⟩
  | cons item items ih =>
    rw [List.forall_mem_cons, ← ih]
    simp only [List.mapM_cons, bind_eq_ok_iff]
    constructor
    · rintro ⟨results, result, hresult, rest, hrest, -⟩
      exact ⟨⟨result, hresult⟩, rest, hrest⟩
    · rintro ⟨⟨result, hresult⟩, rest, hrest⟩
      exact ⟨result :: rest, result, hresult, rest, hrest, rfl⟩

/-- Mapping a list fails with the error of the first item that fails. -/
theorem mapM_eq_error_iff {f : α → Except ε β} {items : List α} {e : ε} :
    items.mapM f = .error e ↔ ∃ before item after, items = before ++ item :: after ∧
      (∀ other ∈ before, ∃ result, f other = .ok result) ∧ f item = .error e := by
  constructor
  · intro h
    induction items with
    | nil => exact nomatch h
    | cons item items ih =>
      rw [List.mapM_cons] at h
      cases hitem : f item with
      | error cause =>
        rw [hitem] at h
        obtain rfl : cause = e := Except.error.inj h
        exact ⟨[], item, items, rfl, by simp, hitem⟩
      | ok result =>
        -- the error comes from behind the first item
        cases hrest : items.mapM f with
        | ok results =>
          rw [hitem, hrest] at h
          exact nomatch h
        | error cause =>
          rw [hitem, hrest] at h
          obtain rfl : cause = e := Except.error.inj h
          obtain ⟨before, failing, after, rfl, hbefore, hfailing⟩ := ih hrest
          refine ⟨item :: before, failing, after, rfl, ?_, hfailing⟩
          exact List.forall_mem_cons.mpr ⟨⟨result, hitem⟩, hbefore⟩
  -- nothing before the failing item stops the mapping, and what is behind it is not reached
  · rintro ⟨before, item, after, rfl, hbefore, hitem⟩
    obtain ⟨results, hresults⟩ := exists_mapM_eq_ok_iff.mpr hbefore
    rw [List.mapM_append, hresults, List.mapM_cons, hitem]
    rfl

/-- A fold fails exactly if it gets as far as some item and fails there. -/
theorem foldlM_eq_error_iff {f : β → α → Except ε β} {items : List α} {b : β} {e : ε} :
    items.foldlM f b = .error e ↔ ∃ before item after b', items = before ++ item :: after ∧
      before.foldlM f b = .ok b' ∧ f b' item = .error e := by
  induction items generalizing b with
  | nil =>
    constructor
    · intro h; exact nomatch h
    · rintro ⟨before, item, after, b', h, -⟩
      simp at h
  | cons a items ih =>
    rw [List.foldlM_cons]
    cases ha : f b a with
    | error e' =>
      -- the fold fails at the first item, and nowhere else
      constructor
      · intro h
        obtain rfl := Except.error.inj h
        exact ⟨[], a, items, b, rfl, rfl, ha⟩
      · rintro ⟨before, item, after, b', h, hbefore, hitem⟩
        cases before with
        | nil =>
          obtain ⟨rfl, rfl⟩ := List.cons.inj h
          obtain rfl := Except.ok.inj hbefore
          rw [ha] at hitem
          exact hitem
        | cons c before =>
          obtain ⟨rfl, rfl⟩ := List.cons.inj h
          rw [List.foldlM_cons, ha] at hbefore
          exact nomatch hbefore
    | ok b₁ =>
      -- the first item is passed, so the fold fails behind it, with the same item and error
      refine Iff.trans (ih (b := b₁)) ?_
      constructor
      · rintro ⟨before, item, after, b', rfl, hbefore, hitem⟩
        exact ⟨a :: before, item, after, b', rfl, by rw [List.foldlM_cons, ha]; exact hbefore,
          hitem⟩
      · rintro ⟨before, item, after, b', h, hbefore, hitem⟩
        cases before with
        | nil =>
          obtain ⟨rfl, rfl⟩ := List.cons.inj h
          obtain rfl := Except.ok.inj hbefore
          rw [ha] at hitem
          exact nomatch hitem
        | cons c before =>
          obtain ⟨rfl, rfl⟩ := List.cons.inj h
          rw [List.foldlM_cons, ha] at hbefore
          exact ⟨before, item, after, b', rfl, hbefore, hitem⟩

/-! ### Results that differ in their errors only -/

/-- Chains agree up to their errors if both of their steps do. -/
theorem mapError_bind_congr {g : ε → ε'} {x x' : Except ε α} {f f' : α → Except ε β}
    (hx : x.mapError g = x'.mapError g) (hf : ∀ a, (f a).mapError g = (f' a).mapError g) :
    (x >>= f).mapError g = (x' >>= f').mapError g := by
  cases x with
  | error e =>
    cases x' with
    | error e' => exact congrArg Except.error (Except.error.inj hx)
    | ok a' => exact nomatch hx
  | ok a =>
    cases x' with
    | error e' => exact nomatch hx
    | ok a' =>
      obtain rfl := Except.ok.inj hx
      exact hf a

/-- Mapped results agree up to their errors if the results do. -/
theorem mapError_map_congr {g : ε → ε'} {x x' : Except ε α} (f : α → β)
    (hx : x.mapError g = x'.mapError g) : (x.map f).mapError g = (x'.map f).mapError g := by
  -- mapping is a chain whose second step never fails
  have hmap (x : Except ε α) : x.map f = x >>= fun a => .ok (f a) := by cases x <;> rfl
  rw [hmap, hmap]
  exact mapError_bind_congr hx fun _ => rfl

/-- Folds agree if their steps do, item by item. -/
theorem mapError_foldlM_congr {g : ε → ε'} {f f' : β → α → Except ε β} {items items' : List α}
    (h : List.Forall₂ (fun a a' => ∀ b, (f b a).mapError g = (f' b a').mapError g) items items')
    (b : β) : (items.foldlM f b).mapError g = (items'.foldlM f' b).mapError g := by
  induction h generalizing b with
  | nil => rfl
  | cons ha _ ih =>
    rw [List.foldlM_cons, List.foldlM_cons]
    exact mapError_bind_congr (ha b) ih

end Except
