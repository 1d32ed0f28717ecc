import Mathlib.Data.List.Sort

/-!
# Choices from a list

The first element of a list sorted by a key, and the first value found in a list. The one is a least
element, and neither depends on the order of the list where no two elements share a key, or only one
value is to be found.
-/

namespace Unoc.Base

universe u v w

variable {α : Type u} {K : Type v} [LinearOrder K] {key : α → K} {xs ys : List α} {x : α}

/-- The head of a list sorted by a key has a least key. -/
theorem le_of_insertionSort {rest : List α}
    (h : xs.insertionSort (fun a b ↦ key a ≤ key b) = x :: rest) {y : α} (hy : y ∈ xs) :
    key x ≤ key y := by
  have htrans : IsTrans α (fun a b ↦ key a ≤ key b) := ⟨fun _ _ _ hab hbc ↦ le_trans hab hbc⟩
  have htotal : Std.Total (fun a b : α ↦ key a ≤ key b) := ⟨fun a b ↦ le_total (key a) (key b)⟩
  have hsorted := List.pairwise_insertionSort (fun a b ↦ key a ≤ key b) xs
  rw [h] at hsorted
  rw [← List.mem_insertionSort (fun a b ↦ key a ≤ key b), h] at hy
  rcases List.mem_cons.mp hy with rfl | hy
  · exact le_refl _
  · exact List.rel_of_pairwise_cons hsorted hy

/-- The first element of a list sorted by a key. -/
def leastBy (key : α → K) (xs : List α) : Option α :=
  (xs.insertionSort (fun a b ↦ key a ≤ key b)).head?

/-- Only an empty list has no least item. -/
theorem leastBy_eq_none : leastBy key xs = none ↔ xs = [] := by
  rw [leastBy, List.head?_eq_none_iff, ← List.length_eq_zero_iff, List.length_insertionSort,
    List.length_eq_zero_iff]

/-- A least element is in the list, and none is below it. -/
theorem leastBy_spec (h : leastBy key xs = some x) : x ∈ xs ∧ ∀ y ∈ xs, key x ≤ key y := by
  obtain ⟨rest, hsort⟩ := List.head?_eq_some_iff.mp h
  refine ⟨?_, fun y hy ↦ le_of_insertionSort hsort hy⟩
  rw [← List.mem_insertionSort (fun a b ↦ key a ≤ key b), hsort]
  exact List.mem_cons_self

/-- An element below all others is the least one. -/
theorem leastBy_eq_some (hx : x ∈ xs) (hlt : ∀ y ∈ xs, y ≠ x → key x < key y) :
    leastBy key xs = some x := by
  cases h : leastBy key xs with
  | none =>
    rw [leastBy_eq_none.mp h] at hx
    cases hx
  | some y =>
    obtain ⟨hy, hle⟩ := leastBy_spec h
    by_contra hne
    have hyx : y ≠ x := fun heq ↦ hne (by rw [heq])
    exact absurd (hle x hx) (not_le.mpr (hlt y hy hyx))

/-- Lists of the same elements have the same least element, if no two elements share a key. -/
theorem leastBy_perm (hperm : xs.Perm ys)
    (hkey : ∀ x ∈ xs, ∀ y ∈ xs, key x = key y → x = y) : leastBy key xs = leastBy key ys := by
  cases h : leastBy key xs with
  | none =>
    obtain rfl := leastBy_eq_none.mp h
    rw [hperm.nil_eq.symm, ← h]
  | some x =>
    obtain ⟨hx, hle⟩ := leastBy_spec h
    refine (leastBy_eq_some (hperm.mem_iff.mp hx) fun y hy hne ↦ ?_).symm
    have hy' := hperm.mem_iff.mpr hy
    exact lt_of_le_of_ne (hle y hy') fun heq ↦ hne (hkey x hx y hy' heq).symm

omit [LinearOrder K] in
/-- The first value found is the same in every order, if only one is to be found. -/
theorem findSome?_perm {β : Type w} {f : α → Option β} (hperm : xs.Perm ys)
    (hone : ∀ x ∈ ys, ∀ y ∈ ys, ∀ a b, f x = some a → f y = some b → a = b) :
    xs.findSome? f = ys.findSome? f := by
  cases hys : ys.findSome? f with
  | none =>
    rw [List.findSome?_eq_none_iff] at hys ⊢
    exact fun x hx ↦ hys x (hperm.mem_iff.mp hx)
  | some b =>
    obtain ⟨y, hy, hfy⟩ := List.exists_of_findSome?_eq_some hys
    cases hxs : xs.findSome? f with
    | none =>
      rw [List.findSome?_eq_none_iff] at hxs
      rw [hxs y (hperm.mem_iff.mpr hy)] at hfy
      cases hfy
    | some a =>
      obtain ⟨x, hx, hfx⟩ := List.exists_of_findSome?_eq_some hxs
      rw [hone x (hperm.mem_iff.mp hx) y hy a b hfx hfy]

end Unoc.Base
