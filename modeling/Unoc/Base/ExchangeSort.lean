import Mathlib.Data.List.Pairwise
import Mathlib.Order.Lattice

/-!
# Exchange sort

Two nested loops over an array: the outer one fixes a position, the inner one compares it with each
later position and swaps the two where they are out of order.
-/

namespace Unoc.Base

universe u

variable {α : Type u} [LinearOrder α]

/-- The inner loop: the value at the fixed position, against the values at the later ones. -/
def exchange (x : α) : List α → α × List α
  | [] => (x, [])
  | y :: ys =>
    if y < x then ((exchange y ys).1, x :: (exchange y ys).2)
    else ((exchange x ys).1, y :: (exchange x ys).2)

/-- The outer loop over the first positions. -/
def exchangeLoop : Nat → List α → List α
  | 0, xs => xs
  | _ + 1, [] => []
  | n + 1, x :: xs => (exchange x xs).1 :: exchangeLoop n (exchange x xs).2

/-- The sorted list. -/
def exchangeSort (xs : List α) : List α := exchangeLoop xs.length xs

private theorem exchange_perm (x : α) (xs : List α) :
    ((exchange x xs).1 :: (exchange x xs).2).Perm (x :: xs) := by
  induction xs generalizing x with
  | nil => exact .refl _
  | cons y ys ih =>
    rw [exchange]
    split
    · exact (List.Perm.swap _ _ _).trans ((ih y).cons x)
    · exact ((List.Perm.swap _ _ _).trans ((ih x).cons y)).trans (.swap _ _ _)

private theorem length_exchange (x : α) (xs : List α) : (exchange x xs).2.length = xs.length := by
  have hlength := (exchange_perm x xs).length_eq
  rw [List.length_cons, List.length_cons] at hlength
  exact Nat.succ.inj hlength

private theorem exchange_le (x : α) (xs : List α) : (exchange x xs).1 ≤ x := by
  induction xs generalizing x with
  | nil => exact le_refl x
  | cons y ys ih =>
    rw [exchange]
    split
    · next hlt => exact (ih y).trans hlt.le
    · exact ih x

/-- The inner loop leaves a least value at its position. -/
theorem exchange_least (x : α) (xs : List α) : ∀ y ∈ (exchange x xs).2, (exchange x xs).1 ≤ y := by
  induction xs generalizing x with
  | nil => intro y hy; cases hy
  | cons y ys ih =>
    rw [exchange]
    split
    · next hlt =>
      intro z hz
      rcases List.mem_cons.mp hz with rfl | hz
      · exact (exchange_le y ys).trans hlt.le
      · exact ih y z hz
    · next hle =>
      intro z hz
      rcases List.mem_cons.mp hz with rfl | hz
      · exact (exchange_le x ys).trans (not_lt.mp hle)
      · exact ih x z hz

private theorem exchangeLoop_perm (n : Nat) (xs : List α) : (exchangeLoop n xs).Perm xs := by
  induction n generalizing xs with
  | zero => exact .refl _
  | succ n ih =>
    cases xs with
    | nil => exact .refl _
    | cons x xs => exact ((ih _).cons _).trans (exchange_perm x xs)

private theorem exchangeLoop_sorted (n : Nat) (xs : List α) (hlength : xs.length ≤ n) :
    (exchangeLoop n xs).Pairwise (· ≤ ·) := by
  induction n generalizing xs with
  | zero =>
    rw [List.length_eq_zero_iff.mp (Nat.le_zero.mp hlength)]
    exact .nil
  | succ n ih =>
    cases xs with
    | nil => exact .nil
    | cons x xs =>
      have hrest : (exchange x xs).2.length ≤ n := by
        rw [length_exchange]
        exact Nat.le_of_succ_le_succ hlength
      refine List.pairwise_cons.mpr ⟨?_, ih _ hrest⟩
      intro y hy
      exact exchange_least x xs y ((exchangeLoop_perm n _).mem_iff.mp hy)

private theorem exchangeSort_perm (xs : List α) : (exchangeSort xs).Perm xs :=
  exchangeLoop_perm xs.length xs

private theorem exchangeSort_sorted (xs : List α) : (exchangeSort xs).Pairwise (· ≤ ·) :=
  exchangeLoop_sorted xs.length xs (Nat.le_refl _)

/-- Sorting by exchanges keeps the items. -/
theorem mem_exchangeSort {xs : List α} {x : α} : x ∈ exchangeSort xs ↔ x ∈ xs :=
  (exchangeSort_perm xs).mem_iff

/-- Without duplicates the order is strict. -/
theorem exchangeSort_strict {xs : List α} (h : xs.Nodup) : (exchangeSort xs).Pairwise (· < ·) := by
  have hnodup : (exchangeSort xs).Nodup := (exchangeSort_perm xs).nodup_iff.mpr h
  exact (exchangeSort_sorted xs).imp₂ (fun _ _ hle hne ↦ lt_of_le_of_ne hle hne) hnodup

end Unoc.Base
