import Mathlib.Data.List.Induction

/-!
# The first of the best

A scan over a list that keeps an item with a score and replaces it by one with a higher score only: it
ends with the first item of the highest score.
-/

namespace Unoc.Base

universe u

variable {α : Type u}

/-- One item of the scan. -/
def keepBest (score : α → Option Nat) (best : Option (Nat × α)) (x : α) : Option (Nat × α) :=
  match score x with
  | none => best
  | some n => if best.all (fun b ↦ b.1 < n) then some (n, x) else best

/-- The scan. -/
def firstBest (score : α → Option Nat) (xs : List α) : Option (Nat × α) :=
  xs.foldl (keepBest score) none

/-- The items before have lower scores, those behind no higher ones. -/
def FirstBest (score : α → Option Nat) (xs : List α) (n : Nat) (x : α) : Prop :=
  ∃ before behind, xs = before ++ x :: behind ∧ score x = some n ∧
    (∀ y ∈ before, ∀ m, score y = some m → m < n) ∧ ∀ y ∈ behind, ∀ m, score y = some m → m ≤ n

variable {score : α → Option Nat} {xs : List α} {n : Nat} {x : α}

/-- The first of the best is an item. -/
theorem FirstBest.mem (h : FirstBest score xs n x) : x ∈ xs := by
  obtain ⟨before, behind, rfl, _⟩ := h
  exact List.mem_append_right _ List.mem_cons_self

/-- The first of the best has its score. -/
theorem FirstBest.score_eq (h : FirstBest score xs n x) : score x = some n := by
  obtain ⟨_, _, _, hscore, _⟩ := h
  exact hscore

/-- No item has a better score than the first of the best. -/
theorem FirstBest.le (h : FirstBest score xs n x) {y : α} (hy : y ∈ xs) {m : Nat}
    (hm : score y = some m) : m ≤ n := by
  obtain ⟨before, behind, rfl, hscore, hbefore, hbehind⟩ := h
  rcases List.mem_append.mp hy with hy | hy
  · exact Nat.le_of_lt (hbefore y hy m hm)
  · rcases List.mem_cons.mp hy with rfl | hy
    · rw [hscore] at hm
      exact Nat.le_of_eq (Option.some.inj hm).symm
    · exact hbehind y hy m hm

/-- One more item at the end. -/
theorem firstBest_concat (xs : List α) (x : α) :
    firstBest score (xs ++ [x]) = keepBest score (firstBest score xs) x := by
  rw [firstBest, List.foldl_append]
  rfl

/-- The scan finds nothing if no item has a score, else the first of the best. -/
theorem firstBest_spec (score : α → Option Nat) (xs : List α) :
    (firstBest score xs = none ∧ ∀ x ∈ xs, score x = none) ∨
      ∃ n x, firstBest score xs = some (n, x) ∧ FirstBest score xs n x := by
  induction xs using List.reverseRecOn with
  | nil => exact .inl ⟨rfl, fun x hx ↦ absurd hx List.not_mem_nil⟩
  | append_singleton xs x ih =>
    rw [firstBest_concat, keepBest]
    cases hscore : score x with
    | none =>
      rcases ih with ⟨hnone, hall⟩ | ⟨n, b, hbest, before, behind, rfl, hb, hbefore, hbehind⟩
      · refine .inl ⟨hnone, fun y hy ↦ ?_⟩
        rcases List.mem_append.mp hy with hy | hy
        · exact hall y hy
        · rw [List.mem_singleton.mp hy]
          exact hscore
      · refine .inr ⟨n, b, hbest, before, behind ++ [x], by simp, hb, hbefore, fun y hy m hm ↦ ?_⟩
        rcases List.mem_append.mp hy with hy | hy
        · exact hbehind y hy m hm
        · rw [List.mem_singleton.mp hy, hscore] at hm
          cases hm
    | some k =>
      right
      rcases ih with ⟨hnone, hall⟩ | ⟨n, b, hbest, before, behind, rfl, hb, hbefore, hbehind⟩
      · refine ⟨k, x, by rw [hnone]; rfl, xs, [], rfl, hscore, fun y hy m hm ↦ ?_, by simp⟩
        rw [hall y hy] at hm
        cases hm
      · rw [hbest]
        by_cases hlt : n < k
        · refine ⟨k, x, by simp [hlt], before ++ b :: behind, [], rfl, hscore, fun y hy m hm ↦ ?_,
            by simp⟩
          have hle := FirstBest.le ⟨before, behind, rfl, hb, hbefore, hbehind⟩ hy hm
          exact Nat.lt_of_le_of_lt hle hlt
        · refine ⟨n, b, by simp [hlt], before, behind ++ [x], by simp, hb, hbefore,
            fun y hy m hm ↦ ?_⟩
          rcases List.mem_append.mp hy with hy | hy
          · exact hbehind y hy m hm
          · rw [List.mem_singleton.mp hy, hscore] at hm
            cases hm
            exact Nat.le_of_not_lt hlt

/-- There is only one first of the best. -/
theorem FirstBest.unique {m : Nat} {y : α} (h : FirstBest score xs n x)
    (h' : FirstBest score xs m y) : n = m ∧ x = y := by
  have hnm : n = m :=
    Nat.le_antisymm (h'.le h.mem h.score_eq) (h.le h'.mem h'.score_eq)
  subst hnm
  obtain ⟨before, behind, rfl, hx, hbefore, _⟩ := h
  obtain ⟨before', behind', heq, hy, hbefore', _⟩ := h'
  refine ⟨rfl, ?_⟩
  rcases List.append_eq_append_iff.mp heq with ⟨between, rfl, hrest⟩ | ⟨between, rfl, hrest⟩
  · cases between with
    | nil => exact (List.cons.inj hrest).1
    | cons z between =>
      obtain ⟨rfl, _⟩ := List.cons.inj hrest
      exact absurd (hbefore' x (List.mem_append_right _ List.mem_cons_self) n hx) (Nat.lt_irrefl n)
  · cases between with
    | nil => exact (List.cons.inj hrest).1.symm
    | cons z between =>
      obtain ⟨rfl, _⟩ := List.cons.inj hrest
      exact absurd (hbefore y (List.mem_append_right _ List.mem_cons_self) n hy) (Nat.lt_irrefl n)

/-- The scan returns the first of the best. -/
theorem firstBest_eq_some : firstBest score xs = some (n, x) ↔ FirstBest score xs n x := by
  rcases firstBest_spec score xs with ⟨hnone, hall⟩ | ⟨m, y, hsome, hbest⟩
  · rw [hnone]
    constructor
    · intro h
      cases h
    · intro h
      have hscore := h.score_eq
      rw [hall x h.mem] at hscore
      cases hscore
  · rw [hsome]
    constructor
    · intro h
      cases h
      exact hbest
    · intro h
      obtain ⟨rfl, rfl⟩ := hbest.unique h
      rfl

end Unoc.Base
