import Mathlib.Data.Finset.Card
import Mathlib.Data.Finset.Range

/-!
# Orbits of a step that may stop

A deterministic step over states of which only finitely many are ever entered either stops within that
many steps and one more, or never.
-/

namespace Unoc.Base

universe u

variable {α : Type u} (f : α → Option α)

/-- The state after some steps, if none of them stops. -/
def orbit (x : α) : Nat → Option α
  | 0 => some x
  | n + 1 => (orbit x n).bind f

variable {f} {x : α}

private theorem orbit_add (m n : Nat) : orbit f x (m + n) = (orbit f x m).bind
    (fun y ↦ orbit f y n) := by
  induction n with
  | zero => cases orbit f x m <;> rfl
  | succ n ih =>
    change (orbit f x (m + n)).bind f = _
    rw [ih, Option.bind_assoc]
    rfl

/-- The first step of an orbit apart. -/
theorem orbit_succ (n : Nat) : orbit f x (n + 1) = (f x).bind (fun y ↦ orbit f y n) := by
  rw [Nat.add_comm, orbit_add]
  rfl

private theorem orbit_isSome_of_le {m n : Nat} (hle : m ≤ n) (h : (orbit f x n).isSome) :
    (orbit f x m).isSome := by
  have ⟨k, hk⟩ := Nat.exists_eq_add_of_le hle
  rw [hk, orbit_add] at h
  exact Option.isSome_of_isSome_bind h

/-- An orbit that returns to a state never stops. -/
theorem orbit_isSome_of_repeat {i j : Nat} (hlt : i < j) (hsome : (orbit f x j).isSome)
    (heq : orbit f x i = orbit f x j) (n : Nat) : (orbit f x n).isSome := by
  induction n using Nat.strongRecOn with
  | _ n ih =>
    rcases Nat.lt_or_ge j n with hjn | hnj
    · have ⟨k, hk⟩ := Nat.exists_eq_add_of_le (Nat.le_of_lt hjn)
      -- the orbit from `j` is that from `i`
      have hback : orbit f x n = orbit f x (i + k) := by
        rw [hk, orbit_add, orbit_add, heq]
      rw [hback]
      exact ih (i + k) (by omega)
    · exact orbit_isSome_of_le hnj hsome

/-- An orbit keeps what every step keeps. -/
theorem orbit_invariant {P : α → Prop} (hx : P x) (hP : ∀ y z, P y → f y = some z → P z) {n : Nat} {y : α}
    (h : orbit f x n = some y) : P y := by
  induction n generalizing y with
  | zero =>
    cases h
    exact hx
  | succ n ih =>
    have ⟨m, hm, hy⟩ := Option.bind_eq_some_iff.mp h
    exact hP m y (ih hm) hy

/-- An orbit that has entered more states than there are never stops. -/
theorem orbit_isSome_of_card {P : α → Prop} {S : Finset α} (hx : P x)
    (hS : ∀ y z, P y → f y = some z → P z ∧ z ∈ S) {m : Nat} (hm : S.card < m)
    (h : (orbit f x m).isSome) (n : Nat) : (orbit f x n).isSome := by
  classical
  have hentered : ∀ i ∈ Finset.range (S.card + 1), ∃ z ∈ S, orbit f x (i + 1) = some z := by
    intro i hi
    have hle : i + 1 ≤ m := by
      have := Finset.mem_range.mp hi
      omega
    have hsome := orbit_isSome_of_le hle h
    have ⟨z, hz⟩ := Option.isSome_iff_exists.mp hsome
    have ⟨y, hy, hyz⟩ := Option.bind_eq_some_iff.mp hz
    have hPy := orbit_invariant hx (fun y z hy hyz ↦ (hS y z hy hyz).1) hy
    exact ⟨z, (hS y z hPy hyz).2, hz⟩
  have : Nonempty α := ⟨x⟩
  choose! g hg using hentered
  have hcard : S.card < (Finset.range (S.card + 1)).card := by simp
  have ⟨i, hi, j, hj, hne, heq⟩ :=
    Finset.exists_ne_map_eq_of_card_lt_of_maps_to hcard (fun i hi ↦ (hg i hi).1)
  have hstates : orbit f x (i + 1) = orbit f x (j + 1) := by rw [(hg i hi).2, (hg j hj).2, heq]
  have hisome : (orbit f x (i + 1)).isSome := by rw [(hg i hi).2]; rfl
  have hjsome : (orbit f x (j + 1)).isSome := by rw [(hg j hj).2]; rfl
  rcases Nat.lt_or_gt_of_ne hne with hlt | hlt
  · exact orbit_isSome_of_repeat (Nat.succ_lt_succ hlt) hjsome hstates n
  · exact orbit_isSome_of_repeat (Nat.succ_lt_succ hlt) hisome hstates.symm n

end Unoc.Base
