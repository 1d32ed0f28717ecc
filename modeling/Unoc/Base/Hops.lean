import Mathlib.Algebra.BigOperators.Group.Finset.Piecewise
import Unoc.Base.Bfs

/-!
# The hops of a path

Consecutive vertices of a list without repetition: every inner vertex ends one hop and starts the
next one. Where every hop carries a label that touches the two ends of the hop and nothing else,
the labels of a path differ, and an inner vertex is touched by exactly two of them.
-/

namespace Unoc.Base

universe u

variable {V L : Type u} {p : List V}

/-- A list has one hop fewer than vertices. -/
theorem length_steps (p : List V) : (steps p).length = p.length - 1 := by
  induction p with
  | nil => rfl
  | cons x p ih =>
    cases p with
    | nil => rfl
    | cons y rest => simp [steps, ih]

/-- The hop at a place joins the vertices there. -/
theorem getElem?_steps (p : List V) (i : Nat) {x y : V} (hx : p[i]? = some x)
    (hy : p[i + 1]? = some y) : (steps p)[i]? = some (x, y) := by
  induction p generalizing i with
  | nil => cases hx
  | cons a p ih =>
    cases p with
    | nil => cases hy
    | cons b rest =>
      cases i with
      | zero =>
        cases hx
        cases hy
        rfl
      | succ i => exact ih i hx hy

/-- Every vertex but the last starts a hop. -/
theorem map_fst_steps (p : List V) : (steps p).map Prod.fst = p.dropLast := by
  induction p with
  | nil => rfl
  | cons x p ih =>
    cases p with
    | nil => rfl
    | cons y rest => rw [steps, List.map_cons, ih, List.dropLast_cons_cons]

/-- Every vertex but the first ends a hop. -/
theorem map_snd_steps (p : List V) : (steps p).map Prod.snd = p.tail := by
  induction p with
  | nil => rfl
  | cons x p ih =>
    cases p with
    | nil => rfl
    | cons y rest => rw [steps, List.map_cons, ih, List.tail_cons, List.tail_cons]

private theorem fst_mem_of_mem_steps {e : V × V} (he : e ∈ steps p) : e.1 ∈ p :=
  List.mem_of_mem_dropLast (map_fst_steps p ▸ List.mem_map_of_mem he)

private theorem snd_mem_of_mem_steps {e : V × V} (he : e ∈ steps p) : e.2 ∈ p :=
  List.mem_of_mem_tail (map_snd_steps p ▸ List.mem_map_of_mem he)

/-- A path along a relation hops along it. -/
theorem rel_of_mem_steps {r : V → V → Prop} (hp : p.IsChain r) {e : V × V} (he : e ∈ steps p) :
    r e.1 e.2 := by
  induction p with
  | nil => cases he
  | cons x p ih =>
    cases p with
    | nil => cases he
    | cons y rest =>
      rw [List.isChain_cons_cons] at hp
      rcases List.mem_cons.mp he with rfl | he
      · exact hp.1
      · exact ih hp.2 he

section Nodup

variable (hp : p.Nodup)
include hp

private theorem nodup_steps : (steps p).Nodup := by
  refine List.Nodup.of_map Prod.fst ?_
  rw [map_fst_steps]
  exact hp.sublist (List.dropLast_sublist p)

/-- A path does not take a hop both ways. -/
theorem swap_notMem_steps {x y : V} (h : (x, y) ∈ steps p) : (y, x) ∉ steps p := by
  induction p with
  | nil => cases h
  | cons a p ih =>
    cases p with
    | nil => cases h
    | cons b rest =>
      obtain ⟨ha, hrest⟩ := List.nodup_cons.mp hp
      intro hswap
      rcases List.mem_cons.mp h with heq | h
      · obtain ⟨rfl, rfl⟩ := Prod.mk.inj heq
        rcases List.mem_cons.mp hswap with heq | hswap
        · exact ha ((Prod.mk.inj heq).1 ▸ List.mem_cons_self)
        · exact ha (snd_mem_of_mem_steps hswap)
      · rcases List.mem_cons.mp hswap with heq | hswap
        · exact ha ((Prod.mk.inj heq).1 ▸ snd_mem_of_mem_steps h)
        · exact ih hrest h hswap

private theorem fst_ne_snd_of_mem_steps {e : V × V} (he : e ∈ steps p) : e.1 ≠ e.2 := by
  intro heq
  have hself : (e.1, e.1) ∈ steps p := by
    nth_rewrite 2 [heq]
    exact he
  exact swap_notMem_steps hp hself hself

end Nodup

/-! ### Labels -/

section Labels

variable {g : V × V → L} (touches : L → V → Prop)
  (hg : ∀ e ∈ steps p, ∀ x, touches (g e) x ↔ x = e.1 ∨ x = e.2)
include hg

/-- A label of a path touches vertices of the path only. -/
theorem mem_of_touches {l : L} (hl : l ∈ (steps p).map g) {x : V} (hx : touches l x) : x ∈ p := by
  obtain ⟨e, he, rfl⟩ := List.mem_map.mp hl
  rcases (hg e he x).mp hx with rfl | rfl
  · exact fst_mem_of_mem_steps he
  · exact snd_mem_of_mem_steps he

/-- The hops of a path have different labels. -/
theorem nodup_labels (hp : p.Nodup) : ((steps p).map g).Nodup := by
  refine List.Nodup.map_on (fun e he e' he' heq ↦ ?_) (nodup_steps hp)
  -- the two hops have the same ends
  have h1 := (hg e' he' e.1).mp (heq ▸ (hg e he e.1).mpr (Or.inl rfl))
  have h2 := (hg e' he' e.2).mp (heq ▸ (hg e he e.2).mpr (Or.inr rfl))
  have hne := fst_ne_snd_of_mem_steps hp he
  rcases h1 with h1 | h1
  · refine Prod.ext h1 (h2.resolve_left (fun h2 ↦ hne (h1.trans h2.symm)))
  · have h2 := h2.resolve_right (fun h2 ↦ hne (h1.trans h2.symm))
    have hswap : e' = (e.2, e.1) := Prod.ext h2.symm h1.symm
    exact absurd (hswap ▸ he') (swap_notMem_steps hp he)

omit hg in
/-- Labels of proper hops that touch a vertex, by the end of the hop it is. -/
theorem countP_map_touches [DecidableEq V] [∀ x, DecidablePred (touches · x)] {es : List (V × V)}
    (hg : ∀ e ∈ es, ∀ x, touches (g e) x ↔ x = e.1 ∨ x = e.2) (hne : ∀ e ∈ es, e.1 ≠ e.2) (x : V) :
    (es.map g).countP (fun l ↦ touches l x) =
      (es.map Prod.fst).count x + (es.map Prod.snd).count x := by
  induction es with
  | nil => rfl
  | cons e rest ih =>
    have hrest := ih (fun e he ↦ hg e (List.mem_cons_of_mem _ he))
      (fun e he ↦ hne e (List.mem_cons_of_mem _ he))
    have he := hg e List.mem_cons_self x
    have hne := hne e List.mem_cons_self
    simp only [List.map_cons, List.countP_cons, List.count_cons, hrest, decide_eq_true_eq, he,
      beq_iff_eq]
    by_cases h1 : x = e.1
    · have h2 : e.2 ≠ x := fun h2 ↦ hne (h1.symm.trans h2.symm)
      simp only [h1, true_or, if_true, if_neg (h1 ▸ h2)]
      omega
    · by_cases h2 : x = e.2
      · simp only [h2, or_true, if_true, if_neg hne]
        omega
      · simp only [h1, h2, or_false, if_false, if_neg (Ne.symm h1), if_neg (Ne.symm h2)]
        omega

/-- Two labels touch an inner vertex of a path, and none touches a vertex off the path. -/
theorem countP_touches [DecidableEq V] [∀ x, DecidablePred (touches · x)] (hp : p.Nodup) {x : V}
    (hhead : p.head? ≠ some x) (hlast : p.getLast? ≠ some x) :
    ((steps p).map g).countP (fun l ↦ touches l x) = 2 * p.count x := by
  have hdrop : p.dropLast.count x = p.count x := by
    rcases p.eq_nil_or_concat with rfl | ⟨q, y, rfl⟩
    · rfl
    · have hy : y ≠ x := fun h ↦ hlast (by simp [h])
      simp [List.count_append, hy]
  have htail : p.tail.count x = p.count x := by
    cases p with
    | nil => rfl
    | cons y q =>
      have hy : y ≠ x := fun h ↦ hhead (by simp [h])
      simp [hy]
  rw [countP_map_touches touches hg (fun e he ↦ fst_ne_snd_of_mem_steps hp he), map_fst_steps,
    map_snd_steps, hdrop, htail]
  omega

end Labels

/-- Counting the members of a set one by one. -/
theorem sum_count_eq_countP [DecidableEq L] (S : Finset L) (ls : List L) :
    ∑ l ∈ S, ls.count l = ls.countP (· ∈ S) := by
  induction ls with
  | nil => simp
  | cons a rest ih =>
    simp only [List.count_cons, Finset.sum_add_distrib, ih, List.countP_cons, beq_iff_eq,
      decide_eq_true_eq, Finset.sum_ite_eq]

end Unoc.Base
