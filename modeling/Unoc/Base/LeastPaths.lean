import Mathlib.Data.List.Lex
import Mathlib.Data.Prod.Lex
import Mathlib.Order.Lattice
import Unoc.Base.Bfs

/-!
# Least paths

Paths of a graph in the order of their hops, and of their vertices where the hops agree. Extending
paths by one vertex keeps this order and makes a path greater, so that a search in this order
settles every vertex with its least path.
-/

namespace Unoc.Base

universe u

variable {V : Type u} [LinearOrder V] {r : V → V → Prop} {s u v : V} {p q : List V}

/-- The hops of a path, then its vertices. -/
def pathRank (p : List V) : Nat ×ₗ List V := toLex (p.length - 1, p)

omit [LinearOrder V] in
/-- Lists of one rank are equal. -/
theorem pathRank_inj : pathRank p = pathRank q ↔ p = q := by
  constructor
  · intro h
    exact congrArg (fun k ↦ (ofLex k).2) h
  · exact congrArg pathRank

private theorem pathRank_le_iff : pathRank p ≤ pathRank q ↔
    p.length - 1 < q.length - 1 ∨ p.length - 1 = q.length - 1 ∧ p ≤ q := by
  simp [pathRank, Prod.Lex.toLex_le_toLex]

/-- Lists of one length stay in order when they are extended by an element. -/
theorem lt_concat_of_lt (h : p < q) (hlength : p.length = q.length) (v : V) :
    p ++ [v] < q ++ [v] := by
  have hlex : List.Lex (· < ·) p q := h
  suffices hnext : List.Lex (· < ·) (p ++ [v]) (q ++ [v]) from hnext
  induction hlex with
  | nil => cases hlength
  | rel hlt => exact .rel hlt
  | cons htail ih => exact .cons (ih htail (Nat.succ.inj hlength))

private theorem le_concat_of_le (hlength : p.length = q.length) (h : p ≤ q) (v : V) :
    p ++ [v] ≤ q ++ [v] := by
  rcases h.lt_or_eq with hlt | heq
  · exact (lt_concat_of_lt hlt hlength v).le
  · rw [heq]

/-- Extending two paths by one vertex keeps their order. -/
theorem pathRank_concat_le (hp : p ≠ []) (hq : q ≠ []) (h : pathRank p ≤ pathRank q) (v : V) :
    pathRank (p ++ [v]) ≤ pathRank (q ++ [v]) := by
  have hpos := List.length_pos_iff.mpr hp
  have hpos' := List.length_pos_iff.mpr hq
  rw [pathRank_le_iff] at h ⊢
  rw [List.length_append, List.length_append, List.length_singleton]
  rcases h with hlt | ⟨heq, hle⟩
  · exact .inl (by omega)
  · exact .inr ⟨by omega, le_concat_of_le (by omega) hle v⟩

/-- Extending a path makes it greater. -/
theorem pathRank_lt_concat (hp : p ≠ []) (v : V) : pathRank p < pathRank (p ++ [v]) := by
  have hpos := List.length_pos_iff.mpr hp
  rw [pathRank, pathRank, Prod.Lex.toLex_lt_toLex]
  left
  rw [List.length_append, List.length_singleton]
  omega

/-- A walk to a vertex, below all others. -/
structure LeastWalk (r : V → V → Prop) (s v : V) (p : List V) : Prop where
  walk : Walk r s v p
  least : ∀ q, Walk r s v q → pathRank p ≤ pathRank q

/-- The least walk to a vertex is unique. -/
theorem LeastWalk.unique (hp : LeastWalk r s v p) (hq : LeastWalk r s v q) : p = q :=
  pathRank_inj.mp (le_antisymm (hp.least q hq.walk) (hq.least p hp.walk))

/-- A walk to one of several vertices, below all others. -/
structure LeastWalkTo (r : V → V → Prop) (s : V) (target : V → Prop) (p : List V) : Prop where
  walk : ∃ v, target v ∧ Walk r s v p
  least : ∀ v q, target v → Walk r s v q → pathRank p ≤ pathRank q

/-- The least walk to a target is unique. -/
theorem LeastWalkTo.unique {target : V → Prop} (hp : LeastWalkTo r s target p)
    (hq : LeastWalkTo r s target q) : p = q := by
  have ⟨v, hv, hwalk⟩ := hp.walk
  have ⟨v', hv', hwalk'⟩ := hq.walk
  exact pathRank_inj.mp (le_antisymm (hp.least v' q hv' hwalk') (hq.least v p hv hwalk))

/-- A least walk visits no vertex twice. -/
theorem LeastWalkTo.nodup {target : V → Prop} (h : LeastWalkTo r s target p) : p.Nodup := by
  have ⟨v, hv, hwalk⟩ := h.walk
  apply hwalk.nodup_of_shortest
  intro q hq
  have hpos := hq.length_pos
  have hrank := pathRank_le_iff.mp (h.least v q hv hq)
  omega

end Unoc.Base
