import Unoc.Base.LeastPaths

/-!
# Searches of sorted lists

A breadth-first search that enters vertices in ascending order finds every vertex on its least path,
by hops and then by vertices, and queues the vertices in the order of these paths. So the first
vertex of its queue that satisfies a goal is the end of the least path to that goal.
-/

namespace Unoc.Base

universe u

variable {V : Type u} [LinearOrder V] {p q : List V}

/-- Paths in order stay in order whatever vertices extend them. -/
theorem pathRank_concat_lt (hp : p ≠ []) (hq : q ≠ []) (h : pathRank p < pathRank q) (v w : V) :
    pathRank (p ++ [v]) < pathRank (q ++ [w]) := by
  have hpos := List.length_pos_iff.mpr hp
  have hpos' := List.length_pos_iff.mpr hq
  rw [pathRank, pathRank, Prod.Lex.toLex_lt_toLex] at h ⊢
  rw [List.length_append, List.length_append, List.length_singleton, List.length_singleton]
  cases h with
  | inl hlt =>
    left
    change p.length - 1 < q.length - 1 at hlt
    omega
  | inr heq =>
    have hlength : p.length = q.length := by
      have hdrop : p.length - 1 = q.length - 1 := heq.1
      omega
    right
    refine ⟨by dsimp only; omega, ?_⟩
    change p ++ [v] < q ++ [w]
    have hlt : p < q := heq.2
    have hlex : List.Lex (· < ·) p q := hlt
    clear hp hq hpos hpos' heq hlt
    suffices hnext : List.Lex (· < ·) (p ++ [v]) (q ++ [w]) from hnext
    induction hlex with
    | nil => cases hlength
    | rel hlt => exact .rel hlt
    | cons htail ih => exact .cons (ih (Nat.succ.inj hlength))

/-- Of two siblings the smaller one has the smaller path. -/
theorem pathRank_concat_lt_of_lt (p : List V) {v w : V} (h : v < w) :
    pathRank (p ++ [v]) < pathRank (p ++ [w]) := by
  rw [pathRank, pathRank, Prod.Lex.toLex_lt_toLex]
  right
  refine ⟨by simp, ?_⟩
  have hlex : List.Lex (· < ·) (p ++ [v]) (p ++ [w]) := by
    induction p with
    | nil => exact .rel h
    | cons x p ih => exact .cons ih
  exact hlex

/-- A path of one vertex is below all longer ones. -/
theorem pathRank_singleton_lt (s : V) {q : List V} (hq : q ≠ []) (w : V) :
    pathRank [s] < pathRank (q ++ [w]) := by
  have hpos := List.length_pos_iff.mpr hq
  rw [pathRank, pathRank, Prod.Lex.toLex_lt_toLex]
  left
  rw [List.length_append, List.length_singleton, List.length_singleton]
  omega

omit [LinearOrder V] in
private theorem Walk.ne_nil {r : V → V → Prop} {s v : V} {p : List V} (h : Walk r s v p) : p ≠ [] :=
  List.length_pos_iff.mp h.length_pos

/-- The least walk to a vertex of the best rank that walks lead to, lower ranks first. -/
structure BestWalk (r : V → V → Prop) (rank : V → Option Nat) (s : V) (n : Nat) (p : List V) :
    Prop where
  least : LeastWalkTo r s (fun v ↦ rank v = some n) p
  best : ∀ v q m, Walk r s v q → rank v = some m → n ≤ m

/-- Best walks have one rank and are equal. -/
theorem BestWalk.unique {r : V → V → Prop} {rank : V → Option Nat} {s : V} {n m : Nat}
    (h : BestWalk r rank s n p) (h' : BestWalk r rank s m q) : n = m ∧ p = q := by
  have ⟨v, hv, hwalk⟩ := h.least.walk
  have ⟨v', hv', hwalk'⟩ := h'.least.walk
  have hrank : n = m := Nat.le_antisymm (h.best v' q m hwalk' hv') (h'.best v p n hwalk hv)
  subst hrank
  exact ⟨rfl, h.least.unique h'.least⟩

namespace Bfs

variable [DecidableEq V] {next : V → List V} {s : V} {order : List V} {parent : V → Option V}

/-- In a sorted list smaller vertices come first. -/
theorem lt_of_idxOf_lt {l : List V} (hsorted : l.Pairwise (· < ·)) {v w : V} (hv : v ∈ l)
    (hw : w ∈ l) (h : l.idxOf v < l.idxOf w) : v < w := by
  have hvl := List.idxOf_lt_length_of_mem hv
  have hwl := List.idxOf_lt_length_of_mem hw
  have hlt := List.pairwise_iff_getElem.mp hsorted _ _ hvl hwl h
  rwa [List.getElem_idxOf, List.getElem_idxOf] at hlt

omit [LinearOrder V] in
/-- No element that satisfies a test stands before the one that is found. -/
theorem idxOf_le_of_find? {goal : V → Bool} {l : List V} {v w : V} (hfind : l.find? goal = some v)
    (hgoal : goal w = true) (hw : w ∈ l) : l.idxOf v ≤ l.idxOf w := by
  induction l with
  | nil => cases hw
  | cons x l ih =>
    by_cases hx : goal x = true
    · rw [List.find?_cons_of_pos hx] at hfind
      cases hfind
      rw [List.idxOf_cons_self]
      exact Nat.zero_le _
    · rw [List.find?_cons_of_neg hx] at hfind
      have hxw : x ≠ w := fun heq ↦ hx (heq ▸ hgoal)
      have hxv : x ≠ v := fun heq ↦ hx (heq ▸ List.find?_some hfind)
      rw [List.idxOf_cons_ne _ hxv, List.idxOf_cons_ne _ hxw]
      cases List.mem_cons.mp hw with
      | inl heq => exact absurd heq.symm hxw
      | inr hw => exact Nat.succ_le_succ (ih hfind hw)

section Finished

variable (h : Inv next s order order.length parent)
include h

omit [LinearOrder V] in
/-- A vertex has one path along the parents. -/
theorem Inv.treeWalk_unique {v : V} {p q : List V} (hp : TreeWalk parent s v p)
    (hq : TreeWalk parent s v q) : p = q := by
  induction hp generalizing q with
  | root =>
    cases hq with
    | root => rfl
    | step _ hs =>
      rw [h.root] at hs
      cases hs
  | @step u v p _ hv ih =>
    cases hq with
    | root =>
      rw [h.root] at hv
      cases hv
    | @step u' _ q hq hv' =>
      rw [hv] at hv'
      cases hv'
      rw [ih hq]

variable (hsorted : ∀ u, (next u).Pairwise (· < ·))
include hsorted

/-- Vertices are queued in the order of their paths. -/
theorem Inv.pathRank_lt {v w : V} {p q : List V} (hp : TreeWalk parent s v p)
    (hq : TreeWalk parent s w q) (hvw : order.idxOf v < order.idxOf w) :
    pathRank p < pathRank q := by
  induction hq generalizing v p with
  | root =>
    have ⟨l, hl⟩ := List.head?_eq_some_iff.mp h.start
    rw [hl, List.idxOf_cons_self] at hvw
    cases hvw
  | @step b w q hq hw ih =>
    cases hp with
    | root => exact pathRank_singleton_lt _ hq.ne_nil w
    | @step a v p hp hv =>
      cases h.fifo v w a b hv hw hvw with
      | inl hab => exact pathRank_concat_lt hp.ne_nil hq.ne_nil (ih hp hab) v w
      | inr hsibling =>
        have ⟨hab, hidx⟩ := hsibling
        subst hab
        rw [h.treeWalk_unique hp hq]
        have ⟨_, _, hvnext, _⟩ := h.parent_spec v a hv
        have ⟨_, _, hwnext, _⟩ := h.parent_spec w a hw
        exact pathRank_concat_lt_of_lt q (lt_of_idxOf_lt (hsorted a) hvnext hwnext hidx)

private theorem Inv.pathRank_le {v w : V} {p q : List V} (hp : TreeWalk parent s v p)
    (hq : TreeWalk parent s w q) (hv : v ∈ order) (hvw : order.idxOf v ≤ order.idxOf w) :
    pathRank p ≤ pathRank q := by
  cases Nat.lt_or_eq_of_le hvw with
  | inl hlt => exact (h.pathRank_lt hsorted hp hq hlt).le
  | inr heq =>
    have hsame := (List.idxOf_inj hv).mp heq
    subst hsame
    rw [h.treeWalk_unique hp hq]

/-- The path along the parents is the least walk. -/
theorem Inv.leastWalk {v : V} {p : List V} (hp : TreeWalk parent s v p) :
    LeastWalk (fun u v ↦ v ∈ next u) s v p := by
  refine ⟨h.walk_of_treeWalk hp, ?_⟩
  intro q hq
  induction hq generalizing p with
  | root => rw [h.treeWalk_unique hp .root]
  | @step u v q hq huv ih =>
    have ⟨huo, _⟩ := h.shortest hq
    have ⟨pu, hpu⟩ := h.exists_treeWalk huo
    -- the walk to `u` may be replaced by its path, and `u` by the parent of `v`
    have hqu := pathRank_concat_le hpu.ne_nil hq.ne_nil (ih hpu) v
    refine le_trans ?_ hqu
    cases hp with
    | root => exact (pathRank_singleton_lt s hpu.ne_nil s).le
    | @step w _ p hp hv =>
      have ⟨_, hfirst⟩ := h.closed u huo (List.idxOf_lt_length_of_mem huo) v huv
      have ⟨_, hwo, _⟩ := h.parent_spec v w hv
      exact pathRank_concat_le hp.ne_nil hpu.ne_nil
        (h.pathRank_le hsorted hp hpu hwo (hfirst w hv)) v

/-- The first vertex of the queue that satisfies a goal ends the least walk to the goal. -/
theorem Inv.leastWalkTo {goal : V → Bool} {v : V} {p : List V} (hfind : order.find? goal = some v)
    (hp : TreeWalk parent s v p) :
    LeastWalkTo (fun u v ↦ v ∈ next u) s (fun w ↦ goal w = true) p := by
  refine ⟨⟨v, List.find?_some hfind, h.walk_of_treeWalk hp⟩, ?_⟩
  intro w q hgoal hq
  have ⟨hwo, _⟩ := h.shortest hq
  have ⟨pw, hpw⟩ := h.exists_treeWalk hwo
  have hvo := List.mem_of_find?_eq_some hfind
  exact (h.pathRank_le hsorted hp hpw hvo (idxOf_le_of_find? hfind hgoal hwo)).trans
    ((h.leastWalk hsorted hpw).least q hq)

/-- The first vertex of the queue that has the best rank in it ends the best walk. -/
theorem Inv.bestWalk {rank : V → Option Nat} {v : V} {n : Nat} {p : List V}
    (hfind : order.find? (fun w ↦ rank w = some n) = some v)
    (hbest : ∀ w ∈ order, ∀ m, rank w = some m → n ≤ m) (hp : TreeWalk parent s v p) :
    BestWalk (fun u v ↦ v ∈ next u) rank s n p := by
  constructor
  · have hleast := h.leastWalkTo hsorted hfind hp
    simpa only [decide_eq_true_eq] using hleast
  · intro w q m hq hrank
    exact hbest w (h.shortest hq).1 m hrank

end Finished

end Bfs

end Unoc.Base
