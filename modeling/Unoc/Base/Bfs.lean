import Mathlib.Data.List.Chain
import Mathlib.Data.List.Induction
import Mathlib.Data.List.Nodup
import Mathlib.Logic.Relation

/-!
# Breadth-first search

What a queue-based search from `s` keeps when it dequeues one vertex after another. The queue is
one list `order` whose first `head` vertices are dequeued; a vertex enters it once, with the
vertex that found it as its parent. Paths along parents are shortest, and a walk that every vertex
lists first is the path the search records.
-/

namespace Unoc.Base

universe u

variable {V : Type u}

/-- Walks from `s` along a relation, with the vertices they visit. -/
inductive Walk (r : V → V → Prop) (s : V) : V → List V → Prop where
  | root : Walk r s s [s]
  | step {u v : V} {p : List V} (hw : Walk r s u p) (hr : r u v) : Walk r s v (p ++ [v])

namespace Walk

variable {r r' : V → V → Prop} {s v : V} {p : List V}

/-- A walk has a vertex. -/
theorem length_pos (h : Walk r s v p) : 0 < p.length := by
  cases h <;> simp

/-- A walk along a smaller relation is a walk along a larger one. -/
theorem mono (hr : ∀ u v, r u v → r' u v) (h : Walk r s v p) : Walk r' s v p := by
  induction h with
  | root => exact .root
  | step _ hs ih => exact .step ih (hr _ _ hs)

/-- A walk ends at its vertex. -/
theorem exists_concat (h : Walk r s v p) : ∃ p', p = p' ++ [v] := by
  cases h with
  | root => exact ⟨[], rfl⟩
  | step => exact ⟨_, rfl⟩

/-- A walk of one vertex stays at its source. -/
theorem eq_of_singleton {x : V} (h : Walk r s v [x]) : v = x := by
  obtain ⟨p', hp'⟩ := h.exists_concat
  cases p' with
  | nil => exact (List.singleton_inj.mp hp').symm
  | cons y rest => simp at hp'

/-- A walk only depends on the steps out of the vertices before its end. -/
theorem congr (h : Walk r s v p) (hr : ∀ x ∈ p.dropLast, ∀ y, r x y → r' x y) :
    Walk r' s v p := by
  induction h with
  | root => exact .root
  | @step u v p hw hs ih =>
    rw [List.dropLast_concat] at hr
    obtain ⟨p', rfl⟩ := hw.exists_concat
    refine .step (ih (fun x hx ↦ hr x (List.dropLast_subset _ hx))) (hr u (by simp) v hs)

/-- The vertices before the end of a walk are reached by shorter walks. -/
theorem exists_shorter (h : Walk r s v p) {x : V} (hx : x ∈ p.dropLast) :
    ∃ q, Walk r s x q ∧ q.length < p.length := by
  induction h with
  | root => cases hx
  | @step u v p hw hs ih =>
    rw [List.dropLast_concat] at hx
    obtain ⟨p', rfl⟩ := hw.exists_concat
    rcases List.mem_append.mp hx with hx | hx
    · obtain ⟨q, hq, hlt⟩ := ih (by rwa [List.dropLast_concat])
      exact ⟨q, hq, by rw [List.length_append]; omega⟩
    · obtain rfl := List.mem_singleton.mp hx
      exact ⟨_, hw, by simp⟩

/-- A walk that none to its end is shorter than visits no vertex twice. -/
theorem nodup_of_shortest (h : Walk r s v p) (hmin : ∀ q, Walk r s v q → p.length ≤ q.length) :
    p.Nodup := by
  induction h with
  | root => exact List.nodup_singleton s
  | @step u v p hw hs ih =>
    have hnodup : p.Nodup := by
      apply ih
      intro q hq
      simpa using hmin _ (hq.step hs)
    rw [List.nodup_append]
    refine ⟨hnodup, List.nodup_singleton v, ?_⟩
    rintro x hx y hy rfl
    have hv : v ∈ (p ++ [v]).dropLast := by
      rw [List.dropLast_concat]
      exact List.mem_singleton.mp hy ▸ hx
    obtain ⟨q, hq, hlt⟩ := (hw.step hs).exists_shorter hv
    exact absurd (hmin q hq) (Nat.not_le.mpr hlt)

/-- A walk is a list of vertices, one after another, with its ends. -/
theorem iff_isChain : Walk r s v p ↔ p.head? = some s ∧ p.getLast? = some v ∧ p.IsChain r := by
  constructor
  · intro h
    induction h with
    | root => exact ⟨rfl, rfl, List.isChain_singleton s⟩
    | @step u v p hw hs ih =>
      obtain ⟨hhead, hlast, hchain⟩ := ih
      refine ⟨by rw [List.head?_append, hhead]; rfl, List.getLast?_concat, ?_⟩
      rw [List.isChain_append]
      refine ⟨hchain, List.isChain_singleton v, ?_⟩
      intro x hx y hy
      obtain rfl : u = x := Option.some.inj (hlast.symm.trans hx)
      obtain rfl : v = y := Option.some.inj hy
      exact hs
  · rintro ⟨hhead, hlast, hchain⟩
    induction p using List.reverseRecOn generalizing v with
    | nil => cases hhead
    | append_singleton p w ih =>
      rw [List.getLast?_concat, Option.some.injEq] at hlast
      subst hlast
      cases hp : p.getLast? with
      | none =>
        obtain rfl : p = [] := List.getLast?_eq_none_iff.mp hp
        obtain rfl : w = s := Option.some.inj hhead
        exact .root
      | some u =>
        have hne : p ≠ [] := fun h ↦ by simp [h] at hp
        rw [List.isChain_append] at hchain
        rw [List.head?_append_of_ne_nil _ hne] at hhead
        exact (ih hhead hp hchain.1).step (hchain.2.2 u hp w rfl)

/-- Walks lead to what the source reaches. -/
theorem exists_iff : (∃ p, Walk r s v p) ↔ Relation.ReflTransGen r s v := by
  constructor
  · rintro ⟨p, hp⟩
    induction hp with
    | root => exact .refl
    | step _ hs ih => exact ih.tail hs
  · intro h
    induction h with
    | refl => exact ⟨_, .root⟩
    | tail _ hs ih =>
      obtain ⟨p, hp⟩ := ih
      exact ⟨_, hp.step hs⟩

/-- Along a walk the length grows no faster than a rank that every step raises. -/
theorem length_le_rank (h : Walk r s v p) (rank : V → Nat)
    (hr : ∀ u v, r u v → rank u < rank v) : p.length ≤ rank v + 1 := by
  induction h with
  | root => simp
  | @step u v p _ hs ih =>
    have := hr u v hs
    rw [List.length_append, List.length_singleton]
    omega

end Walk

/-- Consecutive vertices of a list. -/
def steps : List V → List (V × V)
  | u :: v :: rest => (u, v) :: steps (v :: rest)
  | _ => []

/-- Extending a list by one vertex adds one step from its end. -/
theorem steps_concat (p : List V) (u v : V) :
    steps (p ++ [u] ++ [v]) = steps (p ++ [u]) ++ [(u, v)] := by
  induction p with
  | nil => rfl
  | cons x rest ih =>
    cases rest with
    | nil => rfl
    | cons y rest =>
      simp only [List.cons_append, steps, List.cons.injEq, true_and]
      simpa only [List.cons_append] using ih

namespace Bfs

variable [DecidableEq V]

/-- The state of a search from `s` in which `next u` lists the vertices entered from `u`. -/
structure Inv (next : V → List V) (s : V) (order : List V) (head : Nat)
    (parent : V → Option V) : Prop where
  nodup : order.Nodup
  start : order.head? = some s
  root : parent s = none
  /-- Vertices are found from a dequeued vertex before them. -/
  parent_spec : ∀ v u, parent v = some u → v ∈ order ∧ u ∈ order ∧ v ∈ next u ∧
    order.idxOf u < order.idxOf v ∧ order.idxOf u < head
  has_parent : ∀ v ∈ order, v ≠ s → ∃ u, parent v = some u
  /-- Whatever a dequeued vertex lists is found, from it or from an earlier vertex. -/
  closed : ∀ u ∈ order, order.idxOf u < head → ∀ v ∈ next u, v ∈ order ∧
    ∀ p, parent v = some p → order.idxOf p ≤ order.idxOf u
  /-- Vertices are queued in the order of their parents, and below one parent as it lists them. -/
  fifo : ∀ v w p q, parent v = some p → parent w = some q → order.idxOf v < order.idxOf w →
    order.idxOf p < order.idxOf q ∨ (p = q ∧ (next p).idxOf v < (next p).idxOf w)

variable {next : V → List V} {s : V} {order : List V} {head : Nat} {parent : V → Option V}

/-- The search starts with `s` in the queue. -/
theorem inv_init (next : V → List V) (s : V) : Inv next s [s] 0 (fun _ ↦ none) where
  nodup := List.nodup_singleton s
  start := rfl
  root := rfl
  parent_spec _ _ h := nomatch h
  has_parent _ hv hne := absurd (List.mem_singleton.mp hv) hne
  closed _ _ h := absurd h (Nat.not_lt_zero _)
  fifo _ _ _ _ h := nomatch h

/-! ### One dequeued vertex -/

/-- The vertices that `u` adds to the queue. -/
def fresh (next : V → List V) (order : List V) (u : V) : List V :=
  (next u).filter (fun v ↦ v ∉ order)

/-- The parents after `u` is dequeued. -/
def adopt (next : V → List V) (order : List V) (u : V) (parent : V → Option V) (v : V) :
    Option V :=
  if v ∈ fresh next order u then some u else parent v

/-- The fresh successors are those that were not met before. -/
theorem mem_fresh {u v : V} : v ∈ fresh next order u ↔ v ∈ next u ∧ v ∉ order := by
  simp [fresh]

private theorem adopt_of_mem {u v : V} (h : v ∈ order) :
    adopt next order u parent v = parent v := by
  rw [adopt, if_neg (fun hf ↦ (mem_fresh.mp hf).2 h)]

private theorem adopt_of_fresh {u v : V} (h : v ∈ fresh next order u) :
    adopt next order u parent v = some u := if_pos h

private theorem idxOf_filter_lt (q : V → Bool) (l : List V) {v w : V} (hv : q v = true)
    (hw : q w = true) (h : (l.filter q).idxOf v < (l.filter q).idxOf w) :
    l.idxOf v < l.idxOf w := by
  induction l with
  | nil => simp at h
  | cons x rest ih =>
    by_cases hqx : q x = true
    · rw [List.filter_cons_of_pos hqx] at h
      simp only [List.idxOf_cons] at h ⊢
      cases hv' : x == v <;> cases hw' : x == w <;> simp_all
    · rw [List.filter_cons_of_neg hqx] at h
      have hvx : x ≠ v := fun he ↦ hqx (he ▸ hv)
      have hwx : x ≠ w := fun he ↦ hqx (he ▸ hw)
      rw [List.idxOf_cons_ne _ hvx, List.idxOf_cons_ne _ hwx]
      exact Nat.succ_lt_succ (ih h)

private theorem idxOf_append_fresh {u v : V} (h : v ∈ order) :
    (order ++ fresh next order u).idxOf v = order.idxOf v := List.idxOf_append_of_mem h

private theorem idxOf_of_fresh {u v : V} (h : v ∈ fresh next order u) :
    (order ++ fresh next order u).idxOf v = order.length + (fresh next order u).idxOf v := by
  rw [List.idxOf_append_of_notMem (mem_fresh.mp h).2, Nat.add_comm]

private theorem idxOf_of_getElem? (hn : order.Nodup) {u : V} (hu : order[head]? = some u) :
    u ∈ order ∧ order.idxOf u = head ∧ head < order.length := by
  obtain ⟨hlt, rfl⟩ := List.getElem?_eq_some_iff.mp hu
  exact ⟨List.getElem_mem hlt, hn.idxOf_getElem head hlt, hlt⟩

/-- A child after the step has the dequeued vertex or its old parent as parent. -/
private theorem adopt_cases {u v p : V} (h : adopt next order u parent v = some p) :
    (v ∈ fresh next order u ∧ p = u) ∨ (v ∉ fresh next order u ∧ parent v = some p) := by
  unfold adopt at h
  split at h
  · next hf => exact .inl ⟨hf, (Option.some.inj h).symm⟩
  · next hf => exact .inr ⟨hf, h⟩

section Step

variable (h : Inv next s order head parent) {u : V} (hu : order[head]? = some u)
include h hu

private theorem parent_spec_step (v p : V) (hp : adopt next order u parent v = some p) :
    v ∈ order ++ fresh next order u ∧ p ∈ order ++ fresh next order u ∧ v ∈ next p ∧
      (order ++ fresh next order u).idxOf p < (order ++ fresh next order u).idxOf v ∧
      (order ++ fresh next order u).idxOf p < head + 1 := by
  obtain ⟨hmem, hidx, hlt⟩ := idxOf_of_getElem? h.nodup hu
  rcases adopt_cases hp with ⟨hf, rfl⟩ | ⟨_, hp'⟩
  · refine ⟨List.mem_append_right _ hf, List.mem_append_left _ hmem, (mem_fresh.mp hf).1, ?_⟩
    rw [idxOf_append_fresh hmem, idxOf_of_fresh hf]
    omega
  · obtain ⟨hv, hpo, hvn, hpv, hph⟩ := h.parent_spec v p hp'
    refine ⟨List.mem_append_left _ hv, List.mem_append_left _ hpo, hvn, ?_⟩
    rw [idxOf_append_fresh hpo, idxOf_append_fresh hv]
    omega

private theorem closed_step (x : V) (hx : x ∈ order ++ fresh next order u)
    (hxh : (order ++ fresh next order u).idxOf x < head + 1) (v : V) (hv : v ∈ next x) :
    v ∈ order ++ fresh next order u ∧ ∀ p, adopt next order u parent v = some p →
      (order ++ fresh next order u).idxOf p ≤ (order ++ fresh next order u).idxOf x := by
  obtain ⟨hmem, hidx, hlt⟩ := idxOf_of_getElem? h.nodup hu
  have hxo : x ∈ order := by
    rcases List.mem_append.mp hx with hx | hx
    · exact hx
    · rw [idxOf_of_fresh hx] at hxh; omega
  rw [idxOf_append_fresh hxo] at hxh ⊢
  by_cases hvf : v ∈ fresh next order u
  · refine ⟨List.mem_append_right _ hvf, fun p hp ↦ ?_⟩
    rw [adopt_of_fresh hvf] at hp
    cases hp
    rw [idxOf_append_fresh hmem]
    -- an earlier vertex would have found `v` already
    by_contra hlt'
    exact (mem_fresh.mp hvf).2 (h.closed x hxo (by omega) v hv).1
  · have hvo : v ∈ order := by
      rcases Nat.lt_or_ge (order.idxOf x) head with hxlt | hxge
      · exact (h.closed x hxo hxlt v hv).1
      · have hxu : x = u := (List.idxOf_inj hxo).mp (by omega)
        by_contra hvo
        exact hvf (mem_fresh.mpr ⟨hxu ▸ hv, hvo⟩)
    refine ⟨List.mem_append_left _ hvo, fun p hp ↦ ?_⟩
    rw [adopt_of_mem hvo] at hp
    obtain ⟨_, hpo, _, _, hph⟩ := h.parent_spec v p hp
    rw [idxOf_append_fresh hpo]
    rcases Nat.lt_or_ge (order.idxOf x) head with hxlt | hxge
    · exact (h.closed x hxo hxlt v hv).2 p hp
    · omega

private theorem fifo_step (v w p q : V) (hp : adopt next order u parent v = some p)
    (hq : adopt next order u parent w = some q)
    (hvw : (order ++ fresh next order u).idxOf v < (order ++ fresh next order u).idxOf w) :
    (order ++ fresh next order u).idxOf p < (order ++ fresh next order u).idxOf q ∨
      (p = q ∧ (next p).idxOf v < (next p).idxOf w) := by
  obtain ⟨hmem, hidx, hlt⟩ := idxOf_of_getElem? h.nodup hu
  rcases adopt_cases hp with ⟨hvf, rfl⟩ | ⟨_, hp'⟩
  · rcases adopt_cases hq with ⟨hwf, rfl⟩ | ⟨_, hq'⟩
    · right
      rw [idxOf_of_fresh hvf, idxOf_of_fresh hwf] at hvw
      refine ⟨rfl, idxOf_filter_lt _ _ ?_ ?_ (Nat.lt_of_add_lt_add_left hvw)⟩
      · simpa using (mem_fresh.mp hvf).2
      · simpa using (mem_fresh.mp hwf).2
    · -- a fresh vertex stands behind every old one
      obtain ⟨hwo, _⟩ := h.parent_spec w q hq'
      rw [idxOf_of_fresh hvf, idxOf_append_fresh hwo] at hvw
      have := List.idxOf_lt_length_of_mem hwo
      omega
  · obtain ⟨hvo, hpo, _, _, hph⟩ := h.parent_spec v p hp'
    rcases adopt_cases hq with ⟨hwf, rfl⟩ | ⟨_, hq'⟩
    · left
      rw [idxOf_append_fresh hpo, idxOf_append_fresh hmem]
      omega
    · obtain ⟨hwo, hqo, _⟩ := h.parent_spec w q hq'
      rw [idxOf_append_fresh hvo, idxOf_append_fresh hwo] at hvw
      rw [idxOf_append_fresh hpo, idxOf_append_fresh hqo]
      exact h.fifo v w p q hp' hq' hvw

/-- Dequeuing the vertex at `head` keeps the invariant. -/
theorem Inv.step (hn : (next u).Nodup) :
    Inv next s (order ++ fresh next order u) (head + 1) (adopt next order u parent) where
  nodup := by
    refine List.nodup_append.mpr ⟨h.nodup, hn.filter _, ?_⟩
    rintro v hv w hw rfl
    exact (mem_fresh.mp hw).2 hv
  start := by rw [List.head?_append, h.start]; rfl
  root := by rw [adopt_of_mem (List.mem_of_head? h.start), h.root]
  parent_spec := parent_spec_step h hu
  has_parent v hv hne := by
    rcases List.mem_append.mp hv with hv | hv
    · rw [adopt_of_mem hv]
      exact h.has_parent v hv hne
    · exact ⟨u, adopt_of_fresh hv⟩
  closed := closed_step h hu
  fifo := fifo_step h hu

/-- Dequeuing a vertex that lists nothing keeps the invariant. -/
theorem Inv.skip (hn : next u = []) : Inv next s order (head + 1) parent := by
  have hf : fresh next order u = [] := by rw [fresh, hn]; rfl
  have ha : adopt next order u parent = parent := by
    funext v
    rw [adopt, hf, if_neg List.not_mem_nil]
  have hstep := h.step hu (by rw [hn]; exact List.nodup_nil)
  rwa [hf, ha, List.append_nil] at hstep

end Step

/-! ### The finished search -/

/-- Walks along the recorded parents. -/
abbrev TreeWalk (parent : V → Option V) (s : V) : V → List V → Prop :=
  Walk (fun u v ↦ parent v = some u) s

section Finished

variable (h : Inv next s order order.length parent)
include h

private theorem idxOf_start : order.idxOf s = 0 := by
  obtain ⟨l, hl⟩ := List.head?_eq_some_iff.mp h.start
  rw [hl, List.idxOf_cons_self]

private theorem Inv.start_mem : s ∈ order := List.mem_of_head? h.start

/-- Every found vertex has a path along the parents. -/
theorem Inv.exists_treeWalk {v : V} (hv : v ∈ order) : ∃ p, TreeWalk parent s v p := by
  induction hn : order.idxOf v using Nat.strongRecOn generalizing v with
  | ind n ih =>
    by_cases hvs : v = s
    · exact ⟨[s], hvs ▸ .root⟩
    · obtain ⟨u, hu⟩ := h.has_parent v hv hvs
      obtain ⟨_, huo, _, hlt, _⟩ := h.parent_spec v u hu
      obtain ⟨p, hp⟩ := ih _ (hn ▸ hlt) huo rfl
      exact ⟨p ++ [v], .step hp hu⟩

/-- A path along the parents is a walk of the searched graph. -/
theorem Inv.walk_of_treeWalk {v : V} {p : List V} (hp : TreeWalk parent s v p) :
    Walk (fun u v ↦ v ∈ next u) s v p :=
  hp.mono (fun u v huv ↦ (h.parent_spec v u huv).2.2.1)

private theorem eq_singleton_of_treeWalk_start {p : List V} (hp : TreeWalk parent s s p) :
    p = [s] := by
  cases hp with
  | root => rfl
  | step _ hr => rw [h.root] at hr; cases hr

/-- Vertices found earlier have parent paths that are no longer. -/
theorem Inv.treeWalk_mono {v w : V} {p q : List V} (hp : TreeWalk parent s v p)
    (hq : TreeWalk parent s w q) (hvw : order.idxOf v ≤ order.idxOf w) :
    p.length ≤ q.length := by
  induction hq generalizing v p with
  | root =>
    rw [idxOf_start h, Nat.le_zero] at hvw
    have hvs : s = v := (List.idxOf_inj h.start_mem).mp ((idxOf_start h).trans hvw.symm)
    subst hvs
    exact Nat.le_of_eq (congrArg List.length (eq_singleton_of_treeWalk_start h hp))
  | @step u' w q _ hw ih =>
    cases hp with
    | root => simp
    | @step u v p hp hv =>
      simp only [List.length_append, List.length_singleton, Nat.add_le_add_iff_right]
      refine ih hp ?_
      rcases Nat.lt_or_eq_of_le hvw with hlt | heq
      · rcases h.fifo v w u u' hv hw hlt with hu | ⟨hu, _⟩
        · exact Nat.le_of_lt hu
        · exact Nat.le_of_eq (congrArg order.idxOf hu)
      · have hvo := (h.parent_spec v u hv).1
        obtain rfl := (List.idxOf_inj hvo).mp heq
        rw [hv] at hw
        cases hw
        exact Nat.le_refl _

/-- A path along the parents visits no more vertices than the queue holds. -/
theorem Inv.treeWalk_length_le {v : V} {p : List V} (hp : TreeWalk parent s v p)
    (hv : v ∈ order) : p.length ≤ order.length := by
  have hle := hp.length_le_rank order.idxOf (fun u v huv ↦ (h.parent_spec v u huv).2.2.2.1)
  have hlt := List.idxOf_lt_length_of_mem hv
  omega

/-- The search finds whatever a walk reaches, on a path that is no longer. -/
theorem Inv.shortest {v : V} {q : List V} (hq : Walk (fun u v ↦ v ∈ next u) s v q) :
    v ∈ order ∧ ∀ p, TreeWalk parent s v p → p.length ≤ q.length := by
  induction hq with
  | root =>
    refine ⟨h.start_mem, fun p hp ↦ ?_⟩
    exact Nat.le_of_eq (congrArg List.length (eq_singleton_of_treeWalk_start h hp))
  | @step u v q _ huv ih =>
    obtain ⟨huo, hu⟩ := ih
    obtain ⟨hvo, hpar⟩ := h.closed u huo (List.idxOf_lt_length_of_mem huo) v huv
    refine ⟨hvo, fun p hp ↦ ?_⟩
    cases hp with
    | root => simp
    | @step w _ p hp hv =>
      obtain ⟨p', hp'⟩ := h.exists_treeWalk huo
      have hle := h.treeWalk_mono hp hp' (hpar w hv)
      have hle' := hu p' hp'
      simp only [List.length_append, List.length_singleton]
      omega

/-- A shortest walk on which every vertex is listed first by the one before it is the path that the
search records, and its end is the first vertex found at its distance. -/
theorem Inv.treeWalk_of_first {v : V} {q : List V}
    (hq : Walk (fun u v ↦ (next u).head? = some v) s v q)
    (hmin : ∀ q', Walk (fun u v ↦ v ∈ next u) s v q' → q.length ≤ q'.length) :
    TreeWalk parent s v q ∧
      ∀ w p, TreeWalk parent s w p → p.length = q.length → order.idxOf v ≤ order.idxOf w := by
  induction hq with
  | root =>
    refine ⟨.root, fun w p hp _ ↦ ?_⟩
    rw [idxOf_start h]
    exact Nat.zero_le _
  | @step u v q hq huv ih =>
    have hmem : v ∈ next u := List.mem_of_head? huv
    have hwalk : Walk (fun u v ↦ v ∈ next u) s u q := hq.mono (fun _ _ ↦ List.mem_of_head?)
    have hmin' : ∀ q', Walk (fun u v ↦ v ∈ next u) s u q' → q.length ≤ q'.length := by
      intro q' hq'
      simpa using hmin _ (.step hq' hmem)
    obtain ⟨htree, hfirst⟩ := ih hmin'
    have hvo := (h.shortest (.step hwalk hmem)).1
    have hvs : v ≠ s := by
      rintro rfl
      have hle := hmin _ .root
      have hpos := hq.length_pos
      rw [List.length_append, List.length_singleton] at hle
      omega
    -- the parent of `v` lies at the distance of `u`, not after it and not before it
    obtain ⟨p, hp⟩ := h.has_parent v hvo hvs
    obtain ⟨pp, hpp⟩ := h.exists_treeWalk (h.parent_spec v p hp).2.1
    have hple := (h.shortest (.step hwalk hmem)).2 _ (.step hpp hp)
    have hpge := hmin _ (h.walk_of_treeWalk (.step hpp hp))
    simp only [List.length_append, List.length_singleton] at hple hpge
    have huo := (h.shortest hwalk).1
    have hup := hfirst p pp hpp (by omega)
    have hpu := (h.closed u huo (List.idxOf_lt_length_of_mem huo) v hmem).2 p hp
    obtain rfl : u = p := (List.idxOf_inj huo).mp (by omega)
    refine ⟨.step htree hp, fun w pw hpw hlen ↦ ?_⟩
    cases hpw with
    | root =>
      have hpos := hq.length_pos
      simp only [List.length_append, List.length_singleton] at hlen
      omega
    | @step p' _ pw hpw hw =>
      simp only [List.length_append, List.length_singleton, Nat.add_right_cancel_iff] at hlen
      have hle := hfirst p' pw hpw hlen
      by_contra hlt
      rcases h.fifo w v p' u hw hp (by omega) with hlt' | ⟨rfl, hlt'⟩
      · omega
      · obtain ⟨l, hl⟩ := List.head?_eq_some_iff.mp huv
        rw [hl, List.idxOf_cons_self] at hlt'
        omega

end Finished

end Bfs
end Unoc.Base
