import Mathlib.Data.List.Flatten
import Mathlib.Data.Set.Card
import Mathlib.Order.Bounds.Basic
import Unoc.Base.Dict
import Unoc.Base.Frontier

/-!
# Connected components

A sweep over the vertices of a graph that searches from every vertex that no earlier search has
marked. The searches share their marks; what one of them dequeues is a connected component, listed
from the vertex that the sweep finds first.
-/

namespace Unoc.Base

universe u v

variable {V : Type u} {A : Type v}

namespace Components

variable [DecidableEq V]

/-- The queue loop of one search: vertices are marked when they are queued and listed when they are
dequeued. -/
def collect (next : V → List V) : Nat → List V → List V → List V → List V × List V
  | 0, _, component, marked => (component, marked)
  | _ + 1, [], component, marked => (component, marked)
  | fuel + 1, v :: rest, component, marked =>
    collect next fuel ((next v).foldl Frontier.enter (rest, marked)).1 (component ++ [v])
      ((next v).foldl Frontier.enter (rest, marked)).2

/-- What a search from a vertex lists, and the marks after it. -/
def search (next : V → List V) (fuel : Nat) (marked : List V) (v : V) : List V × List V :=
  collect next fuel [v] [] (marked ++ [v])

/-- A vertex of the sweep: unless it is marked, what a search from it lists is handed to `emit`. -/
def visit (next : V → List V) (fuel : Nat) (emit : A → List V → A) (s : A × List V) (v : V) :
    A × List V :=
  if v ∈ s.2 then s
  else (emit s.1 (search next fuel s.2 v).1, (search next fuel s.2 v).2)

/-- The sweep over vertices, in their order. -/
def sweep (next : V → List V) (fuel : Nat) (emit : A → List V → A) (vertices : List V)
    (start : A) : A :=
  (vertices.foldl (visit next fuel emit) (start, [])).1

/-! ### One search -/

section Search

variable {next : V → List V} {fuel : Nat} {queue component marked before : List V}

private theorem collect_marked : (collect next fuel queue component marked).2 =
    Frontier.loop (fun _ ↦ next) fuel queue marked := by
  induction fuel generalizing queue component marked with
  | zero => rfl
  | succ fuel ih =>
    cases queue with
    | nil => rfl
    | cons v rest => exact ih

private theorem prefix_collect : component <+: (collect next fuel queue component marked).1 := by
  induction fuel generalizing queue component marked with
  | zero => exact List.prefix_rfl
  | succ fuel ih =>
    cases queue with
    | nil => exact List.prefix_rfl
    | cons v rest => exact (List.prefix_append component [v]).trans ih

private theorem nodup_collect (h : marked.Nodup) :
    (collect next fuel queue component marked).2.Nodup := by
  induction fuel generalizing queue component marked with
  | zero => exact h
  | succ fuel ih =>
    cases queue with
    | nil => exact h
    | cons v rest =>
      have ⟨fresh, heq, hnodup, hmem⟩ := Frontier.foldl_enter (next v) rest marked
      rw [collect, heq]
      apply ih
      apply h.append hnodup
      intro w hw hfresh
      exact ((hmem w).mp hfresh).2 hw

/-- A search that runs out has listed what it marked. -/
theorem marked_collect {bound : Finset V} (hin : ∀ v, ∀ w ∈ next v, w ∈ bound)
    (hfuel : Frontier.potential bound queue marked ≤ fuel)
    (hmarked : marked = before ++ (component ++ queue)) :
    (collect next fuel queue component marked).2 =
      before ++ (collect next fuel queue component marked).1 := by
  induction fuel generalizing queue component marked with
  | zero =>
    have hnil : queue = [] := by
      apply List.length_eq_zero_iff.mp
      unfold Frontier.potential at hfuel
      omega
    rw [hnil, List.append_nil] at hmarked
    exact hmarked
  | succ fuel ih =>
    cases queue with
    | nil =>
      rw [List.append_nil] at hmarked
      exact hmarked
    | cons v rest =>
      have ⟨fresh, heq, hnodup, hmem⟩ := Frontier.foldl_enter (next v) rest marked
      rw [collect, heq]
      apply ih
      · have hstep : Frontier.potential bound (rest ++ fresh) (marked ++ fresh) + 1 ≤
            Frontier.potential bound (v :: rest) marked := by
          apply Frontier.potential_enter hnodup
          intro w hw
          have ⟨hwn, hwm⟩ := (hmem w).mp hw
          exact ⟨hin v w hwn, hwm⟩
        exact Nat.le_of_succ_le_succ (hstep.trans hfuel)
      · simp [hmarked]

end Search

section Graph

variable {next : V → List V} {r : V → V → Prop} {vertices marked : List V} {fuel : Nat} {root : V}
  (hnext : ∀ v w, w ∈ next v ↔ r v w) (hin : ∀ v w, r v w → w ∈ vertices)
  (hfuel : vertices.length ≤ fuel) (hvertex : root ∈ vertices)

include hfuel hvertex in
/-- There are enough iterations for one search. -/
theorem potential_search :
    Frontier.potential vertices.toFinset [root] (marked ++ [root]) ≤ fuel := by
  have hsub : vertices.toFinset \ (marked ++ [root]).toFinset ⊆ vertices.toFinset.erase root := by
    intro w hw
    simp only [Finset.mem_sdiff, List.mem_toFinset, List.mem_append, List.mem_singleton,
      not_or] at hw
    exact Finset.mem_erase.mpr ⟨hw.2.2, List.mem_toFinset.mpr hw.1⟩
  have hcard := Finset.card_le_card hsub
  have herase := Finset.card_erase_add_one (List.mem_toFinset.mpr hvertex)
  have hlength := vertices.toFinset_card_le
  unfold Frontier.potential
  rw [List.length_singleton]
  omega

include hvertex hfuel in
/-- A search lists the vertex it starts from first. -/
theorem head?_search : (search next fuel marked root).1.head? = some root := by
  have hpos := List.length_pos_of_mem hvertex
  cases fuel with
  | zero => omega
  | succ n =>
    have hprefix : [root] <+: (search next (n + 1) marked root).1 := prefix_collect
    have ⟨rest, hrest⟩ := hprefix
    rw [← hrest]
    rfl

include hnext hin hfuel hvertex

private theorem marked_search : (search next fuel marked root).2 =
    marked ++ (search next fuel marked root).1 := by
  have hbound : ∀ v, ∀ w ∈ next v, w ∈ vertices.toFinset := by
    intro v w hw
    exact List.mem_toFinset.mpr (hin v w ((hnext v w).mp hw))
  exact marked_collect hbound (potential_search hfuel hvertex) rfl

/-- A search from an unmarked vertex lists vertices that were not marked before, each once. -/
theorem nodup_search (hroot : root ∉ marked) (hnodup : marked.Nodup) :
    (marked ++ (search next fuel marked root).1).Nodup := by
  rw [← marked_search hnext hin hfuel hvertex]
  apply nodup_collect
  exact hnodup.append (List.nodup_singleton root) (by simpa using hroot)

/-- A search from an unmarked vertex lists what the vertex reaches, where no marked vertex is joined
to an unmarked one. -/
theorem mem_search (hroot : root ∉ marked) (hnodup : marked.Nodup)
    (hclosed : ∀ v w, r v w → (v ∈ marked ↔ w ∈ marked)) {v : V} :
    v ∈ (search next fuel marked root).1 ↔ Relation.ReflTransGen r root v := by
  have hmarked : (search next fuel marked root).2 = marked ++ (search next fuel marked root).1 :=
    marked_search hnext hin hfuel hvertex
  have hloop : (search next fuel marked root).2 =
      Frontier.loop (fun _ ↦ next) fuel [root] (marked ++ [root]) := collect_marked
  have hdisjoint : ∀ w ∈ (search next fuel marked root).1, w ∉ marked := by
    intro w hw hwm
    exact List.disjoint_of_nodup_append (nodup_search hnext hin hfuel hvertex hroot hnodup) hwm hw
  constructor
  · intro hv
    have hvm : v ∈ (search next fuel marked root).2 := by
      rw [hmarked]
      exact List.mem_append_right _ hv
    rw [hloop] at hvm
    rcases Frontier.loop_sound (fun _ ↦ hnext) fuel hvm with hvm | ⟨s, hs, hreach⟩
    · rcases List.mem_append.mp hvm with hvm | hvm
      · exact absurd hvm (hdisjoint v hv)
      · rw [List.mem_singleton.mp hvm]
    · rw [← List.mem_singleton.mp hs]
      exact hreach
  · intro hreach
    have hbound : ∀ v w, r v w → w ∈ vertices.toFinset := by
      intro v w hr
      exact List.mem_toFinset.mpr (hin v w hr)
    have hstart : ∀ w ∈ marked ++ [root], w ∈ [root] ∨ ∀ x, r w x → x ∈ marked ++ [root] := by
      intro w hw
      rcases List.mem_append.mp hw with hw | hw
      · right
        intro x hx
        exact List.mem_append_left _ ((hclosed w x hx).mp hw)
      · exact .inl hw
    have ⟨hkeep, hstep⟩ := Frontier.loop_closed (fun _ ↦ hnext) hbound fuel
      (potential_search hfuel hvertex) hstart
    rw [← hloop, hmarked] at hkeep hstep
    have hout : v ∈ marked ++ (search next fuel marked root).1 ∧ v ∉ marked := by
      induction hreach with
      | refl => exact ⟨hkeep root (List.mem_append_right _ (List.mem_singleton_self root)), hroot⟩
      | tail _ hr ih => exact ⟨hstep _ ih.1 _ hr, fun hm ↦ ih.2 ((hclosed _ _ hr).mpr hm)⟩
    exact (List.mem_append.mp hout.1).resolve_left hout.2

end Graph

/-! ### The sweep -/

/-- Disjoint lists of what is connected to their vertices, with the least vertex in front. -/
structure IsPartition [LE V] (r : V → V → Prop) (cs : List (List V)) : Prop where
  nodup : cs.flatten.Nodup
  connected : ∀ c ∈ cs, ∀ u ∈ c, ∀ v, v ∈ c ↔ Relation.ReflTransGen r u v
  first : ∀ c ∈ cs, ∃ u, c.head? = some u ∧ ∀ v ∈ c, u ≤ v

/-- A sweep over some of the vertices has emitted components that cover these. -/
structure Swept [LE V] (r : V → V → Prop) (vertices : List V) (emit : A → List V → A) (start : A)
    (done : List V) (s : A × List V) (cs : List (List V)) : Prop where
  emitted : s.1 = cs.foldl emit start
  marked : s.2 = cs.flatten
  partition : IsPartition r cs
  covers : ∀ v ∈ done, v ∈ s.2
  inside : ∀ v ∈ s.2, v ∈ vertices

section Sweep

variable [Preorder V] {next : V → List V} {r : V → V → Prop} [Std.Symm r]
  {vertices done : List V} {fuel : Nat} {emit : A → List V → A} {start : A} {s : A × List V}
  {cs : List (List V)} {root : V}

omit [DecidableEq V] [Std.Symm r] in
private theorem swept_nil : Swept r vertices emit start [] (start, []) [] where
  emitted := rfl
  marked := rfl
  partition := ⟨List.nodup_nil, fun _ h ↦ absurd h List.not_mem_nil,
    fun _ h ↦ absurd h List.not_mem_nil⟩
  covers _ h := absurd h List.not_mem_nil
  inside _ h := absurd h List.not_mem_nil

omit [DecidableEq V] in
/-- No marked vertex is joined to an unmarked one. -/
theorem Swept.closed (h : Swept r vertices emit start done s cs) (v w : V) (hr : r v w) :
    v ∈ s.2 ↔ w ∈ s.2 := by
  have hstep : ∀ x y, r x y → x ∈ s.2 → y ∈ s.2 := by
    intro x y hxy hx
    rw [h.marked, List.mem_flatten] at hx ⊢
    have ⟨c, hc, hxc⟩ := hx
    exact ⟨c, hc, (h.partition.connected c hc x hxc y).mpr (.single hxy)⟩
  exact ⟨hstep v w hr, hstep w v (symm_of r hr)⟩

omit [DecidableEq V] in
/-- A component that is disjoint from the others extends a partition. -/
theorem IsPartition.concat (h : IsPartition r cs) {c : List V} (hnodup : (cs.flatten ++ c).Nodup)
    (hmem : ∀ v, v ∈ c ↔ Relation.ReflTransGen r root v) (hhead : c.head? = some root)
    (hleast : ∀ v ∈ c, root ≤ v) : IsPartition r (cs ++ [c]) where
  nodup := by
    rw [List.flatten_concat]
    exact hnodup
  connected c' hc' u hu v := by
    rcases List.mem_append.mp hc' with hc' | hc'
    · exact h.connected c' hc' u hu v
    · have heq := List.mem_singleton.mp hc'
      rw [heq, hmem] at hu
      rw [heq, hmem]
      constructor
      · intro hv
        exact (symm_of (Relation.ReflTransGen r) hu).trans hv
      · exact hu.trans
  first c' hc' := by
    rcases List.mem_append.mp hc' with hc' | hc'
    · exact h.first c' hc'
    · rw [List.mem_singleton.mp hc']
      exact ⟨root, hhead, hleast⟩

/-- One vertex of the sweep. -/
theorem Swept.visit (h : Swept r vertices emit start done s cs) (hnext : ∀ v w, w ∈ next v ↔ r v w)
    (hin : ∀ v w, r v w → w ∈ vertices) (hfuel : vertices.length ≤ fuel)
    (hvertex : root ∈ vertices) (hleast : ∀ v ∈ vertices, v ∈ done ∨ root ≤ v) :
    ∃ cs', Swept r vertices emit start (done ++ [root]) (Components.visit next fuel emit s root) cs' := by
  unfold Components.visit
  split
  next hroot =>
    refine ⟨cs, h.emitted, h.marked, h.partition, ?_, h.inside⟩
    intro v hv
    rcases List.mem_append.mp hv with hv | hv
    · exact h.covers v hv
    · rw [List.mem_singleton.mp hv]
      exact hroot
  next hroot =>
    have hmarked : (search next fuel s.2 root).2 = s.2 ++ (search next fuel s.2 root).1 :=
      marked_search hnext hin hfuel hvertex
    have hbefore : s.2.Nodup := h.marked ▸ h.partition.nodup
    have hnodup : (s.2 ++ (search next fuel s.2 root).1).Nodup :=
      nodup_search hnext hin hfuel hvertex hroot hbefore
    have hmem : ∀ v, v ∈ (search next fuel s.2 root).1 ↔ Relation.ReflTransGen r root v := by
      intro v
      exact mem_search hnext hin hfuel hvertex hroot hbefore h.closed
    have hinside : ∀ v ∈ (search next fuel s.2 root).1, v ∈ vertices := by
      intro v hv
      rcases ((hmem v).mp hv).cases_tail with heq | ⟨u, _, hr⟩
      · rw [heq]
        exact hvertex
      · exact hin u v hr
    -- a vertex before the root is marked already
    have hfirst : ∀ v ∈ (search next fuel s.2 root).1, root ≤ v := by
      intro v hv
      apply (hleast v (hinside v hv)).resolve_left
      intro hdone
      exact List.disjoint_of_nodup_append hnodup (h.covers v hdone) hv
    apply Exists.intro (cs ++ [(search next fuel s.2 root).1])
    constructor
    · rw [List.foldl_concat, ← h.emitted]
    · rw [List.flatten_concat, ← h.marked]
      exact hmarked
    · apply h.partition.concat _ hmem (head?_search hfuel hvertex) hfirst
      rw [← h.marked]
      exact hnodup
    · intro v hv
      show v ∈ (search next fuel s.2 root).2
      rw [hmarked]
      rcases List.mem_append.mp hv with hv | hv
      · exact List.mem_append_left _ (h.covers v hv)
      · rw [List.mem_singleton.mp hv]
        exact List.mem_append_right _ ((hmem root).mpr .refl)
    · intro v hv
      have hv' : v ∈ s.2 ++ (search next fuel s.2 root).1 := hmarked ▸ hv
      exact (List.mem_append.mp hv').elim (h.inside v) (hinside v)

/-- A sweep over the rest of the vertices. -/
theorem Swept.foldl (h : Swept r vertices emit start done s cs)
    (hnext : ∀ v w, w ∈ next v ↔ r v w) (hin : ∀ v w, r v w → w ∈ vertices)
    (hfuel : vertices.length ≤ fuel) {rest : List V} (hsplit : vertices = done ++ rest)
    (hsorted : rest.Pairwise (· ≤ ·)) :
    ∃ cs', Swept r vertices emit start vertices (rest.foldl (Components.visit next fuel emit) s)
      cs' := by
  induction rest generalizing done s cs with
  | nil =>
    rw [List.append_nil] at hsplit
    rw [hsplit] at h ⊢
    exact ⟨cs, h⟩
  | cons root rest ih =>
    have hvertex : root ∈ vertices := by simp [hsplit]
    have hleast : ∀ v ∈ vertices, v ∈ done ∨ root ≤ v := by
      intro v hv
      rw [hsplit] at hv
      apply (List.mem_append.mp hv).imp_right
      intro hv
      rcases List.mem_cons.mp hv with heq | hv
      · exact le_of_eq heq.symm
      · exact (List.pairwise_cons.mp hsorted).1 v hv
    have ⟨cs', h'⟩ := h.visit hnext hin hfuel hvertex hleast
    exact ih h' (by simp [hsplit]) (List.pairwise_cons.mp hsorted).2

/-- A sweep over all vertices, in ascending order, emits the components of the graph. -/
theorem sweep_spec (emit : A → List V → A) (start : A) (hnext : ∀ v w, w ∈ next v ↔ r v w)
    (hin : ∀ v w, r v w → w ∈ vertices) (hfuel : vertices.length ≤ fuel)
    (hsorted : vertices.Pairwise (· ≤ ·)) :
    ∃ cs, sweep next fuel emit vertices start = cs.foldl emit start ∧ IsPartition r cs ∧
      ∀ v, v ∈ cs.flatten ↔ v ∈ vertices := by
  have hstart : Swept r vertices emit start [] (start, []) [] := swept_nil
  have ⟨cs, h⟩ := hstart.foldl hnext hin hfuel rfl hsorted
  apply Exists.intro cs
  apply And.intro h.emitted
  apply And.intro h.partition
  intro v
  rw [← h.marked]
  exact ⟨h.inside v, h.covers v⟩

end Sweep

/-! ### Names of components -/

section Names

variable {r : V → V → Prop} {cs : List (List V)} {c : List V} {u v : V}

omit [DecidableEq V] in
/-- A component has as many vertices as are connected to any of them. -/
theorem IsPartition.length_eq [LE V] (h : IsPartition r cs) (hc : c ∈ cs) (hu : u ∈ c) :
    c.length = Set.ncard {v | Relation.ReflTransGen r u v} := by
  classical
  have hnodup : c.Nodup := (List.nodup_flatten.mp h.nodup).1 c hc
  have hset : {v | Relation.ReflTransGen r u v} = (c.toFinset : Set V) := by
    ext v
    simp [← h.connected c hc u hu v]
  rw [hset, Set.ncard_coe_finset, List.toFinset_card_of_nodup hnodup]

omit [DecidableEq V] in
/-- A component starts with the least of the vertices that are connected to any of them. -/
theorem IsPartition.isLeast [Preorder V] (h : IsPartition r cs) (hc : c ∈ cs) (hu : u ∈ c) :
    ∃ w, c.head? = some w ∧ IsLeast {v | Relation.ReflTransGen r u v} w := by
  have ⟨w, hw, hleast⟩ := h.first c hc
  have hmem : w ∈ {v | Relation.ReflTransGen r u v} :=
    (h.connected c hc u hu w).mp (List.mem_of_head? hw)
  apply Exists.intro w
  apply And.intro hw
  apply And.intro hmem
  intro v hv
  exact hleast v ((h.connected c hc u hu v).mpr hv)

end Names

section Assign

variable {K L : Type} [DecidableEq K] {name : List K → L} {cs : List (List K)}

/-- Store the name of a component under each of its vertices. -/
def assign (name : List K → L) (names : Dict K L) (c : List K) : Dict K L :=
  c.foldl (fun m v ↦ m.insert v (name c)) names

private theorem lookup_assign (names : Dict K L) (c : List K) (v : K) :
    (assign name names c).lookup v = if v ∈ c then some (name c) else names.lookup v := by
  have hfind : ∀ xs : List K, xs.find? (fun x ↦ x = v) = if v ∈ xs then some v else none := by
    intro xs
    induction xs with
    | nil => rfl
    | cons x xs ih =>
      by_cases hx : x = v
      · simp [hx]
      · simp [hx, ih, Ne.symm hx]
  simp only [assign, Dict.lookup_foldl_insert, hfind, List.mem_reverse]
  split
  next => rfl
  next => rfl

/-- The name of a vertex is that of its component. -/
theorem lookup_foldl_assign (hnodup : cs.flatten.Nodup) {v : K} {x : L} :
    (cs.foldl (assign name) ∅).lookup v = some x ↔ ∃ c ∈ cs, v ∈ c ∧ name c = x := by
  induction cs using List.reverseRecOn with
  | nil => simp
  | append_singleton cs c ih =>
    rw [List.flatten_concat] at hnodup
    have hdisjoint := List.disjoint_of_nodup_append hnodup
    rw [List.foldl_concat, lookup_assign]
    split
    next hv =>
      -- no earlier component has the vertex
      have hearlier : ∀ c' ∈ cs, v ∉ c' := by
        intro c' hc' hv'
        exact hdisjoint (List.mem_flatten.mpr ⟨c', hc', hv'⟩) hv
      rw [Option.some.injEq]
      constructor
      · intro hx
        exact ⟨c, List.mem_concat_self, hv, hx⟩
      · rintro ⟨c', hc', hv', hx⟩
        rcases List.mem_append.mp hc' with hc' | hc'
        · exact absurd hv' (hearlier c' hc')
        · rw [← List.mem_singleton.mp hc']
          exact hx
    next hv =>
      rw [ih hnodup.of_append_left]
      constructor
      · rintro ⟨c', hc', hv', hx⟩
        exact ⟨c', List.mem_append_left _ hc', hv', hx⟩
      · rintro ⟨c', hc', hv', hx⟩
        rcases List.mem_append.mp hc' with hc' | hc'
        · exact ⟨c', hc', hv', hx⟩
        · rw [List.mem_singleton.mp hc'] at hv'
          exact absurd hv' hv

end Assign

end Components

end Unoc.Base
