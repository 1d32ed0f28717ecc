import Mathlib.Data.List.Nodup
import Mathlib.Data.List.Perm.Subperm
import Unoc.Base.Dijkstra

/-!
# Dijkstra's algorithm without decrease-key

A variant whose queue holds at most one item per vertex: a distance that is lowered while its vertex
waits in the queue is stored, but the item keeps the distance of the first discovery. When such an
outdated item is popped, the vertex is settled and its edges are skipped. The distances are the least
weights of walks exactly if some walk of least weight to each vertex avoids the outdated vertices before
its end.
-/

namespace Unoc.Base.QueuedOnce

open Dijkstra (Item PriorityQueue)

variable {V W : Type} [DecidableEq V] [AddCommMonoid W] [LinearOrder W]

/-! ### The loop -/

/-- Distances, paths, settled vertices, the queue and the vertices that wait in it. -/
structure State (q : PriorityQueue V W) where
  distances : Dict V W
  paths : Dict V (List V)
  visited : List V
  queue : q.Queue
  queued : List V

section Loop

variable (q : PriorityQueue V W) (weight : V → V → Option W) (next : V → List V)

/-- A shorter way to a neighbour is stored; the neighbour is queued unless it waits already. -/
def improve (item : Item V W) (st : State q) (nb : V) (w : W) : State q :=
  { st with
    distances := st.distances.insert nb (item.distance + w)
    paths := st.paths.insert nb ((st.paths.lookup item.node).getD [] ++ [nb])
    queue := if nb ∈ st.queued then st.queue else q.push st.queue ⟨nb, item.distance + w⟩
    queued := if nb ∈ st.queued then st.queued else nb :: st.queued }

/-- Relaxation of the edge to one neighbour of a settled vertex. -/
def relax (item : Item V W) (st : State q) (nb : V) : State q :=
  if nb ∈ st.visited then st
  else
    match weight item.node nb with
    | none => st
    | some w =>
      if (st.distances.lookup nb).all (fun d ↦ item.distance + w < d) then improve q item st nb w
      else st

/-- An item leaves the queue. -/
def dequeue (item : Item V W) (rest : q.Queue) (st : State q) : State q :=
  { st with queue := rest, queued := st.queued.filter (· ≠ item.node) }

/-- A vertex is settled. -/
def mark (item : Item V W) (st : State q) : State q :=
  { st with visited := item.node :: st.visited }

/-- The distance of a vertex was lowered after its item was queued. -/
def Outdated (st : State q) (item : Item V W) : Prop :=
  ∃ d ∈ st.distances.lookup item.node, d < item.distance

/-- Whether an item is outdated compares distances. -/
instance (st : State q) (item : Item V W) : Decidable (Outdated q st item) :=
  decidable_of_iff ((st.distances.lookup item.node).any (· < item.distance) = true)
    ((Option.any_eq_true _ _).trans (exists_congr fun _ ↦ and_congr_right fun _ ↦ decide_eq_true_iff))

/-- What one iteration does with the popped item. -/
def settle (item : Item V W) (rest : q.Queue) (st : State q) : State q :=
  if item.node ∈ st.visited then dequeue q item rest st
  else if Outdated q st item then mark q item (dequeue q item rest st)
  else (next item.node).foldl (relax q weight item) (mark q item (dequeue q item rest st))

/-- The loop; `fuel` bounds its iterations. -/
def loop : Nat → State q → State q
  | 0, st => st
  | fuel + 1, st =>
    match q.pop st.queue with
    | none => st
    | some (item, rest) => loop fuel (settle q weight next item rest st)

/-- The vertices whose edges the loop skips since their items are outdated. -/
def outdated : Nat → State q → List V
  | 0, _ => []
  | fuel + 1, st =>
    match q.pop st.queue with
    | none => []
    | some (item, rest) =>
      (if item.node ∉ st.visited ∧ Outdated q st item then [item.node] else []) ++
        outdated fuel (settle q weight next item rest st)

/-- The state that the loop starts from. -/
def start (s : V) : State q where
  distances := AList.singleton s 0
  paths := AList.singleton s [s]
  visited := []
  queue := q.push q.empty ⟨s, 0⟩
  queued := [s]

end Loop

/-! ### The invariant -/

section Correctness

variable {q : PriorityQueue V W} {weight : V → V → Option W} {s : V} {vertices : List V}

/-- What holds between iterations: `skipped` are the outdated vertices so far, `t` is the distance of
the last popped item, and some edges are still to be relaxed. -/
structure Inv (weight : V → V → Option W) (s : V) (vertices : List V) (skipped : V → Prop) (t : W)
    (pending : V → V → Prop) (st : State q) : Prop where
  start : ∃ d, st.distances.lookup s = some d ∧ d ≤ 0
  walk : ∀ v d, st.distances.lookup v = some d → ∃ p, st.paths.lookup v = some p ∧
    Dijkstra.Walk weight s p v d ∧ ∀ x ∈ p.dropLast, x ∈ st.visited ∧ ¬ skipped x
  paths : ∀ v, v ∈ st.paths → v ∈ st.distances
  vertex : ∀ v, v ∈ st.distances → v ∈ vertices
  waits : ∀ v, v ∈ st.distances → v ∈ st.visited ∨ v ∈ st.queued
  queued : ∀ v ∈ st.queued, v ∈ (q.items st.queue).map Item.node
  nodup : ((q.items st.queue).map Item.node).Nodup
  items : ∀ x ∈ q.items st.queue, x.node ∉ st.visited ∧ x.node ∈ st.queued ∧ t ≤ x.distance ∧
    ∃ d, st.distances.lookup x.node = some d ∧ d ≤ x.distance
  visited_nodup : st.visited.Nodup
  skips : ∀ x, skipped x → x ∈ st.visited
  settled : ∀ u ∈ st.visited, ∃ d, st.distances.lookup u = some d ∧ d ≤ t
  relaxed : ∀ u ∈ st.visited, ¬ skipped u → ∀ d, st.distances.lookup u = some d → ∀ v w,
    weight u v = some w → ¬ pending u v → ∃ d', st.distances.lookup v = some d' ∧ d' ≤ d + w

private theorem relax_cases (weight : V → V → Option W) (item : Item V W) (st : State q) (nb : V) :
    (relax q weight item st nb = st ∧
        (nb ∈ st.visited ∨ ∀ w, weight item.node nb = some w →
          ∃ d, st.distances.lookup nb = some d ∧ d ≤ item.distance + w)) ∨
      ∃ w, nb ∉ st.visited ∧ weight item.node nb = some w ∧
        (∀ d, st.distances.lookup nb = some d → item.distance + w < d) ∧
        relax q weight item st nb = improve q item st nb w :=
  Dijkstra.relaxWith_cases st.visited st.distances weight item nb st _

private theorem relax_visited (item : Item V W) (st : State q) (nb : V) :
    (relax q weight item st nb).visited = st.visited := by
  rcases relax_cases weight item st nb with ⟨hr, _⟩ | ⟨_, _, _, _, hr⟩ <;> rw [hr]
  rfl

private theorem foldl_relax_visited (ns : List V) {item : Item V W} {st : State q} :
    (ns.foldl (relax q weight item) st).visited = st.visited := by
  induction ns generalizing st with
  | nil => rfl
  | cons n ns ih => rw [List.foldl_cons, ih, relax_visited]

section Improve

variable {skipped : V → Prop} {t : W} {pending : V → V → Prop} {item : Item V W} {st : State q}
  {nb : V} {w : W}

omit [DecidableEq V] [LinearOrder W] in
private theorem dropLast_walk {p : List V} {v : V} {d : W} (h : Dijkstra.Walk weight s p v d) :
    p.dropLast ++ [v] = p := by
  obtain ⟨xs, rfl⟩ := List.getLast?_eq_some_iff.mp h.getLast?
  rw [List.dropLast_concat]

/-- The path to a settled vertex, extended by a neighbour. -/
theorem Inv.walk_snoc (h : Inv weight s vertices skipped t pending st)
    (hvisited : item.node ∈ st.visited) (hskipped : ¬ skipped item.node)
    (hdist : st.distances.lookup item.node = some item.distance)
    (hw : weight item.node nb = some w) :
    ∃ p, st.paths.lookup item.node = some p ∧
      Dijkstra.Walk weight s (p ++ [nb]) nb (item.distance + w) ∧
        ∀ x ∈ p, x ∈ st.visited ∧ ¬ skipped x := by
  obtain ⟨p, hp, hwalk, hmem⟩ := h.walk _ _ hdist
  refine ⟨p, hp, hwalk.snoc hw, ?_⟩
  intro x hx
  rw [← dropLast_walk hwalk, List.mem_append, List.mem_singleton] at hx
  rcases hx with hx | rfl
  · exact hmem x hx
  · exact ⟨hvisited, hskipped⟩

private theorem mem_queued_improve {v : V} :
    v ∈ (improve q item st nb w).queued ↔ v ∈ st.queued ∨ v = nb := by
  show v ∈ (if nb ∈ st.queued then st.queued else nb :: st.queued) ↔ _
  split
  · next hq => exact (or_iff_left_of_imp (fun heq ↦ heq ▸ hq)).symm
  · next hq => rw [List.mem_cons, or_comm]

/-- The queue keeps its items and has one for the neighbour. -/
theorem items_improve : nb ∈ st.queued ∧ (improve q item st nb w).queue = st.queue ∨
    nb ∉ st.queued ∧ (q.items (improve q item st nb w).queue).Perm
      (⟨nb, item.distance + w⟩ :: q.items st.queue) := by
  by_cases hq : nb ∈ st.queued
  · exact Or.inl ⟨hq, if_pos hq⟩
  · refine Or.inr ⟨hq, ?_⟩
    have hqueue : (improve q item st nb w).queue = q.push st.queue ⟨nb, item.distance + w⟩ :=
      if_neg hq
    rw [hqueue]
    exact q.items_push _ _

/-- The waiting vertices after an improvement have one item each. -/
theorem Inv.queue_improve (h : Inv weight s vertices skipped t pending st) :
    (∀ v ∈ (improve q item st nb w).queued,
      v ∈ (q.items (improve q item st nb w).queue).map Item.node) ∧
    ((q.items (improve q item st nb w).queue).map Item.node).Nodup := by
  have hqueue : nb ∈ st.queued ∧ (improve q item st nb w).queue = st.queue ∨
      nb ∉ st.queued ∧ (q.items (improve q item st nb w).queue).Perm
        (⟨nb, item.distance + w⟩ :: q.items st.queue) := items_improve
  rcases hqueue with ⟨hq, hqueue⟩ | ⟨hq, hperm⟩
  · rw [hqueue]
    refine ⟨?_, h.nodup⟩
    intro v hv
    rcases mem_queued_improve.mp hv with hv | rfl
    · exact h.queued v hv
    · exact h.queued v hq
  · refine ⟨?_, ?_⟩
    · intro v hv
      rw [(hperm.map Item.node).mem_iff, List.map_cons, List.mem_cons]
      exact (mem_queued_improve.mp hv).symm.imp_right (h.queued v)
    · rw [(hperm.map Item.node).nodup_iff, List.map_cons, List.nodup_cons]
      refine ⟨fun hmem ↦ ?_, h.nodup⟩
      obtain ⟨x, hx, hxn⟩ := List.mem_map.mp hmem
      have hxq := (h.items x hx).2.1
      rw [hxn] at hxq
      exact hq hxq

/-- The path to the neighbour after an improvement, and those to the others. -/
theorem Inv.walk_improve (h : Inv weight s vertices skipped t pending st)
    (hvisited : item.node ∈ st.visited) (hskipped : ¬ skipped item.node)
    (hdist : st.distances.lookup item.node = some item.distance)
    (hw : weight item.node nb = some w) {v : V} {d : W}
    (hd : (improve q item st nb w).distances.lookup v = some d) :
    ∃ p, (improve q item st nb w).paths.lookup v = some p ∧ Dijkstra.Walk weight s p v d ∧
      ∀ x ∈ p.dropLast, x ∈ st.visited ∧ ¬ skipped x := by
  by_cases hv : v = nb
  · subst hv
    obtain rfl := Option.some.inj ((AList.lookup_insert _).symm.trans hd)
    obtain ⟨p, hp, hwalk, hmem⟩ := h.walk_snoc hvisited hskipped hdist hw
    refine ⟨p ++ [v], ?_, hwalk, by rwa [List.dropLast_concat]⟩
    show (st.paths.insert v _).lookup v = _
    rw [AList.lookup_insert, hp]
    rfl
  · obtain ⟨p, hp, hrest⟩ := h.walk v d ((AList.lookup_insert_ne hv).symm.trans hd)
    exact ⟨p, (AList.lookup_insert_ne hv).trans hp, hrest⟩

variable [IsOrderedAddMonoid W]

/-- A stored improvement keeps the invariant, and its edge is no longer pending. -/
theorem Inv.improve (h : Inv weight s vertices skipped item.distance pending st)
    (hnonneg : 0 ≤ w) (hvertex : nb ∈ vertices)
    (hvisited : item.node ∈ st.visited) (hskipped : ¬ skipped item.node)
    (hdist : st.distances.lookup item.node = some item.distance) (hnb : nb ∉ st.visited)
    (hw : weight item.node nb = some w)
    (himproves : ∀ d, st.distances.lookup nb = some d → item.distance + w < d) :
    Inv weight s vertices skipped item.distance
      (fun u v ↦ pending u v ∧ ¬ (u = item.node ∧ v = nb)) (QueuedOnce.improve q item st nb w) := by
  have hne : ∀ {u}, u ∈ st.visited → u ≠ nb := fun hu heq ↦ hnb (heq ▸ hu)
  have hqueue : nb ∈ st.queued ∧ (QueuedOnce.improve q item st nb w).queue = st.queue ∨
      nb ∉ st.queued ∧ (q.items (QueuedOnce.improve q item st nb w).queue).Perm
        (⟨nb, item.distance + w⟩ :: q.items st.queue) := items_improve
  -- distances of other vertices are kept, and the one of `nb` shrinks
  have hself : (st.distances.insert nb (item.distance + w)).lookup nb = some (item.distance + w) :=
    AList.lookup_insert _
  have hother : ∀ {v}, v ≠ nb → (st.distances.insert nb (item.distance + w)).lookup v =
      st.distances.lookup v := fun hv ↦ AList.lookup_insert_ne hv
  have hshrinks : ∀ {v d}, st.distances.lookup v = some d → ∃ d',
      (st.distances.insert nb (item.distance + w)).lookup v = some d' ∧ d' ≤ d :=
    fun hd ↦ Dijkstra.lookup_insert_le himproves hd
  have hold : ∀ x ∈ q.items st.queue, x.node ∉ st.visited ∧
      x.node ∈ (QueuedOnce.improve q item st nb w).queued ∧ item.distance ≤ x.distance ∧
        ∃ d, (st.distances.insert nb (item.distance + w)).lookup x.node = some d ∧
          d ≤ x.distance := by
    intro x hx
    obtain ⟨hxv, hxq, ht, d, hd, hle⟩ := h.items x hx
    obtain ⟨d', hd', hle'⟩ := hshrinks hd
    exact ⟨hxv, mem_queued_improve.mpr (Or.inl hxq), ht, d', hd', hle'.trans hle⟩
  constructor
  case start =>
    obtain ⟨d, hd, hle⟩ := h.start
    obtain ⟨d', hd', hle'⟩ := hshrinks hd
    exact ⟨d', hd', hle'.trans hle⟩
  case walk => exact fun v d ↦ h.walk_improve hvisited hskipped hdist hw
  case paths =>
    intro v hv
    rcases (AList.mem_insert _).mp hv with rfl | hv
    · exact (AList.mem_insert _).mpr (Or.inl rfl)
    · exact (AList.mem_insert _).mpr (Or.inr (h.paths v hv))
  case vertex =>
    intro v hv
    rcases (AList.mem_insert _).mp hv with rfl | hv
    · exact hvertex
    · exact h.vertex v hv
  case waits =>
    intro v hv
    rcases (AList.mem_insert _).mp hv with rfl | hv
    · exact Or.inr (mem_queued_improve.mpr (Or.inr rfl))
    · exact (h.waits v hv).imp_right (fun hq ↦ mem_queued_improve.mpr (Or.inl hq))
  case queued => exact h.queue_improve.1
  case nodup => exact h.queue_improve.2
  case items =>
    intro x hx
    rcases hqueue with ⟨hq, hqueue⟩ | ⟨hq, hperm⟩
    · rw [hqueue] at hx
      exact hold x hx
    · rcases List.mem_cons.mp (hperm.mem_iff.mp hx) with rfl | hx
      · exact ⟨hnb, mem_queued_improve.mpr (Or.inr rfl), le_add_of_nonneg_right hnonneg, _, hself,
          le_refl _⟩
      · exact hold x hx
  case visited_nodup => exact h.visited_nodup
  case skips => exact h.skips
  case settled =>
    intro u hu
    obtain ⟨d, hd, hle⟩ := h.settled u hu
    exact ⟨d, (hother (hne hu)).trans hd, hle⟩
  case relaxed =>
    intro u hu hskip d hd v w' hw' hpending
    have hd' := (hother (hne hu)).symm.trans hd
    by_cases hedge : u = item.node ∧ v = nb
    · obtain ⟨rfl, rfl⟩ := hedge
      obtain rfl := Option.some.inj (hdist.symm.trans hd')
      obtain rfl := Option.some.inj (hw.symm.trans hw')
      exact ⟨_, hself, le_refl _⟩
    · obtain ⟨d₁, hd₁, hle₁⟩ := h.relaxed u hu hskip d hd' v w' hw' (fun hp ↦ hpending ⟨hp, hedge⟩)
      obtain ⟨d₂, hd₂, hle₂⟩ := hshrinks hd₁
      exact ⟨d₂, hd₂, hle₂.trans hle₁⟩

end Improve

section Relax

variable [IsOrderedAddMonoid W] {skipped : V → Prop} {pending : V → V → Prop} {item : Item V W}
  {st : State q} {nb : V} (hnonneg : Dijkstra.NonnegFrom weight s)
  (hvertices : ∀ u v w, weight u v = some w → v ∈ vertices)

include hnonneg hvertices

/-- A relaxation keeps the invariant, and its edge is no longer pending. -/
theorem Inv.relax (h : Inv weight s vertices skipped item.distance pending st)
    (hvisited : item.node ∈ st.visited) (hskipped : ¬ skipped item.node)
    (hdist : st.distances.lookup item.node = some item.distance) :
    Inv weight s vertices skipped item.distance
      (fun u v ↦ pending u v ∧ ¬ (u = item.node ∧ v = nb)) (QueuedOnce.relax q weight item st nb) := by
  have hpositive : ∀ v w, weight item.node v = some w → 0 ≤ w := by
    obtain ⟨p, _, hwalk, _⟩ := h.walk _ _ hdist
    exact hnonneg p _ _ hwalk
  rcases relax_cases weight item st nb with ⟨hr, hdone⟩ | ⟨w, hnb, hw, himproves, hr⟩
  · rw [hr]
    refine { h with relaxed := ?_ }
    intro u hu hskip d hd v w hw hpending
    by_cases hedge : u = item.node ∧ v = nb
    · obtain ⟨rfl, rfl⟩ := hedge
      obtain rfl := Option.some.inj (hdist.symm.trans hd)
      rcases hdone with hv | hknown
      -- a settled neighbour is at most as far as the last popped item
      · obtain ⟨d', hd', hle⟩ := h.settled v hv
        exact ⟨d', hd', hle.trans (le_add_of_nonneg_right (hpositive v w hw))⟩
      · exact hknown w hw
    · exact h.relaxed u hu hskip d hd v w hw (fun hp ↦ hpending ⟨hp, hedge⟩)
  · rw [hr]
    exact h.improve (hpositive nb w hw) (hvertices _ _ _ hw) hvisited hskipped hdist hnb hw himproves

omit [IsOrderedAddMonoid W] hnonneg hvertices in
private theorem relax_lookup_of_visited {v : V} (hv : v ∈ st.visited) :
    (QueuedOnce.relax q weight item st nb).distances.lookup v = st.distances.lookup v := by
  rcases relax_cases weight item st nb with ⟨hr, _⟩ | ⟨w, hnb, _, _, hr⟩
  · rw [hr]
  · rw [hr]
    exact AList.lookup_insert_ne (fun heq ↦ hnb (heq ▸ hv))

/-- Relaxing all pending neighbours of a settled vertex leaves nothing pending. -/
theorem Inv.foldl_relax (ns : List V) : ∀ {st : State q},
    Inv weight s vertices skipped item.distance (fun u v ↦ u = item.node ∧ v ∈ ns) st →
      item.node ∈ st.visited → ¬ skipped item.node →
        st.distances.lookup item.node = some item.distance →
          Inv weight s vertices skipped item.distance (fun _ _ ↦ False)
            (ns.foldl (QueuedOnce.relax q weight item) st) := by
  induction ns with
  | nil =>
    intro st h _ _ _
    exact { h with
      relaxed := fun u hu hskip d hd v w hw _ ↦ h.relaxed u hu hskip d hd v w hw (by simp) }
  | cons n ns ih =>
    intro st h hvisited hskipped hdist
    have hstep : Inv weight s vertices skipped item.distance _
        (QueuedOnce.relax q weight item st n) := h.relax hnonneg hvertices hvisited hskipped hdist
    apply ih
    · refine { hstep with relaxed := ?_ }
      intro u hu hskip d hd v w hw hpending
      apply hstep.relaxed u hu hskip d hd v w hw
      rintro ⟨⟨hitem, hv⟩, hne⟩
      rcases List.mem_cons.mp hv with rfl | hv
      · exact hne ⟨hitem, rfl⟩
      · exact hpending ⟨hitem, hv⟩
    · rw [relax_visited]
      exact hvisited
    · exact hskipped
    · rw [relax_lookup_of_visited hvisited]
      exact hdist

end Relax

/-! ### Settling -/

section Settle

variable {skipped : V → Prop} {t : W} {st : State q} {item : Item V W} {rest : q.Queue}
  {next : V → List V} (h : Inv weight s vertices skipped t (fun _ _ ↦ False) st)
  (hpop : q.pop st.queue = some (item, rest))

include h hpop

/-- A popped item has the distance of its vertex, or a higher one. -/
theorem Inv.popped : item.node ∉ st.visited ∧ t ≤ item.distance ∧
    (∀ x ∈ q.items rest, x ∈ q.items st.queue ∧ x.node ≠ item.node ∧ item.distance ≤ x.distance) ∧
    ((q.items rest).map Item.node).Nodup ∧
    ∃ d, st.distances.lookup item.node = some d ∧ d ≤ item.distance := by
  obtain ⟨hperm, hmin⟩ := q.pop_some _ _ _ hpop
  obtain ⟨hvisited, _, ht, hdist⟩ := h.items item (hperm.mem_iff.mpr List.mem_cons_self)
  have hnodup := ((hperm.map Item.node).nodup_iff.mp h.nodup)
  rw [List.map_cons, List.nodup_cons] at hnodup
  refine ⟨hvisited, ht, fun x hx ↦ ?_, hnodup.2, hdist⟩
  have hmem := hperm.mem_iff.mpr (List.mem_cons_of_mem _ hx)
  exact ⟨hmem, fun heq ↦ hnodup.1 (List.mem_map.mpr ⟨x, hx, heq⟩), hmin x hmem⟩

/-- Settling the popped vertex keeps the invariant, up to its edges. -/
theorem Inv.mark (skipped' : V → Prop) (hskipped : ∀ x, x ≠ item.node → (skipped' x ↔ skipped x))
    (pending : V → V → Prop)
    (hpending : ¬ skipped' item.node → ∀ v w, weight item.node v = some w → pending item.node v) :
    Inv weight s vertices skipped' item.distance pending
      (QueuedOnce.mark q item (dequeue q item rest st)) := by
  obtain ⟨hvisited, ht, hrest, hnodup, d₀, hd₀, hle₀⟩ := h.popped hpop
  have hperm := (q.pop_some _ _ _ hpop).1
  have hne : ∀ {u}, u ∈ st.visited → u ≠ item.node := fun hu heq ↦ hvisited (heq ▸ hu)
  have hqueued : ∀ v, v ∈ (QueuedOnce.mark q item (dequeue q item rest st)).queued ↔
      v ∈ st.queued ∧ v ≠ item.node := by
    intro v
    simp [QueuedOnce.mark, dequeue]
  refine ⟨h.start, ?_, h.paths, h.vertex, ?_, ?_, hnodup, ?_, ?_, ?_, ?_, ?_⟩
  · intro v d hd
    obtain ⟨p, hp, hwalk, hmem⟩ := h.walk v d hd
    refine ⟨p, hp, hwalk, fun x hx ↦ ?_⟩
    obtain ⟨hxv, hxs⟩ := hmem x hx
    exact ⟨List.mem_cons_of_mem _ hxv, mt (hskipped x (hne hxv)).mp hxs⟩
  · intro v hv
    by_cases heq : v = item.node
    · exact Or.inl (heq ▸ List.mem_cons_self)
    · rcases h.waits v hv with hv | hv
      · exact Or.inl (List.mem_cons_of_mem _ hv)
      · exact Or.inr ((hqueued v).mpr ⟨hv, heq⟩)
  · intro v hv
    obtain ⟨hv, heq⟩ := (hqueued v).mp hv
    have hmem := (hperm.map Item.node).mem_iff.mp (h.queued v hv)
    exact (List.mem_cons.mp hmem).resolve_left heq
  · intro x hx
    obtain ⟨hmem, heq, hle⟩ := hrest x hx
    obtain ⟨hxv, hxq, _, hdist⟩ := h.items x hmem
    exact ⟨fun hv ↦ (List.mem_cons.mp hv).elim heq hxv, (hqueued _).mpr ⟨hxq, heq⟩, hle, hdist⟩
  · exact List.nodup_cons.mpr ⟨hvisited, h.visited_nodup⟩
  · intro x hx
    by_cases heq : x = item.node
    · exact heq ▸ List.mem_cons_self
    · exact List.mem_cons_of_mem _ (h.skips x ((hskipped x heq).mp hx))
  · intro u hu
    rcases List.mem_cons.mp hu with rfl | hu
    · exact ⟨d₀, hd₀, hle₀⟩
    · obtain ⟨d, hd, hle⟩ := h.settled u hu
      exact ⟨d, hd, hle.trans ht⟩
  · intro u hu hskip d hd v w hw hnot
    rcases List.mem_cons.mp hu with rfl | hu
    · exact absurd (hpending hskip v w hw) hnot
    · exact h.relaxed u hu (mt (hskipped u (hne hu)).mpr hskip) d hd v w hw (fun hp ↦ hp)

variable [IsOrderedAddMonoid W] (hnonneg : Dijkstra.NonnegFrom weight s)
  (hvertices : ∀ u v w, weight u v = some w → v ∈ vertices)
  (hnext : ∀ u v w, weight u v = some w → v ∈ next u)

include hnonneg hvertices hnext

/-- One iteration keeps the invariant; an outdated vertex is skipped. -/
theorem Inv.settle :
    Inv weight s vertices (fun x ↦ skipped x ∨ x = item.node ∧ Outdated q st item) item.distance
        (fun _ _ ↦ False) (QueuedOnce.settle q weight next item rest st) ∧
      (QueuedOnce.settle q weight next item rest st).visited = item.node :: st.visited := by
  obtain ⟨hvisited, _, _, _, d, hd, hle⟩ := h.popped hpop
  unfold QueuedOnce.settle
  rw [if_neg hvisited]
  by_cases hout : Outdated q st item
  · rw [if_pos hout]
    refine ⟨h.mark hpop _ (fun x hx ↦ ?_) _ (fun hskip ↦ ?_), rfl⟩
    · simp [hx]
    · exact absurd (Or.inr ⟨rfl, hout⟩) hskip
  · rw [if_neg hout, foldl_relax_visited]
    refine ⟨?_, rfl⟩
    have hdist : st.distances.lookup item.node = some item.distance := by
      rw [hd, le_antisymm hle (not_lt.mp (fun hlt ↦ hout ⟨d, hd, hlt⟩))]
    have hskipped : ¬ (skipped item.node ∨ item.node = item.node ∧ Outdated q st item) := by
      rintro (hskip | ⟨_, hlt⟩)
      · exact hvisited (h.skips _ hskip)
      · exact hout hlt
    have hmark := h.mark hpop (fun x ↦ skipped x ∨ x = item.node ∧ Outdated q st item)
      (fun x hx ↦ by simp [hx]) (fun u v ↦ u = item.node ∧ v ∈ next item.node)
      (fun _ v w hw ↦ ⟨rfl, hnext _ v w hw⟩)
    exact hmark.foldl_relax hnonneg hvertices _ List.mem_cons_self hskipped hdist

end Settle

/-! ### Whole runs -/

section Run

variable [IsOrderedAddMonoid W] {next : V → List V} (hnonneg : Dijkstra.NonnegFrom weight s)
  (hvertices : ∀ u v w, weight u v = some w → v ∈ vertices)
  (hnext : ∀ u v w, weight u v = some w → v ∈ next u)

include hnonneg hvertices hnext

/-- With enough fuel the loop keeps the invariant and empties the queue. -/
theorem Inv.loop (fuel : Nat) : ∀ {st : State q} {skipped : V → Prop} {t : W},
    Inv weight s vertices skipped t (fun _ _ ↦ False) st →
      vertices.length < fuel + st.visited.length + 1 →
        ∃ t', Inv weight s vertices (fun x ↦ skipped x ∨ x ∈ outdated q weight next fuel st) t'
            (fun _ _ ↦ False) (QueuedOnce.loop q weight next fuel st) ∧
          q.items (QueuedOnce.loop q weight next fuel st).queue = [] := by
  induction fuel with
  | zero =>
    intro st skipped t h hfuel
    have hskips : (fun x ↦ skipped x ∨ x ∈ outdated q weight next 0 st) = skipped := by
      funext x
      simp [outdated]
    refine ⟨t, by rw [hskips]; exact h, ?_⟩
    -- every vertex is settled, so nothing can wait
    have hsub : st.visited ⊆ vertices := by
      intro u hu
      obtain ⟨d, hd, _⟩ := h.settled u hu
      exact h.vertex u (AList.lookup_isSome.mp (by simp [hd]))
    have hperm := (h.visited_nodup.subperm hsub).perm_of_length_le (by omega)
    rw [List.eq_nil_iff_forall_not_mem]
    intro x hx
    obtain ⟨hxv, _, _, d, hd, _⟩ := h.items x hx
    exact hxv (hperm.mem_iff.mpr (h.vertex x.node (AList.lookup_isSome.mp (by simp [hd]))))
  | succ fuel ih =>
    intro st skipped t h hfuel
    unfold QueuedOnce.loop outdated
    cases hpop : q.pop st.queue with
    | none => exact ⟨t, by simpa using h, q.pop_none _ hpop⟩
    | some popped =>
      obtain ⟨item, rest⟩ := popped
      obtain ⟨hsettle, hvisited⟩ := h.settle hpop hnonneg hvertices hnext
      have hnew : item.node ∉ st.visited := (h.popped hpop).1
      obtain ⟨t', hinv, hempty⟩ := ih hsettle (by rw [hvisited, List.length_cons]; omega)
      refine ⟨t', ?_, hempty⟩
      have hskips : (fun x ↦ skipped x ∨ x ∈ (if item.node ∉ st.visited ∧ Outdated q st item then
            [item.node] else []) ++ outdated q weight next fuel
              (QueuedOnce.settle q weight next item rest st)) =
          fun x ↦ (skipped x ∨ x = item.node ∧ Outdated q st item) ∨
            x ∈ outdated q weight next fuel (QueuedOnce.settle q weight next item rest st) := by
        funext x
        by_cases hout : Outdated q st item <;> simp [hnew, hout, or_assoc]
      simp only [hskips]
      exact hinv

omit hnonneg hvertices hnext [IsOrderedAddMonoid W] [DecidableEq V] in
private theorem items_start : (q.items (start q s).queue).Perm [⟨s, 0⟩] := by
  have hpush := q.items_push q.empty ⟨s, 0⟩
  rw [q.items_empty] at hpush
  exact hpush

omit hnonneg hvertices hnext [IsOrderedAddMonoid W] in
private theorem inv_start (hs : s ∈ vertices) :
    Inv weight s vertices (fun _ ↦ False) 0 (fun _ _ ↦ False) (start q s) := by
  have hitems : (q.items (start q s).queue).Perm [⟨s, 0⟩] := items_start
  have hself : (start q s).distances.lookup s = some 0 := Dict.lookup_singleton.mpr ⟨rfl, rfl⟩
  have hlookup : ∀ {v d}, (start q s).distances.lookup v = some d → v = s ∧ d = 0 :=
    Dict.lookup_singleton.mp
  have hmem : ∀ {v}, v ∈ (start q s).distances → v = s := by
    intro v hv
    obtain ⟨d, hd⟩ := Option.isSome_iff_exists.mp (AList.lookup_isSome.mpr hv)
    exact (hlookup hd).1
  refine ⟨⟨0, hself, le_refl 0⟩, ?_, ?_, ?_, ?_, ?_, ?_, ?_, List.nodup_nil, ?_, ?_, ?_⟩
  · intro v d hd
    obtain ⟨rfl, rfl⟩ := hlookup hd
    exact ⟨[v], Dict.lookup_singleton.mpr ⟨rfl, rfl⟩, .nil, by simp⟩
  · intro v hv
    exact hv
  · intro v hv
    exact hmem hv ▸ hs
  · intro v hv
    exact Or.inr (hmem hv ▸ List.mem_singleton_self s)
  · intro v hv
    rw [List.mem_singleton.mp hv, (hitems.map Item.node).mem_iff]
    exact List.mem_singleton_self s
  · rw [(hitems.map Item.node).nodup_iff]
    exact List.nodup_singleton s
  · intro x hx
    rw [List.mem_singleton.mp (hitems.mem_iff.mp hx)]
    exact ⟨List.not_mem_nil, List.mem_singleton_self s, le_refl 0, 0, hself, le_refl 0⟩
  · intro x hx
    exact hx.elim
  · intro u hu
    cases hu
  · intro u hu
    cases hu

/-- Distances that are the least weights of the walks to their vertices, with walks that attain
them. -/
structure Correct (weight : V → V → Option W) (s : V) (distances : Dict V W)
    (paths : Dict V (List V)) : Prop where
  reached : ∀ v, v ∈ distances ↔ ∃ p d, Dijkstra.Walk weight s p v d
  keys : ∀ v, v ∈ paths ↔ v ∈ distances
  least : ∀ v d, distances.lookup v = some d →
    (∀ p d', Dijkstra.Walk weight s p v d' → d ≤ d') ∧
      ∃ p, paths.lookup v = some p ∧ Dijkstra.Walk weight s p v d

/-- Each walk from the source has one to the same vertex that is at least as short and whose vertices
before the last are not skipped. -/
def Avoidable (weight : V → V → Option W) (s : V) (skipped : List V) : Prop :=
  ∀ p v d, Dijkstra.Walk weight s p v d → ∃ p' d', Dijkstra.Walk weight s p' v d' ∧ d' ≤ d ∧
    ∀ x ∈ p'.dropLast, x ∉ skipped

omit hnonneg hvertices hnext [DecidableEq V] [IsOrderedAddMonoid W] in
/-- The empty list avoids every outdated vertex. -/
theorem avoidable_nil : Avoidable weight s [] :=
  fun p _ d hwalk ↦ ⟨p, d, hwalk, le_refl d, fun _ _ ↦ List.not_mem_nil⟩

/-- The state at the end, when every vertex is settled at most once. -/
def run (q : PriorityQueue V W) (weight : V → V → Option W) (next : V → List V) (vertices : List V)
    (s : V) : State q :=
  loop q weight next vertices.length (start q s)

/-- The vertices that a run skips. -/
def skippedIn (q : PriorityQueue V W) (weight : V → V → Option W) (next : V → List V)
    (vertices : List V) (s : V) : List V :=
  outdated q weight next vertices.length (start q s)

/-- The run keeps the invariant and empties the queue. -/
theorem inv_run (q : PriorityQueue V W) (hs : s ∈ vertices) :
    (∃ t, Inv weight s vertices (fun x ↦ x ∈ skippedIn q weight next vertices s) t
        (fun _ _ ↦ False) (run q weight next vertices s)) ∧
      q.items (run q weight next vertices s).queue = [] := by
  obtain ⟨t, hinv, hempty⟩ := Inv.loop hnonneg hvertices hnext vertices.length
    (inv_start hs) (by simp [start])
  simp only [false_or] at hinv
  exact ⟨⟨t, hinv⟩, hempty⟩

/-- At the end every vertex with a distance is settled. -/
theorem mem_visited_run (hs : s ∈ vertices) {v : V}
    (hv : v ∈ (run q weight next vertices s).distances) :
    v ∈ (run q weight next vertices s).visited := by
  obtain ⟨⟨t, hinv⟩, hempty⟩ := inv_run hnonneg hvertices hnext q hs
  rcases hinv.waits v hv with hv | hv
  · exact hv
  · have hmem := hinv.queued v hv
    rw [hempty] at hmem
    cases hmem

/-- The distance of a vertex is at most the weight of a walk to it whose vertices before the last are not
skipped: all of its edges were relaxed. -/
theorem le_of_avoids (hs : s ∈ vertices) {p : List V} {v : V} {d : W}
    (hwalk : Dijkstra.Walk weight s p v d)
    (hinner : ∀ x ∈ p.dropLast, x ∉ skippedIn q weight next vertices s) :
    ∃ d', (run q weight next vertices s).distances.lookup v = some d' ∧ d' ≤ d := by
  obtain ⟨⟨t, hinv⟩, _⟩ := inv_run hnonneg hvertices hnext q hs
  induction hwalk with
  | nil => exact hinv.start
  | @snoc p u v d w hpre hw ih =>
    rw [List.dropLast_concat] at hinner
    obtain ⟨du, hdu, hle⟩ := ih (fun x hx ↦ hinner x (List.dropLast_subset p hx))
    have hu : u ∈ p := by
      rw [← dropLast_walk hpre]
      simp
    have hvisited : u ∈ (run q weight next vertices s).visited :=
      mem_visited_run hnonneg hvertices hnext hs (AList.lookup_isSome.mp (by simp [hdu]))
    obtain ⟨dv, hdv, hle'⟩ := hinv.relaxed u hvisited (hinner u hu) du hdu v w hw (fun h ↦ h)
    exact ⟨dv, hdv, hle'.trans (by gcongr)⟩

/-- A run is correct exactly if the outdated vertices can be avoided. -/
theorem run_correct_iff (hs : s ∈ vertices) :
    Correct weight s (run q weight next vertices s).distances (run q weight next vertices s).paths ↔
      Avoidable weight s (skippedIn q weight next vertices s) := by
  obtain ⟨⟨t, hinv⟩, _⟩ := inv_run hnonneg hvertices hnext q hs
  have hmem : ∀ {v d}, (run q weight next vertices s).distances.lookup v = some d →
      v ∈ (run q weight next vertices s).distances :=
    fun hd ↦ AList.lookup_isSome.mp (by simp [hd])
  constructor
  · intro hcorrect p v d hwalk
    obtain ⟨d', hd'⟩ := Option.isSome_iff_exists.mp
      (AList.lookup_isSome.mpr ((hcorrect.reached v).mpr ⟨p, d, hwalk⟩))
    obtain ⟨p', _, hwalk', hinner⟩ := hinv.walk v d' hd'
    exact ⟨p', d', hwalk', (hcorrect.least v d' hd').1 p d hwalk,
      fun x hx ↦ (hinner x hx).2⟩
  · intro havoid
    have hleast : ∀ {p v d}, Dijkstra.Walk weight s p v d →
        ∃ d', (run q weight next vertices s).distances.lookup v = some d' ∧ d' ≤ d := by
      intro p v d hwalk
      obtain ⟨p', d', hwalk', hle, hinner⟩ := havoid p v d hwalk
      obtain ⟨d'', hd'', hle'⟩ := le_of_avoids hnonneg hvertices hnext hs hwalk' hinner
      exact ⟨d'', hd'', hle'.trans hle⟩
    refine ⟨fun v ↦ ⟨fun hv ↦ ?_, ?_⟩, fun v ↦ ⟨hinv.paths v, fun hv ↦ ?_⟩, fun v d hd ↦ ⟨?_, ?_⟩⟩
    · obtain ⟨d, hd⟩ := Option.isSome_iff_exists.mp (AList.lookup_isSome.mpr hv)
      obtain ⟨p, _, hwalk, _⟩ := hinv.walk v d hd
      exact ⟨p, d, hwalk⟩
    · rintro ⟨p, d, hwalk⟩
      obtain ⟨d', hd', _⟩ := hleast hwalk
      exact hmem hd'
    · obtain ⟨d, hd⟩ := Option.isSome_iff_exists.mp (AList.lookup_isSome.mpr hv)
      obtain ⟨p, hp, _⟩ := hinv.walk v d hd
      exact AList.lookup_isSome.mp (by rw [hp]; rfl)
    · intro p d' hwalk
      obtain ⟨d'', hd'', hle⟩ := hleast hwalk
      obtain rfl := Option.some.inj (hd.symm.trans hd'')
      exact hle
    · obtain ⟨p, hp, hwalk, _⟩ := hinv.walk v d hd
      exact ⟨p, hp, hwalk⟩

end Run

/-! ### Simple paths -/

/-- Paths are simple and lead over settled vertices. -/
def SimplePaths (st : State q) : Prop :=
  ∀ v p, st.paths.lookup v = some p → p.Nodup ∧ ∀ x ∈ p, x = v ∨ x ∈ st.visited

private theorem SimplePaths.relax {item : Item V W} {st : State q} (h : SimplePaths st)
    (hitem : item.node ∈ st.visited) (nb : V) :
    SimplePaths (QueuedOnce.relax q weight item st nb) := by
  rcases relax_cases weight item st nb with ⟨hr, _⟩ | ⟨w, hnb, _, _, hr⟩
  · rw [hr]
    exact h
  · rw [hr]
    intro v p hp
    by_cases hv : v = nb
    · subst hv
      have hself : (improve q item st v w).paths.lookup v =
          some ((st.paths.lookup item.node).getD [] ++ [v]) := AList.lookup_insert _
      have hpath : (st.paths.lookup item.node).getD [] ++ [v] = p :=
        Option.some.inj (hself.symm.trans hp)
      have hold : ((st.paths.lookup item.node).getD []).Nodup ∧
          ∀ x ∈ (st.paths.lookup item.node).getD [], x ∈ st.visited := by
        cases hlookup : st.paths.lookup item.node with
        | none => exact ⟨List.nodup_nil, fun x hx ↦ by cases hx⟩
        | some p' =>
          obtain ⟨hnodup, hmem⟩ := h item.node p' hlookup
          exact ⟨hnodup, fun x hx ↦ (hmem x hx).elim (fun heq ↦ heq ▸ hitem) id⟩
      rw [← hpath]
      constructor
      · rw [List.nodup_append]
        refine ⟨hold.1, List.nodup_singleton v, ?_⟩
        rintro x hx y hy rfl
        exact hnb (List.mem_singleton.mp hy ▸ hold.2 x hx)
      · intro x hx
        rcases List.mem_append.mp hx with hx | hx
        · exact Or.inr (hold.2 x hx)
        · exact Or.inl (List.mem_singleton.mp hx)
    · have hother : (improve q item st nb w).paths.lookup v = st.paths.lookup v :=
        AList.lookup_insert_ne hv
      exact h v p (hother.symm.trans hp)

omit [AddCommMonoid W] in
private theorem SimplePaths.mark {item : Item V W} {rest : q.Queue} {st : State q} (h : SimplePaths st) :
    SimplePaths (QueuedOnce.mark q item (dequeue q item rest st)) :=
  fun v p hp ↦ ⟨(h v p hp).1, fun x hx ↦ ((h v p hp).2 x hx).imp_right (List.mem_cons_of_mem _)⟩

private theorem SimplePaths.settle {item : Item V W} {rest : q.Queue} {st : State q}
    {next : V → List V}
    (h : SimplePaths st) : SimplePaths (QueuedOnce.settle q weight next item rest st) := by
  have hfold : ∀ (ns : List V) {st : State q}, SimplePaths st → item.node ∈ st.visited →
      SimplePaths (ns.foldl (QueuedOnce.relax q weight item) st) := by
    intro ns
    induction ns with
    | nil => exact fun hst _ ↦ hst
    | cons n ns ih =>
      intro st hst hitem
      exact ih (hst.relax hitem n) (by rw [relax_visited]; exact hitem)
  unfold QueuedOnce.settle
  split
  · exact h
  · split
    · exact h.mark
    · exact hfold _ h.mark List.mem_cons_self

private theorem simplePaths_start (q : PriorityQueue V W) (s : V) : SimplePaths (start q s) := by
  intro v p hp
  obtain ⟨rfl, rfl⟩ := Dict.lookup_singleton.mp hp
  exact ⟨List.nodup_singleton v, fun x hx ↦ Or.inl (List.mem_singleton.mp hx)⟩

/-- The paths of a run have no vertex twice. -/
theorem simplePaths_run (q : PriorityQueue V W) (weight : V → V → Option W) (next : V → List V)
    (vertices : List V) (s : V) : SimplePaths (run q weight next vertices s) := by
  have hloop : ∀ (fuel : Nat) {st : State q}, SimplePaths st →
      SimplePaths (loop q weight next fuel st) := by
    intro fuel
    induction fuel with
    | zero => exact fun h ↦ h
    | succ fuel ih =>
      intro st h
      unfold loop
      cases q.pop st.queue with
      | none => exact h
      | some popped => exact ih h.settle
  exact hloop _ (simplePaths_start q s)

/-! ### Ways of equal weight -/

/-- All simple walks from the source to a vertex weigh the same, as they do in a tree. -/
def EqualWays (weight : V → V → Option W) (s : V) : Prop :=
  ∀ p p' v d d', Dijkstra.Walk weight s p v d → Dijkstra.Walk weight s p' v d' → p.Nodup → p'.Nodup →
    d = d'

/-- Each item has the distance of its vertex. -/
def Fresh (st : State q) : Prop :=
  ∀ x ∈ q.items st.queue, st.distances.lookup x.node = some x.distance

section EqualWays

variable [IsOrderedAddMonoid W] {next : V → List V} (hways : EqualWays weight s)
  (hnonneg : Dijkstra.NonnegFrom weight s) (hvertices : ∀ u v w, weight u v = some w → v ∈ vertices)
  (hnext : ∀ u v w, weight u v = some w → v ∈ next u)

include hways

omit [IsOrderedAddMonoid W] in
/-- No distance is lowered: the old and the new way to the neighbour are simple walks. -/
theorem Fresh.relax {skipped : V → Prop} {pending : V → V → Prop} {item : Item V W} {st : State q}
    (hfresh : Fresh st) (h : Inv weight s vertices skipped item.distance pending st)
    (hvisited : item.node ∈ st.visited) (hskipped : ¬ skipped item.node)
    (hdist : st.distances.lookup item.node = some item.distance) (hsimple : SimplePaths st) (nb : V) :
    Fresh (QueuedOnce.relax q weight item st nb) := by
  rcases relax_cases weight item st nb with ⟨hr, _⟩ | ⟨w, hnb, hw, himproves, hr⟩
  · rw [hr]
    exact hfresh
  · have hnone : st.distances.lookup nb = none := by
      rw [Option.eq_none_iff_forall_ne_some]
      intro d hd
      obtain ⟨p, hp, hwalk, hinner⟩ := h.walk_snoc hvisited hskipped hdist hw
      obtain ⟨p', hp', hwalk', _⟩ := h.walk nb d hd
      have hnodup : (p ++ [nb]).Nodup := by
        rw [List.nodup_append]
        refine ⟨(hsimple _ p hp).1, List.nodup_singleton nb, ?_⟩
        rintro x hx y hy rfl
        exact hnb (List.mem_singleton.mp hy ▸ (hinner x hx).1)
      have heq := hways _ _ nb _ _ hwalk hwalk' hnodup (hsimple nb p' hp').1
      exact (himproves d hd).ne heq
    have hold : ∀ x ∈ q.items st.queue,
        (st.distances.insert nb (item.distance + w)).lookup x.node = some x.distance := by
      intro x hx
      have hx' := hfresh x hx
      have hne : x.node ≠ nb := by
        intro heq
        rw [heq, hnone] at hx'
        cases hx'
      exact (AList.lookup_insert_ne hne).trans hx'
    have hqueue : nb ∈ st.queued ∧ (QueuedOnce.improve q item st nb w).queue = st.queue ∨
        nb ∉ st.queued ∧ (q.items (QueuedOnce.improve q item st nb w).queue).Perm
          (⟨nb, item.distance + w⟩ :: q.items st.queue) := items_improve
    rw [hr]
    intro x hx
    rcases hqueue with ⟨_, hqueue⟩ | ⟨_, hperm⟩
    · rw [hqueue] at hx
      exact hold x hx
    · rcases List.mem_cons.mp (hperm.mem_iff.mp hx) with rfl | hx
      · exact AList.lookup_insert _
      · exact hold x hx

include hnonneg hvertices

/-- The relaxations of an iteration lower no distance. -/
theorem Fresh.foldl_relax {skipped : V → Prop} {item : Item V W} (hskipped : ¬ skipped item.node)
    (ns : List V) : ∀ {st : State q} {pending : V → V → Prop}, Fresh st →
      Inv weight s vertices skipped item.distance pending st → item.node ∈ st.visited →
        st.distances.lookup item.node = some item.distance → SimplePaths st →
          Fresh (ns.foldl (QueuedOnce.relax q weight item) st) := by
  induction ns with
  | nil => exact fun hfresh _ _ _ _ ↦ hfresh
  | cons n ns ih =>
    intro st pending hfresh h hvisited hdist hsimple
    have hstep : Inv weight s vertices skipped item.distance _
        (QueuedOnce.relax q weight item st n) := h.relax hnonneg hvertices hvisited hskipped hdist
    apply ih (hfresh.relax hways h hvisited hskipped hdist hsimple n) hstep
    · rw [relax_visited]
      exact hvisited
    · rw [relax_lookup_of_visited hvisited]
      exact hdist
    · exact hsimple.relax hvisited n

/-- The popped item is not outdated, and an iteration lowers no distance. -/
theorem Fresh.settle {skipped : V → Prop} {t : W} {st : State q} {item : Item V W} {rest : q.Queue}
    (hfresh : Fresh st) (h : Inv weight s vertices skipped t (fun _ _ ↦ False) st)
    (hsimple : SimplePaths st) (hpop : q.pop st.queue = some (item, rest)) :
    ¬ Outdated q st item ∧ Fresh (QueuedOnce.settle q weight next item rest st) := by
  obtain ⟨hvisited, _, hrest, _, _⟩ := h.popped hpop
  have hitem := hfresh item ((q.pop_some _ _ _ hpop).1.mem_iff.mpr List.mem_cons_self)
  have hout : ¬ Outdated q st item := by
    rintro ⟨d, hd, hlt⟩
    obtain rfl := Option.some.inj (hitem.symm.trans hd)
    exact lt_irrefl _ hlt
  refine ⟨hout, ?_⟩
  unfold QueuedOnce.settle
  rw [if_neg hvisited, if_neg hout]
  have hskipped : ¬ skipped item.node := fun hskip ↦ hvisited (h.skips _ hskip)
  have hmark := h.mark hpop skipped (fun _ _ ↦ Iff.rfl) (fun _ _ ↦ True) (fun _ _ _ _ ↦ trivial)
  exact Fresh.foldl_relax hways hnonneg hvertices hskipped _
    (fun x hx ↦ hfresh x (hrest x hx).1) hmark List.mem_cons_self hitem hsimple.mark

include hnext

/-- The loop skips no vertex. -/
theorem outdated_eq_nil (fuel : Nat) : ∀ {st : State q} {skipped : V → Prop} {t : W}, Fresh st →
    Inv weight s vertices skipped t (fun _ _ ↦ False) st → SimplePaths st →
      outdated q weight next fuel st = [] := by
  induction fuel with
  | zero => exact fun _ _ _ ↦ rfl
  | succ fuel ih =>
    intro st skipped t hfresh h hsimple
    unfold outdated
    cases hpop : q.pop st.queue with
    | none => rfl
    | some popped =>
      obtain ⟨item, rest⟩ := popped
      obtain ⟨hout, hfresh'⟩ := hfresh.settle hways hnonneg hvertices h hsimple hpop
      dsimp only
      rw [if_neg (fun hskip ↦ hout hskip.2), List.nil_append]
      exact ih hfresh' (h.settle hpop hnonneg hvertices hnext).1 hsimple.settle

/-- Where all simple walks to a vertex weigh the same, a run is correct. -/
theorem run_correct_of_equalWays (hs : s ∈ vertices) :
    Correct weight s (run q weight next vertices s).distances (run q weight next vertices s).paths := by
  have hfresh : Fresh (start q s) := by
    intro x hx
    rw [List.mem_singleton.mp (items_start.mem_iff.mp hx)]
    exact Dict.lookup_singleton.mpr ⟨rfl, rfl⟩
  have hnone : skippedIn q weight next vertices s = [] :=
    outdated_eq_nil hways hnonneg hvertices hnext _ hfresh (inv_start hs) (simplePaths_start q s)
  rw [run_correct_iff hnonneg hvertices hnext hs, hnone]
  exact avoidable_nil

end EqualWays

end Correctness

end Unoc.Base.QueuedOnce
