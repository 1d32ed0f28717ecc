import Mathlib.Algebra.Order.Monoid.Unbundled.Basic
import Mathlib.Algebra.Order.Monoid.Defs
import Mathlib.Data.List.Sort
import Unoc.Base.Dict
import Unoc.Base.Least
import Unoc.Base.Worklist

/-!
# Dijkstra's algorithm with lazy deletion

The loop pops an item of least distance, drops it if its vertex is settled, and else settles the
vertex and relaxes its edges, pushing a new item for each improvement. With weights that are not
negative along the walks from the source, it ends with the least weights of walks and with simple
walks that attain them, whatever the order of neighbours and whichever least item is popped.
-/

namespace Unoc.Base.Dijkstra

/-- An entry of the queue. -/
structure Item (V W : Type) where
  node : V
  distance : W
  deriving DecidableEq, Repr

/-- A priority queue that pops some item of least distance. -/
structure PriorityQueue (V W : Type) [LE W] where
  Queue : Type
  items : Queue → List (Item V W)
  empty : Queue
  push : Queue → Item V W → Queue
  pop : Queue → Option (Item V W × Queue)
  items_empty : items empty = []
  items_push : ∀ q x, (items (push q x)).Perm (x :: items q)
  pop_none : ∀ q, pop q = none → items q = []
  pop_some : ∀ q x q', pop q = some (x, q') →
    (items q).Perm (x :: items q') ∧ ∀ y ∈ items q, x.distance ≤ y.distance

/-! ### Walks -/

section Walks

variable {V W : Type} [AddCommMonoid W]

/-- Walks from a source with their vertices, end and weight. -/
inductive Walk (weight : V → V → Option W) (s : V) : List V → V → W → Prop
  | nil : Walk weight s [s] s 0
  | snoc {p : List V} {u v : V} {d w : W} : Walk weight s p u d → weight u v = some w →
      Walk weight s (p ++ [v]) v (d + w)

/-- A simple walk of least weight. -/
structure Shortest [LE W] (weight : V → V → Option W) (s : V) (p : List V) (v : V) (d : W) :
    Prop where
  walk : Walk weight s p v d
  simple : p.Nodup
  least : ∀ p' d', Walk weight s p' v d' → d ≤ d'

/-- No edge at the end of a walk from the source has a negative weight. -/
def NonnegFrom [LE W] (weight : V → V → Option W) (s : V) : Prop :=
  ∀ p u d, Walk weight s p u d → ∀ v w, weight u v = some w → 0 ≤ w

variable {weight weight' : V → V → Option W} {s v : V} {p : List V} {d : W}

/-- A walk ends at its end. -/
theorem Walk.getLast? (h : Walk weight s p v d) : p.getLast? = some v := by
  cases h with
  | nil => rfl
  | snoc _ _ => simp

/-- A walk is not empty. -/
theorem Walk.ne_nil (h : Walk weight s p v d) : p ≠ [] := by
  intro hnil
  have hlast := h.getLast?
  rw [hnil] at hlast
  cases hlast

/-- A walk stays at its source or leaves it. -/
theorem Walk.eq_or_edge (h : Walk weight s p v d) : v = s ∨ ∃ u w, weight s u = some w := by
  induction h with
  | nil => exact Or.inl rfl
  | snoc _ hw ih =>
    rcases ih with rfl | hedge
    · exact Or.inr ⟨_, _, hw⟩
    · exact Or.inr hedge

omit [AddCommMonoid W] in
/-- A longer list has one more hop. -/
theorem zip_tail_concat (xs : List V) (u v : V) :
    (xs ++ [u] ++ [v]).zip (xs ++ [u] ++ [v]).tail =
      (xs ++ [u]).zip (xs ++ [u]).tail ++ [(u, v)] := by
  induction xs with
  | nil => rfl
  | cons x xs ih =>
    cases xs with
    | nil => rfl
    | cons y ys => simpa using ih

/-- Every hop of a walk is an edge that leaves the end of a walk. -/
theorem Walk.hops (h : Walk weight s p v d) :
    ∀ hop ∈ p.zip p.tail, ∃ p' d' w, Walk weight s p' hop.1 d' ∧ weight hop.1 hop.2 = some w := by
  induction h with
  | nil => intro hop hmem; simp at hmem
  | @snoc p u v d w hwalk hw ih =>
    intro hop hmem
    obtain ⟨xs, rfl⟩ := List.getLast?_eq_some_iff.mp hwalk.getLast?
    rw [zip_tail_concat, List.mem_append] at hmem
    rcases hmem with hmem | hmem
    · exact ih hop hmem
    · rw [List.mem_singleton.mp hmem]
      exact ⟨_, d, w, hwalk, hw⟩

/-- Weights that agree along the walks of one have the same walks. -/
theorem walk_iff_of_agree
    (h : ∀ p u d, Walk weight s p u d → ∀ v, weight' u v = weight u v) :
    Walk weight' s p v d ↔ Walk weight s p v d := by
  constructor
  · intro hwalk
    induction hwalk with
    | nil => exact .nil
    | snoc _ hw ih => exact ih.snoc ((h _ _ _ ih _).symm.trans hw)
  · intro hwalk
    induction hwalk with
    | nil => exact .nil
    | snoc hpre hw ih => exact ih.snoc ((h _ _ _ hpre _).trans hw)

/-- The simple walks of a finite graph are in every list that has the empty one and that no edge
leaves. -/
theorem Walk.mem_of_closed {edges : List (V × V × W)} {walks : List (List V × V × W)}
    (hedges : ∀ u v w, weight u v = some w → (u, v, w) ∈ edges) (hstart : ([s], s, 0) ∈ walks)
    (hclosed : ∀ x ∈ walks, ∀ e ∈ edges, e.1 = x.2.1 → (x.1 ++ [e.2.1]).Nodup →
      (x.1 ++ [e.2.1], e.2.1, x.2.2 + e.2.2) ∈ walks)
    (h : Walk weight s p v d) (hsimple : p.Nodup) : (p, v, d) ∈ walks := by
  induction h with
  | nil => exact hstart
  | snoc _ hw ih =>
    have hpre := ih (List.nodup_append.mp hsimple).1
    exact hclosed _ hpre _ (hedges _ _ _ hw) rfl hsimple

/-! ### Walks that stop at a goal -/

/-- The edges that do not leave a goal. -/
def stopAt (goal : V → Bool) (weight : V → V → Option W) (u v : V) : Option W :=
  if goal u then none else weight u v

variable {goal : V → Bool}

omit [AddCommMonoid W] in
/-- An edge that does not leave a goal. -/
theorem stopAt_eq_some {u v : V} {w : W} :
    stopAt goal weight u v = some w ↔ goal u = false ∧ weight u v = some w := by
  unfold stopAt
  cases goal u <;> simp

/-- A walk that stops at a goal is a walk. -/
theorem Walk.of_stopAt (h : Walk (stopAt goal weight) s p v d) : Walk weight s p v d := by
  induction h with
  | nil => exact .nil
  | snoc _ hw ih => exact ih.snoc (stopAt_eq_some.mp hw).2

/-- A walk that passes no goal before its end stops at its first one. -/
theorem Walk.to_stopAt (h : Walk weight s p v d) (hsimple : p.Nodup)
    (honly : ∀ x ∈ p, goal x = true → x = v) : Walk (stopAt goal weight) s p v d := by
  have hpass : ∀ {p v d}, Walk weight s p v d → (∀ x ∈ p, goal x = false) →
      Walk (stopAt goal weight) s p v d := by
    intro p v d hwalk
    induction hwalk with
    | nil => exact fun _ ↦ .nil
    | @snoc p u v d w hpre hw ih =>
      intro hnone
      have hu := hnone u (List.mem_append_left _ (List.mem_of_getLast? hpre.getLast?))
      have hin := ih (fun x hx ↦ hnone x (List.mem_append_left _ hx))
      exact hin.snoc (stopAt_eq_some.mpr ⟨hu, hw⟩)
  cases h with
  | nil => exact .nil
  | @snoc p u _ d w hpre hw =>
    have hnone : ∀ x ∈ p, goal x = false := by
      intro x hx
      by_contra hgoal
      have hxv := honly x (List.mem_append_left _ hx) (by simpa using hgoal)
      exact (List.nodup_append.mp hsimple).2.2 x hx v (List.mem_singleton_self v) hxv
    have hu := hnone u (List.mem_of_getLast? hpre.getLast?)
    exact (hpass hpre hnone).snoc (stopAt_eq_some.mpr ⟨hu, hw⟩)

/-- A walk to a goal comes to a first one, and is not lighter up to there. -/
theorem Walk.exists_first [PartialOrder W] [IsOrderedAddMonoid W] (hnonneg : NonnegFrom weight s)
    (h : Walk weight s p v d) (hv : goal v = true) :
    ∃ p' v' d', goal v' = true ∧ Walk (stopAt goal weight) s p' v' d' ∧ d' ≤ d := by
  have hprefix : Walk (stopAt goal weight) s p v d ∨
      ∃ p' v' d', goal v' = true ∧ Walk (stopAt goal weight) s p' v' d' ∧ d' ≤ d := by
    clear hv
    induction h with
    | nil => exact Or.inl .nil
    | @snoc p u v d w hpre hw ih =>
      have hle : d ≤ d + w := le_add_of_nonneg_right (hnonneg p u d hpre v w hw)
      rcases ih with hin | ⟨p', v', d', hv', hwalk, hd'⟩
      · cases hu : goal u with
        | true => exact Or.inr ⟨p, u, d, hu, hin, hle⟩
        | false => exact Or.inl (hin.snoc (stopAt_eq_some.mpr ⟨hu, hw⟩))
      · exact Or.inr ⟨p', v', d', hv', hwalk, hd'.trans hle⟩
  rcases hprefix with hin | hfirst
  · exact ⟨p, v, d, hv, hin, le_refl d⟩
  · exact hfirst

end Walks

/-! ### The loop -/

variable {V W : Type} [DecidableEq V] [AddCommMonoid W] [LinearOrder W]

/-- Distances, paths, settled vertices and the queue. -/
structure State (q : PriorityQueue V W) where
  distances : Dict V W
  paths : Dict V (List V)
  visited : List V
  queue : q.Queue

section Loop

variable (q : PriorityQueue V W) (weight : V → V → Option W) (next : V → List V)

/-- Relaxation of the edge to one neighbour of a settled vertex. -/
def relax (item : Item V W) (st : State q) (nb : V) : State q :=
  if nb ∈ st.visited then st
  else
    match weight item.node nb with
    | none => st
    | some w =>
      if (st.distances.lookup nb).all (fun d ↦ item.distance + w < d) then
        { st with
          distances := st.distances.insert nb (item.distance + w)
          paths := st.paths.insert nb ((st.paths.lookup item.node).getD [] ++ [nb])
          queue := q.push st.queue ⟨nb, item.distance + w⟩ }
      else st

/-- A vertex is settled. -/
def mark (item : Item V W) (rest : q.Queue) (st : State q) : State q :=
  { st with visited := item.node :: st.visited, queue := rest }

/-- The loop; `fuel` bounds its iterations. -/
def loop : Nat → State q → State q
  | 0, st => st
  | fuel + 1, st =>
    match q.pop st.queue with
    | none => st
    | some (item, rest) =>
      if item.node ∈ st.visited then loop fuel { st with queue := rest }
      else loop fuel ((next item.node).foldl (relax q weight item) (mark q item rest st))

/-- The state that the loop starts from. -/
def start (s : V) : State q where
  distances := AList.singleton s 0
  paths := AList.singleton s [s]
  visited := []
  queue := q.push q.empty ⟨s, 0⟩

/-- The state that the algorithm ends with, where only the given vertices have neighbours. -/
def run (vertices : List V) (s : V) : State q :=
  loop q weight next (1 + (vertices.map (fun v ↦ (next v).length)).sum) (start q s)

end Loop

/-! ### The invariant -/

section Correctness

variable {q : PriorityQueue V W} {weight : V → V → Option W} {s : V}

/-- What holds between iterations, up to edges that are still to be relaxed. -/
structure Inv (weight : V → V → Option W) (s : V) (pending : V → V → Prop) (st : State q) :
    Prop where
  start : ∃ d, st.distances.lookup s = some d ∧ d ≤ 0
  walk : ∀ v d, st.distances.lookup v = some d → ∃ p, st.paths.lookup v = some p ∧
    Walk weight s p v d ∧ p.Nodup ∧ ∀ x ∈ p, x = v ∨ x ∈ st.visited
  queued : ∀ v d, st.distances.lookup v = some d → v ∈ st.visited ∨ ⟨v, d⟩ ∈ q.items st.queue
  known : ∀ x ∈ q.items st.queue, ∃ d, st.distances.lookup x.node = some d ∧ d ≤ x.distance
  settled : ∀ u ∈ st.visited, ∃ d, st.distances.lookup u = some d ∧
    ∀ p d', Walk weight s p u d' → d ≤ d'
  relaxed : ∀ u ∈ st.visited, ∀ d, st.distances.lookup u = some d → ∀ v w,
    weight u v = some w → ¬ pending u v →
      v ∈ st.visited ∨ ∃ d', st.distances.lookup v = some d' ∧ d' ≤ d + w

/-- What a relaxation does, by what it does where it lowers the distance of the neighbour. -/
def relaxWith {σ : Type} (visited : List V) (distances : Dict V W) (weight : V → V → Option W)
    (item : Item V W) (nb : V) (st : σ) (improve : W → σ) : σ :=
  if nb ∈ visited then st
  else
    match weight item.node nb with
    | none => st
    | some w =>
      if (distances.lookup nb).all (fun d ↦ item.distance + w < d) then improve w else st

/-- A relaxation changes nothing where the neighbour is settled or known to be as near, and otherwise
lowers its distance. -/
theorem relaxWith_cases {σ : Type} (visited : List V) (distances : Dict V W)
    (weight : V → V → Option W) (item : Item V W) (nb : V) (st : σ) (improve : W → σ) :
    (relaxWith visited distances weight item nb st improve = st ∧
        (nb ∈ visited ∨ ∀ w, weight item.node nb = some w →
          ∃ d, distances.lookup nb = some d ∧ d ≤ item.distance + w)) ∨
      ∃ w, nb ∉ visited ∧ weight item.node nb = some w ∧
        (∀ d, distances.lookup nb = some d → item.distance + w < d) ∧
        relaxWith visited distances weight item nb st improve = improve w := by
  unfold relaxWith
  by_cases hv : nb ∈ visited
  · exact Or.inl ⟨if_pos hv, Or.inl hv⟩
  · rw [if_neg hv]
    cases hw : weight item.node nb with
    | none => exact Or.inl ⟨rfl, Or.inr (fun w h ↦ by cases h)⟩
    | some w =>
      by_cases hd : (distances.lookup nb).all (fun d ↦ decide (item.distance + w < d)) = true
      · refine Or.inr ⟨w, hv, rfl, ?_, if_pos hd⟩
        intro d hlookup
        simpa [hlookup] using hd
      · refine Or.inl ⟨if_neg hd, Or.inr ?_⟩
        intro w' hw'
        cases hw'
        cases hlookup : distances.lookup nb with
        | none => simp [hlookup] at hd
        | some d => exact ⟨d, rfl, by simpa [hlookup] using hd⟩

/-- A relaxation keeps the state or lowers the distance of the neighbour. -/
theorem relax_cases (weight : V → V → Option W) (item : Item V W) (st : State q) (nb : V) :
    (relax q weight item st nb = st ∧
        (nb ∈ st.visited ∨ ∀ w, weight item.node nb = some w →
          ∃ d, st.distances.lookup nb = some d ∧ d ≤ item.distance + w)) ∨
      ∃ w, nb ∉ st.visited ∧ weight item.node nb = some w ∧
        (∀ d, st.distances.lookup nb = some d → item.distance + w < d) ∧
        relax q weight item st nb =
          { st with
            distances := st.distances.insert nb (item.distance + w)
            paths := st.paths.insert nb ((st.paths.lookup item.node).getD [] ++ [nb])
            queue := q.push st.queue ⟨nb, item.distance + w⟩ } :=
  relaxWith_cases st.visited st.distances weight item nb st _

private theorem relax_visited (item : Item V W) (st : State q) (nb : V) :
    (relax q weight item st nb).visited = st.visited := by
  rcases relax_cases weight item st nb with ⟨hr, _⟩ | ⟨_, _, _, _, hr⟩ <;> rw [hr]

section Relax

variable {pending : V → V → Prop} {item : Item V W} {st : State q} {nb : V}

/-- An edge that its relaxation leaves alone is no longer pending. -/
theorem Inv.keep (h : Inv weight s pending st)
    (hdist : st.distances.lookup item.node = some item.distance)
    (hdone : nb ∈ st.visited ∨ ∀ w, weight item.node nb = some w →
      ∃ d, st.distances.lookup nb = some d ∧ d ≤ item.distance + w) :
    Inv weight s (fun u v ↦ pending u v ∧ ¬ (u = item.node ∧ v = nb)) st := by
  refine ⟨h.start, h.walk, h.queued, h.known, h.settled, ?_⟩
  intro u hu d hd v w hw hpending
  by_cases hedge : u = item.node ∧ v = nb
  · obtain ⟨rfl, rfl⟩ := hedge
    rw [hdist, Option.some.injEq] at hd
    subst hd
    rcases hdone with hv | hknown
    · exact Or.inl hv
    · exact Or.inr (hknown w hw)
  · exact h.relaxed u hu d hd v w hw (fun hp ↦ hpending ⟨hp, hedge⟩)

omit [AddCommMonoid W] in
/-- A distance that is replaced by a smaller one shrinks. -/
theorem lookup_insert_le {distances : Dict V W} {new : W}
    (himproves : ∀ d, distances.lookup nb = some d → new < d) {v : V} {d : W}
    (hd : distances.lookup v = some d) :
    ∃ d', (distances.insert nb new).lookup v = some d' ∧ d' ≤ d := by
  by_cases hv : v = nb
  · subst hv
    exact ⟨new, AList.lookup_insert _, (himproves d hd).le⟩
  · exact ⟨d, by rw [AList.lookup_insert_ne hv, hd], le_refl d⟩

/-- The path to a settled vertex, extended by a vertex that is not. -/
theorem Inv.walk_snoc (h : Inv weight s pending st) (hvisited : item.node ∈ st.visited)
    (hdist : st.distances.lookup item.node = some item.distance) (hnb : nb ∉ st.visited) {w : W}
    (hw : weight item.node nb = some w) :
    ∃ p, st.paths.lookup item.node = some p ∧
      Walk weight s (p ++ [nb]) nb (item.distance + w) ∧ (p ++ [nb]).Nodup ∧
      ∀ x ∈ p ++ [nb], x = nb ∨ x ∈ st.visited := by
  obtain ⟨p, hp, hwalk, hsimple, hmem⟩ := h.walk _ _ hdist
  have hsettled : ∀ x ∈ p, x ∈ st.visited := by
    intro x hx
    rcases hmem x hx with rfl | hx
    · exact hvisited
    · exact hx
  refine ⟨p, hp, hwalk.snoc hw, ?_, ?_⟩
  · rw [List.nodup_append]
    refine ⟨hsimple, List.nodup_singleton nb, ?_⟩
    rintro x hx y hy rfl
    rw [List.mem_singleton.mp hy] at hx
    exact hnb (hsettled nb hx)
  · intro x hx
    rcases List.mem_append.mp hx with hx | hx
    · exact Or.inr (hsettled x hx)
    · exact Or.inl (List.mem_singleton.mp hx)

/-- A relaxation keeps the invariant, and its edge is no longer pending. -/
theorem Inv.relax (h : Inv weight s pending st) (hvisited : item.node ∈ st.visited)
    (hdist : st.distances.lookup item.node = some item.distance) :
    Inv weight s (fun u v ↦ pending u v ∧ ¬ (u = item.node ∧ v = nb))
      (Dijkstra.relax q weight item st nb) := by
  rcases relax_cases weight item st nb with ⟨hr, hdone⟩ | ⟨w, hnb, hw, himproves, hr⟩
  · rw [hr]
    exact h.keep hdist hdone
  · rw [hr]
    have hne : ∀ {u}, u ∈ st.visited → u ≠ nb := fun hu heq ↦ hnb (heq ▸ hu)
    -- distances of other vertices are kept, and the one of `nb` shrinks
    have hself : (st.distances.insert nb (item.distance + w)).lookup nb =
        some (item.distance + w) := AList.lookup_insert _
    have hother : ∀ {v}, v ≠ nb → (st.distances.insert nb (item.distance + w)).lookup v =
        st.distances.lookup v := fun hv ↦ AList.lookup_insert_ne hv
    have hitems := q.items_push st.queue ⟨nb, item.distance + w⟩
    constructor
    · obtain ⟨d, hd, hle⟩ := h.start
      obtain ⟨d', hd', hle'⟩ := lookup_insert_le himproves hd
      exact ⟨d', hd', hle'.trans hle⟩
    · intro v d hd
      by_cases hv : v = nb
      · subst hv
        rw [hself, Option.some.injEq] at hd
        subst hd
        obtain ⟨p, hp, hrest⟩ := h.walk_snoc hvisited hdist hnb hw
        exact ⟨p ++ [v], by rw [AList.lookup_insert, hp]; rfl, hrest⟩
      · rw [hother hv] at hd
        obtain ⟨p', hp', hrest⟩ := h.walk v d hd
        exact ⟨p', by rw [AList.lookup_insert_ne hv, hp'], hrest⟩
    · intro v d hd
      by_cases hv : v = nb
      · subst hv
        rw [hself, Option.some.injEq] at hd
        subst hd
        exact Or.inr (hitems.mem_iff.mpr List.mem_cons_self)
      · rw [hother hv] at hd
        exact (h.queued v d hd).imp_right (fun hx ↦ hitems.mem_iff.mpr (List.mem_cons_of_mem _ hx))
    · intro x hx
      rcases List.mem_cons.mp (hitems.mem_iff.mp hx) with rfl | hx
      · exact ⟨_, hself, le_refl _⟩
      · obtain ⟨d, hd, hle⟩ := h.known x hx
        obtain ⟨d', hd', hle'⟩ := lookup_insert_le himproves hd
        exact ⟨d', hd', hle'.trans hle⟩
    · intro u hu
      obtain ⟨d, hd, hleast⟩ := h.settled u hu
      exact ⟨d, by rw [hother (hne hu), hd], hleast⟩
    · intro u hu d hd v w' hw' hpending
      rw [hother (hne hu)] at hd
      by_cases hedge : u = item.node ∧ v = nb
      · obtain ⟨rfl, rfl⟩ := hedge
        rw [hdist, Option.some.injEq] at hd
        rw [hw, Option.some.injEq] at hw'
        subst hd
        subst hw'
        exact Or.inr ⟨_, hself, le_refl _⟩
      · rcases h.relaxed u hu d hd v w' hw' (fun hp ↦ hpending ⟨hp, hedge⟩) with hv | ⟨d', hd', hle⟩
        · exact Or.inl hv
        · obtain ⟨d'', hd'', hle'⟩ := lookup_insert_le himproves hd'
          exact Or.inr ⟨d'', hd'', hle'.trans hle⟩

private theorem relax_lookup_of_visited {v : V} (hv : v ∈ st.visited) :
    (relax q weight item st nb).distances.lookup v = st.distances.lookup v := by
  rcases relax_cases weight item st nb with ⟨hr, _⟩ | ⟨w, hnb, _, _, hr⟩
  · rw [hr]
  · rw [hr]
    exact AList.lookup_insert_ne (fun heq ↦ hnb (heq ▸ hv))

/-- Relaxations settle nothing. -/
theorem foldl_relax_visited (ns : List V) :
    (ns.foldl (relax q weight item) st).visited = st.visited := by
  induction ns generalizing st with
  | nil => rfl
  | cons n ns ih => rw [List.foldl_cons, ih, relax_visited]

/-- Relaxing all pending neighbours of a settled vertex leaves nothing pending. -/
theorem Inv.foldl_relax (ns : List V) : ∀ {st : State q},
    Inv weight s (fun u v ↦ u = item.node ∧ v ∈ ns) st → item.node ∈ st.visited →
      st.distances.lookup item.node = some item.distance →
        Inv weight s (fun _ _ ↦ False) (ns.foldl (Dijkstra.relax q weight item) st) := by
  induction ns with
  | nil =>
    intro st h _ _
    exact ⟨h.start, h.walk, h.queued, h.known, h.settled,
      fun u hu d hd v w hw _ ↦ h.relaxed u hu d hd v w hw (by simp)⟩
  | cons n ns ih =>
    intro st h hvisited hdist
    have hstep : Inv weight s _ (Dijkstra.relax q weight item st n) := h.relax hvisited hdist
    apply ih
    · refine ⟨hstep.start, hstep.walk, hstep.queued, hstep.known, hstep.settled, ?_⟩
      intro u hu d hd v w hw hpending
      apply hstep.relaxed u hu d hd v w hw
      rintro ⟨⟨hitem, hv⟩, hne⟩
      rcases List.mem_cons.mp hv with rfl | hv
      · exact hne ⟨hitem, rfl⟩
      · exact hpending ⟨hitem, hv⟩
    · rw [relax_visited]
      exact hvisited
    · rw [relax_lookup_of_visited hvisited]
      exact hdist

end Relax

/-! ### Settling -/

variable [IsOrderedAddMonoid W]

/-- A walk ends at a settled vertex, or some queued item is at most as far as it is heavy. -/
theorem Inv.frontier {st : State q} (h : Inv weight s (fun _ _ ↦ False) st)
    (hnonneg : NonnegFrom weight s) {p : List V} {v : V} {d : W} (hwalk : Walk weight s p v d) :
    v ∈ st.visited ∨ ∃ x ∈ q.items st.queue, x.distance ≤ d := by
  induction hwalk with
  | nil =>
    obtain ⟨d, hd, hle⟩ := h.start
    exact (h.queued s d hd).imp_right (fun hx ↦ ⟨_, hx, hle⟩)
  | @snoc p u v d w hpre hw ih =>
    rcases ih with hu | ⟨x, hx, hle⟩
    · obtain ⟨du, hdu, hleast⟩ := h.settled u hu
      rcases h.relaxed u hu du hdu v w hw (by simp) with hv | ⟨dv, hdv, hle⟩
      · exact Or.inl hv
      · have hbound : dv ≤ d + w := hle.trans (by gcongr; exact hleast p d hpre)
        exact (h.queued v dv hdv).imp_right (fun hx ↦ ⟨_, hx, hbound⟩)
    · exact Or.inr ⟨x, hx, hle.trans (le_add_of_nonneg_right (hnonneg p u d hpre v w hw))⟩

section Pop

variable {st : State q} {item : Item V W} {rest : q.Queue} {next : V → List V}
  (h : Inv weight s (fun _ _ ↦ False) st) (hnonneg : NonnegFrom weight s)
  (hpop : q.pop st.queue = some (item, rest))

include h hpop

omit [IsOrderedAddMonoid W] in
/-- Dropping an item of a settled vertex keeps the invariant. -/
theorem Inv.skip (hvisited : item.node ∈ st.visited) :
    Inv weight s (fun _ _ ↦ False) { st with queue := rest } := by
  obtain ⟨hperm, _⟩ := q.pop_some _ _ _ hpop
  refine ⟨h.start, h.walk, ?_, ?_, h.settled, h.relaxed⟩
  · intro v d hd
    rcases h.queued v d hd with hv | hx
    · exact Or.inl hv
    · rcases List.mem_cons.mp (hperm.mem_iff.mp hx) with rfl | hx
      · exact Or.inl hvisited
      · exact Or.inr hx
  · intro x hx
    exact h.known x (hperm.mem_iff.mpr (List.mem_cons_of_mem _ hx))

omit [IsOrderedAddMonoid W] in
/-- The popped item of an unsettled vertex carries its distance. -/
theorem Inv.pop_distance (hvisited : item.node ∉ st.visited) :
    st.distances.lookup item.node = some item.distance := by
  obtain ⟨hperm, hmin⟩ := q.pop_some _ _ _ hpop
  obtain ⟨d, hd, hle⟩ := h.known item (hperm.mem_iff.mpr List.mem_cons_self)
  have hqueued := (h.queued item.node d hd).resolve_left hvisited
  rw [hd, le_antisymm hle (hmin _ hqueued)]

include hnonneg

/-- Settling the popped vertex keeps the invariant, with its edges pending. -/
theorem Inv.mark (hvisited : item.node ∉ st.visited)
    (hnext : ∀ u v w, weight u v = some w → v ∈ next u) :
    Inv weight s (fun u v ↦ u = item.node ∧ v ∈ next item.node) (Dijkstra.mark q item rest st) := by
  obtain ⟨hperm, hmin⟩ := q.pop_some _ _ _ hpop
  have hdist := h.pop_distance hpop hvisited
  refine ⟨h.start, ?_, ?_, ?_, ?_, ?_⟩
  · intro v d hd
    obtain ⟨p, hp, hwalk, hsimple, hmem⟩ := h.walk v d hd
    exact ⟨p, hp, hwalk, hsimple, fun x hx ↦ (hmem x hx).imp_right (List.mem_cons_of_mem _)⟩
  · intro v d hd
    rcases h.queued v d hd with hv | hx
    · exact Or.inl (List.mem_cons_of_mem _ hv)
    · rcases List.mem_cons.mp (hperm.mem_iff.mp hx) with rfl | hx
      · exact Or.inl List.mem_cons_self
      · exact Or.inr hx
  · intro x hx
    exact h.known x (hperm.mem_iff.mpr (List.mem_cons_of_mem _ hx))
  · intro u hu
    rcases List.mem_cons.mp hu with rfl | hu
    · refine ⟨item.distance, hdist, ?_⟩
      intro p d' hwalk
      rcases h.frontier hnonneg hwalk with hv | ⟨x, hx, hle⟩
      · exact absurd hv hvisited
      · exact (hmin x hx).trans hle
    · exact h.settled u hu
  · intro u hu d hd v w hw hpending
    rcases List.mem_cons.mp hu with rfl | hu
    · exact absurd ⟨rfl, hnext _ v w hw⟩ hpending
    · exact (h.relaxed u hu d hd v w hw (by simp)).imp_left (List.mem_cons_of_mem _)

/-- One iteration keeps the invariant. -/
theorem Inv.settle (hvisited : item.node ∉ st.visited)
    (hnext : ∀ u v w, weight u v = some w → v ∈ next u) :
    Inv weight s (fun _ _ ↦ False)
      ((next item.node).foldl (Dijkstra.relax q weight item) (Dijkstra.mark q item rest st)) :=
  (h.mark hnonneg hpop hvisited hnext).foldl_relax _ List.mem_cons_self
    (h.pop_distance hpop hvisited)

end Pop

/-! ### Whole runs -/

/-- Least weights of walks from a source, with simple walks that attain them. -/
structure Solution (weight : V → V → Option W) (s : V) (distances : Dict V W)
    (paths : Dict V (List V)) : Prop where
  sound : ∀ v d, distances.lookup v = some d →
    ∃ p, paths.lookup v = some p ∧ Shortest weight s p v d
  complete : ∀ p v d, Walk weight s p v d → ∃ d', distances.lookup v = some d'

omit [IsOrderedAddMonoid W] [DecidableEq V] in
/-- Shortest walks to one vertex have one weight. -/
theorem Shortest.unique {p p' : List V} {v : V} {d d' : W} (h : Shortest weight s p v d)
    (h' : Shortest weight s p' v d') : d = d' :=
  le_antisymm (h.least p' d' h'.walk) (h'.least p d h.walk)

/-- Iterations that the loop can still take. -/
def potential (q : PriorityQueue V W) (next : V → List V) (vertices : List V) (st : State q) : Nat :=
  Worklist.potential next vertices ((q.items st.queue).map Item.node) st.visited

section Run

variable {next : V → List V} {vertices : List V} {st : State q} {item : Item V W} {rest : q.Queue}

omit [IsOrderedAddMonoid W] in
private theorem length_foldl_relax (ns : List V) : ∀ st : State q,
    (q.items (ns.foldl (relax q weight item) st).queue).length ≤
      (q.items st.queue).length + ns.length := by
  induction ns with
  | nil => intro st; exact Nat.le_refl _
  | cons n ns ih =>
    intro st
    have hstep : (q.items (relax q weight item st n).queue).length ≤
        (q.items st.queue).length + 1 := by
      rcases relax_cases weight item st n with ⟨hr, _⟩ | ⟨w, _, _, _, hr⟩
      · rw [hr]
        omega
      · rw [hr]
        exact (q.items_push st.queue _).length_eq.le
    have hrest := ih (relax q weight item st n)
    rw [List.foldl_cons, List.length_cons]
    omega

omit [AddCommMonoid W] [IsOrderedAddMonoid W] in
private theorem potential_skip (hpop : q.pop st.queue = some (item, rest)) :
    potential q next vertices { st with queue := rest } + 1 ≤ potential q next vertices st := by
  have hlen := (q.pop_some _ _ _ hpop).1.length_eq
  simp only [potential, Worklist.potential, List.length_map, List.length_cons] at hlen ⊢
  omega

omit [IsOrderedAddMonoid W] in
private theorem potential_settle (hnodup : vertices.Nodup) (hout : ∀ v, v ∉ vertices → next v = [])
    (hpop : q.pop st.queue = some (item, rest)) (hvisited : item.node ∉ st.visited) :
    potential q next vertices
        ((next item.node).foldl (relax q weight item) (mark q item rest st)) + 1 ≤
      potential q next vertices st := by
  have hlen := (q.pop_some _ _ _ hpop).1.length_eq
  have hpotential : potential q next vertices st =
      Worklist.potential next vertices (item.node :: (q.items rest).map Item.node) st.visited := by
    simp only [potential, Worklist.potential, List.length_map, List.length_cons] at hlen ⊢
    omega
  rw [hpotential]
  unfold potential
  rw [foldl_relax_visited]
  apply Worklist.potential_mark hnodup hout hvisited
  rw [List.length_map, List.length_map]
  exact length_foldl_relax _ _

variable (hnonneg : NonnegFrom weight s) (hnext : ∀ u v w, weight u v = some w → v ∈ next u)
  (hnodup : vertices.Nodup) (hout : ∀ v, v ∉ vertices → next v = [])

include hnonneg hnext hnodup hout

/-- With enough fuel the loop keeps the invariant and empties the queue. -/
theorem Inv.loop (fuel : Nat) : ∀ {st : State q}, Inv weight s (fun _ _ ↦ False) st →
    potential q next vertices st ≤ fuel →
      Inv weight s (fun _ _ ↦ False) (Dijkstra.loop q weight next fuel st) ∧
        q.items (Dijkstra.loop q weight next fuel st).queue = [] := by
  induction fuel with
  | zero =>
    intro st h hfuel
    refine ⟨h, List.length_eq_zero_iff.mp ?_⟩
    simp only [potential, Worklist.potential, List.length_map] at hfuel
    show (q.items st.queue).length = 0
    omega
  | succ fuel ih =>
    intro st h hfuel
    unfold Dijkstra.loop
    cases hpop : q.pop st.queue with
    | none => exact ⟨h, q.pop_none _ hpop⟩
    | some popped =>
      obtain ⟨item, rest⟩ := popped
      simp only []
      split
      · next hvisited =>
        have hskip : potential q next vertices { st with queue := rest } + 1 ≤ _ :=
          potential_skip hpop
        exact ih (h.skip hpop hvisited) (by omega)
      · next hvisited =>
        have hsettle : potential q next vertices
            ((next item.node).foldl (Dijkstra.relax q weight item) (Dijkstra.mark q item rest st)) +
              1 ≤ _ := potential_settle hnodup hout hpop hvisited
        exact ih (h.settle hnonneg hpop hvisited hnext) (by omega)

omit hnonneg hnext hnodup hout [IsOrderedAddMonoid W] in
/-- The start satisfies the invariant. -/
theorem inv_start : Inv weight s (fun _ _ ↦ False) (start q s) := by
  have hitems : (q.items (q.push q.empty ⟨s, 0⟩)).Perm [⟨s, 0⟩] := by
    simpa [q.items_empty] using q.items_push q.empty ⟨s, 0⟩
  have hself : (start q s).distances.lookup s = some 0 := Dict.lookup_singleton.mpr ⟨rfl, rfl⟩
  have hlookup : ∀ {v d}, (start q s).distances.lookup v = some d → v = s ∧ d = 0 :=
    Dict.lookup_singleton.mp
  refine ⟨⟨0, hself, le_refl 0⟩, ?_, ?_, ?_, ?_, ?_⟩
  · intro v d hd
    obtain ⟨rfl, rfl⟩ := hlookup hd
    exact ⟨[v], Dict.lookup_singleton.mpr ⟨rfl, rfl⟩, .nil, List.nodup_singleton v,
      fun x hx ↦ Or.inl (List.mem_singleton.mp hx)⟩
  · intro v d hd
    obtain ⟨rfl, rfl⟩ := hlookup hd
    exact Or.inr (hitems.mem_iff.mpr List.mem_cons_self)
  · intro x hx
    rw [List.mem_singleton.mp (hitems.mem_iff.mp hx)]
    exact ⟨0, hself, le_refl 0⟩
  · intro u hu
    cases hu
  · intro u hu
    cases hu

/-- The run keeps the invariant and empties the queue. -/
theorem inv_run : Inv weight s (fun _ _ ↦ False) (run q weight next vertices s) ∧
    q.items (run q weight next vertices s).queue = [] := by
  have hpotential : potential q next vertices (start q s) ≤
      1 + (vertices.map (fun v ↦ (next v).length)).sum := by
    have hlen := (q.items_push q.empty ⟨s, 0⟩).length_eq
    rw [q.items_empty] at hlen
    simp only [potential, Worklist.potential, start, List.length_map, hlen, List.length_cons]
    simp
  exact Inv.loop hnonneg hnext hnodup hout _ inv_start hpotential

/-- At the end every vertex with a distance is settled. -/
theorem mem_visited_run {v : V} {d : W}
    (hd : (run q weight next vertices s).distances.lookup v = some d) :
    v ∈ (run q weight next vertices s).visited := by
  obtain ⟨hinv, hempty⟩ := inv_run hnonneg hnext hnodup hout (q := q)
  rcases hinv.queued v d hd with hv | hx
  · exact hv
  · rw [hempty] at hx
    cases hx

/-- The run solves the shortest walks from its source. -/
theorem run_solution :
    Solution weight s (run q weight next vertices s).distances (run q weight next vertices s).paths := by
  obtain ⟨hinv, hempty⟩ := inv_run hnonneg hnext hnodup hout (q := q)
  constructor
  · intro v d hd
    obtain ⟨p, hp, hwalk, hsimple, _⟩ := hinv.walk v d hd
    obtain ⟨d', hd', hleast⟩ := hinv.settled v (mem_visited_run hnonneg hnext hnodup hout hd)
    have heq : d = d' := Option.some.inj (hd.symm.trans hd')
    exact ⟨p, hp, hwalk, hsimple, heq ▸ hleast⟩
  · intro p v d hwalk
    rcases hinv.frontier hnonneg hwalk with hv | ⟨x, hx, _⟩
    · obtain ⟨d', hd', _⟩ := hinv.settled v hv
      exact ⟨d', hd'⟩
    · rw [hempty] at hx
      cases hx

end Run

end Correctness

/-! ### A queue -/

/-- A list as a priority queue. -/
def listQueue (V W : Type) [LinearOrder W] : PriorityQueue V W where
  Queue := List (Item V W)
  items := id
  empty := []
  push := fun xs x ↦ x :: xs
  pop := fun xs ↦
    match xs.insertionSort (fun x y ↦ x.distance ≤ y.distance) with
    | [] => none
    | x :: rest => some (x, rest)
  items_empty := rfl
  items_push := fun _ _ ↦ .refl _
  pop_none := by
    intro xs h
    have hperm := List.perm_insertionSort (fun x y : Item V W ↦ x.distance ≤ y.distance) xs
    split at h
    · next hsort => exact (hsort ▸ hperm).symm.eq_nil
    · cases h
  pop_some := by
    intro xs x rest h
    have hperm := List.perm_insertionSort (fun x y : Item V W ↦ x.distance ≤ y.distance) xs
    split at h
    · cases h
    · next x' rest' hsort =>
      simp only [Option.some.injEq, Prod.mk.injEq] at h
      obtain ⟨rfl, rfl⟩ := h
      exact ⟨(hsort ▸ hperm).symm, fun y hy ↦ le_of_insertionSort hsort hy⟩

end Unoc.Base.Dijkstra
