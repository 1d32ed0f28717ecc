import Mathlib.Logic.Function.Basic
import Unoc.Base.Bfs
import Unoc.Base.Frontier

/-!
# Shortest paths from a list of seeds

The search of `Frontier` with the path on which every vertex was entered. The queue holds vertices by
the length of their paths and the lengths span two layers at most, so that a vertex is entered on a
shortest path from the nearest seed. A seed may be listed more than once.
-/

namespace Unoc.Base

universe u

variable {V : Type u} [DecidableEq V]

/-- A queue, the marked vertices in the order they were marked, and the path of each of them. -/
structure Trail (V : Type u) where
  queue : List V
  marked : List V
  path : V → List V

namespace Trail

/-- The seeds, each on its own path. -/
def start (seeds : List V) : Trail V := ⟨seeds, seeds, fun s ↦ [s]⟩

/-- Queue and mark a vertex at the end of a path, unless it is marked. -/
def enter (p : List V) (t : Trail V) (w : V) : Trail V :=
  if w ∈ t.marked then t
  else ⟨t.queue ++ [w], t.marked ++ [w], Function.update t.path w (p ++ [w])⟩

/-- The queue loop; `next` lists successors in the order of one iteration. -/
def loop (next : Nat → V → List V) : Nat → Trail V → Trail V
  | 0, t => t
  | fuel + 1, t =>
    match t.queue with
    | [] => t
    | v :: rest =>
      loop next fuel ((next fuel v).foldl (enter (t.path v)) { t with queue := rest })

/-! ### The marks -/

/-- Without its paths a trail is the state of `Frontier`. -/
def ids (t : Trail V) : List V × List V := (t.queue, t.marked)

private theorem ids_enter (p : List V) (t : Trail V) (w : V) :
    (enter p t w).ids = Frontier.enter t.ids w := by
  unfold enter Frontier.enter ids
  split <;> rfl

private theorem ids_foldl_enter (p : List V) (ws : List V) (t : Trail V) :
    (ws.foldl (enter p) t).ids = ws.foldl Frontier.enter t.ids := by
  induction ws generalizing t with
  | nil => rfl
  | cons w ws ih => rw [List.foldl_cons, ih, ids_enter, List.foldl_cons]

/-- A search that records paths marks what the search without paths marks. -/
theorem marked_loop (next : Nat → V → List V) (fuel : Nat) (t : Trail V) :
    (loop next fuel t).marked = Frontier.loop next fuel t.queue t.marked := by
  induction fuel generalizing t with
  | zero => rfl
  | succ fuel ih =>
    obtain ⟨queue, marked, path⟩ := t
    cases queue with
    | nil => rfl
    | cons v rest =>
      have hids := ids_foldl_enter (path v) (next fuel v) ⟨rest, marked, path⟩
      rw [loop, ih, Frontier.loop]
      rw [ids, ids, Prod.mk.injEq] at hids
      rw [hids.1, hids.2]

/-- The vertices that an iteration enters, all of them on the path of the dequeued one. -/
theorem foldl_enter (p ws : List V) (t : Trail V) :
    ∃ fresh, ws.foldl (enter p) t =
        ⟨t.queue ++ fresh, t.marked ++ fresh, fun w ↦ if w ∈ fresh then p ++ [w] else t.path w⟩ ∧
      fresh.Nodup ∧ ∀ w, w ∈ fresh ↔ w ∈ ws ∧ w ∉ t.marked := by
  induction ws generalizing t with
  | nil => exact ⟨[], by simp, List.nodup_nil, by simp⟩
  | cons x ws ih =>
    rw [List.foldl_cons, enter]
    by_cases hx : x ∈ t.marked
    · rw [if_pos hx]
      obtain ⟨fresh, heq, hnodup, hmem⟩ := ih t
      refine ⟨fresh, heq, hnodup, fun w ↦ ?_⟩
      rw [hmem, List.mem_cons]
      exact ⟨fun ⟨hw, hn⟩ ↦ ⟨Or.inr hw, hn⟩,
        fun ⟨hw, hn⟩ ↦ ⟨hw.resolve_left (fun he ↦ hn (he ▸ hx)), hn⟩⟩
    · rw [if_neg hx]
      obtain ⟨fresh, heq, hnodup, hmem⟩ :=
        ih ⟨t.queue ++ [x], t.marked ++ [x], Function.update t.path x (p ++ [x])⟩
      have hxf : x ∉ fresh := fun hf ↦ ((hmem x).mp hf).2 (by simp)
      refine ⟨x :: fresh, ?_, List.nodup_cons.mpr ⟨hxf, hnodup⟩, fun w ↦ ?_⟩
      · rw [heq, List.append_assoc, List.append_assoc, List.singleton_append]
        congr 1
        funext w
        by_cases hw : w = x
        · simp only [hw, hxf, if_false, Function.update_self, List.mem_cons_self, if_true]
        · simp only [List.mem_cons, hw, false_or, Function.update_of_ne hw]
      · rw [List.mem_cons, hmem, List.mem_cons, List.mem_append, List.mem_singleton]
        constructor
        · rintro (rfl | ⟨hw, hn⟩)
          · exact ⟨Or.inl rfl, hx⟩
          · exact ⟨Or.inr hw, fun hm ↦ hn (Or.inl hm)⟩
        · rintro ⟨hw, hn⟩
          by_cases he : w = x
          · exact Or.inl he
          · exact Or.inr ⟨hw.resolve_left he, fun hm ↦ hm.elim hn he⟩

/-! ### Layers -/

/-- What a search from seeds along `r` keeps. -/
structure Layered (r : V → V → Prop) (seeds : List V) (t : Trail V) : Prop where
  seed : ∀ s ∈ seeds, s ∈ t.marked ∧ t.path s = [s]
  walk : ∀ v ∈ t.marked, ∃ s ∈ seeds, Walk r s v (t.path v)
  queued : ∀ v ∈ t.queue, v ∈ t.marked
  sorted : t.queue.Pairwise (fun u v ↦ (t.path u).length ≤ (t.path v).length)
  /-- Nothing lies more than one layer behind the queue. -/
  near : ∀ v ∈ t.queue, ∀ w ∈ t.marked, (t.path w).length ≤ (t.path v).length + 1
  /-- Whatever a dequeued vertex leads to is marked, one layer behind it or before. -/
  closed : ∀ u ∈ t.marked, u ∈ t.queue ∨
    ∀ v, r u v → v ∈ t.marked ∧ (t.path v).length ≤ (t.path u).length + 1

variable {r : V → V → Prop} {seeds : List V} {t : Trail V}

omit [DecidableEq V] in
private theorem layered_start (r : V → V → Prop) (seeds : List V) : Layered r seeds
    (start seeds) where
  seed _ hs := ⟨hs, rfl⟩
  walk v hv := ⟨v, hv, .root⟩
  queued _ hv := hv
  sorted := List.pairwise_of_forall (fun _ _ ↦ Nat.le_refl 1)
  near _ _ _ _ := Nat.le_succ 1
  closed _ hu := Or.inl hu

/-- The trail after an iteration: `u` is dequeued and enters the vertices of `fresh`. -/
def advance (t : Trail V) (u : V) (rest fresh : List V) : Trail V :=
  ⟨rest ++ fresh, t.marked ++ fresh, fun w ↦ if w ∈ fresh then t.path u ++ [w] else t.path w⟩

section Advance

variable {u : V} {rest fresh : List V}

private theorem path_fresh {w : V} (hw : w ∈ fresh) : (t.advance u rest fresh).path w = t.path u ++
    [w] :=
  if_pos hw

private theorem length_path_fresh {w : V} (hw : w ∈ fresh) :
    ((t.advance u rest fresh).path w).length = (t.path u).length + 1 := by
  rw [path_fresh hw, List.length_append, List.length_singleton]

variable (hfresh : ∀ w, w ∈ fresh ↔ r u w ∧ w ∉ t.marked)
include hfresh

private theorem path_old {w : V} (hw : w ∈ t.marked) : (t.advance u rest fresh).path w = t.path w :=
  if_neg (fun hf ↦ ((hfresh w).mp hf).2 hw)

variable (h : Layered r seeds t) (hq : t.queue = u :: rest)
include h hq

private theorem walk_advance (v : V) (hv : v ∈ t.marked ++ fresh) :
    ∃ s ∈ seeds, Walk r s v ((t.advance u rest fresh).path v) := by
  rcases List.mem_append.mp hv with hv | hv
  · rw [path_old hfresh hv]
    exact h.walk v hv
  · obtain ⟨s, hs, hwalk⟩ := h.walk u (h.queued u (hq ▸ List.mem_cons_self))
    rw [path_fresh hv]
    exact ⟨s, hs, hwalk.step ((hfresh v).mp hv).1⟩

/-- New vertices lie one layer behind the dequeued one, where the queue ends at the latest. -/
private theorem sorted_advance : (rest ++ fresh).Pairwise (fun v w ↦
    ((t.advance u rest fresh).path v).length ≤ ((t.advance u rest fresh).path w).length) := by
  have hsorted := h.sorted
  rw [hq, List.pairwise_cons] at hsorted
  have hrest : ∀ v ∈ rest, v ∈ t.marked :=
    fun v hv ↦ h.queued v (hq ▸ List.mem_cons_of_mem u hv)
  refine List.pairwise_append.mpr ⟨?_, ?_, ?_⟩
  · refine hsorted.2.imp_of_mem (fun {v w} hv hw hvw ↦ ?_)
    rwa [path_old hfresh (hrest v hv), path_old hfresh (hrest w hw)]
  · refine List.Pairwise.imp_of_mem (fun {v w} hv hw _ ↦ ?_)
      (List.pairwise_of_forall (fun _ _ ↦ True.intro))
    rw [length_path_fresh hv, length_path_fresh hw]
  · intro v hv w hw
    rw [path_old hfresh (hrest v hv), length_path_fresh hw]
    exact h.near u (hq ▸ List.mem_cons_self) v (hrest v hv)

private theorem near_advance (v : V) (hv : v ∈ rest ++ fresh) (w : V) (hw : w ∈ t.marked ++ fresh) :
    ((t.advance u rest fresh).path w).length ≤ ((t.advance u rest fresh).path v).length + 1 := by
  have hsorted := h.sorted
  rw [hq, List.pairwise_cons] at hsorted
  have huq : u ∈ t.queue := hq ▸ List.mem_cons_self
  have hlow : (t.path u).length ≤ ((t.advance u rest fresh).path v).length := by
    rcases List.mem_append.mp hv with hv | hv
    · rw [path_old hfresh (h.queued v (hq ▸ List.mem_cons_of_mem u hv))]
      exact hsorted.1 v hv
    · rw [length_path_fresh hv]
      exact Nat.le_succ _
  have hhigh : ((t.advance u rest fresh).path w).length ≤ (t.path u).length + 1 := by
    rcases List.mem_append.mp hw with hw | hw
    · rw [path_old hfresh hw]
      exact h.near u huq w hw
    · rw [length_path_fresh hw]
  exact hhigh.trans (Nat.succ_le_succ hlow)

private theorem closed_advance (x : V) (hx : x ∈ t.marked ++ fresh) : x ∈ rest ++ fresh ∨
    ∀ v, r x v → v ∈ t.marked ++ fresh ∧
      ((t.advance u rest fresh).path v).length ≤ ((t.advance u rest fresh).path x).length + 1 := by
  have huq : u ∈ t.queue := hq ▸ List.mem_cons_self
  rcases List.mem_append.mp hx with hx | hx
  · by_cases hxr : x ∈ rest
    · exact Or.inl (List.mem_append_left _ hxr)
    right
    intro v hxv
    rw [path_old hfresh hx]
    by_cases hxu : x = u
    · subst hxu
      by_cases hv : v ∈ t.marked
      · rw [path_old hfresh hv]
        exact ⟨List.mem_append_left _ hv, h.near x huq v hv⟩
      · have hf : v ∈ fresh := (hfresh v).mpr ⟨hxv, hv⟩
        exact ⟨List.mem_append_right _ hf, Nat.le_of_eq (length_path_fresh hf)⟩
    · -- `x` was dequeued before
      have hxq : x ∉ t.queue := by
        rw [hq, List.mem_cons]
        exact fun hmem ↦ hmem.elim hxu hxr
      obtain ⟨hv, hle⟩ := (h.closed x hx).resolve_left hxq v hxv
      rw [path_old hfresh hv]
      exact ⟨List.mem_append_left _ hv, hle⟩
  · exact Or.inl (List.mem_append_right _ hx)

omit h in
private theorem Layered.advance (h : Layered r seeds t) : Layered r seeds
    (t.advance u rest fresh) where
  seed s hs := by
    obtain ⟨hmarked, hpath⟩ := h.seed s hs
    exact ⟨List.mem_append_left _ hmarked, (path_old hfresh hmarked).trans hpath⟩
  walk := walk_advance hfresh h hq
  queued v hv := by
    rcases List.mem_append.mp hv with hv | hv
    · exact List.mem_append_left _ (h.queued v (hq ▸ List.mem_cons_of_mem u hv))
    · exact List.mem_append_right _ hv
  sorted := sorted_advance hfresh h hq
  near := near_advance hfresh h hq
  closed := closed_advance hfresh h hq

end Advance

/-- An iteration keeps the layers. -/
theorem Layered.step (h : Layered r seeds t) {u : V} {rest ws : List V} (hq : t.queue = u :: rest)
    (hws : ∀ w, w ∈ ws ↔ r u w) :
    Layered r seeds (ws.foldl (enter (t.path u)) { t with queue := rest }) := by
  obtain ⟨fresh, heq, _, hmem⟩ := foldl_enter (t.path u) ws { t with queue := rest }
  rw [heq]
  have hfresh : ∀ w, w ∈ fresh ↔ r u w ∧ w ∉ t.marked :=
    fun w ↦ (hmem w).trans (and_congr_left (fun _ ↦ hws w))
  exact (h.advance hfresh hq : Layered r seeds (t.advance u rest fresh))

omit [DecidableEq V] in
/-- The paths of a finished search are no longer than any other path from a seed. -/
theorem Layered.shortest (h : Layered r seeds t) (hq : t.queue = []) {s v : V} {q : List V}
    (hs : s ∈ seeds) (hwalk : Walk r s v q) :
    v ∈ t.marked ∧ (t.path v).length ≤ q.length := by
  induction hwalk with
  | root =>
    obtain ⟨hmarked, hpath⟩ := h.seed s hs
    exact ⟨hmarked, by rw [hpath]⟩
  | @step u v q hw hr ih =>
    obtain ⟨hum, hle⟩ := ih
    obtain ⟨hvm, hv⟩ := (h.closed u hum).resolve_left (by rw [hq]; exact List.not_mem_nil) v hr
    refine ⟨hvm, ?_⟩
    rw [List.length_append]
    exact hv.trans (Nat.succ_le_succ hle)

section Loop

variable {next : Nat → V → List V} (hnext : ∀ n v w, w ∈ next n v ↔ r v w)
include hnext

private theorem layered_loop (fuel : Nat) (h : Layered r seeds t) :
    Layered r seeds (loop next fuel t) := by
  induction fuel generalizing t with
  | zero => exact h
  | succ fuel ih =>
    unfold loop
    split
    · exact h
    · next v rest hq => exact ih (h.step hq (hnext fuel v))

/-- With enough iterations the queue runs empty. -/
theorem queue_loop {vertices : Finset V} (hin : ∀ v w, r v w → w ∈ vertices) (fuel : Nat)
    (hfuel : Frontier.potential vertices t.queue t.marked ≤ fuel) :
    (loop next fuel t).queue = [] := by
  induction fuel generalizing t with
  | zero =>
    apply List.length_eq_zero_iff.mp
    unfold Frontier.potential at hfuel
    rw [loop]
    omega
  | succ fuel ih =>
    unfold loop
    split
    · next hq => exact hq
    · next v rest hq =>
      apply ih
      obtain ⟨fresh, heq, hnodup, hmem⟩ := foldl_enter (t.path v) (next fuel v) { t with queue := rest }
      rw [heq]
      apply Nat.le_of_succ_le_succ
      rw [hq] at hfuel
      refine (Frontier.potential_enter hnodup (fun w hw ↦ ?_)).trans hfuel
      obtain ⟨hwn, hwm⟩ := (hmem w).mp hw
      exact ⟨hin v w ((hnext fuel v w).mp hwn), hwm⟩

omit hnext in
/-- A search marks every vertex at most once after those it starts with. -/
theorem exists_found (next : Nat → V → List V) (fuel : Nat) (t : Trail V) :
    ∃ found, (loop next fuel t).marked = t.marked ++ found ∧ found.Nodup ∧
      ∀ v ∈ found, v ∉ t.marked := by
  induction fuel generalizing t with
  | zero => exact ⟨[], (List.append_nil _).symm, List.nodup_nil, by simp⟩
  | succ fuel ih =>
    unfold loop
    split
    · exact ⟨[], (List.append_nil _).symm, List.nodup_nil, by simp⟩
    · next v rest hq =>
      obtain ⟨fresh, heq, hnodup, hmem⟩ := foldl_enter (t.path v) (next fuel v) { t with queue := rest }
      rw [heq]
      obtain ⟨found, hmarked, hfound, hnew⟩ := ih ⟨rest ++ fresh, t.marked ++ fresh, _⟩
      refine ⟨fresh ++ found, by rw [hmarked, List.append_assoc], ?_, ?_⟩
      · refine List.nodup_append.mpr ⟨hnodup, hfound, ?_⟩
        rintro x hx y hy rfl
        exact hnew x hy (List.mem_append_right _ hx)
      · intro x hx
        rcases List.mem_append.mp hx with hx | hx
        · exact ((hmem x).mp hx).2
        · exact fun hm ↦ hnew x hx (List.mem_append_left _ hm)

/-- A finished search from seeds: exactly what the seeds reach is marked, every vertex on a shortest
path from a seed. -/
theorem loop_spec {vertices : Finset V} (hin : ∀ v w, r v w → w ∈ vertices) {fuel : Nat}
    (hfuel : seeds.length + vertices.card ≤ fuel) (v : V) :
    (v ∈ (loop next fuel (start seeds)).marked ↔ Reached r seeds v) ∧
      (v ∈ (loop next fuel (start seeds)).marked →
        (∃ s ∈ seeds, Walk r s v ((loop next fuel (start seeds)).path v)) ∧
          ∀ s ∈ seeds, ∀ q, Walk r s v q →
            ((loop next fuel (start seeds)).path v).length ≤ q.length) := by
  have hlayered := layered_loop hnext fuel (layered_start r seeds)
  have hpotential : Frontier.potential vertices seeds seeds ≤ fuel :=
    (Nat.add_le_add_left (Finset.card_le_card Finset.sdiff_subset) _).trans hfuel
  have hqueue := queue_loop (t := start seeds) hnext hin fuel hpotential
  constructor
  · rw [marked_loop]
    exact Frontier.mem_loop_iff hnext hin hfuel
  · intro hv
    exact ⟨hlayered.walk v hv, fun s hs q hq ↦ (hlayered.shortest hqueue hs hq).2⟩

end Loop

end Trail

end Unoc.Base
