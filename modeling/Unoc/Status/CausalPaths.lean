import Unoc.Base.Layers
import Unoc.Status.CausalChain

/-!
# What the engine's search returns

`DetectCausalChain` of any dependency graph: the devices that downstream edges reach from the changed
ones through devices that may be up, each on a shortest path. The search is the one of `Trail`; its
maps hold the paths of the trail and their lengths.
-/

namespace Unoc.Status.Engine

open Unoc.Base
open Unoc.Traffic (GoMap RangeOrder)

/-- A downstream edge to a device that may be up. -/
def Leads (g : DependencyGraph) (u v : String) : Prop :=
  v ∈ g.downstream u ∧ g.isDeviceUpCandidate v = true

/-- The changed ids that are devices of the graph, as often as they are listed. -/
def seeds (g : DependencyGraph) (changedDeviceIds : List String) : List String :=
  changedDeviceIds.filter (fun id ↦ (g.devices.lookup id).isSome)

/-- The neighbours that one iteration may enter, in its order. -/
def accepted (g : DependencyGraph) (orders : Nat → RangeOrder String) (fuel : Nat) (id : String) :
    List String :=
  ((orders fuel).keys (g.downstream id)).filter g.isDeviceUpCandidate

private theorem mem_accepted {g : DependencyGraph} {orders : Nat → RangeOrder String} (fuel : Nat)
    (u v : String) : v ∈ accepted g orders fuel u ↔ Leads g u v := by
  rw [accepted, List.mem_filter, (orders fuel).mem_keys, Leads]

/-! ### The search is a trail -/

/-- The variables of the search hold a trail. -/
structure Tracks (st : Search) (t : Trail String) : Prop where
  queue : st.queue = t.queue.map (fun v ↦ ⟨v, t.path v, (t.path v).length - 1⟩)
  visited : st.visited = t.marked.toFinset
  affectedDevices : st.affectedDevices = t.marked
  dependencyPaths : ∀ v,
    st.dependencyPaths.lookup v = if v ∈ t.marked then some (t.path v) else none
  depths : ∀ v, st.depths.lookup v = if v ∈ t.marked then some ((t.path v).length - 1) else none
  queued : ∀ v ∈ t.queue, v ∈ t.marked
  path_ne_nil : ∀ v, t.path v ≠ []

namespace Tracks

variable {st : Search} {t : Trail String}

/-- Reading a map back after one more entry. -/
private theorem lookup_insert {α : Type} {m : GoMap String α} {marked : List String}
    (f f' : String → α) (hm : ∀ v, m.lookup v = if v ∈ marked then some (f v) else none)
    {id : String} (hf : ∀ v, v ≠ id → f' v = f v) (v : String) :
    (m.insert id (f' id)).lookup v = if v ∈ marked ++ [id] then some (f' v) else none := by
  by_cases hv : v = id
  · subst hv
    rw [AList.lookup_insert, if_pos (by simp)]
  · rw [AList.lookup_insert_ne hv, hm, hf v hv]
    simp [hv]

/-- Recording a device extends the trail, if its path is the one recorded for all its entries. -/
theorem add (h : Tracks st t) {id : String} (path : String → List String)
    (hpath : ∀ v, v ≠ id → path v = t.path v) (hself : id ∈ t.marked → path id = t.path id)
    (hne : path id ≠ []) :
    Tracks (st.add ⟨id, path id, (path id).length - 1⟩)
      ⟨t.queue ++ [id], t.marked ++ [id], path⟩ where
  queue := by
    rw [Search.add, h.queue, List.map_append, List.map_singleton]
    refine congrArg (· ++ _) (List.map_congr_left (fun v hv ↦ ?_))
    have hold : path v = t.path v := by
      by_cases hvid : v = id
      · exact hvid ▸ hself (hvid ▸ h.queued v hv)
      · exact hpath v hvid
    exact hold ▸ rfl
  visited := by
    rw [Search.add, h.visited, List.toFinset_append]
    ext v
    simp
  affectedDevices := by rw [Search.add, h.affectedDevices]
  dependencyPaths := lookup_insert t.path path h.dependencyPaths hpath
  depths := lookup_insert (fun v ↦ (t.path v).length - 1) (fun v ↦ (path v).length - 1)
    h.depths (fun v hv ↦ by rw [hpath v hv])
  queued v hv := by
    rcases List.mem_append.mp hv with hv | hv
    · exact List.mem_append_left _ (h.queued v hv)
    · exact List.mem_append_right _ hv
  path_ne_nil v := by
    by_cases hvid : v = id
    · exact hvid ▸ hne
    · exact fun hnil ↦ h.path_ne_nil v ((hpath v hvid).symm.trans hnil)

/-- A seed starts a trail of its own. -/
theorem addSeed {starts : List String} (h : Tracks st (.start starts)) (g : DependencyGraph)
    (id : String) : Tracks (st.addSeed g id) (.start (starts ++ seeds g [id])) := by
  unfold Search.addSeed seeds
  split
  · next hid =>
    rw [List.filter_singleton, hid]
    exact h.add (fun v ↦ [v]) (fun _ _ ↦ rfl) (fun _ ↦ rfl) (List.cons_ne_nil id [])
  · next hid =>
    rw [List.filter_singleton, Bool.eq_false_of_not_eq_true hid, cond_false, List.append_nil]
    exact h

private theorem foldl_addSeed (g : DependencyGraph) (changed : List String) {starts : List String}
    (h : Tracks st (.start starts)) :
    Tracks (changed.foldl (fun st id ↦ st.addSeed g id) st)
      (.start (starts ++ seeds g changed)) := by
  induction changed generalizing st starts with
  | nil => simpa [seeds] using h
  | cons id changed ih =>
    have hrest := ih (h.addSeed g id)
    rwa [List.append_assoc, seeds, seeds, ← List.filter_append] at hrest

/-- A neighbour that may be up is entered as in the trail. -/
theorem visit (h : Tracks st t) (g : DependencyGraph) {p : List String} (hp : p ≠ []) (u v : String) :
    Tracks (st.visit g ⟨u, p, p.length - 1⟩ v)
      (if g.isDeviceUpCandidate v then Trail.enter p t v else t) := by
  have hmem : v ∈ st.visited ↔ v ∈ t.marked := by rw [h.visited, List.mem_toFinset]
  unfold Search.visit Trail.enter
  by_cases hv : v ∈ t.marked
  · rw [if_pos (hmem.mpr hv), if_pos hv, ite_self]
    exact h
  · rw [if_neg (mt hmem.mp hv), if_neg hv]
    split
    · have hupdate : Function.update t.path v (p ++ [v]) v = p ++ [v] := Function.update_self _ _ _
      have hadd := h.add (Function.update t.path v (p ++ [v])) (fun w hw ↦ Function.update_of_ne hw _ _)
        (fun hm ↦ absurd hm hv) (by simp)
      rw [hupdate, List.length_append, List.length_singleton, Nat.add_sub_cancel] at hadd
      rwa [Nat.sub_add_cancel (List.length_pos_iff.mpr hp)]
    · exact h

private theorem foldl_visit (h : Tracks st t) (g : DependencyGraph) {p : List String} (hp : p ≠ [])
    (u : String) (ns : List String) :
    Tracks (ns.foldl (fun st v ↦ st.visit g ⟨u, p, p.length - 1⟩ v) st)
      ((ns.filter g.isDeviceUpCandidate).foldl (Trail.enter p) t) := by
  induction ns generalizing st t with
  | nil => exact h
  | cons v ns ih =>
    have hrest := ih (h.visit g hp u v)
    rw [List.filter_cons]
    split at hrest
    · next hv => rwa [if_pos hv, List.foldl_cons]
    · next hv => rwa [if_neg hv, List.foldl_cons]

/-- The queue loop runs through the trail. -/
theorem searchLoop (g : DependencyGraph) (orders : Nat → RangeOrder String) (fuel : Nat)
    (h : Tracks st t) :
    Tracks (searchLoop g orders fuel st) (Trail.loop (accepted g orders) fuel t) := by
  induction fuel generalizing st t with
  | zero => exact h
  | succ fuel ih =>
    rw [Engine.searchLoop, Trail.loop]
    have hqueue := h.queue
    cases hq : t.queue with
    | nil =>
      rw [hq, List.map_nil] at hqueue
      rw [hqueue]
      exact h
    | cons u rest =>
      rw [hq, List.map_cons] at hqueue
      rw [hqueue]
      refine ih (foldl_visit ?_ g (h.path_ne_nil u) u _)
      exact { h with
        queue := rfl
        queued := fun v hv ↦ h.queued v (hq ▸ List.mem_cons_of_mem u hv) }

end Tracks

/-! ### The result -/

section Result

variable (g : DependencyGraph) (orders : Nat → RangeOrder String) (changedDeviceIds : List String)

/-- The trail that the search leaves. -/
def finalTrail : Trail String :=
  .loop (accepted g orders) (changedDeviceIds.length + g.devices.keys.length)
    (.start (seeds g changedDeviceIds))

private theorem tracks_detectCausalChain : Tracks (detectCausalChain g orders changedDeviceIds)
    (finalTrail g orders changedDeviceIds) := by
  have hempty : Tracks {} (Trail.start []) :=
    ⟨rfl, rfl, rfl, fun _ ↦ rfl, fun _ ↦ rfl, fun _ hv ↦ absurd hv List.not_mem_nil,
      fun v ↦ List.cons_ne_nil v []⟩
  exact (hempty.foldl_addSeed g changedDeviceIds).searchLoop g orders _

private theorem finalTrail_spec (v : String) :
    (v ∈ (finalTrail g orders changedDeviceIds).marked ↔
        Reached (Leads g) (seeds g changedDeviceIds) v) ∧
      (v ∈ (finalTrail g orders changedDeviceIds).marked →
        (∃ s ∈ seeds g changedDeviceIds,
          Walk (Leads g) s v ((finalTrail g orders changedDeviceIds).path v)) ∧
        ∀ s ∈ seeds g changedDeviceIds, ∀ q, Walk (Leads g) s v q →
          ((finalTrail g orders changedDeviceIds).path v).length ≤ q.length) := by
  have hin : ∀ u v, Leads g u v → v ∈ g.devices.keys.toFinset := by
    rintro u v ⟨_, hv⟩
    rw [List.mem_toFinset, ← AList.mem_keys, ← AList.lookup_isSome]
    unfold DependencyGraph.isDeviceUpCandidate at hv
    cases hd : g.devices.lookup v with
    | none => rw [hd] at hv; cases hv
    | some _ => rfl
  have hfuel : (seeds g changedDeviceIds).length + g.devices.keys.toFinset.card ≤
      changedDeviceIds.length + g.devices.keys.length :=
    Nat.add_le_add (List.length_filter_le _ _) (List.toFinset_card_le _)
  exact Trail.loop_spec mem_accepted hin hfuel v

/-- The search returns what the existing changed devices reach. -/
theorem mem_affectedDevices_iff {v : String} :
    v ∈ (detectCausalChain g orders changedDeviceIds).affectedDevices ↔
      Reached (Leads g) (seeds g changedDeviceIds) v := by
  rw [(tracks_detectCausalChain g orders changedDeviceIds).affectedDevices]
  exact (finalTrail_spec g orders changedDeviceIds v).1

/-- A result that lists exactly what the seeds reach over devices that may be up, each device that is
no seed once, with a shortest path from a seed and the number of its edges. -/
structure ExactChain (g : DependencyGraph) (seeds : List String) (r : Search) : Prop where
  affected : ∀ v, v ∈ r.affectedDevices ↔ Reached (Leads g) seeds v
  once : ∀ v ∈ r.affectedDevices, v ∉ seeds → r.affectedDevices.count v = 1
  /-- The recorded path runs from a seed, its edges are counted and no other path has fewer. -/
  path : ∀ v ∈ r.affectedDevices, ∃ path depth,
    r.dependencyPaths.lookup v = some path ∧ r.depths.lookup v = some depth ∧
    path.length = depth + 1 ∧ (∃ s ∈ seeds, Walk (Leads g) s v path) ∧
    ∀ s ∈ seeds, ∀ q, Walk (Leads g) s v q → depth + 1 ≤ q.length
  others : ∀ v, v ∉ r.affectedDevices →
    r.dependencyPaths.lookup v = none ∧ r.depths.lookup v = none

/-- `DetectCausalChain` is exact for every graph, every list of changed ids and every order of its
`range` loops. -/
theorem detectCausalChain_exact :
    ExactChain g (seeds g changedDeviceIds) (detectCausalChain g orders changedDeviceIds) := by
  have h := tracks_detectCausalChain g orders changedDeviceIds
  have hspec := finalTrail_spec g orders changedDeviceIds
  constructor
  · intro v
    exact mem_affectedDevices_iff g orders changedDeviceIds
  · intro v hv hseed
    obtain ⟨found, hmarked, hnodup, _⟩ := Trail.exists_found (accepted g orders)
      (changedDeviceIds.length + g.devices.keys.length) (.start (seeds g changedDeviceIds))
    have haffected := h.affectedDevices.trans hmarked
    rw [haffected] at hv ⊢
    have hfound : v ∈ found := (List.mem_append.mp hv).resolve_left hseed
    rw [List.count_append, List.count_eq_one_of_mem hnodup hfound]
    exact congrArg (· + 1) (List.count_eq_zero_of_not_mem hseed)
  · intro v hv
    rw [h.affectedDevices] at hv
    obtain ⟨hwalk, hmin⟩ := (hspec v).2 hv
    have hpos := List.length_pos_iff.mpr (h.path_ne_nil v)
    refine ⟨_, _, (h.dependencyPaths v).trans (if_pos hv), (h.depths v).trans (if_pos hv),
      (Nat.sub_add_cancel hpos).symm, hwalk, ?_⟩
    intro s hs q hq
    rw [Nat.sub_add_cancel hpos]
    exact hmin s hs q hq
  · intro v hv
    rw [h.affectedDevices] at hv
    exact ⟨(h.dependencyPaths v).trans (if_neg hv), (h.depths v).trans (if_neg hv)⟩

end Result

end Unoc.Status.Engine
