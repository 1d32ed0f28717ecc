import Mathlib.Algebra.BigOperators.Group.List.Basic
import Mathlib.Algebra.GroupWithZero.Nat
import Mathlib.Data.List.Nodup
import Mathlib.Logic.Relation

/-!
# Worklist closure

A search that marks vertices when they leave the queue, so that one vertex may be queued several
times. Whatever the order in which the queue is kept, the marked vertices are in the end those that
can be reached from the seeds; the queued vertices and the successors of unmarked ones bound the
number of iterations.
-/

namespace Unoc.Base

universe u

namespace Worklist

variable {V : Type u} [DecidableEq V]

/-- The queue loop: `next` lists successors, `push` puts one vertex into the queue. -/
def loop (next : V → List V) (push : List V → V → List V) : Nat → List V → List V → List V
  | 0, _, visited => visited
  | _ + 1, [], visited => visited
  | fuel + 1, v :: rest, visited =>
    if v ∈ visited then loop next push fuel rest visited
    else
      loop next push fuel
        (((next v).filter (fun w ↦ w ∉ v :: visited)).foldl push rest) (v :: visited)

section

variable {next : V → List V} {push : List V → V → List V}
  (hpush : ∀ queue v, (push queue v).Perm (v :: queue))

include hpush

omit [DecidableEq V] in
/-- The pushed items are in the queue. -/
theorem foldl_push_perm (ws queue : List V) : (ws.foldl push queue).Perm (ws ++ queue) := by
  induction ws generalizing queue with
  | nil => exact List.Perm.refl _
  | cons w ws ih =>
    rw [List.foldl_cons]
    apply (ih (push queue w)).trans
    apply ((hpush queue w).append_left ws).trans
    exact List.perm_middle

/-- Every marked vertex was marked before or is reached from the queue. -/
theorem loop_sound (fuel : Nat) : ∀ {queue visited : List V} {x : V},
    x ∈ loop next push fuel queue visited →
      x ∈ visited ∨ ∃ s ∈ queue, Relation.ReflTransGen (fun a b ↦ b ∈ next a) s x := by
  induction fuel with
  | zero => intro queue visited x hx; exact Or.inl hx
  | succ fuel ih =>
    intro queue visited x hx
    cases queue with
    | nil => exact Or.inl hx
    | cons v rest =>
      unfold loop at hx
      split at hx
      · rcases ih hx with hv | ⟨s, hs, hsx⟩
        · exact Or.inl hv
        · exact Or.inr ⟨s, List.mem_cons_of_mem v hs, hsx⟩
      · rcases ih hx with hv | ⟨s, hs, hsx⟩
        · rcases List.mem_cons.mp hv with rfl | hv
          · exact Or.inr ⟨x, List.mem_cons_self, .refl⟩
          · exact Or.inl hv
        · rw [(foldl_push_perm hpush _ rest).mem_iff, List.mem_append] at hs
          rcases hs with hs | hs
          · exact Or.inr ⟨v, List.mem_cons_self, .head (List.mem_of_mem_filter hs) hsx⟩
          · exact Or.inr ⟨s, List.mem_cons_of_mem v hs, hsx⟩

end

/-- The queue loop that ends at the first unmarked vertex with a property. -/
def search (next : V → List V) (push : List V → V → List V) (stop : V → Bool) :
    Nat → List V → List V → Bool
  | 0, _, _ => false
  | _ + 1, [], _ => false
  | fuel + 1, v :: rest, visited =>
    if v ∈ visited then search next push stop fuel rest visited
    else if stop v then true
    else
      search next push stop fuel
        (((next v).filter (fun w ↦ w ∉ v :: visited)).foldl push rest) (v :: visited)

private theorem mem_loop_of_mem {next : V → List V} {push : List V → V → List V} (fuel : Nat) :
    ∀ {queue visited : List V} {x : V}, x ∈ visited → x ∈ loop next push fuel queue visited := by
  induction fuel with
  | zero => intro queue visited x hx; exact hx
  | succ fuel ih =>
    intro queue visited x hx
    cases queue with
    | nil => exact hx
    | cons v rest =>
      unfold loop
      split
      · exact ih hx
      · exact ih (List.mem_cons_of_mem v hx)

/-- The search ends early exactly if the loop would mark a vertex with the property. -/
theorem search_iff_loop {next : V → List V} {push : List V → V → List V} {stop : V → Bool}
    (fuel : Nat) : ∀ {queue visited : List V}, (∀ x ∈ visited, stop x = false) →
      (search next push stop fuel queue visited = true ↔
        ∃ x ∈ loop next push fuel queue visited, stop x = true) := by
  have hnone : ∀ {visited : List V}, (∀ x ∈ visited, stop x = false) →
      ¬ ∃ x ∈ visited, stop x = true := by
    intro visited hvisited hex
    cases hex with
    | intro x hx => simp [hvisited x hx.1] at hx
  induction fuel with
  | zero => intro queue visited hvisited; simpa [search, loop] using hnone hvisited
  | succ fuel ih =>
    intro queue visited hvisited
    cases queue with
    | nil => simpa [search, loop] using hnone hvisited
    | cons v rest =>
      unfold search loop
      split
      · exact ih hvisited
      · split
        · next hstop =>
          apply iff_of_true rfl
          exact ⟨v, mem_loop_of_mem fuel List.mem_cons_self, hstop⟩
        · next hstop =>
          apply ih
          intro x hx
          cases List.mem_cons.mp hx with
          | inl h => simpa [h] using hstop
          | inr h => exact hvisited x h

/-- Every successor of a marked vertex is marked or queued. -/
def Closed (next : V → List V) (queue visited : List V) : Prop :=
  ∀ v ∈ visited, ∀ w ∈ next v, w ∈ visited ∨ w ∈ queue

omit [DecidableEq V] in
private theorem Closed.pop {next : V → List V} {v : V} {rest visited : List V}
    (h : Closed next (v :: rest) visited) (hv : v ∈ visited) : Closed next rest visited := by
  intro x hx w hw
  rcases h x hx w hw with hvisited | hqueue
  · exact Or.inl hvisited
  · rcases List.mem_cons.mp hqueue with rfl | hrest
    · exact Or.inl hv
    · exact Or.inr hrest

/-- A vertex is marked, and its unmarked successors join the queue. -/
theorem Closed.mark {next : V → List V} {v : V} {rest queue visited : List V}
    (h : Closed next (v :: rest) visited)
    (hqueue : queue.Perm ((next v).filter (fun w ↦ w ∉ v :: visited) ++ rest)) :
    Closed next queue (v :: visited) := by
  intro x hx w hw
  rw [hqueue.mem_iff, List.mem_append]
  by_cases hwv : w ∈ v :: visited
  · exact Or.inl hwv
  · right
    rcases List.mem_cons.mp hx with rfl | hx
    · exact Or.inl (List.mem_filter.mpr ⟨hw, by simpa using hwv⟩)
    · rcases h x hx w hw with hvisited | hmem
      · exact absurd (List.mem_cons_of_mem v hvisited) hwv
      · rcases List.mem_cons.mp hmem with rfl | hrest
        · exact absurd List.mem_cons_self hwv
        · exact Or.inr hrest

/-- Iterations left: queued vertices, and the successors of unmarked vertices of a finite list. -/
def potential (next : V → List V) (vertices : List V) (queue visited : List V) : Nat :=
  queue.length + ((vertices.filter (fun v ↦ v ∉ visited)).map (fun v ↦ (next v).length)).sum

section

variable {next : V → List V} {push : List V → V → List V}
  (hpush : ∀ queue v, (push queue v).Perm (v :: queue))
  {vertices : List V} (hnodup : vertices.Nodup) (hout : ∀ v, v ∉ vertices → next v = [])

private theorem sum_filter_erase {v : V} {visited : List V} (us : List V)
    (hus : us.Nodup) (hv : v ∉ visited) (f : V → Nat) :
    ((us.filter (fun w ↦ w ∉ v :: visited)).map f).sum + (if v ∈ us then f v else 0) =
      ((us.filter (fun w ↦ w ∉ visited)).map f).sum := by
  induction us with
  | nil => simp
  | cons u us ih =>
    obtain ⟨hu, hus⟩ := List.nodup_cons.mp hus
    have ih := ih hus
    by_cases huv : u = v
    · subst huv
      simp [hv, hu] at ih ⊢
      omega
    · by_cases hmem : u ∈ visited
      · simpa [huv, hmem, Ne.symm huv] using ih
      · simp [huv, hmem, Ne.symm huv] at ih ⊢
        omega

include hnodup hout

/-- Marking a vertex uses up at least one iteration, if it queues its successors at most. -/
theorem potential_mark {v : V} {visited queue rest : List V} (hv : v ∉ visited)
    (hlen : queue.length ≤ rest.length + (next v).length) :
    potential next vertices queue (v :: visited) + 1 ≤
      potential next vertices (v :: rest) visited := by
  have hsum := sum_filter_erase vertices hnodup hv (fun w ↦ (next w).length)
  unfold potential
  rw [List.length_cons]
  by_cases hmem : v ∈ vertices
  · rw [if_pos hmem] at hsum
    omega
  · have hzero : (next v).length = 0 := by rw [hout v hmem]; rfl
    rw [if_neg hmem] at hsum
    omega

include hpush

/-- With enough iterations, what is queued is marked and what is marked has its successors
marked. -/
theorem loop_closed (fuel : Nat) : ∀ {queue visited : List V},
    potential next vertices queue visited ≤ fuel → Closed next queue visited →
      (∀ v, v ∈ visited ∨ v ∈ queue → v ∈ loop next push fuel queue visited) ∧
        ∀ v ∈ loop next push fuel queue visited, ∀ w ∈ next v,
          w ∈ loop next push fuel queue visited := by
  induction fuel with
  | zero =>
    intro queue visited hpot hclosed
    have hnil : queue = [] := by
      apply List.length_eq_zero_iff.mp
      unfold potential at hpot
      omega
    subst hnil
    simpa [loop, Closed] using hclosed
  | succ fuel ih =>
    intro queue visited hpot hclosed
    cases queue with
    | nil => simpa [loop, Closed] using hclosed
    | cons v rest =>
      unfold loop
      split
      · next hv =>
        have hpop : potential next vertices rest visited ≤ fuel := by
          simp only [potential, List.length_cons] at hpot ⊢
          omega
        obtain ⟨hin, hcl⟩ := ih hpop (hclosed.pop hv)
        refine ⟨?_, hcl⟩
        intro x hx
        apply hin
        rcases hx with hx | hx
        · exact Or.inl hx
        · rcases List.mem_cons.mp hx with rfl | hx
          · exact Or.inl hv
          · exact Or.inr hx
      · next hv =>
        have hqueue := foldl_push_perm hpush ((next v).filter (fun w ↦ w ∉ v :: visited)) rest
        have hfilter := List.length_filter_le (fun w ↦ decide (w ∉ v :: visited)) (next v)
        have hpot' : potential next vertices
            (((next v).filter (fun w ↦ w ∉ v :: visited)).foldl push rest) (v :: visited) ≤ fuel := by
          apply Nat.le_of_succ_le_succ
          apply Nat.le_trans (potential_mark hnodup hout hv ?_) hpot
          rw [hqueue.length_eq, List.length_append]
          omega
        obtain ⟨hin, hcl⟩ := ih hpot' (hclosed.mark hqueue)
        refine ⟨?_, hcl⟩
        intro x hx
        apply hin
        rw [hqueue.mem_iff, List.mem_append]
        rcases hx with hx | hx
        · exact Or.inl (List.mem_cons_of_mem v hx)
        · rcases List.mem_cons.mp hx with rfl | hx
          · exact Or.inl List.mem_cons_self
          · exact Or.inr (Or.inr hx)

/-- The marked vertices are those that the seeds reach. -/
theorem mem_loop_iff {fuel : Nat} {seeds : List V}
    (hfuel : seeds.length + (vertices.map (fun v ↦ (next v).length)).sum ≤ fuel) {x : V} :
    x ∈ loop next push fuel seeds [] ↔
      ∃ s ∈ seeds, Relation.ReflTransGen (fun a b ↦ b ∈ next a) s x := by
  constructor
  · intro hx
    rcases loop_sound hpush fuel hx with h | h
    · cases h
    · exact h
  · rintro ⟨s, hs, hsx⟩
    have hpot : potential next vertices seeds [] ≤ fuel := by
      unfold potential
      simpa using hfuel
    obtain ⟨hin, hcl⟩ := loop_closed hpush hnodup hout fuel hpot (by simp [Closed])
    induction hsx with
    | refl => exact hin s (Or.inr hs)
    | tail _ hstep ih => exact hcl _ ih _ hstep

/-- With enough iterations, the search finds a property of what the seeds reach. -/
theorem search_iff {stop : V → Bool} {fuel : Nat} {seeds : List V}
    (hfuel : seeds.length + (vertices.map (fun v ↦ (next v).length)).sum ≤ fuel) :
    search next push stop fuel seeds [] = true ↔
      ∃ s ∈ seeds, ∃ x, Relation.ReflTransGen (fun a b ↦ b ∈ next a) s x ∧ stop x = true := by
  rw [search_iff_loop fuel (by simp)]
  constructor
  · intro h
    cases h with
    | intro x hx =>
      cases (mem_loop_iff hpush hnodup hout hfuel).mp hx.1 with
      | intro s hs => exact ⟨s, hs.1, x, hs.2, hx.2⟩
  · rintro ⟨s, hs, x, hsx, hstop⟩
    exact ⟨x, (mem_loop_iff hpush hnodup hout hfuel).mpr ⟨s, hs, hsx⟩, hstop⟩

end

end Worklist

end Unoc.Base
