import Mathlib.Data.Finset.Card
import Mathlib.Data.List.Nodup
import Mathlib.Logic.Relation

/-!
# Searches from a list of seeds

A search that marks vertices when they enter the queue, and a comparison of two searches from the
same seeds. The order in which successors are listed may change from one iteration to the next.
-/

namespace Unoc.Base

universe u

variable {V : Type u}

/-- Vertices that some seed reaches. -/
def Reached (r : V → V → Prop) (seeds : List V) (v : V) : Prop :=
  ∃ s ∈ seeds, Relation.ReflTransGen r s v

namespace Reached

variable {r r' : V → V → Prop} {seeds : List V} {u v : V}

/-- A seed is reached. -/
theorem seed (h : v ∈ seeds) : Reached r seeds v := ⟨v, h, .refl⟩

/-- From one seed, what is reached is what a chain of steps leads to. -/
theorem singleton_iff {s : V} : Reached r [s] v ↔ Relation.ReflTransGen r s v := by
  constructor
  · rintro ⟨u, hu, h⟩
    rwa [List.mem_singleton.mp hu] at h
  · exact fun h ↦ ⟨s, List.mem_singleton_self s, h⟩

/-- What a reached vertex leads to is reached. -/
theorem step (h : Reached r seeds u) (hr : r u v) : Reached r seeds v := by
  obtain ⟨s, hs, hsu⟩ := h
  exact ⟨s, hs, hsu.tail hr⟩

/-- Induction along the steps from a seed. -/
theorem rec_on {P : V → Prop} (h : Reached r seeds v) (hseed : ∀ s ∈ seeds, P s)
    (hstep : ∀ u v, Reached r seeds u → P u → r u v → P v) : P v := by
  obtain ⟨s, hs, hsv⟩ := h
  induction hsv with
  | refl => exact hseed s hs
  | tail hsu hr ih => exact hstep _ _ ⟨s, hs, hsu⟩ ih hr

/-- More edges reach more. -/
theorem mono (hr : ∀ u v, r u v → r' u v) (h : Reached r seeds v) : Reached r' seeds v :=
  h.rec_on (fun _ hs ↦ seed hs) (fun _ _ _ ih huv ↦ ih.step (hr _ _ huv))

/-- A vertex that is reached is a seed or entered by a step. -/
theorem cases_last (h : Reached r seeds v) : v ∈ seeds ∨ ∃ u, r u v := by
  obtain ⟨s, hs, hsv⟩ := h
  rcases hsv.cases_tail with rfl | ⟨u, _, huv⟩
  · exact Or.inl hs
  · exact Or.inr ⟨u, huv⟩

end Reached

/-! ### Two searches -/

/-- Both searches may take a step. -/
def Common (p q : V → V → Prop) (u v : V) : Prop := p u v ∧ q u v

section TwoSearches

variable {p q : V → V → Prop} {seeds : List V} (henter : ∀ u v w, p u v → q w v → q u v)

include henter

/-- Where the second search finds what the first one enters, it takes the same step. -/
theorem step_or_seed {u v : V} (huv : p u v) (hv : Reached q seeds v) : q u v ∨ v ∈ seeds := by
  rcases hv.cases_last with hs | ⟨w, hwv⟩
  · exact Or.inr hs
  · exact Or.inl (henter u v w huv hwv)

/-- What the first search finds is found by common steps, if the second one finds it all. -/
theorem Reached.common (hsub : ∀ v, Reached p seeds v → Reached q seeds v) {v : V}
    (hv : Reached p seeds v) : Reached (Common p q) seeds v := by
  apply hv.rec_on
  · intro s hs
    exact .seed hs
  · intro u w hu ih huw
    rcases step_or_seed henter huw (hsub w (hu.step huw)) with hq | hs
    · exact ih.step ⟨huw, hq⟩
    · exact .seed hs

/-- Two searches find the same vertices exactly if neither leaves what their common steps reach.
The second search decides about a step by the vertex that is entered, so that it takes every step of
the first into a vertex that it enters at all. -/
theorem reached_iff_reached :
    (∀ v, Reached p seeds v ↔ Reached q seeds v) ↔
      ∀ u, Reached (Common p q) seeds u →
        (∀ v, p u v → q u v ∨ v ∈ seeds) ∧
          ∀ v, q u v → p u v ∨ Reached (Common p q) seeds v := by
  constructor
  · intro h u hu
    have hup : Reached p seeds u := hu.mono (fun _ _ huv ↦ huv.1)
    refine ⟨?_, ?_⟩
    · intro v huv
      exact step_or_seed henter huv ((h v).mp (hup.step huv))
    · intro v huv
      right
      exact Reached.common henter (fun v ↦ (h v).mp) ((h v).mpr (((h u).mp hup).step huv))
  · intro h v
    constructor
    · intro hv
      refine (hv.rec_on (P := Reached (Common p q) seeds) (fun _ hs ↦ .seed hs) ?_).mono
        (fun _ _ huv ↦ huv.2)
      intro u w _ hu huw
      rcases (h u hu).1 w huw with hq | hs
      · exact hu.step ⟨huw, hq⟩
      · exact .seed hs
    · intro hv
      refine (hv.rec_on (P := Reached (Common p q) seeds) (fun _ hs ↦ .seed hs) ?_).mono
        (fun _ _ huv ↦ huv.1)
      intro u w _ hu huw
      rcases (h u hu).2 w huw with hp | hw
      · exact hu.step ⟨hp, huw⟩
      · exact hw

end TwoSearches

/-! ### Marking on entry -/

namespace Frontier

variable [DecidableEq V]

/-- Queue and mark a vertex, unless it is marked. -/
def enter (s : List V × List V) (w : V) : List V × List V :=
  if w ∈ s.2 then s else (s.1 ++ [w], s.2 ++ [w])

/-- The queue loop; `next` lists successors in the order of one iteration. -/
def loop (next : Nat → V → List V) : Nat → List V → List V → List V
  | 0, _, marked => marked
  | _ + 1, [], marked => marked
  | fuel + 1, v :: rest, marked =>
    loop next fuel ((next fuel v).foldl enter (rest, marked)).1
      ((next fuel v).foldl enter (rest, marked)).2

/-- What an iteration queues and marks: the successors that were not marked. -/
theorem foldl_enter (ws queue marked : List V) :
    ∃ fresh, ws.foldl enter (queue, marked) = (queue ++ fresh, marked ++ fresh) ∧
      fresh.Nodup ∧ ∀ w, w ∈ fresh ↔ w ∈ ws ∧ w ∉ marked := by
  induction ws generalizing queue marked with
  | nil => exact ⟨[], by simp, List.nodup_nil, by simp⟩
  | cons x ws ih =>
    rw [List.foldl_cons, enter]
    by_cases hx : x ∈ marked
    · rw [if_pos hx]
      obtain ⟨fresh, heq, hnodup, hmem⟩ := ih queue marked
      refine ⟨fresh, heq, hnodup, ?_⟩
      intro w
      rw [hmem, List.mem_cons]
      constructor
      · rintro ⟨hw, hwm⟩
        exact ⟨Or.inr hw, hwm⟩
      · rintro ⟨rfl | hw, hwm⟩
        · exact absurd hx hwm
        · exact ⟨hw, hwm⟩
    · rw [if_neg hx]
      obtain ⟨fresh, heq, hnodup, hmem⟩ := ih (queue ++ [x]) (marked ++ [x])
      refine ⟨x :: fresh, by simp [heq], List.nodup_cons.mpr ⟨?_, hnodup⟩, ?_⟩
      · intro hxf
        exact ((hmem x).mp hxf).2 (by simp)
      · intro w
        rw [List.mem_cons, hmem, List.mem_cons, List.mem_append, List.mem_singleton]
        grind

variable {next : Nat → V → List V} {r : V → V → Prop} (hnext : ∀ n v w, w ∈ next n v ↔ r v w)

include hnext

/-- Every marked vertex was marked before or is reached from the queue. -/
theorem loop_sound (fuel : Nat) : ∀ {queue marked : List V} {x : V},
    x ∈ loop next fuel queue marked → x ∈ marked ∨ Reached r queue x := by
  induction fuel with
  | zero => intro queue marked x hx; exact Or.inl hx
  | succ fuel ih =>
    intro queue marked x hx
    cases queue with
    | nil => exact Or.inl hx
    | cons v rest =>
      obtain ⟨fresh, heq, _, hmem⟩ := foldl_enter (next fuel v) rest marked
      rw [loop, heq] at hx
      have hfresh : ∀ w ∈ fresh, Reached r (v :: rest) w := by
        intro w hw
        exact (Reached.seed List.mem_cons_self).step ((hnext fuel v w).mp ((hmem w).mp hw).1)
      rcases ih hx with hm | hq
      · rcases List.mem_append.mp hm with hm | hm
        · exact Or.inl hm
        · exact Or.inr (hfresh x hm)
      · refine Or.inr (hq.rec_on ?_ (fun _ _ _ ih huv ↦ ih.step huv))
        intro s hs
        rcases List.mem_append.mp hs with hs | hs
        · exact .seed (List.mem_cons_of_mem v hs)
        · exact hfresh s hs

/-- Iterations left: queued vertices and unmarked vertices of a finite set. -/
def potential (vertices : Finset V) (queue marked : List V) : Nat :=
  queue.length + (vertices \ marked.toFinset).card

omit hnext in
/-- An iteration that marks new vertices of the set uses up at least one iteration. -/
theorem potential_enter {vertices : Finset V} {v : V} {rest marked fresh : List V}
    (hnodup : fresh.Nodup) (hfresh : ∀ w ∈ fresh, w ∈ vertices ∧ w ∉ marked) :
    potential vertices (rest ++ fresh) (marked ++ fresh) + 1 ≤
      potential vertices (v :: rest) marked := by
  have hcard : (vertices \ (marked ++ fresh).toFinset).card + fresh.length ≤
      (vertices \ marked.toFinset).card := by
    rw [← List.toFinset_card_of_nodup hnodup, ← Finset.card_union_of_disjoint]
    · apply Finset.card_le_card
      intro w hw
      simp only [Finset.mem_union, Finset.mem_sdiff, List.mem_toFinset, List.mem_append] at hw ⊢
      rcases hw with ⟨hw, hn⟩ | hw
      · exact ⟨hw, fun hm ↦ hn (Or.inl hm)⟩
      · exact hfresh w hw
    · rw [Finset.disjoint_left]
      intro w hw hwf
      simp only [Finset.mem_sdiff, List.mem_toFinset, List.mem_append] at hw hwf
      exact hw.2 (Or.inr hwf)
  simp only [potential, List.length_cons, List.length_append]
  omega

variable {vertices : Finset V} (hin : ∀ v w, r v w → w ∈ vertices)

include hin

/-- With enough iterations, marked vertices stay marked and have their successors marked, given
that those that left the queue have them marked already. -/
theorem loop_closed (fuel : Nat) : ∀ {queue marked : List V},
    potential vertices queue marked ≤ fuel →
    (∀ v ∈ marked, v ∈ queue ∨ ∀ w, r v w → w ∈ marked) →
      (∀ v ∈ marked, v ∈ loop next fuel queue marked) ∧
        ∀ v ∈ loop next fuel queue marked, ∀ w, r v w → w ∈ loop next fuel queue marked := by
  induction fuel with
  | zero =>
    intro queue marked hpot hclosed
    have hnil : queue = [] := by
      apply List.length_eq_zero_iff.mp
      unfold potential at hpot
      omega
    subst hnil
    simpa [loop] using hclosed
  | succ fuel ih =>
    intro queue marked hpot hclosed
    cases queue with
    | nil => simpa [loop] using hclosed
    | cons v rest =>
      obtain ⟨fresh, heq, hnodup, hmem⟩ := foldl_enter (next fuel v) rest marked
      have hpot' : potential vertices (rest ++ fresh) (marked ++ fresh) ≤ fuel := by
        apply Nat.le_of_succ_le_succ
        apply Nat.le_trans (potential_enter hnodup ?_) hpot
        intro w hw
        obtain ⟨hwn, hwm⟩ := (hmem w).mp hw
        exact ⟨hin v w ((hnext fuel v w).mp hwn), hwm⟩
      rw [loop, heq]
      obtain ⟨hkeep, hcl⟩ := ih hpot' (by
        intro x hx
        rcases List.mem_append.mp hx with hx | hx
        · rcases hclosed x hx with hq | hs
          · rcases List.mem_cons.mp hq with rfl | hq
            · right
              intro w hw
              by_cases hwm : w ∈ marked
              · exact List.mem_append_left _ hwm
              · exact List.mem_append_right _ ((hmem w).mpr ⟨(hnext fuel x w).mpr hw, hwm⟩)
            · exact Or.inl (List.mem_append_left _ hq)
          · exact Or.inr (fun w hw ↦ List.mem_append_left _ (hs w hw))
        · exact Or.inl (List.mem_append_right _ hx))
      exact ⟨fun x hx ↦ hkeep x (List.mem_append_left _ hx), hcl⟩

/-- The marked vertices are those that the seeds reach. -/
theorem mem_loop_iff {fuel : Nat} {seeds : List V} (hfuel : seeds.length + vertices.card ≤ fuel)
    {x : V} : x ∈ loop next fuel seeds seeds ↔ Reached r seeds x := by
  constructor
  · intro hx
    rcases loop_sound hnext fuel hx with hs | hr
    · exact .seed hs
    · exact hr
  · intro hx
    have hpot : potential vertices seeds seeds ≤ fuel := by
      have hle : (vertices \ seeds.toFinset).card ≤ vertices.card :=
        Finset.card_le_card Finset.sdiff_subset
      unfold potential
      omega
    obtain ⟨hkeep, hcl⟩ := loop_closed hnext hin fuel hpot (fun v hv ↦ Or.inl hv)
    exact hx.rec_on hkeep (fun u v _ hu huv ↦ hcl u hu v huv)

end Frontier

end Unoc.Base
