import Mathlib.Data.Nat.Find
import Unoc.Base.Frontier

/-!
# The first goal of a queue search

A search from seeds that marks vertices when they enter the queue and stops at the first goal that
leaves it. A layer lists the ends of all walks with the same number of steps, in the order of the steps
and with repetitions. The search finds the first goal of the first layer that has one.
-/

namespace Unoc.Base

universe u

variable {V : Type u}

/-- The ends of the walks of `n` steps from the seeds, in the order of the steps. -/
def layer (next : V → List V) (seeds : List V) : Nat → List V
  | 0 => seeds
  | n + 1 => (layer next seeds n).flatMap next

/-- The first goal of the first layer that has one. -/
def FirstGoal (next : V → List V) (goal : V → Bool) (seeds : List V) (v : V) : Prop :=
  ∃ n, (∀ m < n, ∀ w ∈ layer next seeds m, goal w = false) ∧
    (layer next seeds n).find? goal = some v

section Layers

variable {next : V → List V} {goal : V → Bool} {seeds : List V} {v w : V}

/-- The layers list what is reached. -/
theorem exists_mem_layer :
    (∃ n, v ∈ layer next seeds n) ↔ Reached (fun u w ↦ w ∈ next u) seeds v := by
  constructor
  · rintro ⟨n, hv⟩
    induction n generalizing v with
    | zero => exact .seed hv
    | succ n ih =>
      obtain ⟨u, hu, huv⟩ := List.mem_flatMap.mp hv
      exact (ih hu).step huv
  · intro h
    refine h.rec_on (P := fun w ↦ ∃ n, w ∈ layer next seeds n) (fun s hs ↦ ⟨0, hs⟩) ?_
    rintro u w _ ⟨n, hn⟩ huw
    exact ⟨n + 1, List.mem_flatMap.mpr ⟨_, hn, huw⟩⟩

/-- A first goal is a goal. -/
theorem FirstGoal.goal_eq (h : FirstGoal next goal seeds v) : goal v = true := by
  obtain ⟨n, _, hfind⟩ := h
  exact List.find?_some hfind

/-- A first goal is reached. -/
theorem FirstGoal.reached (h : FirstGoal next goal seeds v) :
    Reached (fun u w ↦ w ∈ next u) seeds v := by
  obtain ⟨n, _, hfind⟩ := h
  exact exists_mem_layer.mp ⟨n, List.mem_of_find?_eq_some hfind⟩

/-- There is one first goal. -/
theorem FirstGoal.unique (h : FirstGoal next goal seeds v) (h' : FirstGoal next goal seeds w) :
    v = w := by
  obtain ⟨n, hnone, hfind⟩ := h
  obtain ⟨n', hnone', hfind'⟩ := h'
  have hv := List.mem_of_find?_eq_some hfind
  have hw := List.mem_of_find?_eq_some hfind'
  have hn : n = n' := by
    rcases Nat.lt_trichotomy n n' with hlt | heq | hlt
    · exact absurd (hnone' n hlt v hv) (by simp [List.find?_some hfind])
    · exact heq
    · exact absurd (hnone n' hlt w hw) (by simp [List.find?_some hfind'])
  subst hn
  exact Option.some.inj (hfind.symm.trans hfind')

/-- A goal that is reached gives a first one. -/
theorem exists_firstGoal (hgoal : goal v = true)
    (hreached : Reached (fun u w ↦ w ∈ next u) seeds v) :
    ∃ w, FirstGoal next goal seeds w := by
  classical
  obtain ⟨n, hn⟩ := exists_mem_layer.mpr hreached
  have hlayer : ∃ n, ∃ w ∈ layer next seeds n, goal w = true := ⟨n, v, hn, hgoal⟩
  obtain ⟨w, hw, hgoalw⟩ := Nat.find_spec hlayer
  cases hfind : (layer next seeds (Nat.find hlayer)).find? goal with
  | none => exact absurd hgoalw (List.find?_eq_none.mp hfind w hw)
  | some x =>
    refine ⟨x, Nat.find hlayer, fun m hm y hy ↦ ?_, hfind⟩
    rw [Bool.eq_false_iff]
    exact fun hgoaly ↦ Nat.find_min hlayer hm ⟨y, hy, hgoaly⟩

end Layers

namespace Frontier

variable [DecidableEq V]

/-- The queue loop up to the first goal. -/
def search (next : V → List V) (goal : V → Bool) : Nat → List V → List V → Option V
  | 0, _, _ => none
  | _ + 1, [], _ => none
  | fuel + 1, v :: rest, marked =>
    if goal v then some v
    else search next goal fuel ((next v).foldl enter (rest, marked)).1
      ((next v).foldl enter (rest, marked)).2

variable {next : V → List V} {goal : V → Bool}

/-- What the loop returns is a goal that the queue reaches. -/
theorem search_sound (fuel : Nat) : ∀ {queue marked : List V} {x : V},
    search next goal fuel queue marked = some x →
      goal x = true ∧ Reached (fun u w ↦ w ∈ next u) queue x := by
  induction fuel with
  | zero => intro queue marked x h; cases h
  | succ fuel ih =>
    intro queue marked x h
    cases queue with
    | nil => cases h
    | cons v rest =>
      rw [search] at h
      split at h
      · next hgoal =>
        obtain rfl := Option.some.inj h
        exact ⟨hgoal, .seed List.mem_cons_self⟩
      · obtain ⟨fresh, heq, _, hmem⟩ := foldl_enter (next v) rest marked
        rw [heq] at h
        obtain ⟨hgoal, hreached⟩ := ih h
        refine ⟨hgoal, hreached.rec_on ?_ (fun _ _ _ ih huv ↦ ih.step huv)⟩
        intro s hs
        rcases List.mem_append.mp hs with hs | hs
        · exact .seed (List.mem_cons_of_mem v hs)
        · exact (Reached.seed List.mem_cons_self).step ((hmem s).mp hs).1

/-! ### Unmarked queues -/

private theorem foldl_enter_cons (ws queue marked : List V) (v : V) :
    ws.foldl enter (v :: queue, marked) =
      (v :: (ws.foldl enter (queue, marked)).1, (ws.foldl enter (queue, marked)).2) := by
  induction ws generalizing queue marked with
  | nil => rfl
  | cons w ws ih =>
    rw [List.foldl_cons, List.foldl_cons, enter, enter]
    split
    · exact ih queue marked
    · exact ih (queue ++ [w]) (marked ++ [w])

/-- Vertices that are marked leave the state as it is. -/
theorem foldl_enter_of_subset (ws queue marked : List V) (h : ∀ w ∈ ws, w ∈ marked) :
    ws.foldl enter (queue, marked) = (queue, marked) := by
  induction ws with
  | nil => rfl
  | cons w ws ih =>
    rw [List.foldl_cons, enter, if_pos (h w List.mem_cons_self)]
    exact ih (fun x hx ↦ h x (List.mem_cons_of_mem w hx))

/-- The queue and the marked vertices of a queue without marks: what waits in it for the first time
and has not left it before. -/
def marks (popped todo : List V) : List V × List V := todo.foldl enter ([], popped)

private theorem mem_marks {popped todo : List V} {v : V} :
    v ∈ (marks popped todo).2 ↔ v ∈ popped ∨ v ∈ todo := by
  obtain ⟨fresh, heq, _, hmem⟩ := foldl_enter todo [] popped
  rw [marks, heq, List.mem_append, hmem]
  by_cases hv : v ∈ popped <;> simp [hv]

/-- A queue without marks, given what has left it: goals are still to come, and successors of what
has left it are waiting or gone. -/
structure Ready (next : V → List V) (goal : V → Bool) (vertices : Finset V) (fuel : Nat)
    (popped todo : List V) : Prop where
  goals : ∀ v ∈ popped, goal v = false
  closed : ∀ v ∈ popped, ∀ w ∈ next v, w ∈ popped ∨ w ∈ todo
  enough : potential vertices (marks popped todo).1 (marks popped todo).2 ≤ fuel

/-- The result of the loop from a queue without marks. -/
def result (next : V → List V) (goal : V → Bool) (fuel : Nat) (popped todo : List V) : Option V :=
  search next goal fuel (marks popped todo).1 (marks popped todo).2

variable {vertices : Finset V} {fuel : Nat} {popped todo : List V} {v : V}

private theorem marks_of_popped (hv : v ∈ popped) : marks popped
    (v :: todo) = marks popped todo := by
  rw [marks, List.foldl_cons, enter, if_pos hv, marks]

private theorem marks_of_not_popped (hv : v ∉ popped) :
    marks popped (v :: todo) =
      (v :: (marks (popped ++ [v]) todo).1, (marks (popped ++ [v]) todo).2) := by
  rw [marks, List.foldl_cons, enter, if_neg hv]
  exact foldl_enter_cons todo [] (popped ++ [v]) v

private theorem marks_append (ws : List V) :
    marks popped (todo ++ ws) = ws.foldl enter (marks popped todo) := by
  rw [marks, List.foldl_append, marks]

/-- The head of the queue is the first vertex that has not left it. -/
theorem Ready.result_of_goal (h : Ready next goal vertices fuel popped (v :: todo))
    (hgoal : goal v = true) : result next goal fuel popped (v :: todo) = some v := by
  have hv : v ∉ popped := fun hv ↦ by
    rw [h.goals v hv] at hgoal
    cases hgoal
  have henough := h.enough
  rw [marks_of_not_popped hv] at henough
  rw [result, marks_of_not_popped hv]
  cases fuel with
  | zero => simp [potential] at henough
  | succ fuel => rw [search, if_pos hgoal]

variable (hin : ∀ u, ∀ w ∈ next u, w ∈ vertices)
include hin

/-- A vertex that is no goal leaves the queue, and its successors enter at the end. -/
theorem Ready.step (h : Ready next goal vertices fuel popped (v :: todo)) (hgoal : goal v = false) :
    ∃ fuel' popped', Ready next goal vertices fuel' popped' (todo ++ next v) ∧
      result next goal fuel popped (v :: todo) =
        result next goal fuel' popped' (todo ++ next v) := by
  by_cases hv : v ∈ popped
  · -- its successors are marked, so that nothing changes
    have hmarks : marks popped (todo ++ next v) = marks popped (v :: todo) := by
      rw [marks_of_popped hv, marks_append]
      apply foldl_enter_of_subset
      intro w hw
      apply mem_marks.mpr
      rcases h.closed v hv w hw with hp | ht
      · exact Or.inl hp
      · rcases List.mem_cons.mp ht with rfl | ht
        · exact Or.inl hv
        · exact Or.inr ht
    refine ⟨fuel, popped, ⟨h.goals, ?_, hmarks ▸ h.enough⟩, by rw [result, result, hmarks]⟩
    intro u hu w hw
    rcases h.closed u hu w hw with hp | ht
    · exact Or.inl hp
    · rcases List.mem_cons.mp ht with rfl | ht
      · exact Or.inl hv
      · exact Or.inr (List.mem_append_left _ ht)
  · obtain ⟨fresh, heq, hnodup, hmem⟩ := foldl_enter (next v) (marks (popped ++ [v]) todo).1
      (marks (popped ++ [v]) todo).2
    have henough := h.enough
    rw [marks_of_not_popped hv] at henough
    cases fuel with
    | zero => simp [potential] at henough
    | succ fuel =>
      have hmarks : marks (popped ++ [v]) (todo ++ next v) =
          ((marks (popped ++ [v]) todo).1 ++ fresh, (marks (popped ++ [v]) todo).2 ++ fresh) := by
        rw [marks_append, ← heq]
      refine ⟨fuel, popped ++ [v], ⟨?_, ?_, ?_⟩, ?_⟩
      · intro u hu
        rcases List.mem_append.mp hu with hu | hu
        · exact h.goals u hu
        · rw [List.mem_singleton.mp hu]
          exact hgoal
      · intro u hu w hw
        rcases List.mem_append.mp hu with hu | hu
        · rcases h.closed u hu w hw with hp | ht
          · exact Or.inl (List.mem_append_left _ hp)
          · rcases List.mem_cons.mp ht with rfl | ht
            · exact Or.inl (List.mem_append_right _ (List.mem_singleton_self w))
            · exact Or.inr (List.mem_append_left _ ht)
        · rw [List.mem_singleton.mp hu] at hw
          exact Or.inr (List.mem_append_right _ hw)
      · rw [hmarks]
        apply Nat.le_of_succ_le_succ
        apply Nat.le_trans (potential_enter hnodup ?_) henough
        intro w hw
        exact ⟨hin v w ((hmem w).mp hw).1, ((hmem w).mp hw).2⟩
      · rw [result, marks_of_not_popped hv, search, if_neg (by simp [hgoal]), result, marks_append]

/-- Vertices without a goal leave the queue one by one. -/
theorem Ready.steps {vs : List V} (h : Ready next goal vertices fuel popped (vs ++ todo))
    (hgoal : ∀ v ∈ vs, goal v = false) :
    ∃ fuel' popped', Ready next goal vertices fuel' popped' (todo ++ vs.flatMap next) ∧
      result next goal fuel popped (vs ++ todo) =
        result next goal fuel' popped' (todo ++ vs.flatMap next) := by
  induction vs generalizing fuel popped todo with
  | nil =>
    rw [List.flatMap_nil, List.append_nil]
    exact ⟨fuel, popped, h, rfl⟩
  | cons v vs ih =>
    rw [List.cons_append] at h
    obtain ⟨fuel₁, popped₁, h₁, heq₁⟩ := h.step hin (hgoal v List.mem_cons_self)
    rw [List.append_assoc] at h₁ heq₁
    obtain ⟨fuel₂, popped₂, h₂, heq₂⟩ := ih h₁ (fun w hw ↦ hgoal w (List.mem_cons_of_mem v hw))
    rw [List.append_assoc] at h₂ heq₂
    exact ⟨fuel₂, popped₂, h₂, heq₁.trans heq₂⟩

/-- The first goal of a queue without marks is found. -/
theorem Ready.result_of_find {vs : List V} (h : Ready next goal vertices fuel popped vs)
    (hfind : vs.find? goal = some v) : result next goal fuel popped vs = some v := by
  obtain ⟨hgoal, before, after, rfl, hbefore⟩ := List.find?_eq_some_iff_append.mp hfind
  obtain ⟨fuel', popped', h', heq⟩ := h.steps hin (fun w hw ↦ by simpa using hbefore w hw)
  rw [heq]
  exact h'.result_of_goal hgoal

/-- Layers without a goal are passed. -/
theorem Ready.pass_layers {seeds : List V} (n : Nat) (h : Ready next goal vertices fuel [] seeds)
    (hgoal : ∀ m < n, ∀ w ∈ layer next seeds m, goal w = false) :
    ∃ fuel' popped', Ready next goal vertices fuel' popped' (layer next seeds n) ∧
      result next goal fuel [] seeds = result next goal fuel' popped' (layer next seeds n) := by
  induction n with
  | zero => exact ⟨fuel, [], h, rfl⟩
  | succ n ih =>
    obtain ⟨fuel₁, popped₁, h₁, heq₁⟩ := ih (fun m hm ↦ hgoal m (Nat.lt_succ_of_lt hm))
    rw [← List.append_nil (layer next seeds n)] at h₁ heq₁
    obtain ⟨fuel₂, popped₂, h₂, heq₂⟩ := h₁.steps hin (hgoal n (Nat.lt_succ_self n))
    rw [List.nil_append] at h₂ heq₂
    exact ⟨fuel₂, popped₂, h₂, heq₁.trans heq₂⟩

omit hin in
/-- Seeds that differ are marked as they are. -/
theorem marks_nil {seeds : List V} (hseeds : seeds.Nodup) : marks [] seeds = (seeds, seeds) := by
  induction seeds using List.reverseRecOn with
  | nil => rfl
  | append_singleton seeds v ih =>
    have hnodup := List.nodup_append.mp hseeds
    have hv : v ∉ seeds := fun hv ↦ hnodup.2.2 v hv v (List.mem_singleton_self v) rfl
    rw [marks_append, ih hnodup.1, List.foldl_cons, List.foldl_nil, enter, if_neg hv]

/-- With enough iterations the search finds the first goal. -/
theorem search_eq_some_iff {seeds : List V} {v : V} (hseeds : seeds.Nodup)
    (hfuel : seeds.length + vertices.card ≤ fuel) :
    search next goal fuel seeds seeds = some v ↔ FirstGoal next goal seeds v := by
  have hmarks := marks_nil hseeds
  have hready : Ready next goal vertices fuel [] seeds := by
    refine ⟨fun _ h ↦ (List.not_mem_nil h).elim, fun _ h ↦ (List.not_mem_nil h).elim, ?_⟩
    have hcard : (vertices \ seeds.toFinset).card ≤ vertices.card :=
      Finset.card_le_card Finset.sdiff_subset
    rw [hmarks]
    show seeds.length + (vertices \ seeds.toFinset).card ≤ fuel
    omega
  have hresult : result next goal fuel [] seeds = search next goal fuel seeds seeds := by
    rw [result, hmarks]
  have hfound : ∀ x, FirstGoal next goal seeds x → search next goal fuel seeds seeds = some x := by
    rintro x ⟨n, hnone, hfind⟩
    obtain ⟨fuel', popped', h', heq⟩ := hready.pass_layers hin n hnone
    rw [← hresult]
    exact heq.trans (h'.result_of_find hin hfind)
  constructor
  · intro h
    obtain ⟨hgoal, hreached⟩ := search_sound fuel h
    obtain ⟨x, hx⟩ := exists_firstGoal hgoal hreached
    rw [hfound x hx] at h
    rwa [Option.some.inj h] at hx
  · exact hfound v

end Frontier

end Unoc.Base
