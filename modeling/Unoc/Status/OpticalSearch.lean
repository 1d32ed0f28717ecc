import Unoc.Base.LeastPaths
import Unoc.Status.LogicalGraph

/-!
# The least optical path

`_shortest_optical_path` of `backend/services/pathfinding.py:234–267` pops entries in the order of
hops and then of the device ids on the path. Every node is settled with its least path from the
source, and the path that is returned is the least one to any target.
-/

namespace Unoc.Status

open Unoc.Base Unoc.Model

variable {edges : List (String × String)} {olts : List String} {src : String} {entry : HeapEntry}
  {st st' : OpticalSearch} {rest : List HeapEntry} {ns : List String}

/-! ### Relaxing the neighbours of a settled node -/

/-- The distance and the path of an entry that reaches a neighbour over a settled one. -/
def HeapEntry.extend (e : HeapEntry) (nb : String) : HeapEntry := ⟨e.dist + 1, e.path ++ [nb], nb⟩

/-- The rank that `best_paths` records for a node, if any, is at most `k`. -/
def KnownWithin (st : OpticalSearch) (v : String) (k : Nat ×ₗ List String) : Prop :=
  ∃ c, st.bestPaths.lookup v = some c ∧ toLex c ≤ k

/-- What relaxing some neighbours does to a search. -/
structure RelaxedBy (entry : HeapEntry) (ns : List String) (st st' : OpticalSearch) : Prop where
  visited : st'.visited = st.visited
  targetPaths : st'.targetPaths = st.targetPaths
  shrinks : ∀ v k, KnownWithin st v k → KnownWithin st' v k
  covers : ∀ nb ∈ ns, nb ∈ st.visited ∨
      KnownWithin st' nb (toLex (entry.dist + 1, entry.path ++ [nb]))
  queued : ∀ v c, st'.bestPaths.lookup v = some c →
    st.bestPaths.lookup v = some c ∨ (⟨c.1, c.2, v⟩ : HeapEntry) ∈ st'.heap
  keeps : ∀ x ∈ st.heap, x ∈ st'.heap
  heap : ∀ x ∈ st'.heap, x ∈ st.heap ∨ ∃ nb ∈ ns, x = entry.extend nb

private theorem relaxedBy_refl : RelaxedBy entry [] st st where
  visited := rfl
  targetPaths := rfl
  shrinks _ _ h := h
  covers _ h := nomatch h
  queued _ _ h := .inl h
  keeps _ h := h
  heap _ h := .inl h

/-- One relaxation records the neighbour within the extended path. -/
theorem relaxedBy_neighbor (nb : String) : RelaxedBy entry [nb] st (relaxNeighbor entry st nb) := by
  unfold relaxNeighbor
  split
  next hv =>
    exact ⟨rfl, rfl, fun _ _ h ↦ h, fun x hx ↦ .inl (List.mem_singleton.mp hx ▸ hv),
        fun _ _ h ↦ .inl h,
      fun _ h ↦ h, fun _ h ↦ .inl h⟩
  next hv =>
    extract_lets cand improves
    by_cases himproves : improves = true
    · rw [if_pos himproves]
      have hself : (st.bestPaths.insert nb cand).lookup nb = some cand := AList.lookup_insert _
      have hlt : ∀ c, st.bestPaths.lookup nb = some c → toLex cand ≤ toLex c := by
        intro c hc
        have hdecide := himproves
        simp only [improves, hc] at hdecide
        exact (of_decide_eq_true hdecide).le
      constructor
      · rfl
      · rfl
      · rintro v k ⟨c, hc, hle⟩
        by_cases hvn : v = nb
        · subst hvn
          exact ⟨cand, hself, (hlt c hc).trans hle⟩
        · exact ⟨c, (AList.lookup_insert_ne hvn).trans hc, hle⟩
      · intro x hx
        rw [List.mem_singleton.mp hx]
        exact .inr ⟨cand, hself, le_refl _⟩
      · intro v c hc
        by_cases hvn : v = nb
        · subst hvn
          have heq : cand = c := Option.some.inj (hself.symm.trans hc)
          rw [← heq]
          exact .inr List.mem_cons_self
        · exact .inl ((AList.lookup_insert_ne hvn).symm.trans hc)
      · intro x hx
        exact List.mem_cons_of_mem _ hx
      · intro x hx
        rcases List.mem_cons.mp hx with heq | hx
        · exact .inr ⟨nb, List.mem_singleton_self nb, heq⟩
        · exact .inl hx
    · rw [if_neg himproves]
      have hknown : KnownWithin st nb (toLex cand) := by
        have hdecide := himproves
        cases hc : st.bestPaths.lookup nb with
        | none =>
          simp only [improves, hc] at hdecide
          exact absurd trivial hdecide
        | some prev =>
          simp only [improves, hc] at hdecide
          exact ⟨prev, hc, not_lt.mp fun hlt ↦ hdecide (decide_eq_true hlt)⟩
      exact ⟨rfl, rfl, fun _ _ h ↦ h, fun x hx ↦ .inr (List.mem_singleton.mp hx ▸ hknown),
        fun _ _ h ↦ .inl h, fun _ h ↦ h, fun _ h ↦ .inl h⟩

private theorem RelaxedBy.trans {m : OpticalSearch} {ms : List String} (h : RelaxedBy entry ns st m)
    (h' : RelaxedBy entry ms m st') : RelaxedBy entry (ns ++ ms) st st' where
  visited := h'.visited.trans h.visited
  targetPaths := h'.targetPaths.trans h.targetPaths
  shrinks v k hk := h'.shrinks v k (h.shrinks v k hk)
  covers nb hnb := by
    rcases List.mem_append.mp hnb with hnb | hnb
    · exact (h.covers nb hnb).imp_right (h'.shrinks nb _)
    · exact h.visited ▸ h'.covers nb hnb
  queued v c hc := by
    rcases h'.queued v c hc with hm | hx
    · exact (h.queued v c hm).imp_right (h'.keeps _)
    · exact .inr hx
  keeps x hx := h'.keeps x (h.keeps x hx)
  heap x hx := by
    rcases h'.heap x hx with hm | ⟨nb, hnb, heq⟩
    · rcases h.heap x hm with hx | ⟨nb, hnb, heq⟩
      · exact .inl hx
      · exact .inr ⟨nb, List.mem_append_left _ hnb, heq⟩
    · exact .inr ⟨nb, List.mem_append_right _ hnb, heq⟩

private theorem relaxedBy_foldl (ns : List String) : ∀ st : OpticalSearch,
    RelaxedBy entry ns st (ns.foldl (relaxNeighbor entry) st) := by
  induction ns with
  | nil => exact fun _ ↦ relaxedBy_refl
  | cons nb ns ih => exact fun st ↦ (relaxedBy_neighbor nb).trans (ih _)

/-! ### The invariant -/

/-- The targets of a search: the OLTs other than the source. -/
def IsTarget (olts : List String) (src v : String) : Prop := v ≠ src ∧ v ∈ olts

/-- Every queued entry is a walk, every settled node has its least path, and the frontier is
queued. -/
structure LeastFirst (edges : List (String × String)) (olts : List String) (src : String)
    (st : OpticalSearch) : Prop where
  start : src ∈ st.visited ∨ (⟨0, [src], src⟩ : HeapEntry) ∈ st.heap
  queued : ∀ v c, st.bestPaths.lookup v = some c → v ∈ st.visited ∨
      (⟨c.1, c.2, v⟩ : HeapEntry) ∈ st.heap
  heap : ∀ x ∈ st.heap, Walk (Adjacent edges) src x.node x.path ∧ x.dist = x.path.length - 1
  settled : ∀ u ∈ st.visited, ∃ p, LeastWalk (Adjacent edges) src u p ∧
    ∀ v, Adjacent edges u v → v ∈ st.visited ∨ KnownWithin st v (pathRank (p ++ [v]))
  targets : ∀ x, x ∈ st.targetPaths ↔
    ∃ v ∈ st.visited, IsTarget olts src v ∧ LeastWalk (Adjacent edges) src v x.2 ∧
        x.1 = x.2.length - 1

private theorem leastFirst_searchStart : LeastFirst edges olts src (searchStart src) where
  start := .inr List.mem_cons_self
  queued v c hc := by
    have hself : v = src ∧ c = (0, [src]) := Dict.lookup_singleton.mp hc
    rw [hself.1, hself.2]
    exact .inr List.mem_cons_self
  heap x hx := by
    rw [List.mem_singleton.mp hx]
    exact ⟨.root, rfl⟩
  settled _ hu := nomatch hu
  targets x := by simp [searchStart]

private theorem walk_ne_nil {r : String → String → Prop} {v : String} {p : List String}
    (h : Walk r src v p) :
    p ≠ [] := List.length_pos_iff.mp h.length_pos

/-- An entry of a least first search is ranked like its path. -/
theorem LeastFirst.rank_eq (h : LeastFirst edges olts src st) {x : HeapEntry} (hx : x ∈ st.heap) :
    toLex (x.dist, x.path) = pathRank x.path := by
  rw [(h.heap x hx).2, pathRank]

/-- A walk ends at a settled node, or a queued entry is at most as great. -/
theorem LeastFirst.frontier (h : LeastFirst edges olts src st) {v : String} {q : List String}
    (hwalk : Walk (Adjacent edges) src v q) :
    v ∈ st.visited ∨ ∃ x ∈ st.heap, pathRank x.path ≤ pathRank q := by
  induction hwalk with
  | root =>
    rcases h.start with hsrc | hx
    · exact .inl hsrc
    · exact .inr ⟨_, hx, le_refl _⟩
  | @step u v q hpre hedge ih =>
    rcases ih with hu | ⟨x, hx, hle⟩
    · have ⟨p, hleast, hout⟩ := h.settled u hu
      rcases hout v hedge with hv | ⟨c, hc, hle⟩
      · exact .inl hv
      · rcases h.queued v c hc with hv | hx
        · exact .inl hv
        · right
          apply Exists.intro _
          apply And.intro hx
          have hrank : toLex c = pathRank c.2 := h.rank_eq hx
          rw [← hrank]
          apply hle.trans
          exact pathRank_concat_le (walk_ne_nil hleast.walk) (walk_ne_nil hpre)
              (hleast.least q hpre) v
    · exact .inr ⟨x, hx, hle.trans (pathRank_lt_concat (walk_ne_nil hpre) v).le⟩

section Pop

variable (h : LeastFirst edges olts src st)
  (hsort : st.heap.insertionSort (fun a b ↦ a.key ≤ b.key) = entry :: rest)

include hsort in
private theorem mem_heap_iff {x : HeapEntry} : x ∈ st.heap ↔ x = entry ∨ x ∈ rest := by
  rw [← List.mem_insertionSort (fun a b : HeapEntry ↦ a.key ≤ b.key), hsort, List.mem_cons]

include h hsort

/-- The popped entry is below all others. -/
theorem LeastFirst.pop_least {x : HeapEntry} (hx : x ∈ st.heap) :
    pathRank entry.path ≤ pathRank x.path := by
  have hentry : entry ∈ st.heap := (mem_heap_iff hsort).mpr (.inl rfl)
  rw [← h.rank_eq hentry, ← h.rank_eq hx]
  have hkey : entry.key ≤ x.key := le_of_insertionSort hsort hx
  rw [HeapEntry.key, HeapEntry.key, Prod.Lex.toLex_le_toLex] at hkey
  rw [Prod.Lex.toLex_le_toLex]
  rcases hkey with hlt | ⟨heq, hle⟩
  · exact .inl hlt
  · rw [Prod.Lex.toLex_le_toLex] at hle
    exact .inr ⟨heq, hle.elim (fun hlt ↦ hlt.le) (fun hboth ↦ hboth.1.le)⟩

private theorem LeastFirst.skip (hv : entry.node ∈ st.visited) :
    LeastFirst edges olts src { st with heap := rest } where
  start := by
    rcases h.start with hsrc | hx
    · exact .inl hsrc
    · rcases (mem_heap_iff hsort).mp hx with heq | hx
      · exact .inl (by rw [← heq] at hv; exact hv)
      · exact .inr hx
  queued v c hc := by
    rcases h.queued v c hc with hsettled | hx
    · exact .inl hsettled
    · rcases (mem_heap_iff hsort).mp hx with heq | hx
      · exact .inl (by rw [← heq] at hv; exact hv)
      · exact .inr hx
  heap x hx := h.heap x ((mem_heap_iff hsort).mpr (.inr hx))
  settled := h.settled
  targets := h.targets

/-- The popped entry of a node that is not settled carries its least path. -/
theorem LeastFirst.pop_leastWalk (hv : entry.node ∉ st.visited) :
    LeastWalk (Adjacent edges) src entry.node entry.path where
  walk := (h.heap entry ((mem_heap_iff hsort).mpr (.inl rfl))).1
  least q hq := by
    rcases h.frontier hq with hsettled | ⟨x, hx, hle⟩
    · exact absurd hsettled hv
    · exact (h.pop_least hsort hx).trans hle

/-- Settling a node keeps the invariant. -/
theorem LeastFirst.settle (hv : entry.node ∉ st.visited) :
    LeastFirst edges olts src (settle edges olts src entry rest st) := by
  have hleast := h.pop_leastWalk hsort hv
  have hentry := h.heap entry ((mem_heap_iff hsort).mpr (.inl rfl))
  have hrelaxed : RelaxedBy entry (neighbors edges entry.node) _
      (Status.settle edges olts src entry rest st) := relaxedBy_foldl _ _
  have hvisited : (Status.settle edges olts src entry rest st).visited = entry.node :: st.visited :=
    hrelaxed.visited
  -- a queued entry is the popped one or still queued
  have hkept : ∀ x ∈ st.heap, x.node = entry.node ∨
      x ∈ (Status.settle edges olts src entry rest st).heap := by
    intro x hx
    rcases (mem_heap_iff hsort).mp hx with heq | hx
    · exact .inl (congrArg HeapEntry.node heq)
    · exact .inr (hrelaxed.keeps x hx)
  have hqueued : ∀ x ∈ st.heap, x.node ∈ entry.node :: st.visited ∨
      x ∈ (Status.settle edges olts src entry rest st).heap := by
    intro x hx
    apply (hkept x hx).imp_left
    intro heq
    rw [heq]
    exact List.mem_cons_self
  constructor
  · rw [hvisited]
    rcases h.start with hsrc | hx
    · exact .inl (List.mem_cons_of_mem _ hsrc)
    · exact hqueued _ hx
  · intro v c hc
    rw [hvisited]
    rcases hrelaxed.queued v c hc with hold | hx
    · rcases h.queued v c hold with hsettled | hx
      · exact .inl (List.mem_cons_of_mem _ hsettled)
      · exact hqueued _ hx
    · exact .inr hx
  · intro x hx
    rcases hrelaxed.heap x hx with hx | ⟨nb, hnb, heq⟩
    · exact h.heap x ((mem_heap_iff hsort).mpr (.inr hx))
    · rw [heq]
      have hpos := hentry.1.length_pos
      apply And.intro (hentry.1.step (mem_neighbors.mp hnb))
      simp only [HeapEntry.extend, List.length_append, List.length_singleton, hentry.2]
      omega
  · intro u hu
    rw [hvisited] at hu ⊢
    rcases List.mem_cons.mp hu with heq | hu
    · subst heq
      apply Exists.intro entry.path
      apply And.intro hleast
      intro v hedge
      apply (hrelaxed.covers v (mem_neighbors.mpr hedge)).imp_right
      intro hknown
      have hrank : pathRank (entry.path ++ [v]) = toLex (entry.dist + 1, entry.path ++ [v]) := by
        have hpos := hentry.1.length_pos
        rw [pathRank, List.length_append, List.length_singleton, hentry.2, Nat.sub_add_cancel hpos,
          Nat.add_sub_cancel]
      rwa [hrank]
    · obtain ⟨p, hp, hout⟩ := h.settled u hu
      apply Exists.intro p
      apply And.intro hp
      intro v hedge
      rcases hout v hedge with hsettled | hknown
      · exact .inl (List.mem_cons_of_mem _ hsettled)
      · exact .inr (hrelaxed.shrinks v _ hknown)
  · intro x
    rw [hvisited, hrelaxed.targetPaths]
    simp only [List.mem_cons, exists_eq_or_imp]
    -- the settled node is a target with its own least path, or the targets are as before
    by_cases htarget : entry.node ≠ src ∧ entry.node ∈ olts
    · rw [if_pos htarget, List.mem_append, h.targets x, List.mem_singleton, or_comm]
      apply or_congr_left
      constructor
      · intro heq
        rw [heq]
        exact ⟨htarget, hleast, hentry.2⟩
      · rintro ⟨_, hp, hd⟩
        have hpath := hp.unique hleast
        apply Prod.ext
        · rw [hd, hpath, hentry.2]
        · exact hpath
    · rw [if_neg htarget, h.targets x]
      exact (or_iff_right fun hself ↦ htarget hself.1).symm

end Pop

/-! ### Whole searches -/

/-- The targets of a search that has run out are the least walks to the nodes that are searched for,
and every node that a walk reaches has one. -/
structure Exhaustive (edges : List (String × String)) (olts : List String) (src : String)
    (targets : List (Nat × List String)) : Prop where
  targets_iff : ∀ x, x ∈ targets ↔
    ∃ v, IsTarget olts src v ∧ LeastWalk (Adjacent edges) src v x.2 ∧ x.1 = x.2.length - 1
  reached : ∀ v q, Walk (Adjacent edges) src v q → ∃ p, LeastWalk (Adjacent edges) src v p

private theorem LeastFirst.exhaustive (h : LeastFirst edges olts src st) (hnil : st.heap = []) :
    Exhaustive edges olts src st.targetPaths := by
  have hsettled : ∀ v q, Walk (Adjacent edges) src v q → v ∈ st.visited := by
    intro v q hq
    rcases h.frontier hq with hv | ⟨x, hx, _⟩
    · exact hv
    · rw [hnil] at hx
      cases hx
  constructor
  · intro x
    rw [h.targets x]
    apply exists_congr
    intro v
    apply and_iff_right_of_imp
    intro hv
    exact hsettled v x.2 hv.2.1.walk
  · intro v q hq
    have ⟨p, hp, _⟩ := h.settled v (hsettled v q hq)
    exact ⟨p, hp⟩

private theorem LeastFirst.loop (fuel : Nat) : ∀
    {st : OpticalSearch}, LeastFirst edges olts src st →
    searchPotential edges st ≤ fuel →
      Exhaustive edges olts src (opticalSearchLoop edges olts src fuel st) := by
  induction fuel with
  | zero =>
    intro st h hfuel
    apply h.exhaustive
    apply List.length_eq_zero_iff.mp
    simp only [searchPotential, Worklist.potential, List.length_map] at hfuel
    omega
  | succ fuel ih =>
    intro st h hfuel
    rw [opticalSearchLoop_succ]
    cases hsort : st.heap.insertionSort (fun a b ↦ a.key ≤ b.key) with
    | nil =>
      apply h.exhaustive
      rw [← List.length_eq_zero_iff,
          ← List.length_insertionSort (fun a b : HeapEntry ↦ a.key ≤ b.key), hsort]
      rfl
    | cons entry rest =>
      have hskip : searchPotential edges { st with heap := rest } + 1 ≤ searchPotential edges st :=
        searchPotential_skip hsort
      by_cases hv : entry.node ∈ st.visited
      · simp only [hv, if_true]
        exact ih (h.skip hsort hv) (by omega)
      · have hsettle : searchPotential edges (Status.settle edges olts src entry rest st) + 1 ≤
            searchPotential edges st := searchPotential_settle hsort hv
        simp only [hv, if_false]
        exact ih (h.settle hsort hv) (by omega)

variable {targets : List (Nat × List String)} {x : Nat × List String}

private theorem Exhaustive.rank_eq (h : Exhaustive edges olts src targets) (hx : x ∈ targets) :
    toLex x = pathRank x.2 := by
  have ⟨v, _, _, hd⟩ := (h.targets_iff x).mp hx
  rw [pathRank, ← hd]

/-- The first of the sorted targets is the least walk to any of them. -/
theorem Exhaustive.leastBy_eq_some_iff (h : Exhaustive edges olts src targets) :
    leastBy toLex targets = some x ↔
      LeastWalkTo (Adjacent edges) src (IsTarget olts src) x.2 ∧ x.1 = x.2.length - 1 := by
  constructor
  · intro hx
    have ⟨hmem, hle⟩ := leastBy_spec hx
    have ⟨v, hv, hp, hd⟩ := (h.targets_iff x).mp hmem
    refine ⟨⟨⟨v, hv, hp.walk⟩, ?_⟩, hd⟩
    intro u q hu hq
    have ⟨p, hleast⟩ := h.reached u q hq
    have hmem' : (p.length - 1, p) ∈ targets := (h.targets_iff _).mpr ⟨u, hu, hleast, rfl⟩
    rw [← h.rank_eq hmem]
    exact (hle _ hmem').trans (hleast.least q hq)
  · intro ⟨hto, hd⟩
    have ⟨v, hv, hwalk⟩ := hto.walk
    have hmem : x ∈ targets :=
      (h.targets_iff x).mpr ⟨v, hv, ⟨hwalk, fun q hq ↦ hto.least v q hv hq⟩, hd⟩
    apply leastBy_eq_some hmem
    intro y hy hne
    have ⟨u, hu, hp, hd'⟩ := (h.targets_iff y).mp hy
    rw [h.rank_eq hmem, h.rank_eq hy]
    apply lt_of_le_of_ne (hto.least u y.2 hu hp.walk)
    intro heq
    have hpath : x.2 = y.2 := pathRank_inj.mp heq
    exact hne (Prod.ext (by rw [hd', ← hpath, hd]) hpath.symm)

/-- Every search runs out within its fuel. -/
theorem exhaustive_search (edges : List (String × String)) (olts : List String) (src : String) :
    Exhaustive edges olts src
      (opticalSearchLoop edges olts src (searchPotential edges (searchStart src))
          (searchStart src)) :=
  LeastFirst.loop _ leastFirst_searchStart (Nat.le_refl _)

/-- The OLT of a node is the end of its least walk to an OLT. -/
theorem shortestOpticalOlt_eq_some_iff {olt : String} :
    shortestOpticalOlt edges olts src = some olt ↔
    ∃ p, LeastWalkTo (Adjacent edges) src (IsTarget olts src) p ∧ p.getLast? = some olt := by
  have h := exhaustive_search edges olts src
  rw [shortestOpticalOlt_eq (Nat.le_refl _), Option.bind_eq_some_iff]
  constructor
  · intro ⟨x, hx, hlast⟩
    exact ⟨x.2, (h.leastBy_eq_some_iff.mp hx).1, hlast⟩
  · intro ⟨p, hp, hlast⟩
    exact ⟨(p.length - 1, p), h.leastBy_eq_some_iff.mpr ⟨hp, rfl⟩, hlast⟩

/-- A walk to an OLT has a least one beside it. -/
theorem exists_leastWalkTo {v : String} {q : List String} (hv : IsTarget olts src v)
    (hq : Walk (Adjacent edges) src v q) :
    ∃ p, LeastWalkTo (Adjacent edges) src (IsTarget olts src) p := by
  have h := exhaustive_search edges olts src
  cases hleast : leastBy toLex
      (opticalSearchLoop edges olts src (searchPotential edges (searchStart src))
      (searchStart src)) with
  | some x => exact ⟨x.2, (h.leastBy_eq_some_iff.mp hleast).1⟩
  | none =>
    have ⟨p, hp⟩ := h.reached v q hq
    have hmem := (h.targets_iff (p.length - 1, p)).mpr ⟨v, hv, hp, rfl⟩
    rw [leastBy_eq_none.mp hleast] at hmem
    cases hmem

end Unoc.Status
