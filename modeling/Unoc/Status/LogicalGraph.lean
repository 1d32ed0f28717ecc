import Unoc.Status.Locality

/-!
# Locality of the logical graph

The optical search of `build_logical_graph` stays in the component of its source, ends within its
fuel, and reads the edges at the nodes it visits only. The routers that a device reaches are
therefore as before an edit that leaves its component alone.
-/

namespace Unoc.Status

open Unoc.Base Unoc.Model

/-! ### The optical search -/

section Search

variable {edges : List (String × String)} {entry : HeapEntry} {st : OpticalSearch}

/-- A relaxation changes nothing, or pushes the neighbour with the path extended by it. -/
theorem relaxNeighbor_cases (entry : HeapEntry) (st : OpticalSearch) (nb : String) :
    relaxNeighbor entry st nb = st ∨
      nb ∉ st.visited ∧
        relaxNeighbor entry st nb =
          { st with
            bestPaths := st.bestPaths.insert nb (entry.dist + 1, entry.path ++ [nb])
            heap := ⟨entry.dist + 1, entry.path ++ [nb], nb⟩ :: st.heap } := by
  unfold relaxNeighbor
  split
  · exact Or.inl rfl
  · next hv =>
    extract_lets cand improves
    by_cases hi : improves
    · exact Or.inr ⟨hv, if_pos hi⟩
    · exact Or.inl (if_neg hi)

private theorem relaxNeighbor_visited (nb : String) :
    (relaxNeighbor entry st nb).visited = st.visited := by
  rcases relaxNeighbor_cases entry st nb with hr | ⟨_, hr⟩ <;> rw [hr]

private theorem relaxNeighbor_targetPaths (nb : String) :
    (relaxNeighbor entry st nb).targetPaths = st.targetPaths := by
  rcases relaxNeighbor_cases entry st nb with hr | ⟨_, hr⟩ <;> rw [hr]

private theorem foldl_relax_visited (ns : List String) :
    (ns.foldl (relaxNeighbor entry) st).visited = st.visited := by
  induction ns generalizing st with
  | nil => rfl
  | cons n ns ih => rw [List.foldl_cons, ih, relaxNeighbor_visited]

private theorem foldl_relax_targetPaths (ns : List String) :
    (ns.foldl (relaxNeighbor entry) st).targetPaths = st.targetPaths := by
  induction ns generalizing st with
  | nil => rfl
  | cons n ns ih => rw [List.foldl_cons, ih, relaxNeighbor_targetPaths]

/-- What relaxations add to the heap are their neighbours. -/
theorem mem_foldl_relax_heap (ns : List String) {x : HeapEntry}
    (hx : x ∈ (ns.foldl (relaxNeighbor entry) st).heap) :
    x ∈ st.heap ∨ x.node ∈ ns ∧ x.path = entry.path ++ [x.node] := by
  induction ns generalizing st with
  | nil => exact Or.inl hx
  | cons n ns ih =>
    rcases ih hx with hx | ⟨hn, hp⟩
    · rcases relaxNeighbor_cases entry st n with hr | ⟨_, hr⟩
      · exact Or.inl (hr ▸ hx)
      · rw [hr] at hx
        rcases List.mem_cons.mp hx with rfl | hx
        · exact Or.inr ⟨List.mem_cons_self, rfl⟩
        · exact Or.inl hx
    · exact Or.inr ⟨List.mem_cons_of_mem n hn, hp⟩

private theorem length_foldl_relax_heap (ns : List String) : ∀ st : OpticalSearch,
    (ns.foldl (relaxNeighbor entry) st).heap.length ≤
      st.heap.length + (ns.filter (fun n ↦ n ∉ st.visited)).length := by
  induction ns with
  | nil => simp
  | cons n ns ih =>
    intro st
    have hstep := ih (relaxNeighbor entry st n)
    rw [relaxNeighbor_visited] at hstep
    rw [List.foldl_cons]
    rcases relaxNeighbor_cases entry st n with hr | ⟨hv, hr⟩
    · have hle : (ns.filter (fun n ↦ decide (n ∉ st.visited))).length ≤
          ((n :: ns).filter (fun n ↦ decide (n ∉ st.visited))).length :=
        (List.Sublist.filter _ (List.sublist_cons_self n ns)).length_le
      rw [hr] at hstep ⊢
      omega
    · rw [hr, List.length_cons] at hstep
      rw [hr, List.filter_cons_of_pos (by simpa using hv), List.length_cons]
      omega

/-- The state after a node is settled. -/
def settle (edges : List (String × String)) (olts : List String) (src : String)
    (entry : HeapEntry) (rest : List HeapEntry) (st : OpticalSearch) : OpticalSearch :=
  (neighbors edges entry.node).foldl (relaxNeighbor entry)
    { st with
      heap := rest
      visited := entry.node :: st.visited
      targetPaths :=
        if entry.node ≠ src ∧ entry.node ∈ olts then st.targetPaths ++ [(entry.dist, entry.path)]
        else st.targetPaths }

variable {olts : List String} {src : String}

/-- One iteration of the search. -/
theorem opticalSearchLoop_succ (fuel : Nat) :
    opticalSearchLoop edges olts src (fuel + 1) st =
      match st.heap.insertionSort (fun a b ↦ a.key ≤ b.key) with
      | [] => st.targetPaths
      | entry :: rest =>
        if entry.node ∈ st.visited then
          opticalSearchLoop edges olts src fuel { st with heap := rest }
        else opticalSearchLoop edges olts src fuel (settle edges olts src entry rest st) := rfl

/-- Iterations that a search can still take. -/
def searchPotential (edges : List (String × String)) (st : OpticalSearch) : Nat :=
  Worklist.potential (neighbors edges) (edgeIds edges) (st.heap.map HeapEntry.node) st.visited

private theorem searchPotential_eq {rest : List HeapEntry}
    (hsort : st.heap.insertionSort (fun a b ↦ a.key ≤ b.key) = entry :: rest) :
    searchPotential edges st =
      Worklist.potential (neighbors edges) (edgeIds edges)
        (entry.node :: rest.map HeapEntry.node) st.visited := by
  have hlen : (entry :: rest).length = st.heap.length := by
    rw [← hsort, List.length_insertionSort]
  simp only [searchPotential, Worklist.potential, List.length_map, List.length_cons] at hlen ⊢
  omega

/-- Settling a node uses up one iteration. -/
theorem searchPotential_settle {rest : List HeapEntry}
    (hsort : st.heap.insertionSort (fun a b ↦ a.key ≤ b.key) = entry :: rest)
    (hv : entry.node ∉ st.visited) :
    searchPotential edges (settle edges olts src entry rest st) + 1 ≤ searchPotential edges st := by
  rw [searchPotential_eq hsort]
  unfold searchPotential settle
  rw [foldl_relax_visited]
  apply Worklist.potential_mark (nodup_edgeIds edges) (fun _ h ↦ neighbors_eq_nil h) hv
  rw [List.length_map, List.length_map]
  apply (length_foldl_relax_heap (neighbors edges entry.node) _).trans
  apply Nat.add_le_add_left
  exact List.length_filter_le _ _

/-- Dropping a settled node uses up one iteration. -/
theorem searchPotential_skip {rest : List HeapEntry}
    (hsort : st.heap.insertionSort (fun a b ↦ a.key ≤ b.key) = entry :: rest) :
    searchPotential edges { st with heap := rest } + 1 ≤ searchPotential edges st := by
  rw [searchPotential_eq hsort]
  simp only [searchPotential, Worklist.potential, List.length_map, List.length_cons]
  omega

/-- All fuels that cover the iterations of a search give one result. -/
theorem opticalSearchLoop_fuel_irrelevant (fuel : Nat) :
    ∀ {fuel' : Nat} {st : OpticalSearch}, searchPotential edges st ≤ fuel →
      searchPotential edges st ≤ fuel' →
        opticalSearchLoop edges olts src fuel st = opticalSearchLoop edges olts src fuel' st := by
  induction fuel with
  | zero =>
    intro fuel' st hfuel _
    have hnil : st.heap = [] := by
      apply List.length_eq_zero_iff.mp
      simp only [searchPotential, Worklist.potential, List.length_map] at hfuel
      omega
    cases fuel' with
    | zero => rfl
    | succ fuel' => simp [opticalSearchLoop, hnil]
  | succ fuel ih =>
    intro fuel' st hfuel hfuel'
    rw [opticalSearchLoop_succ]
    cases hsort : st.heap.insertionSort (fun a b ↦ a.key ≤ b.key) with
    | nil =>
      cases fuel' with
      | zero => rfl
      | succ fuel' => rw [opticalSearchLoop_succ, hsort]
    | cons entry rest =>
      have hskip : searchPotential edges { st with heap := rest } + 1 ≤ searchPotential edges st :=
        searchPotential_skip hsort
      cases fuel' with
      | zero => omega
      | succ fuel' =>
        rw [opticalSearchLoop_succ, hsort]
        by_cases hv : entry.node ∈ st.visited
        · simp only [hv, if_true]
          exact ih (by omega) (by omega)
        · have hsettle : searchPotential edges (settle edges olts src entry rest st) + 1 ≤
              searchPotential edges st := searchPotential_settle hsort hv
          simp only [hv, if_false]
          exact ih (by omega) (by omega)

/-- What a search has queued and found ends in a set of nodes. -/
structure Confined (P : String → Prop) (st : OpticalSearch) : Prop where
  heap : ∀ x ∈ st.heap, P x.node ∧ x.path.getLast? = some x.node
  targets : ∀ p ∈ st.targetPaths, ∃ v, p.2.getLast? = some v ∧ P v

section Confinement

variable {P : String → Prop} {rest : List HeapEntry}

private theorem Confined.pop (h : Confined P st)
    (hsort : st.heap.insertionSort (fun a b ↦ a.key ≤ b.key) = entry :: rest) :
    (P entry.node ∧ entry.path.getLast? = some entry.node) ∧
      Confined P { st with heap := rest } := by
  have hmem : ∀ x ∈ entry :: rest, x ∈ st.heap := by
    intro x hx
    rwa [← hsort, List.mem_insertionSort] at hx
  refine ⟨h.heap entry (hmem entry List.mem_cons_self), ?_, h.targets⟩
  intro x hx
  exact h.heap x (hmem x (List.mem_cons_of_mem entry hx))

variable (hclosed : ∀ a b, Adjacent edges a b → P a → P b)

include hclosed

private theorem Confined.settle (h : Confined P st)
    (hsort : st.heap.insertionSort (fun a b ↦ a.key ≤ b.key) = entry :: rest) :
    Confined P (settle edges olts src entry rest st) := by
  obtain ⟨⟨hnode, hlast⟩, hrest⟩ := h.pop hsort
  constructor
  · intro x hx
    rcases mem_foldl_relax_heap _ hx with hx | ⟨hn, hp⟩
    · exact hrest.heap x hx
    · exact ⟨hclosed _ _ (mem_neighbors.mp hn) hnode, by rw [hp]; simp⟩
  · intro p hp
    unfold Status.settle at hp
    rw [foldl_relax_targetPaths] at hp
    split at hp
    · rcases List.mem_append.mp hp with hp | hp
      · exact h.targets p hp
      · rw [List.mem_singleton] at hp
        exact ⟨entry.node, by rw [hp]; exact hlast, hnode⟩
    · exact h.targets p hp

/-- A search never leaves a closed set. -/
theorem Confined.loop (fuel : Nat) : ∀ {st : OpticalSearch}, Confined P st →
    ∀ p ∈ opticalSearchLoop edges olts src fuel st, ∃ v, p.2.getLast? = some v ∧ P v := by
  induction fuel with
  | zero => intro st h; exact h.targets
  | succ fuel ih =>
    intro st h
    rw [opticalSearchLoop_succ]
    cases hsort : st.heap.insertionSort (fun a b ↦ a.key ≤ b.key) with
    | nil => exact h.targets
    | cons entry rest =>
      simp only []
      split
      · exact ih (h.pop hsort).2
      · exact ih (h.settle hclosed hsort)

/-- The search reads the neighbours and the types of the nodes of its component only. -/
theorem Confined.loop_congr {edges' : List (String × String)} {olts' : List String}
    (hn : ∀ v, P v → neighbors edges' v = neighbors edges v)
    (ho : ∀ v, P v → (v ∈ olts' ↔ v ∈ olts)) (fuel : Nat) :
    ∀ {st : OpticalSearch}, Confined P st →
      opticalSearchLoop edges' olts' src fuel st = opticalSearchLoop edges olts src fuel st := by
  induction fuel with
  | zero => intro st _; rfl
  | succ fuel ih =>
    intro st h
    rw [opticalSearchLoop_succ, opticalSearchLoop_succ]
    cases hsort : st.heap.insertionSort (fun a b ↦ a.key ≤ b.key) with
    | nil => rfl
    | cons entry rest =>
      have hpop := h.pop hsort
      have hsettle : Status.settle edges' olts' src entry rest st =
          Status.settle edges olts src entry rest st := by
        unfold Status.settle
        rw [hn entry.node hpop.1.1]
        simp only [ho entry.node hpop.1.1]
      simp only []
      split
      · exact ih hpop.2
      · rw [hsettle]
        exact ih (h.settle hclosed hsort)

end Confinement

/-- The state that a search starts from. -/
def searchStart (src : String) : OpticalSearch :=
  { heap := [⟨0, [src], src⟩], bestPaths := AList.singleton src (0, [src]) }

private theorem confined_searchStart {P : String → Prop} (h : P src) : Confined P
    (searchStart src) := by
  constructor
  · intro x hx
    rw [List.mem_singleton.mp hx]
    exact ⟨h, rfl⟩
  · intro p hp
    cases hp

/-- Any fuel from the start potential on finds the OLT. -/
theorem shortestOpticalOlt_eq {fuel : Nat} (hfuel : searchPotential edges (searchStart src) ≤ fuel) :
    shortestOpticalOlt edges olts src =
      (((opticalSearchLoop edges olts src fuel (searchStart src)).insertionSort
        (fun a b ↦ toLex a ≤ toLex b)).head?).bind (fun p ↦ p.2.getLast?) := by
  rw [← opticalSearchLoop_fuel_irrelevant _ _ hfuel]
  · rfl
  · simp [searchPotential, Worklist.potential, searchStart]

/-- The OLT of a node is in its component. -/
theorem shortestOpticalOlt_closed {P : String → Prop}
    (hclosed : ∀ a b, Adjacent edges a b → P a → P b) (hsrc : P src) {olt : String}
    (h : shortestOpticalOlt edges olts src = some olt) : P olt := by
  rw [shortestOpticalOlt_eq (Nat.le_refl _)] at h
  obtain ⟨p, hp, holt⟩ := Option.bind_eq_some_iff.mp h
  have hmem := List.mem_of_mem_head? hp
  rw [List.mem_insertionSort] at hmem
  obtain ⟨v, hv, hPv⟩ := Confined.loop hclosed _ (confined_searchStart hsrc) p hmem
  rw [hv, Option.some.injEq] at holt
  exact holt ▸ hPv

/-- The paths that a search finds end in its targets. -/
theorem Confined.loop_targets (fuel : Nat) : ∀ {st : OpticalSearch},
    Confined (fun _ ↦ True) st → (∀ p ∈ st.targetPaths, ∃ v ∈ olts, p.2.getLast? = some v) →
      ∀ p ∈ opticalSearchLoop edges olts src fuel st, ∃ v ∈ olts, p.2.getLast? = some v := by
  induction fuel with
  | zero => exact fun _ htargets ↦ htargets
  | succ fuel ih =>
    intro st h htargets
    rw [opticalSearchLoop_succ]
    cases hsort : st.heap.insertionSort (fun a b ↦ a.key ≤ b.key) with
    | nil => exact htargets
    | cons entry rest =>
      simp only []
      split
      · exact ih (h.pop hsort).2 htargets
      · refine ih (h.settle (fun _ _ _ _ ↦ trivial) hsort) ?_
        intro p hp
        unfold Status.settle at hp
        rw [foldl_relax_targetPaths] at hp
        split at hp
        · next hnode =>
          rcases List.mem_append.mp hp with hp | hp
          · exact htargets p hp
          · rw [List.mem_singleton] at hp
            exact ⟨entry.node, hnode.2, by rw [hp]; exact (h.pop hsort).1.2⟩
        · exact htargets p hp

/-- The nearest OLT is one of the OLTs. -/
theorem shortestOpticalOlt_mem {olt : String} (h : shortestOpticalOlt edges olts src = some olt) :
    olt ∈ olts := by
  rw [shortestOpticalOlt_eq (Nat.le_refl _)] at h
  obtain ⟨p, hp, holt⟩ := Option.bind_eq_some_iff.mp h
  have hmem := List.mem_of_mem_head? hp
  rw [List.mem_insertionSort] at hmem
  have htargets : ∀ p ∈ (searchStart src).targetPaths, ∃ v ∈ olts, p.2.getLast? = some v := by
    intro p hp
    cases hp
  obtain ⟨v, hv, hlast⟩ := Confined.loop_targets _ (confined_searchStart trivial) htargets p hmem
  rw [hlast, Option.some.injEq] at holt
  exact holt ▸ hv

private theorem shortestOpticalOlt_congr {P : String → Prop} {edges' : List (String × String)}
    {olts' : List String} (hclosed : ∀ a b, Adjacent edges a b → P a → P b)
    (hn : ∀ v, P v → neighbors edges' v = neighbors edges v)
    (ho : ∀ v, P v → (v ∈ olts' ↔ v ∈ olts)) (hsrc : P src) :
    shortestOpticalOlt edges' olts' src = shortestOpticalOlt edges olts src := by
  have hloop : ∀ fuel, opticalSearchLoop edges' olts' src fuel (searchStart src) =
      opticalSearchLoop edges olts src fuel (searchStart src) :=
    fun fuel ↦ Confined.loop_congr hclosed hn ho fuel (confined_searchStart hsrc)
  rw [shortestOpticalOlt_eq (Nat.le_max_left _ (searchPotential edges (searchStart src))),
    shortestOpticalOlt_eq (Nat.le_max_right (searchPotential edges' (searchStart src)) _), hloop]

end Search

/-! ### The logical graph -/

variable {t : Topology} {e : Edit} {X : String → Prop}

/-- A recorded edge belongs to a kept link between recorded devices. -/
theorem mem_recordEdges {ids : List String} {keep : LinkRecord → Bool} {links : List LinkRecord}
    {a b : String} :
    (a, b) ∈ recordEdges ids keep links ↔
      a ∈ ids ∧ b ∈ ids ∧ ∃ r ∈ links, keep r = true ∧ r.aDeviceId = a ∧ r.bDeviceId = b := by
  simp only [recordEdges, List.mem_map, List.mem_filter, decide_eq_true_eq, Prod.mk.injEq]
  constructor
  · rintro ⟨r, ⟨hr, hkeep, ha, hb⟩, rfl, rfl⟩
    exact ⟨ha, hb, r, hr, hkeep, rfl, rfl⟩
  · rintro ⟨ha, hb, r, hr, hkeep, rfl, rfl⟩
    exact ⟨r, ⟨hr, hkeep, ha, hb⟩, rfl, rfl⟩

/-- A collapsed edge leads from an ONT to its nearest OLT. -/
theorem mem_collapsedEdges {devices : List DeviceRecord} {links : List LinkRecord} {a b : String} :
    (a, b) ∈ collapsedEdges devices links ↔
      a ∈ recordIds ontClass devices ∧
        shortestOpticalOlt (opticalEdges devices links) (recordIds (· = .olt) devices) a =
          some b := by
  simp only [collapsedEdges, List.mem_filterMap, Option.map_eq_some_iff, Prod.mk.injEq]
  constructor
  · rintro ⟨ont, hont, olt, holt, rfl, rfl⟩
    exact ⟨hont, holt⟩
  · rintro ⟨hont, holt⟩
    exact ⟨a, hont, b, holt, rfl, rfl⟩

private theorem neighbors_congr {edges edges' : List (String × String)} {a : String}
    (h : ∀ b, Adjacent edges' a b ↔ Adjacent edges a b) : neighbors edges' a = neighbors edges a := by
  apply sortedSet_congr
  intro b
  exact mem_sortedSet.symm.trans ((mem_neighbors.trans (h b)).trans
    (mem_neighbors.symm.trans mem_sortedSet))

section Closed

variable (hclosed : ∀ a b, Adjacent (usableEdges t) a b → (X a ↔ X b))

include hclosed

private theorem recordEdges_closed {ids : List String} {keep : LinkRecord → Bool} {a b : String}
    (h : Adjacent (recordEdges ids keep (linkRecords t)) a b) : X a ↔ X b := by
  have hrecord : ∀ {a b}, (a, b) ∈ recordEdges ids keep (linkRecords t) → (X a ↔ X b) := by
    intro a b hab
    obtain ⟨_, _, r, hr, _, rfl, rfl⟩ := mem_recordEdges.mp hab
    exact hclosed _ _ (Or.inl (List.mem_map.mpr ⟨r, hr, rfl⟩))
  rcases h with h | h
  · exact hrecord h
  · exact (hrecord h).symm

private theorem collapsedEdges_closed {a b : String}
    (h : (a, b) ∈ collapsedEdges (deviceRecords t) (linkRecords t)) : X a ↔ X b := by
  obtain ⟨_, holt⟩ := mem_collapsedEdges.mp h
  constructor
  · intro ha
    exact shortestOpticalOlt_closed (fun _ _ hadj ↦ (recordEdges_closed hclosed hadj).mp) ha holt
  · intro hb
    by_contra ha
    -- The search from outside the set stays outside.
    exact shortestOpticalOlt_closed (P := fun v ↦ ¬ X v)
      (fun _ _ hadj hn hX ↦ hn ((recordEdges_closed hclosed hadj).mpr hX)) ha holt hb

/-- Logical edges never leave a set that usable links never leave. -/
theorem logicalEdges_closed {a b : String}
    (h : Adjacent (logicalEdges (deviceRecords t) (linkRecords t)) a b) : X a ↔ X b := by
  have hedge : ∀ {a b}, (a, b) ∈ logicalEdges (deviceRecords t) (linkRecords t) → (X a ↔ X b) := by
    intro a b hab
    rcases List.mem_append.mp hab with hab | hab
    · exact recordEdges_closed hclosed (Or.inl hab)
    · exact collapsedEdges_closed hclosed hab
  rcases h with h | h
  · exact hedge h
  · exact (hedge h).symm

/-- What a node of the set reaches is in the set. -/
theorem reaches_closed {a b : String}
    (h : Relation.ReflTransGen (Adjacent (logicalEdges (deviceRecords t) (linkRecords t))) a b)
    (hX : X a) : X b := by
  induction h with
  | refl => exact hX
  | tail _ hstep ih => exact (logicalEdges_closed hclosed hstep).mp ih

end Closed

namespace Undisturbed

variable (h : Undisturbed e t X)

include h

private theorem mem_recordEdges_iff {p : DeviceType → Bool} {keep : LinkRecord → Bool}
    {a b : String}
    (hX : X a ∨ X b) :
    (a, b) ∈ recordEdges (recordIds p (deviceRecords (e.apply t))) keep (linkRecords (e.apply t)) ↔
      (a, b) ∈ recordEdges (recordIds p (deviceRecords t)) keep (linkRecords t) := by
  have hboth : X a ∧ X b → ((a, b) ∈
      recordEdges (recordIds p (deviceRecords (e.apply t))) keep (linkRecords (e.apply t)) ↔
        (a, b) ∈ recordEdges (recordIds p (deviceRecords t)) keep (linkRecords t)) := by
    rintro ⟨ha, hb⟩
    rw [mem_recordEdges, mem_recordEdges, h.mem_recordIds ha, h.mem_recordIds hb]
    apply and_congr_right'
    apply and_congr_right'
    apply exists_congr
    intro r
    constructor
    · rintro ⟨hr, hrest⟩
      exact ⟨(h.mem_linkRecords (Or.inl (hrest.2.1 ▸ ha))).mp hr, hrest⟩
    · rintro ⟨hr, hrest⟩
      exact ⟨(h.mem_linkRecords (Or.inl (hrest.2.1 ▸ ha))).mpr hr, hrest⟩
  constructor
  · intro hab
    have hiff := recordEdges_closed h.after (Or.inl hab)
    exact (hboth (by tauto)).mp hab
  · intro hab
    have hiff := recordEdges_closed h.before (Or.inl hab)
    exact (hboth (by tauto)).mpr hab

/-- The optical neighbours of a node of the set are as before. -/
theorem opticalNeighbors_apply {a : String} (hX : X a) :
    neighbors (opticalEdges (deviceRecords (e.apply t)) (linkRecords (e.apply t))) a =
      neighbors (opticalEdges (deviceRecords t) (linkRecords t)) a := by
  apply neighbors_congr
  intro b
  exact or_congr (h.mem_recordEdges_iff (Or.inl hX)) (h.mem_recordEdges_iff (Or.inr hX))

private theorem mem_collapsedEdges_iff {a b : String} (hX : X a ∨ X b) :
    (a, b) ∈ collapsedEdges (deviceRecords (e.apply t)) (linkRecords (e.apply t)) ↔
      (a, b) ∈ collapsedEdges (deviceRecords t) (linkRecords t) := by
  have ha : X a → ((a, b) ∈ collapsedEdges (deviceRecords (e.apply t)) (linkRecords (e.apply t)) ↔
      (a, b) ∈ collapsedEdges (deviceRecords t) (linkRecords t)) := by
    intro ha
    have holt : shortestOpticalOlt
        (opticalEdges (deviceRecords (e.apply t)) (linkRecords (e.apply t)))
        (recordIds (· = .olt) (deviceRecords (e.apply t))) a =
          shortestOpticalOlt (opticalEdges (deviceRecords t) (linkRecords t))
            (recordIds (· = .olt) (deviceRecords t)) a :=
      shortestOpticalOlt_congr (fun _ _ hadj ↦ (recordEdges_closed h.before hadj).mp)
        (fun v hv ↦ h.opticalNeighbors_apply hv) (fun v hv ↦ h.mem_recordIds hv) ha
    rw [mem_collapsedEdges, mem_collapsedEdges, h.mem_recordIds ha, holt]
  constructor
  · intro hab
    have hiff := collapsedEdges_closed h.after hab
    exact (ha (by tauto)).mp hab
  · intro hab
    have hiff := collapsedEdges_closed h.before hab
    exact (ha (by tauto)).mpr hab

/-- The logical edges at a node of the set are as before. -/
theorem adjacent_logicalEdges {a b : String} (hX : X a) :
    Adjacent (logicalEdges (deviceRecords (e.apply t)) (linkRecords (e.apply t))) a b ↔
      Adjacent (logicalEdges (deviceRecords t) (linkRecords t)) a b := by
  have hedge : ∀ {a b}, X a ∨ X b →
      ((a, b) ∈ logicalEdges (deviceRecords (e.apply t)) (linkRecords (e.apply t)) ↔
        (a, b) ∈ logicalEdges (deviceRecords t) (linkRecords t)) := by
    intro a b hX
    unfold logicalEdges directEdges
    rw [List.mem_append, List.mem_append, h.mem_recordEdges_iff hX, h.mem_collapsedEdges_iff hX]
  exact or_congr (hedge (Or.inl hX)) (hedge (Or.inr hX))

/-- A device of the set reaches the same nodes as before. -/
theorem reaches_iff {a b : String} (hX : X a) :
    Relation.ReflTransGen
        (Adjacent (logicalEdges (deviceRecords (e.apply t)) (linkRecords (e.apply t)))) a b ↔
      Relation.ReflTransGen (Adjacent (logicalEdges (deviceRecords t) (linkRecords t))) a b := by
  constructor
  · intro hab
    induction hab with
    | refl => exact .refl
    | tail hpath hstep ih =>
      exact ih.tail ((h.adjacent_logicalEdges (reaches_closed h.after hpath hX)).mp hstep)
  · intro hab
    induction hab with
    | refl => exact .refl
    | tail hpath hstep ih =>
      exact ih.tail ((h.adjacent_logicalEdges (reaches_closed h.before hpath hX)).mpr hstep)

end Undisturbed

/-! ### Upstream connectivity -/

/-- There is a path exactly if edges lead from one end to the other. -/
theorem hasPath_iff {edges : List (String × String)} {a b : String} :
    hasPath edges a b = true ↔ Relation.ReflTransGen (Adjacent edges) a b := by
  simp [hasPath, mem_affectedIds]

/-- An access device has an upstream if it reaches a router that traces to an anchor. -/
theorem hasUpstream_access_iff {dev : DeviceView} (hrouter : routerClass dev.type = false) :
    (hasUpstreamL3OrAnchor t dev).ok = true ↔
      dev.id ∈ recordIds logicalActive (deviceRecords t) ∧
        ∃ r ∈ t.devices, r.forcedDown = false ∧ routerClass r.type = true ∧
          Relation.ReflTransGen (Adjacent (logicalEdges (deviceRecords t) (linkRecords t)))
            dev.id r.id ∧ (traceL3PathToAnchor t r).ok = true := by
  have hrouters : ((routerNodes t dev.id).any (fun r ↦
      ((t.getDevice r).map (fun d ↦ (traceL3PathToAnchor t d).ok)).getD false)) = true ↔
        ∃ r ∈ t.devices, r.forcedDown = false ∧ routerClass r.type = true ∧
          Relation.ReflTransGen (Adjacent (logicalEdges (deviceRecords t) (linkRecords t)))
            dev.id r.id ∧ (traceL3PathToAnchor t r).ok = true := by
    simp only [List.any_eq_true, routerNodes, List.mem_filter, mem_recordIds, hasPath_iff]
    constructor
    · rintro ⟨_, ⟨⟨r, hr, rfl, hup, hclass⟩, hpath⟩, htrace⟩
      rw [Topology.getDevice_eq_some.mpr ⟨hr, rfl⟩] at htrace
      exact ⟨r, hr, hup, hclass, hpath, htrace⟩
    · rintro ⟨r, hr, hup, hclass, hpath, htrace⟩
      refine ⟨r.id, ⟨⟨r, hr, rfl, hup, hclass⟩, hpath⟩, ?_⟩
      rw [Topology.getDevice_eq_some.mpr ⟨hr, rfl⟩]
      exact htrace
  rw [← hrouters]
  unfold hasUpstreamL3OrAnchor
  by_cases hid : dev.id ∈ recordIds logicalActive (deviceRecords t)
  · cases hnodes : routerNodes t dev.id with
    | nil => simp [hrouter, hid]
    | cons r rs =>
      simp only [hrouter, hid, not_true_eq_false, Bool.false_eq_true, if_false, true_and]
      split
      · next hany => simpa using hany
      · next hany => simpa using hany
  · simp [hrouter, hid]

/-- Away from the change the upstream check gives the same answer. -/
theorem Undisturbed.hasUpstream_apply (h : Undisturbed e t X) {dev : DeviceView}
    (hmem : dev ∈ t.devices) (hX : X dev.id) :
    (hasUpstreamL3OrAnchor (e.apply t) (e.device dev)).ok = (hasUpstreamL3OrAnchor t dev).ok := by
  cases hrouter : routerClass dev.type with
  | true => simp [hasUpstreamL3OrAnchor, hrouter, h.traceL3PathToAnchor_apply hmem hX]
  | false =>
    rw [Bool.eq_iff_iff, hasUpstream_access_iff hrouter,
      hasUpstream_access_iff (show routerClass (e.device dev).type = false from hrouter)]
    rw [Edit.device_id, h.mem_recordIds hX]
    apply and_congr_right'
    constructor
    · rintro ⟨_, hr', hup, hclass, hpath, htrace⟩
      obtain ⟨r, hr, rfl⟩ := List.mem_map.mp hr'
      have hXr : X r.id := reaches_closed h.after hpath hX
      refine ⟨r, hr, ?_, hclass, (h.reaches_iff hX).mp hpath, ?_⟩
      · rw [← h.device r hr hXr]
        exact hup
      · rw [← h.traceL3PathToAnchor_apply hr hXr]
        exact htrace
    · rintro ⟨r, hr, hup, hclass, hpath, htrace⟩
      have hXr : X r.id := reaches_closed h.before hpath hX
      refine ⟨e.device r, List.mem_map.mpr ⟨r, hr, rfl⟩, ?_, hclass, (h.reaches_iff hX).mpr hpath, ?_⟩
      · rw [h.device r hr hXr]
        exact hup
      · rw [h.traceL3PathToAnchor_apply hr hXr]
        exact htrace

end Unoc.Status
