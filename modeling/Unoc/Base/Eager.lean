import Mathlib.Data.List.Infix
import Mathlib.Data.Prod.Lex
import Unoc.Base.Dijkstra

/-!
# The walks that Dijkstra's algorithm keeps

Of several walks of least weight to a vertex the algorithm keeps the one whose last edge it relaxes
first. A walk is eager if it enters each of its vertices from a nearest one among the vertices that a
walk of least weight may enter it from, and from the first of these on the walk. A run keeps eager walks
only, and a queue that prefers the vertices of an eager walk keeps this one.
-/

namespace Unoc.Base.Dijkstra

/-! ### Eager walks -/

section Eager

variable {V W : Type} [AddCommMonoid W] [LE W]

/-- Walks of least weight that enter each vertex as early as possible. -/
inductive Eager (weight : V → V → Option W) (s : V) : List V → V → W → Prop
  | nil : Eager weight s [s] s 0
  | snoc {p : List V} {u v : V} {d w : W} : Eager weight s p u d → weight u v = some w → v ∉ p →
      (∀ x p' dx wx, Walk weight s p' x dx → weight x v = some wx → d + w ≤ dx + wx) →
      (∀ x p' dx wx, Walk weight s p' x dx → weight x v = some wx → dx + wx = d + w →
        d ≤ dx ∧ (x ∈ p → x = u)) →
      Eager weight s (p ++ [v]) v (d + w)

variable {weight : V → V → Option W} {s v : V} {p : List V} {d : W}

private theorem Eager.walk (h : Eager weight s p v d) : Walk weight s p v d := by
  induction h with
  | nil => exact .nil
  | snoc _ hw _ _ _ ih => exact ih.snoc hw

private theorem Eager.nodup (h : Eager weight s p v d) : p.Nodup := by
  induction h with
  | nil => exact List.nodup_singleton s
  | @snoc p u v d w _ _ hv _ _ ih =>
    rw [List.nodup_append]
    refine ⟨ih, List.nodup_singleton v, ?_⟩
    rintro x hx y hy rfl
    exact hv (List.mem_singleton.mp hy ▸ hx)

omit [LE W] in
/-- A walk contains its source. -/
theorem Walk.source_mem (h : Walk weight s p v d) : s ∈ p := by
  induction h with
  | nil => exact List.mem_singleton_self s
  | snoc _ _ ih => exact List.mem_append_left _ ih

end Eager

section Ordered

variable {V W : Type} [AddCommMonoid W] [LinearOrder W] [IsOrderedAddMonoid W]
  {weight : V → V → Option W} {s v : V} {p : List V} {d : W}

private theorem Walk.nonneg (hnonneg : NonnegFrom weight s) (h : Walk weight s p v d) : 0 ≤ d := by
  induction h with
  | nil => exact le_refl 0
  | snoc hpre hw ih => exact add_nonneg ih (hnonneg _ _ _ hpre _ _ hw)

/-- An eager walk has the least weight. -/
theorem Eager.shortest (hnonneg : NonnegFrom weight s) (h : Eager weight s p v d) :
    Shortest weight s p v d := by
  refine ⟨h.walk, h.nodup, ?_⟩
  intro p' d' hwalk
  cases h with
  | nil => exact hwalk.nonneg hnonneg
  | snoc hpre _ hv hleast _ =>
    cases hwalk with
    | nil => exact absurd hpre.walk.source_mem hv
    | snoc hpre' hw' => exact hleast _ _ _ _ hpre' hw'

end Ordered

variable {V W : Type} [DecidableEq V] [AddCommMonoid W] [LinearOrder W]
  {q : PriorityQueue V W} {weight : V → V → Option W} {s : V} {item : Item V W} {rest : q.Queue}
  {st : State q} {next : V → List V} {vertices : List V}

/-! ### The relaxations of a vertex -/

/-- The relaxations of a settled vertex keep the entry of a vertex or replace it by a better one over
the settled vertex. -/
theorem foldl_relax_entry (ns : List V) (v : V) : ∀ {st : State q}, item.node ∈ st.visited →
    (((ns.foldl (relax q weight item) st).distances.lookup v = st.distances.lookup v ∧
        (ns.foldl (relax q weight item) st).paths.lookup v = st.paths.lookup v) ∨
      ∃ w, v ∉ st.visited ∧ weight item.node v = some w ∧
        (∀ d, st.distances.lookup v = some d → item.distance + w < d) ∧
        (ns.foldl (relax q weight item) st).distances.lookup v = some (item.distance + w) ∧
        (ns.foldl (relax q weight item) st).paths.lookup v =
          some ((st.paths.lookup item.node).getD [] ++ [v])) := by
  induction ns with
  | nil => exact fun _ ↦ Or.inl ⟨rfl, rfl⟩
  | cons n ns ih =>
    intro st hvisited
    rw [List.foldl_cons]
    rcases relax_cases weight item st n with ⟨hr, _⟩ | ⟨w, hn, hw, himproves, hr⟩
    · rw [hr]
      exact ih hvisited
    · rw [hr]
      have hne : item.node ≠ n := fun heq ↦ hn (heq ▸ hvisited)
      have hitem : (st.paths.insert n ((st.paths.lookup item.node).getD [] ++ [n])).lookup item.node =
          st.paths.lookup item.node := AList.lookup_insert_ne hne
      rcases @ih { st with
          distances := st.distances.insert n (item.distance + w)
          paths := st.paths.insert n ((st.paths.lookup item.node).getD [] ++ [n])
          queue := q.push st.queue ⟨n, item.distance + w⟩ } hvisited with
        ⟨hd, hp⟩ | ⟨w', hv, hw', hbetter, hd, hp⟩
      · rw [hd, hp]
        by_cases hvn : v = n
        · subst hvn
          exact Or.inr ⟨w, hn, hw, himproves, AList.lookup_insert _, AList.lookup_insert _⟩
        · exact Or.inl ⟨AList.lookup_insert_ne hvn, AList.lookup_insert_ne hvn⟩
      · rw [hitem] at hp
        refine Or.inr ⟨w', hv, hw', ?_, hd, hp⟩
        by_cases hvn : v = n
        · subst hvn
          rw [hw', Option.some.injEq] at hw
          rw [hw]
          exact himproves
        · intro d hlookup
          exact hbetter d ((AList.lookup_insert_ne hvn).trans hlookup)

/-- The relaxations of a vertex queue its neighbours only. -/
theorem foldl_relax_items (ns : List V) : ∀ {st : State q},
    ∀ y ∈ q.items (ns.foldl (relax q weight item) st).queue, y ∈ q.items st.queue ∨
      ∃ w, weight item.node y.node = some w ∧ y.distance = item.distance + w := by
  induction ns with
  | nil => exact fun y hy ↦ Or.inl hy
  | cons n ns ih =>
    intro st y hy
    rw [List.foldl_cons] at hy
    rcases ih y hy with hmem | hnew
    · rcases relax_cases weight item st n with ⟨hr, _⟩ | ⟨w, _, hw, _, hr⟩
      · rw [hr] at hmem
        exact Or.inl hmem
      · rw [hr] at hmem
        rcases List.mem_cons.mp ((q.items_push _ _).mem_iff.mp hmem) with rfl | hmem
        · exact Or.inr ⟨w, hw, rfl⟩
        · exact Or.inl hmem
    · exact Or.inr hnew

/-! ### The order of settling -/

/-- A vertex has its path over the first settled vertex that gives it its distance; `before` are the
vertices that were settled before that one. -/
structure Entered (weight : V → V → Option W) (st : State q) (v : V) (d : W) (u : V) (before : List V) :
    Prop where
  settled : (u :: before) <:+ st.visited
  path : ∃ p, st.paths.lookup u = some p ∧ st.paths.lookup v = some (p ++ [v]) ∧
    ∀ x ∈ p, x ∈ u :: before
  edge : ∃ du w, st.distances.lookup u = some du ∧ weight u v = some w ∧ d = du + w
  first : ∀ y ∈ before, ∀ dy wy, st.distances.lookup y = some dy → weight y v = some wy →
    d < dy + wy

/-- What the list of settled vertices says between iterations. -/
structure History (weight : V → V → Option W) (s : V) (st : State q) : Prop where
  source : st.distances.lookup s = some 0 ∧ st.paths.lookup s = some [s]
  nodup : st.visited.Nodup
  sorted : st.visited.Pairwise (fun a b ↦ ∀ da db, st.distances.lookup a = some da →
    st.distances.lookup b = some db → db ≤ da)
  mono : ∀ u ∈ st.visited, ∀ d, st.distances.lookup u = some d → ∀ y ∈ q.items st.queue,
    d ≤ y.distance
  entered : ∀ v d, v ≠ s → st.distances.lookup v = some d →
    ∃ u before, Entered weight st v d u before

private theorem history_start : History weight s (start q s) := by
  refine ⟨⟨Dict.lookup_singleton.mpr ⟨rfl, rfl⟩, Dict.lookup_singleton.mpr ⟨rfl, rfl⟩⟩,
    List.nodup_nil, List.Pairwise.nil, ?_, ?_⟩
  · intro u hu
    cases hu
  · intro v d hv hd
    exact absurd (Dict.lookup_singleton.mp hd).1 hv

/-- The relaxations of a vertex leave the entries of settled vertices alone. -/
theorem foldl_relax_settled (ns : List V) {v : V} (hitem : item.node ∈ st.visited)
    (hv : v ∈ st.visited) :
    (ns.foldl (relax q weight item) st).distances.lookup v = st.distances.lookup v ∧
      (ns.foldl (relax q weight item) st).paths.lookup v = st.paths.lookup v := by
  rcases foldl_relax_entry ns v hitem with h | ⟨_, hnew, _⟩
  · exact h
  · exact absurd hv hnew

/-- More settled vertices do not change where a vertex is entered from. -/
theorem Entered.mono {st' : State q} {v u : V} {d : W} {before : List V}
    (h : Entered weight st v d u before) (hsuffix : st.visited <:+ st'.visited)
    (hsettled : ∀ x ∈ st.visited, st'.distances.lookup x = st.distances.lookup x ∧
      st'.paths.lookup x = st.paths.lookup x)
    (hpath : st'.paths.lookup v = st.paths.lookup v) : Entered weight st' v d u before := by
  have hmem : ∀ x ∈ u :: before, x ∈ st.visited := fun x hx ↦ h.settled.subset hx
  obtain ⟨p, hp, hpv, hsub⟩ := h.path
  obtain ⟨du, w, hdu, hw, hd⟩ := h.edge
  obtain ⟨hdist, hpaths⟩ := hsettled u (hmem u List.mem_cons_self)
  refine ⟨h.settled.trans hsuffix, ⟨p, hpaths.trans hp, hpath.trans hpv, hsub⟩,
    ⟨du, w, hdist.trans hdu, hw, hd⟩, ?_⟩
  intro y hy dy wy hdy hwy
  rw [(hsettled y (hmem y (List.mem_cons_of_mem u hy))).1] at hdy
  exact h.first y hy dy wy hdy hwy

section Steps

variable (h : Inv weight s (fun _ _ ↦ False) st) (hist : History weight s st)
  (hpop : q.pop st.queue = some (item, rest))

include hist hpop

private theorem History.skip : History weight s { st with queue := rest } := by
  obtain ⟨hperm, _⟩ := q.pop_some _ _ _ hpop
  refine ⟨hist.source, hist.nodup, hist.sorted, ?_, ?_⟩
  · intro u hu d hd y hy
    exact hist.mono u hu d hd y (hperm.mem_iff.mpr (List.mem_cons_of_mem _ hy))
  · intro v d hv hd
    obtain ⟨u, before, hentered⟩ := hist.entered v d hv hd
    exact ⟨u, before, hentered.mono (List.suffix_refl _) (fun _ _ ↦ ⟨rfl, rfl⟩) rfl⟩

include h

omit hist in
/-- A vertex that a relaxation improves is entered from the popped vertex. -/
theorem entered_of_improved (hvisited : item.node ∉ st.visited) {st' : State q}
    (hsettled : ∀ x ∈ item.node :: st.visited, st'.distances.lookup x = st.distances.lookup x ∧
      st'.paths.lookup x = st.paths.lookup x)
    (hst : st'.visited = item.node :: st.visited) {v : V} {w : W} (hv : v ∉ st.visited)
    (hw : weight item.node v = some w)
    (hbetter : ∀ d, st.distances.lookup v = some d → item.distance + w < d)
    (hpath : st'.paths.lookup v = some ((st.paths.lookup item.node).getD [] ++ [v])) :
    Entered weight st' v (item.distance + w) item.node st.visited := by
  have hdist := h.pop_distance hpop hvisited
  obtain ⟨p, hp, _, _, hmem⟩ := h.walk _ _ hdist
  obtain ⟨hdist', hpath'⟩ := hsettled item.node List.mem_cons_self
  rw [hp] at hpath
  refine ⟨hst ▸ List.suffix_refl _, ⟨p, hpath'.trans hp, hpath, ?_⟩,
    ⟨item.distance, w, hdist'.trans hdist, hw, rfl⟩, ?_⟩
  · intro x hx
    rcases hmem x hx with rfl | hx
    · exact List.mem_cons_self
    · exact List.mem_cons_of_mem _ hx
  · -- an earlier vertex gave `v` a distance already, which was improved
    intro y hy dy wy hdy hwy
    rw [(hsettled y (List.mem_cons_of_mem _ hy)).1] at hdy
    rcases h.relaxed y hy dy hdy v wy hwy (fun hp ↦ hp) with hvis | ⟨d, hd, hle⟩
    · exact absurd hvis hv
    · exact (hbetter d hd).trans_le hle

variable [IsOrderedAddMonoid W] (hnonneg : NonnegFrom weight s)

include hnonneg

/-- Settling a vertex continues the history. -/
theorem History.settle (hvisited : item.node ∉ st.visited) :
    History weight s ((next item.node).foldl (relax q weight item) (mark q item rest st)) := by
  obtain ⟨hperm, hmin⟩ := q.pop_some _ _ _ hpop
  have hdist := h.pop_distance hpop hvisited
  obtain ⟨p, hp, hwalk, _, _⟩ := h.walk _ _ hdist
  have hitem : item.node ∈ (mark q item rest st).visited := List.mem_cons_self
  have hst : ((next item.node).foldl (relax q weight item) (mark q item rest st)).visited =
      item.node :: st.visited := foldl_relax_visited _
  have hsettled : ∀ x ∈ item.node :: st.visited,
      ((next item.node).foldl (relax q weight item) (mark q item rest st)).distances.lookup x =
          st.distances.lookup x ∧
        ((next item.node).foldl (relax q weight item) (mark q item rest st)).paths.lookup x =
          st.paths.lookup x :=
    fun x hx ↦ foldl_relax_settled (next item.node) hitem hx
  have hfurthest : ∀ u ∈ st.visited, ∀ d, st.distances.lookup u = some d → d ≤ item.distance :=
    fun u hu d hd ↦ hist.mono u hu d hd item (hperm.mem_iff.mpr List.mem_cons_self)
  constructor
  · rcases foldl_relax_entry (next item.node) s hitem with ⟨hd, hp⟩ | ⟨w, _, hw, hbetter, _⟩
    · exact ⟨hd.trans hist.source.1, hp.trans hist.source.2⟩
    · exact absurd (hbetter 0 hist.source.1) (not_lt.mpr ((hwalk.snoc hw).nonneg hnonneg))
  · rw [hst]
    exact List.nodup_cons.mpr ⟨hvisited, hist.nodup⟩
  · rw [hst, List.pairwise_cons]
    constructor
    · intro u hu da db hda hdb
      rw [(hsettled _ List.mem_cons_self).1] at hda
      rw [(hsettled u (List.mem_cons_of_mem _ hu)).1] at hdb
      obtain rfl : item.distance = da := Option.some.inj (hdist.symm.trans hda)
      exact hfurthest u hu db hdb
    · refine hist.sorted.imp_of_mem ?_
      intro a b ha hb hab da db hda hdb
      rw [(hsettled a (List.mem_cons_of_mem _ ha)).1] at hda
      rw [(hsettled b (List.mem_cons_of_mem _ hb)).1] at hdb
      exact hab da db hda hdb
  · intro u hu d hd y hy
    rw [hst] at hu
    rw [(hsettled u hu).1] at hd
    have hle : d ≤ item.distance := by
      rcases List.mem_cons.mp hu with rfl | hu
      · exact (Option.some.inj (hdist.symm.trans hd)).ge
      · exact hfurthest u hu d hd
    rcases foldl_relax_items _ y hy with hrest | ⟨w, hw, hy⟩
    · exact hle.trans (hmin y (hperm.mem_iff.mpr (List.mem_cons_of_mem _ hrest)))
    · rw [hy]
      exact hle.trans (le_add_of_nonneg_right (hnonneg _ _ _ hwalk _ _ hw))
  · intro v d hv hd
    rcases foldl_relax_entry (next item.node) v hitem with
      ⟨hd', hp'⟩ | ⟨w, hnew, hw, hbetter, hd', hp'⟩
    · obtain ⟨u, before, hentered⟩ := hist.entered v d hv (hd'.symm.trans hd)
      refine ⟨u, before, hentered.mono ?_ ?_ hp'⟩
      · rw [hst]
        exact List.suffix_cons _ _
      · exact fun x hx ↦ hsettled x (List.mem_cons_of_mem _ hx)
    · obtain rfl : item.distance + w = d := Option.some.inj (hd'.symm.trans hd)
      exact ⟨item.node, st.visited, entered_of_improved h hpop hvisited hsettled hst
        (fun hmem ↦ hnew (List.mem_cons_of_mem _ hmem)) hw hbetter hp'⟩

end Steps

/-! ### Whole runs -/

section Run

variable [IsOrderedAddMonoid W] (hnonneg : NonnegFrom weight s)
  (hnext : ∀ u v w, weight u v = some w → v ∈ next u)

include hnonneg hnext

/-- What iterations preserve holds at the end. -/
theorem loop_induction {P : State q → Prop}
    (hskip : ∀ st item rest, P st → q.pop st.queue = some (item, rest) → item.node ∈ st.visited →
      P { st with queue := rest })
    (hsettle : ∀ st item rest, Inv weight s (fun _ _ ↦ False) st → P st →
      q.pop st.queue = some (item, rest) → item.node ∉ st.visited →
        P ((next item.node).foldl (relax q weight item) (mark q item rest st))) (fuel : Nat) :
    ∀ {st : State q}, Inv weight s (fun _ _ ↦ False) st → P st → P (loop q weight next fuel st) := by
  induction fuel with
  | zero => exact fun _ hP ↦ hP
  | succ fuel ih =>
    intro st h hP
    unfold loop
    cases hpop : q.pop st.queue with
    | none => exact hP
    | some popped =>
      obtain ⟨item, rest⟩ := popped
      simp only []
      split
      · next hvisited => exact ih (h.skip hpop hvisited) (hskip _ _ _ hP hpop hvisited)
      · next hvisited =>
        exact ih (h.settle hnonneg hpop hvisited hnext) (hsettle _ _ _ h hP hpop hvisited)

private theorem history_run : History weight s (run q weight next vertices s) :=
  loop_induction hnonneg hnext (fun _ _ _ hist hpop _ ↦ hist.skip hpop)
    (fun _ _ _ h hist hpop hvisited ↦ hist.settle h hpop hnonneg hvisited) _ inv_start history_start

variable (hnodup : vertices.Nodup) (hout : ∀ v, v ∉ vertices → next v = [])

include hnodup hout

/-- Whatever a walk of least weight may enter a vertex from is at least as far as the vertex that it is
entered from, and is not on the path to that one. -/
theorem Entered.least {v u : V} {d : W} {before : List V}
    (h : Entered weight (run q weight next vertices s) v d u before)
    (hd : (run q weight next vertices s).distances.lookup v = some d) {x : V} {p' : List V} {dx wx : W}
    (hwalk : Walk weight s p' x dx) (hwx : weight x v = some wx) :
    d ≤ dx + wx ∧ (dx + wx = d → x ∉ before ∧
      ∀ du, (run q weight next vertices s).distances.lookup u = some du → du ≤ dx) := by
  have hsolution : Solution weight s (run q weight next vertices s).distances _ :=
    run_solution hnonneg hnext hnodup hout
  obtain ⟨_, _, hshort⟩ := hsolution.sound v d hd
  refine ⟨hshort.least _ _ (hwalk.snoc hwx), ?_⟩
  intro htight
  obtain ⟨dx', hdx'⟩ := hsolution.complete _ _ _ hwalk
  obtain ⟨_, _, hshort'⟩ := hsolution.sound x dx' hdx'
  have hle : dx' ≤ dx := hshort'.least _ _ hwalk
  have hbefore : x ∉ before := by
    intro hmem
    have hlt : d < dx' + wx := h.first x hmem dx' wx hdx' hwx
    exact absurd (add_le_add_left hle wx) (not_le.mpr (htight ▸ hlt))
  refine ⟨hbefore, ?_⟩
  intro du hdu
  -- `x` is `u` or was settled after it
  obtain ⟨after, hvisited⟩ := h.settled
  have hx := mem_visited_run hnonneg hnext hnodup hout hdx'
  rw [← hvisited, List.mem_append, List.mem_cons] at hx
  rcases hx with hx | rfl | hx
  · have hhistory : History weight s (run q weight next vertices s) := history_run hnonneg hnext
    have hsorted := hhistory.sorted
    rw [← hvisited, List.pairwise_append] at hsorted
    exact (hsorted.2.2 x hx u List.mem_cons_self dx' du hdx' hdu).trans hle
  · exact (Option.some.inj (hdu.symm.trans hdx')).le.trans hle
  · exact absurd hx hbefore

/-- A run keeps eager walks. -/
theorem run_eager {v : V} {d : W} (hd : (run q weight next vertices s).distances.lookup v = some d) :
    ∃ p, (run q weight next vertices s).paths.lookup v = some p ∧ Eager weight s p v d := by
  have hsolution : Solution weight s (run q weight next vertices s).distances _ :=
    run_solution hnonneg hnext hnodup hout
  have hist : History weight s (run q weight next vertices s) := history_run hnonneg hnext
  -- by the length of the path
  have hlength : ∀ n v d p, (run q weight next vertices s).distances.lookup v = some d →
      (run q weight next vertices s).paths.lookup v = some p → p.length = n →
        Eager weight s p v d := by
    intro n
    induction n with
    | zero =>
      intro v d p hd hp hlen
      obtain ⟨p', hp', hshort⟩ := hsolution.sound v d hd
      obtain rfl : p = p' := Option.some.inj (hp.symm.trans hp')
      exact absurd (List.length_eq_zero_iff.mp hlen) hshort.walk.ne_nil
    | succ n ih =>
      intro v d p hd hp hlen
      obtain ⟨p', hp', hshort⟩ := hsolution.sound v d hd
      obtain rfl : p = p' := Option.some.inj (hp.symm.trans hp')
      by_cases hv : v = s
      · subst hv
        obtain rfl : d = 0 := Option.some.inj (hd.symm.trans hist.source.1)
        obtain rfl : p = [v] := Option.some.inj (hp.symm.trans hist.source.2)
        exact .nil
      · obtain ⟨u, before, hentered⟩ := hist.entered v d hv hd
        obtain ⟨pu, hpu, hpv, hmem⟩ := hentered.path
        obtain ⟨du, w, hdu, hw, rfl⟩ := hentered.edge
        obtain rfl : p = pu ++ [v] := Option.some.inj (hp.symm.trans hpv)
        have hu : Eager weight s pu u du := ih u du pu hdu hpu (by simpa using hlen)
        have hnew : v ∉ pu := by
          have hsimple := hshort.simple
          rw [List.nodup_append] at hsimple
          exact fun hv ↦ hsimple.2.2 v hv v (List.mem_singleton_self v) rfl
        refine hu.snoc hw hnew (fun x p' dx wx hwalk hwx ↦ ?_) (fun x p' dx wx hwalk hwx htight ↦ ?_)
        · exact (hentered.least hnonneg hnext hnodup hout hd hwalk hwx).1
        · obtain ⟨hx, hle⟩ := (hentered.least hnonneg hnext hnodup hout hd hwalk hwx).2 htight
          exact ⟨hle du hdu, fun hxp ↦ (List.mem_cons.mp (hmem x hxp)).resolve_right hx⟩
  obtain ⟨p, hp, _⟩ := hsolution.sound v d hd
  exact ⟨p, hp, hlength p.length v d p hd hp rfl⟩

end Run

/-! ### A queue that prefers a walk -/

private theorem items_nil (V W : Type) : id ([] : List (Item V W)) = [] := rfl

private theorem items_cons (V W : Type) (xs : List (Item V W)) (x : Item V W) :
    (id (x :: xs)).Perm (x :: id xs) := .refl _

/-- A list as a priority queue that prefers lower ranks among items of one distance. -/
def rankedQueue (W : Type) [LinearOrder W] (rank : V → Nat) : PriorityQueue V W where
  Queue := List (Item V W)
  items := id
  empty := []
  push := fun xs x ↦ x :: xs
  pop := fun xs ↦
    match xs.insertionSort (fun x y ↦
      toLex (x.distance, rank x.node) ≤ toLex (y.distance, rank y.node)) with
    | x :: rest => some (x, rest)
    | [] => none
  items_empty := items_nil V W
  items_push := items_cons V W
  pop_none := by
    intro xs h
    have hperm := List.perm_insertionSort (fun x y : Item V W ↦
      toLex (x.distance, rank x.node) ≤ toLex (y.distance, rank y.node)) xs
    split at h
    · cases h
    · next hsort => exact (hsort ▸ hperm).symm.eq_nil
  pop_some := by
    intro xs x rest h
    have hperm := List.perm_insertionSort (fun x y : Item V W ↦
      toLex (x.distance, rank x.node) ≤ toLex (y.distance, rank y.node)) xs
    split at h
    · next x' rest' hsort =>
      simp only [Option.some.injEq, Prod.mk.injEq] at h
      obtain ⟨rfl, rfl⟩ := h
      refine ⟨(hsort ▸ hperm).symm, fun y hy ↦ ?_⟩
      rcases Prod.Lex.toLex_le_toLex.mp (le_of_insertionSort hsort hy) with hlt | heq
      · exact hlt.le
      · exact heq.1.le
    · cases h

omit [DecidableEq V] [AddCommMonoid W] in
/-- Among items of its distance, the popped one has the least rank. -/
theorem rankedQueue_pop {rank : V → Nat} {xs rest : List (Item V W)} {x y : Item V W}
    (h : (rankedQueue W rank).pop xs = some (x, rest)) (hy : y ∈ xs)
    (hdistance : y.distance ≤ x.distance) : rank x.node ≤ rank y.node := by
  simp only [rankedQueue] at h
  split at h
  · next x' rest' hsort =>
    simp only [Option.some.injEq, Prod.mk.injEq] at h
    obtain ⟨rfl, rfl⟩ := h
    rcases Prod.Lex.toLex_le_toLex.mp (le_of_insertionSort hsort hy) with hlt | heq
    · exact absurd hdistance (not_le.mpr hlt)
    · exact heq.2
  · cases h

omit [AddCommMonoid W] [LinearOrder W] in
/-- The vertices of a prefix are those of lower positions. -/
theorem mem_prefix_iff {p p₀ : List V} (h : p <+: p₀) (x : V) :
    x ∈ p ↔ p₀.idxOf x < p.length := by
  obtain ⟨t, rfl⟩ := h
  rw [List.idxOf_append]
  by_cases hx : x ∈ p
  · rw [if_pos hx]
    exact iff_of_true hx (List.idxOf_lt_length_of_mem hx)
  · rw [if_neg hx]
    exact iff_of_false hx (by omega)

section Prefer

variable {p₀ : List V}

/-- While a vertex of the walk waits, only vertices before it are settled at its distance or beyond. -/
def Prefers (weight : V → V → Option W) (s : V) (p₀ : List V) (st : State q) : Prop :=
  ∀ x before, (x :: before) <:+ st.visited → ∀ dx, st.distances.lookup x = some dx →
    ∀ p u d, Eager weight s p u d → p <+: p₀ → u ∉ x :: before → d ≤ dx → x ∈ p

variable [IsOrderedAddMonoid W] (hnonneg : NonnegFrom weight s)
  (h : Inv weight s (fun _ _ ↦ False) st)

include hnonneg h

/-- Before an eager walk ends at a settled vertex, one of its vertices waits with its distance. -/
theorem Inv.exists_waiting (hist : History weight s st) {p : List V} {u : V} {d : W}
    (hwalk : Eager weight s p u d) (hu : u ∉ st.visited) :
    ∃ p' u' d', u' ∈ p' ∧ p' <+: p ∧ ⟨u', d'⟩ ∈ q.items st.queue ∧ d' ≤ d := by
  induction hwalk with
  | nil =>
    have hqueued := (h.queued s 0 hist.source.1).resolve_left hu
    exact ⟨[s], s, 0, List.mem_singleton_self s, List.prefix_refl _, hqueued, le_refl 0⟩
  | @snoc p x v d w hpre hw hv hleast hfirst ih =>
    by_cases hx : x ∈ st.visited
    · obtain ⟨dx, hdx, hdle⟩ := h.settled x hx
      obtain ⟨dv, hdv, hle⟩ := (h.relaxed x hx dx hdx v w hw (fun hp ↦ hp)).resolve_left hu
      have hqueued := (h.queued v dv hdv).resolve_left hu
      refine ⟨p ++ [v], v, dv, by simp, List.prefix_refl _, hqueued, hle.trans ?_⟩
      exact add_le_add_left (hdle p d hpre.walk) w
    · obtain ⟨p', u', d', hmem, hprefix, hqueued, hle⟩ := ih hx
      refine ⟨p', u', d', hmem, hprefix.trans (List.prefix_append p [v]), hqueued, hle.trans ?_⟩
      exact le_add_of_nonneg_right (hnonneg _ _ _ hpre.walk _ _ hw)

end Prefer

section Ranked

variable {p₀ : List V} {st : State (rankedQueue W p₀.idxOf)} {item : Item V W}
  {rest : (rankedQueue W p₀.idxOf).Queue}

private theorem prefers_start :
    Prefers weight s p₀ (start (rankedQueue W p₀.idxOf) s) := by
  intro x before hsuffix
  have hnil := List.suffix_nil.mp hsuffix
  cases hnil

variable [IsOrderedAddMonoid W] (hnonneg : NonnegFrom weight s)
  (hnext : ∀ u v w, weight u v = some w → v ∈ next u)

include hnonneg

private theorem Prefers.settle (h : Inv weight s (fun _ _ ↦ False) st) (hist : History weight s st)
    (hprefers : Prefers weight s p₀ st)
    (hpop : (rankedQueue W p₀.idxOf).pop st.queue = some (item, rest))
    (hvisited : item.node ∉ st.visited) :
    Prefers weight s p₀ ((next item.node).foldl (relax _ weight item) (mark _ item rest st)) := by
  have hdist := h.pop_distance hpop hvisited
  have hitem : item.node ∈ (mark _ item rest st).visited := List.mem_cons_self
  have hsettled : ∀ x ∈ item.node :: st.visited,
      ((next item.node).foldl (relax _ weight item) (mark _ item rest st)).distances.lookup x =
        st.distances.lookup x :=
    fun x hx ↦ (foldl_relax_settled (next item.node) hitem hx).1
  intro x before hsuffix dx hdx p u d hwalk hprefix hu hle
  rw [foldl_relax_visited] at hsuffix
  rw [hsettled x (hsuffix.subset List.mem_cons_self)] at hdx
  rcases List.suffix_cons_iff.mp hsuffix with heq | hsuffix
  · -- the popped vertex is on the walk up to the first vertex that waits
    obtain ⟨rfl, rfl⟩ := List.cons.inj heq
    obtain rfl : item.distance = dx := Option.some.inj (hdist.symm.trans hdx)
    obtain ⟨p', u', d', hmem, hprefix', hqueued, hle'⟩ :=
      h.exists_waiting hnonneg hist hwalk (fun hmem ↦ hu (List.mem_cons_of_mem _ hmem))
    have hrank : p₀.idxOf item.node ≤ p₀.idxOf u' := rankedQueue_pop hpop hqueued (hle'.trans hle)
    have hu' : p₀.idxOf u' < p.length := (mem_prefix_iff hprefix u').mp (hprefix'.subset hmem)
    exact (mem_prefix_iff hprefix _).mpr (hrank.trans_lt hu')
  · exact hprefers x before hsuffix dx hdx p u d hwalk hprefix hu hle

include hnext

private theorem prefers_run : Prefers weight s p₀
    (run (rankedQueue W p₀.idxOf) weight next vertices s) := by
  have hboth : History weight s (run (rankedQueue W p₀.idxOf) weight next vertices s) ∧
      Prefers weight s p₀ (run (rankedQueue W p₀.idxOf) weight next vertices s) := by
    refine loop_induction hnonneg hnext (P := fun st ↦ History weight s st ∧ Prefers weight s p₀ st)
      ?_ ?_ _ inv_start ⟨history_start, prefers_start⟩
    · intro st item rest hP hpop _
      exact ⟨hP.1.skip hpop, hP.2⟩
    · intro st item rest h hP hpop hvisited
      exact ⟨hP.1.settle h hpop hnonneg hvisited, hP.2.settle hnonneg h hP.1 hpop hvisited⟩
  exact hboth.2

/-- A queue that prefers the vertices of an eager walk keeps this walk. -/
theorem run_ranked (hnodup : vertices.Nodup) (hout : ∀ v, v ∉ vertices → next v = []) {v : V} {d : W}
    (hwalk : Eager weight s p₀ v d) :
    (run (rankedQueue W p₀.idxOf) weight next vertices s).paths.lookup v = some p₀ := by
  have hsolution : Solution weight s
      (run (rankedQueue W p₀.idxOf) weight next vertices s).distances _ :=
    run_solution hnonneg hnext hnodup hout
  have hist : History weight s (run (rankedQueue W p₀.idxOf) weight next vertices s) :=
    history_run hnonneg hnext
  have hdistance : ∀ p v d, Eager weight s p v d →
      (run (rankedQueue W p₀.idxOf) weight next vertices s).distances.lookup v = some d := by
    intro p v d hwalk
    obtain ⟨d', hd'⟩ := hsolution.complete _ _ _ hwalk.walk
    obtain ⟨_, _, hshort⟩ := hsolution.sound v d' hd'
    rw [hd', hshort.unique (hwalk.shortest hnonneg)]
  have hprefix : ∀ p v d, Eager weight s p v d → p <+: p₀ →
      (run (rankedQueue W p₀.idxOf) weight next vertices s).paths.lookup v = some p := by
    intro p v d hwalk
    induction hwalk with
    | nil => exact fun _ ↦ hist.source.2
    | @snoc p u v d w hpre hw hv hleast hfirst ih =>
      intro hprefix
      have hd := hdistance _ _ _ (hpre.snoc hw hv hleast hfirst)
      have hdu := hdistance _ _ _ hpre
      have hpu := ih ((List.prefix_append p [v]).trans hprefix)
      have hvs : v ≠ s := fun heq ↦ hv (heq ▸ hpre.walk.source_mem)
      obtain ⟨x, before, hentered⟩ := hist.entered v _ hvs hd
      obtain ⟨px, hpx, hpv, _⟩ := hentered.path
      obtain ⟨dx, wx, hdx, hwx, htight⟩ := hentered.edge
      obtain ⟨p', _, hshort⟩ := hsolution.sound x dx hdx
      obtain ⟨hnear, honly⟩ := hfirst x p' dx wx hshort.walk hwx htight.symm
      -- `u` is not settled before `x`, so `x` is on the walk to `u`
      have hu : u ∉ before :=
        ((hentered.least hnonneg hnext hnodup hout hd hpre.walk hw).2 rfl).1
      have hxu : x = u := by
        by_contra hne
        refine hne (honly ?_)
        exact prefers_run hnonneg hnext x before hentered.settled dx hdx p u d hpre
          ((List.prefix_append p [v]).trans hprefix)
          (fun hmem ↦ (List.mem_cons.mp hmem).elim (fun heq ↦ hne heq.symm) hu) hnear
      subst hxu
      rw [hpv, Option.some.inj (hpx.symm.trans hpu)]
  exact hprefix p₀ v d hwalk (List.prefix_refl p₀)

end Ranked

end Unoc.Base.Dijkstra
