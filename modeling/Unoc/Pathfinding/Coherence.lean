import Unoc.Optical.Agreement
import Unoc.Pathfinding.Store

/-!
# Coherence of the caches

A cached value is coherent if it is what the current database gives. Values that carry the version
of their rows are coherent as long as their version is current. The graphs of the store and the
memo carry none: they are coherent in runs where nobody fills them, outside the time between a
commit and its bump, from anything but the current rows.
-/

namespace Unoc.Pathfinding

open Unoc.Base Unoc.Model Unoc.Status Unoc.Optical

/-- The optical graph of a database. -/
def opticalGraph (db : Database) : PathResolver.Graph :=
  PathResolver.buildOpticalGraph (opticalRecords db).devices (opticalRecords db).links

/-- The logical graph of a database. -/
def logicalGraph (db : Database) (relaxed : Bool) : LogicalGraph :=
  buildLogicalGraph (collectDevicesLinks db).toRecords relaxed

/-- The snapshot of a database. -/
def snapshot (db : Database) : Snapshot := ⟨collectDevicesLinks db, logicalGraph db false⟩

/-- On its own graph and with all lookups in one database, resolution is `resolve_optical_path`. -/
theorem resolveOn_eq (nx : PathResolver.SingleSourceDijkstra) (db : Database) (ontId : String) :
    resolveOn nx (fun _ ↦ db) (opticalGraph db) ontId =
      PathResolver.resolveOpticalPath nx db ontId := rfl

/-- What the store would return and what is memoised is what the database gives. -/
structure Coherent (nx : PathResolver.SingleSourceDijkstra) (s : State) : Prop where
  optical : ∀ g, s.store.opticalGraph = some g → g = opticalGraph s.db
  logical : ∀ g relaxed, s.store.logicalGraph = some g →
    s.store.relaxedFlagForLogical = some relaxed → g = logicalGraph s.db relaxed
  memo : ∀ ontId r, s.memo.lookup ontId = some r →
    r = PathResolver.resolveOpticalPath nx s.db ontId

/-- Coherence is about the database, the store and the memo only. -/
theorem Coherent.of_eq {nx : PathResolver.SingleSourceDijkstra} {s s' : State} (h : Coherent nx s)
    (hdb : s'.db = s.db) (hstore : s'.store = s.store) (hmemo : s'.memo = s.memo) :
    Coherent nx s' := by
  constructor
  · rw [hstore, hdb]
    exact h.optical
  · rw [hstore, hdb]
    exact h.logical
  · rw [hmemo, hdb]
    exact h.memo

/-! ### Values with a version -/

/-- What a value with version `v` says about the database, as long as the version is current and no
writer stands between commit and bump. -/
def Tagged (s : State) (v : Int) (P : Database → Prop) : Prop :=
  v ≤ s.store.topoVersion ∧ (v = s.store.topoVersion → s.pending = 0 → P s.db)

/-- A step raises the version, or keeps it and has no commit that is not pending. -/
def Advances (s s' : State) : Prop :=
  s.store.topoVersion < s'.store.topoVersion ∨
    s'.store.topoVersion = s.store.topoVersion ∧
      (s'.pending = 0 → s.pending = 0 ∧ s'.db = s.db)

private theorem Advances.of_eq {s s' : State}
    (hversion : s'.store.topoVersion = s.store.topoVersion)
    (hpending : s'.pending = s.pending) (hdb : s'.db = s.db) : Advances s s' :=
  Or.inr ⟨hversion, fun h ↦ ⟨hpending ▸ h, hdb⟩⟩

private theorem Advances.le {s s' : State} (h : Advances s s') :
    s.store.topoVersion ≤ s'.store.topoVersion := by
  rcases h with h | ⟨h, _⟩ <;> omega

private theorem Tagged.advance {s s' : State} {v : Int} {P : Database → Prop} (h : Tagged s v P)
    (hadv : Advances s s') : Tagged s' v P := by
  obtain ⟨hle, hP⟩ := h
  rcases hadv with hlt | ⟨hsame, hquiet⟩
  · exact ⟨by omega, fun hv ↦ by omega⟩
  · refine ⟨by omega, ?_⟩
    intro hv hpending
    obtain ⟨hp, hdb⟩ := hquiet hpending
    rw [hdb]
    exact hP (by omega) hp

/-- What is read now is tagged with any earlier version. -/
theorem Tagged.now {s : State} {v : Int} {P : Database → Prop} (hle : v ≤ s.store.topoVersion)
    (hP : P s.db) : Tagged s v P :=
  ⟨hle, fun _ _ ↦ hP⟩

/-! ### The store -/

/-- `get_logical_graph` would build the graph. -/
def PathfindingStore.MissesLogical (store : PathfindingStore) (relaxed : Bool) : Prop :=
  store.logicalGraph = none ∨ store.relaxedFlagForLogical ≠ some relaxed

/-- The store returns the graph that it has, or builds one from the records. -/
theorem getOpticalGraph_cases (store : PathfindingStore) (records : Records) :
    (∃ g, store.opticalGraph = some g ∧ store.getOpticalGraph records = (store, g)) ∨
      store.opticalGraph = none ∧ (store.getOpticalGraph records).1 =
        { store with
          opticalGraph := some (PathResolver.buildOpticalGraph records.devices records.links) } := by
  unfold PathfindingStore.getOpticalGraph
  cases hg : store.opticalGraph with
  | some g => exact Or.inl ⟨g, rfl, rfl⟩
  | none => exact Or.inr ⟨rfl, rfl⟩

/-- A logical graph is served from the store or built and kept. -/
theorem getLogicalGraph_cases (store : PathfindingStore) (records : Records) (relaxed : Bool) :
    (∃ g, store.logicalGraph = some g ∧ store.relaxedFlagForLogical = some relaxed ∧
        store.getLogicalGraph records relaxed = (store, g)) ∨
      store.MissesLogical relaxed ∧ store.getLogicalGraph records relaxed =
        ({ store with
            logicalGraph := some (buildLogicalGraph records relaxed)
            relaxedFlagForLogical := some relaxed },
          buildLogicalGraph records relaxed) := by
  unfold PathfindingStore.getLogicalGraph PathfindingStore.MissesLogical
  cases hg : store.logicalGraph with
  | none => exact Or.inr ⟨Or.inl rfl, rfl⟩
  | some g =>
    by_cases hflag : store.relaxedFlagForLogical = some relaxed
    · exact Or.inl ⟨g, rfl, hflag, if_pos hflag⟩
    · exact Or.inr ⟨Or.inr hflag, if_neg hflag⟩

/-! ### Fills from current rows -/

/-- A thread that fills a cache, while no writer stands between commit and bump, does so from what
the database holds. -/
def Fresh (s : State) : Action → Prop
  | .getOptical i => s.pending = 0 → s.store.opticalGraph = none →
    ∀ ontId records, s.resolvers[i]? = some (.read ontId records) → records = opticalRecords s.db
  | .memoise i => s.pending = 0 →
    ∀ ontId g source, s.resolvers[i]? = some (.resolving ontId g source) →
      s.memo.lookup ontId = none → g = opticalGraph s.db ∧ source = fun _ ↦ s.db
  | .build i => s.pending = 0 → s.store.MissesLogical false →
    ∀ topoV collectV rows depCache useCache,
      s.sessions[i]? = some ⟨.collected topoV collectV rows, depCache, useCache⟩ →
        rows.toRecords = (collectDevicesLinks s.db).toRecords
  | .toolGet i => s.pending = 0 → s.store.MissesLogical false →
    ∀ records, s.tools[i]? = some (.read records) →
      records = (collectDevicesLinks s.db).toRecords
  | _ => True

/-! ### The invariant -/

/-- The versions that a pass has read, and what it holds under them. -/
def SnapshotPhase.Ok (s : State) : SnapshotPhase → Prop
  | .idle => True
  | .started topoV | .locked topoV => topoV ≤ s.store.topoVersion
  | .collecting topoV collectV => topoV ≤ collectV ∧ collectV ≤ s.store.topoVersion
  | .collected topoV collectV rows =>
    topoV ≤ collectV ∧ Tagged s collectV (fun db ↦ rows = collectDevicesLinks db)
  | .built topoV collectV rows graphV graph =>
    topoV ≤ collectV ∧ collectV ≤ graphV ∧
      Tagged s collectV (fun db ↦ rows = collectDevicesLinks db) ∧
      Tagged s graphV (fun db ↦ graph = logicalGraph db false)

/-- A session holds rows of the versions that it has noted. -/
structure SessionReader.Ok (s : State) (r : SessionReader) : Prop where
  phase : r.phase.Ok s
  depCache : ∀ c, r.depCache = some c → Tagged s c.1 (fun db ↦ c.2 = collectDevicesLinks db)

/-- Caches without a version are coherent unless a writer is to bump, caches with a version are
tagged. -/
structure Inv (nx : PathResolver.SingleSourceDijkstra) (s : State) : Prop where
  quiet : s.pending = 0 → Coherent nx s
  cache : ∀ c, s.logicalCache = some c → Tagged s c.1 (fun db ↦ c.2 = snapshot db)
  sessions : ∀ r ∈ s.sessions, r.Ok s

private theorem SnapshotPhase.Ok.advance {s s' : State} {phase : SnapshotPhase} (h : phase.Ok s)
    (hadv : Advances s s') : phase.Ok s' := by
  have hle := hadv.le
  cases phase with
  | idle => trivial
  | started topoV => exact Int.le_trans h hle
  | locked topoV => exact Int.le_trans h hle
  | collecting topoV collectV => exact ⟨h.1, Int.le_trans h.2 hle⟩
  | collected topoV collectV rows => exact ⟨h.1, h.2.advance hadv⟩
  | built topoV collectV rows graphV graph =>
    exact ⟨h.1, h.2.1, h.2.2.1.advance hadv, h.2.2.2.advance hadv⟩

private theorem SessionReader.Ok.advance {s s' : State} {r : SessionReader} (h : r.Ok s)
    (hadv : Advances s s') : r.Ok s' :=
  ⟨h.phase.advance hadv, fun c hc ↦ (h.depCache c hc).advance hadv⟩

section Steps

variable {nx : PathResolver.SingleSourceDijkstra} {s s' : State} (h : Inv nx s)

include h

/-- A step that leaves the snapshots and the sessions alone. -/
theorem Inv.frame (hadv : Advances s s') (hcache : s'.logicalCache = s.logicalCache)
    (hsessions : s'.sessions = s.sessions) (hquiet : s'.pending = 0 → Coherent nx s') :
    Inv nx s' where
  quiet := hquiet
  cache := by
    intro c hc
    rw [hcache] at hc
    exact (h.cache c hc).advance hadv
  sessions := by
    intro r hr
    rw [hsessions] at hr
    exact (h.sessions r hr).advance hadv

/-- A step that changes what nobody caches. -/
theorem Inv.frame_readers (resolvers : List Resolver) (tools : List Tool) :
    Inv nx { s with resolvers := resolvers, tools := tools } :=
  h.frame (.of_eq rfl rfl rfl) rfl rfl (fun hp ↦ (h.quiet hp).of_eq rfl rfl rfl)

private theorem Inv.openSession (useCache : Bool) :
    Inv nx { s with sessions := s.sessions ++ [{ useCache := useCache }] } where
  quiet hp := (h.quiet hp).of_eq rfl rfl rfl
  cache c hc := (h.cache c hc).advance (.of_eq rfl rfl rfl)
  sessions := by
    intro r hr
    rcases List.mem_append.mp hr with hold | hnew
    · exact (h.sessions r hold).advance (.of_eq rfl rfl rfl)
    · rw [List.mem_singleton.mp hnew]
      exact ⟨trivial, fun c hc ↦ nomatch hc⟩

/-- A session moves on. -/
theorem Inv.setSession (i : Nat) {r : SessionReader} (hr : r.Ok s) : Inv nx (s.setSession i r) where
  quiet hp := (h.quiet hp).of_eq rfl rfl rfl
  cache c hc := (h.cache c hc).advance (.of_eq rfl rfl rfl)
  sessions := by
    intro r' hr'
    have hadv : Advances s (s.setSession i r) := .of_eq rfl rfl rfl
    rcases List.mem_or_eq_of_mem_set hr' with hold | rfl
    · exact (h.sessions r' hold).advance hadv
    · exact hr.advance hadv

private theorem Inv.commit (db : Database) : Inv nx { s with db := db, pending := s.pending + 1 } :=
  h.frame (Or.inr ⟨rfl, fun hp ↦ absurd hp (Nat.succ_ne_zero _)⟩) rfl rfl
    (fun hp ↦ absurd hp (Nat.succ_ne_zero _))

/-- After a bump nothing is cached without a version. -/
theorem Inv.bumped (pending : Nat) : Inv nx { s.bumped with pending := pending } := by
  refine h.frame (Or.inl (Int.lt_succ _)) rfl rfl ?_
  intro _
  refine ⟨fun g hg ↦ ?_, fun g relaxed hg ↦ ?_, fun ontId r hr ↦ ?_⟩
  · cases hg
  · cases hg
  · rw [State.bumped, AList.lookup_empty] at hr
    cases hr

private theorem Inv.getOptical {i : Nat} {ontId : String} {records : Records}
    (hi : s.resolvers[i]? = some (.read ontId records)) (hok : Fresh s (.getOptical i))
    (resolvers : List Resolver) :
    Inv nx { s with
      resolvers := resolvers
      store := (s.store.getOpticalGraph records).1 } := by
  rcases getOpticalGraph_cases s.store records with ⟨g, _, hget⟩ | ⟨hnone, hget⟩
  · rw [hget]
    exact h.frame_readers resolvers s.tools
  · rw [hget]
    refine h.frame (.of_eq rfl rfl rfl) rfl rfl ?_
    intro hp
    have hc := h.quiet hp
    refine ⟨?_, hc.logical, hc.memo⟩
    intro g hg
    cases hg
    rw [hok hp hnone ontId records hi]
    rfl

private theorem Inv.memoise {i : Nat} {ontId : String} {g : PathResolver.Graph}
    {source : Lookup → Database} (hi : s.resolvers[i]? = some (.resolving ontId g source))
    (hok : Fresh s (.memoise i)) (resolvers : List Resolver) (hmiss : s.memo.lookup ontId = none) :
    Inv nx { s with
      resolvers := resolvers
      memo := s.memo.insert ontId (resolveOn nx source g ontId) } := by
  refine h.frame (.of_eq rfl rfl rfl) rfl rfl ?_
  intro hp
  have hc := h.quiet hp
  obtain ⟨hg, hsource⟩ := hok hp ontId g source hi hmiss
  refine ⟨hc.optical, hc.logical, ?_⟩
  intro ontId' r hr
  by_cases hid : ontId' = ontId
  · subst hid
    rw [AList.lookup_insert, Option.some.injEq] at hr
    rw [← hr, hg, hsource]
    exact resolveOn_eq nx s.db ontId'
  · rw [AList.lookup_insert_ne hid] at hr
    exact hc.memo ontId' r hr

private theorem Inv.evict (ontId : String) : Inv nx { s with memo := s.memo.erase ontId } := by
  refine h.frame (.of_eq rfl rfl rfl) rfl rfl ?_
  intro hp
  have hc := h.quiet hp
  refine ⟨hc.optical, hc.logical, ?_⟩
  intro ontId' r hr
  by_cases hid : ontId' = ontId
  · subst hid
    rw [AList.lookup_erase] at hr
    cases hr
  · rw [AList.lookup_erase_ne hid] at hr
    exact hc.memo ontId' r hr

/-- A call for the strict logical graph that builds it from current rows, if it builds it. -/
theorem Inv.getLogical {records : Records}
    (hok : s.pending = 0 → s.store.MissesLogical false →
      records = (collectDevicesLinks s.db).toRecords) (tools : List Tool) :
    Inv nx { s with store := (s.store.getLogicalGraph records false).1, tools := tools } ∧
      (s.store.getLogicalGraph records false).1.topoVersion = s.store.topoVersion ∧
      (s.pending = 0 → (s.store.getLogicalGraph records false).2 = logicalGraph s.db false) := by
  rcases getLogicalGraph_cases s.store records false with ⟨g, hg, hflag, hget⟩ | ⟨hmiss, hget⟩
  · rw [hget]
    exact ⟨h.frame_readers s.resolvers tools, rfl, fun hp ↦ (h.quiet hp).logical g false hg hflag⟩
  · rw [hget]
    have hbuilt : s.pending = 0 → buildLogicalGraph records false = logicalGraph s.db false := by
      intro hp
      rw [hok hp hmiss]
      rfl
    refine ⟨h.frame (.of_eq rfl rfl rfl) rfl rfl ?_, rfl, hbuilt⟩
    intro hp
    have hc := h.quiet hp
    refine ⟨hc.optical, ?_, hc.memo⟩
    intro g relaxed hg hflag
    cases hg
    cases hflag
    exact hbuilt hp

private theorem Inv.build {i : Nat} {topoV collectV : Int} {rows : Collected}
    {depCache : Option (Int × Collected)} {useCache : Bool}
    (hi : s.sessions[i]? = some ⟨.collected topoV collectV rows, depCache, useCache⟩)
    (hok : Fresh s (.build i)) :
    Inv nx { s.setSession i ⟨.built topoV collectV rows s.store.topoVersion
        (s.store.getLogicalGraph rows.toRecords false).2, depCache, useCache⟩ with
      store := (s.store.getLogicalGraph rows.toRecords false).1 } := by
  obtain ⟨hinv, hversion, hgraph⟩ := h.getLogical
    (fun hp hmiss ↦ hok hp hmiss topoV collectV rows depCache useCache hi) s.tools
  have hreader := h.sessions _ (List.mem_of_getElem? hi)
  obtain ⟨hle, hrows⟩ := hreader.phase
  have hbuilt : SessionReader.Ok s ⟨.built topoV collectV rows s.store.topoVersion
      (s.store.getLogicalGraph rows.toRecords false).2, depCache, useCache⟩ :=
    ⟨⟨hle, hrows.1, hrows, Int.le_refl _, fun _ hp ↦ hgraph hp⟩, hreader.depCache⟩
  exact hinv.setSession i (hbuilt.advance (.of_eq hversion rfl rfl))

/-- What is published carries the version of its rows and of its graph. -/
theorem Inv.publish {i : Nat} {topoV collectV graphV : Int} {rows : Collected}
    {graph : LogicalGraph} {depCache : Option (Int × Collected)} {useCache : Bool}
    (hi : s.sessions[i]? = some ⟨.built topoV collectV rows graphV graph, depCache, useCache⟩) :
    Inv nx { s.setSession i ⟨.idle, depCache, useCache⟩ with
      logicalCache :=
        if graphV = topoV ∧ topoV = s.store.topoVersion then some (topoV, Snapshot.mk rows graph)
        else none } := by
  have hreader := h.sessions _ (List.mem_of_getElem? hi)
  obtain ⟨hcollect, hgraphV, hrows, hgraph⟩ := hreader.phase
  have hidle := h.setSession i (r := ⟨.idle, depCache, useCache⟩) ⟨trivial, hreader.depCache⟩
  refine ⟨fun hp ↦ (h.quiet hp).of_eq rfl rfl rfl, ?_, ?_⟩
  · intro c hc
    obtain ⟨⟨hsame, hcurrent⟩, hc⟩ := Option.ite_none_right_eq_some.mp hc
    cases hc
    refine ⟨Int.le_of_eq hcurrent, ?_⟩
    intro _ hp
    show Snapshot.mk rows graph = snapshot s.db
    rw [hrows.2 (by omega) hp, hgraph.2 (by omega) hp]
    rfl
  · intro r hr
    exact (hidle.sessions r hr).advance (.of_eq rfl rfl rfl)

/-- Taking the lock ends the call on a hit and notes nothing new on a miss. -/
theorem Inv.acquire {i : Nat} (hstep : s.act nx (.acquire i) = some s') : Inv nx s' := by
  simp only [State.act] at hstep
  split at hstep
  · next topoV depCache useCache hi =>
    have hreader := h.sessions _ (List.mem_of_getElem? hi)
    split at hstep
    · cases hstep
    · split at hstep
      · cases hstep
        exact h.setSession i ⟨trivial, hreader.depCache⟩
      · cases hstep
        exact h.setSession i ⟨hreader.phase, hreader.depCache⟩
  · cases hstep

/-- Rows that the session has kept are those of the version it finds. -/
theorem Inv.collect {i : Nat} (hstep : s.act nx (.collect i) = some s') : Inv nx s' := by
  simp only [State.act] at hstep
  split at hstep
  · next topoV depCache useCache hi =>
    have hreader := h.sessions _ (List.mem_of_getElem? hi)
    split at hstep
    · next c hc =>
      cases hstep
      obtain ⟨hcached, hcurrent⟩ := Option.filter_eq_some_iff.mp hc
      rw [Bool.and_eq_true, decide_eq_true_eq] at hcurrent
      have htag := hreader.depCache c hcached
      rw [hcurrent.2] at htag
      exact h.setSession i ⟨⟨hreader.phase, htag⟩, hreader.depCache⟩
    · cases hstep
      exact h.setSession i ⟨⟨hreader.phase, Int.le_refl _⟩, hreader.depCache⟩
  · cases hstep

/-- Rows that are read now are noted under the version read before them. -/
theorem Inv.readRows {i : Nat} (hstep : s.act nx (.readRows i) = some s') : Inv nx s' := by
  simp only [State.act] at hstep
  split at hstep
  · next topoV collectV depCache useCache hi =>
    cases hstep
    have hreader := h.sessions _ (List.mem_of_getElem? hi)
    have htag : Tagged s collectV (fun db ↦ collectDevicesLinks s.db = collectDevicesLinks db) :=
      .now hreader.phase.2 rfl
    refine h.setSession i ⟨⟨hreader.phase.1, htag⟩, ?_⟩
    intro c hc
    dsimp only at hc
    split at hc
    · cases hc
      exact htag
    · exact hreader.depCache c hc
  · cases hstep

/-- Every step that fills from current rows keeps the invariant. -/
theorem Inv.step {a : Action} (hok : Fresh s a) (hstep : s.act nx a = some s') : Inv nx s' := by
  cases a with
  | commit db =>
    cases hstep
    exact h.commit db
  | bump =>
    simp only [State.act] at hstep
    split at hstep
    · cases hstep
    · cases hstep
      exact h.bumped _
  | rebump =>
    cases hstep
    exact h.bumped _
  | resolve ontId =>
    simp only [State.act] at hstep
    split at hstep
    · cases hstep
      exact h
    · cases hstep
      exact h.frame_readers _ s.tools
  | readRecords i =>
    simp only [State.act] at hstep
    split at hstep
    · cases hstep
      exact h.frame_readers _ s.tools
    · cases hstep
  | getOptical i =>
    simp only [State.act] at hstep
    split at hstep
    · next ontId records hi =>
      cases hstep
      exact h.getOptical hi hok _
    · cases hstep
  | answer i q =>
    simp only [State.act] at hstep
    split at hstep
    · cases hstep
      exact h.frame_readers _ s.tools
    · cases hstep
  | memoise i =>
    simp only [State.act] at hstep
    split at hstep
    · next ontId g source hi =>
      cases hstep
      cases hmemo : s.memo.lookup ontId with
      | some r => exact h.frame_readers _ s.tools
      | none => exact h.memoise hi hok _ hmemo
    · cases hstep
  | evict ontId =>
    cases hstep
    exact h.evict ontId
  | openSession useCache =>
    cases hstep
    exact h.openSession useCache
  | start i =>
    simp only [State.act] at hstep
    split at hstep
    · next depCache useCache hi =>
      cases hstep
      have hreader := h.sessions _ (List.mem_of_getElem? hi)
      exact h.setSession i ⟨Int.le_refl _, hreader.depCache⟩
    · cases hstep
  | acquire i => exact h.acquire hstep
  | collect i => exact h.collect hstep
  | readRows i => exact h.readRows hstep
  | build i =>
    simp only [State.act] at hstep
    split at hstep
    · next topoV collectV rows depCache useCache hi =>
      cases hstep
      exact h.build hi hok
    · cases hstep
  | publish i =>
    simp only [State.act] at hstep
    split at hstep
    · next topoV collectV rows graphV graph depCache useCache hi =>
      cases hstep
      exact h.publish hi
    · cases hstep
  | toolRead =>
    cases hstep
    exact h.frame_readers s.resolvers _
  | toolGet i =>
    simp only [State.act] at hstep
    split at hstep
    · next records hi =>
      cases hstep
      exact (h.getLogical (fun hp hmiss ↦ hok hp hmiss records hi) _).1
    · cases hstep

end Steps

private theorem Inv.init (nx : PathResolver.SingleSourceDijkstra) (db : Database) :
    Inv nx { db := db } where
  quiet _ := by
    refine ⟨fun g hg ↦ ?_, fun g relaxed hg ↦ ?_, fun ontId r hr ↦ ?_⟩
    · cases hg
    · cases hg
    · rw [AList.lookup_empty] at hr
      cases hr
  cache _ hc := nomatch hc
  sessions _ hr := nomatch hr

/-- In every run whose fills come from current rows, whenever no writer stands between commit and
bump, the graphs of the store, the memo and a snapshot of the current version are what the database
gives. -/
theorem caches_coherent_of_fresh (nx : PathResolver.SingleSourceDijkstra) {s : State}
    (h : ((caches nx).restrict Fresh).Reachable s) (hpending : s.pending = 0) :
    Coherent nx s ∧
      ∀ c, s.logicalCache = some c → c.1 = s.store.topoVersion → c.2 = snapshot s.db := by
  have hinv : Inv nx s := by
    refine h.invariant ?_ ?_
    · intro s hs
      rw [show s = { db := s.db } from hs]
      exact .init nx s.db
    · intro s a s' hinv hstep
      exact hinv.step hstep.1 hstep.2
  exact ⟨hinv.quiet hpending, fun c hc hv ↦ (hinv.cache c hc).2 hv hpending⟩

/-! ### A reader around a deletion -/

/-- The rows of `oneFiber` after its link is deleted. -/
def noFiber : Database where
  devices := (oneFiber "SMF_G652D").devices
  interfaces := (oneFiber "SMF_G652D").interfaces
  links := []
  physicalMedia := (oneFiber "SMF_G652D").physicalMedia
  devices_nodup := (oneFiber "SMF_G652D").devices_nodup
  interfaces_nodup := (oneFiber "SMF_G652D").interfaces_nodup
  links_nodup := List.nodup_nil

/-- A resolver that reads its records before a deletion and calls the store after the bump. -/
def lateFill : List Action :=
  [.resolve "ont", .readRecords 0, .commit noFiber, .bump, .getOptical 0, .memoise 0]

/-- The link between ONT and OLT in the cached and in the current graph, and the OLT of the memoised
and of the current result. -/
def observe (s : State) : (Option String × Option String) × (Option String × Option String) :=
  ((s.store.opticalGraph.bind (fun g ↦ g.edges.lookup ("ont", "olt")),
      (opticalGraph s.db).edges.lookup ("ont", "olt")),
    ((s.memo.lookup "ont").join.map PathResolver.OpticalPathResult.oltId,
      (PathResolver.resolveOpticalPath listDijkstra s.db "ont").map
        PathResolver.OpticalPathResult.oltId))

/-- Such a resolver fills the store with the deleted link, and memoises the path over it. -/
theorem stale_fill_after_bump :
    ∃ s, (caches listDijkstra).Reachable s ∧ s.pending = 0 ∧
      observe s = ((some "fiber", none), (some "olt", none)) ∧ ¬ Coherent listDijkstra s := by
  have hrun : (System.run (State.act listDijkstra) { db := oneFiber "SMF_G652D" } lateFill).map
      (fun s ↦ (s.pending, observe s)) = some (0, ((some "fiber", none), (some "olt", none))) := by
    decide +kernel
  obtain ⟨s, hs, hview⟩ := Option.map_eq_some_iff.mp hrun
  rw [Prod.mk.injEq] at hview
  have hinit : (caches listDijkstra).Reachable { db := oneFiber "SMF_G652D" } := .init rfl
  refine ⟨s, hinit.run (State.act listDijkstra) (fun _ _ _ ha ↦ ha) lateFill hs, hview.1, hview.2,
    ?_⟩
  intro hcoherent
  have hlinks := congrArg Prod.fst hview.2
  simp only [observe, Prod.mk.injEq] at hlinks
  obtain ⟨g, hg, hedge⟩ := Option.bind_eq_some_iff.mp hlinks.1
  rw [hcoherent.optical g hg, hlinks.2] at hedge
  cases hedge

/-- A resolver that starts after the link is created and bumped finds what the database gives. -/
theorem caches_coherent_after_create :
    ∃ s, ((caches listDijkstra).restrict Fresh).Reachable s ∧ s.pending = 0 ∧
      observe s = ((some "fiber", some "fiber"), (some "olt", some "olt")) ∧
      Coherent listDijkstra s := by
  have h0 : ((caches listDijkstra).restrict Fresh).Reachable { db := noFiber } := .init rfl
  have h1 := h0.step (a := Action.commit (oneFiber "SMF_G652D")) ⟨trivial, rfl⟩
  have h2 := h1.step (a := Action.bump) ⟨trivial, rfl⟩
  have h3 := h2.step (a := Action.resolve "ont") ⟨trivial, rfl⟩
  have h4 := h3.step (a := Action.readRecords 0) ⟨trivial, rfl⟩
  have h5 := h4.step (a := Action.getOptical 0) ⟨by
    intro _ _ ontId records hi
    cases hi
    rfl, rfl⟩
  have h6 := h5.step (a := Action.memoise 0) ⟨by
    intro _ ontId g source hi _
    cases hi
    exact ⟨rfl, rfl⟩, rfl⟩
  exact ⟨_, h6, rfl, by decide +kernel, (caches_coherent_of_fresh listDijkstra h6 rfl).1⟩

end Unoc.Pathfinding
