import Unoc.Pathfinding.Coherence
import Unoc.Pathfinding.UpstreamCache

/-!
# What the upstream cache was computed from

A result that is stored while the cache has version `v` should come from rows that had seen all
commits up to bump `v`. The lookups see to that, the stores do not: a result is stored without
another look at the version, the graph of the store is filled from rows of any age, and the row of a
router may be older than the version under which its chain is noted. In runs where no bump gets in
between at these three places, every entry is covered.
-/

namespace Unoc.Pathfinding.Upstream

open Unoc.Base Unoc.Model Unoc.Status

/-! ### Versions and commits -/

/-- The current version, the commits so far, and the commits that each bump has seen. -/
structure Clock where
  version : Int
  commits : Nat
  commitsAt : Int → Nat

/-- The clock of a state. -/
def State.clock (s : State) : Clock := ⟨s.store.topoVersion, s.commits, s.commitsAt⟩

/-- Later bumps have seen more commits. -/
structure Clock.Valid (k : Clock) : Prop where
  mono : ∀ v w, v ≤ w → w ≤ k.version → k.commitsAt v ≤ k.commitsAt w
  now : k.commitsAt k.version ≤ k.commits

/-- Rows that had seen `n` commits have seen those of bump `v`. -/
def Clock.Covers (k : Clock) (v : Int) (n : Nat) : Prop := v ≤ k.version ∧ k.commitsAt v ≤ n

/-- A later clock, with the same past. -/
def Clock.Le (k k' : Clock) : Prop :=
  k.version ≤ k'.version ∧ ∀ v, v ≤ k.version → k'.commitsAt v = k.commitsAt v

variable {k k' : Clock} {v w : Int} {n m : Nat}

private theorem Clock.Covers.of_le (h : k.Covers w n) (hk : k.Valid) (hvw : v ≤ w) : k.Covers v n :=
  ⟨Int.le_trans hvw h.1, Nat.le_trans (hk.mono v w hvw h.1) h.2⟩

/-- What is read now covers every version so far. -/
theorem Clock.Valid.covers (hk : k.Valid) (hv : v ≤ k.version) : k.Covers v k.commits :=
  ⟨hv, Nat.le_trans (hk.mono v k.version hv (Int.le_refl _)) hk.now⟩

private theorem Clock.Covers.min (hn : k.Covers v n) (hm : k.Covers v m) : k.Covers v (min n m) :=
  ⟨hn.1, Nat.le_min.mpr ⟨hn.2, hm.2⟩⟩

private theorem Clock.Covers.advance (h : k.Covers v n) (hle : k.Le k') : k'.Covers v n :=
  ⟨Int.le_trans h.1 hle.1, hle.2 v h.1 ▸ h.2⟩

/-- The clock after a commit. -/
theorem Clock.Valid.commit (hk : k.Valid) : Clock.Valid { k with commits := k.commits + 1 } :=
  ⟨hk.mono, Nat.le_succ_of_le hk.now⟩

/-- The clock after a bump. -/
def Clock.bump (k : Clock) : Clock where
  version := k.version + 1
  commits := k.commits
  commitsAt := Function.update k.commitsAt (k.version + 1) k.commits

private theorem Clock.le_bump (k : Clock) : k.Le k.bump := by
  refine ⟨Int.le_of_lt (Int.lt_succ _), ?_⟩
  intro v hv
  exact Function.update_of_ne (by omega) _ _

private theorem Clock.Valid.bump (hk : k.Valid) : k.bump.Valid := by
  have hlast : k.bump.commitsAt (k.version + 1) = k.commits := Function.update_self ..
  constructor
  · intro v w hvw hw
    by_cases hwlast : w = k.version + 1
    · subst hwlast
      by_cases hvlast : v = k.version + 1
      · rw [hvlast]
      · have hv : v ≤ k.version := by omega
        rw [hlast, k.le_bump.2 v hv]
        exact (hk.covers hv).2
    · have hw : w ≤ k.version := by
        have hw : w ≤ k.version + 1 := hw
        omega
      rw [k.le_bump.2 v (Int.le_trans hvw hw), k.le_bump.2 w hw]
      exact hk.mono v w hvw hw
  · exact Nat.le_of_eq hlast

/-! ### The invariant -/

/-- What a call has noted is covered by the versions under which it goes on. -/
def Phase.Ok (k : Clock) : Phase → Prop
  | .idle => True
  | .versioned c | .missed c => c.version ≤ k.version
  | .started c topoV | .locked c topoV => c.version ≤ topoV ∧ topoV ≤ k.version
  | .collecting c topoV collectV => c.version ≤ topoV ∧ topoV ≤ collectV ∧ collectV ≤ k.version
  | .collected c topoV collectV _ since =>
    c.version ≤ topoV ∧ topoV ≤ collectV ∧ k.Covers collectV since
  | .built c topoV _ graphV _ since => c.version ≤ topoV ∧ topoV ≤ graphV ∧ k.Covers graphV since
  | .resolving c p => k.Covers c.version p.since
  | .routerRow c p _ since rowV =>
    k.Covers c.version p.since ∧ c.version ≤ rowV ∧ k.Covers rowV since
  | .tracing c p _ since => k.Covers c.version p.since ∧ k.Covers c.version since
  | .finished c _ since => c.version ≤ k.version ∧ ∀ n, since = some n → k.Covers c.version n

/-- The caches of a session are covered by their versions. -/
structure Session.Ok (k : Clock) (r : Session) : Prop where
  phase : r.phase.Ok k
  depCache : ∀ e, r.depCache = some e → k.Covers e.1 e.2.2
  routers : ∀ e, r.routerCache = some e → ∀ id chain n, e.2.lookup id = some (chain, n) →
    k.Covers e.1 n
  tracing : ∀ c p row n, r.phase = .tracing c p row n → ∀ e, r.routerCache = some e →
    k.Covers e.1 n

/-- The caches of the process are covered by their versions. -/
structure Covered (s : State) : Prop where
  clock : s.clock.Valid
  slot : ∀ g, s.store.logicalGraph = some g → s.store.relaxedFlagForLogical = some false →
    s.clock.Covers s.store.topoVersion s.graphSince
  logicalCache : ∀ e, s.logicalCache = some e → s.clock.Covers e.1 e.2.2
  map : ∀ id e n, s.map.lookup id = some e → e.since = some n → s.clock.Covers s.version n
  sessions : ∀ r ∈ s.sessions, r.Ok s.clock

/-- No bump has come between what is put into a cache and the version under which it is kept. -/
def Rechecked (s : State) : Action → Prop
  | .build i => s.store.MissesLogical false →
    ∀ r, s.sessions[i]? = some r → ∀ c topoV collectV rows since,
      r.phase = .collected c topoV collectV rows since → collectV = s.store.topoVersion
  | .routerChain i =>
    ∀ r, s.sessions[i]? = some r → ∀ c p row since rowV, r.phase = .routerRow c p row since rowV →
      (r.routerMap s.store.topoVersion).lookup row.id = none → rowV = s.store.topoVersion
  | .store i =>
    ∀ r, s.sessions[i]? = some r → ∀ c result n, r.phase = .finished c result (some n) →
      s.version ≤ c.version
  | _ => True

private theorem Phase.Ok.advance {phase : Phase} (h : phase.Ok k) (hle : k.Le k') :
    phase.Ok k' := by
  have hversion := hle.1
  cases phase with
  | idle => trivial
  | versioned c => exact Int.le_trans h hversion
  | missed c => exact Int.le_trans h hversion
  | started c topoV => exact ⟨h.1, Int.le_trans h.2 hversion⟩
  | locked c topoV => exact ⟨h.1, Int.le_trans h.2 hversion⟩
  | collecting c topoV collectV => exact ⟨h.1, h.2.1, Int.le_trans h.2.2 hversion⟩
  | collected c topoV collectV rows since => exact ⟨h.1, h.2.1, h.2.2.advance hle⟩
  | built c topoV rows graphV graph since => exact ⟨h.1, h.2.1, h.2.2.advance hle⟩
  | resolving c p => exact Clock.Covers.advance h hle
  | routerRow c p row since rowV => exact ⟨h.1.advance hle, h.2.1, h.2.2.advance hle⟩
  | tracing c p row since => exact ⟨h.1.advance hle, h.2.advance hle⟩
  | finished c result since =>
    exact ⟨Int.le_trans h.1 hversion, fun n hn ↦ (h.2 n hn).advance hle⟩

private theorem Session.Ok.advance {r : Session} (h : r.Ok k) (hle : k.Le k') : r.Ok k' where
  phase := h.phase.advance hle
  depCache e he := (h.depCache e he).advance hle
  routers e he id chain n hn := (h.routers e he id chain n hn).advance hle
  tracing c p row n hphase e he := (h.tracing c p row n hphase e he).advance hle

/-- The call of a computation has noted a version so far. -/
theorem Phase.Ok.version_le {phase : Phase} {c : Call} (h : phase.Ok k)
    (hc : phase.computing? = some c) : c.version ≤ k.version := by
  cases phase with
  | idle | versioned | finished => cases hc
  | missed =>
    cases hc
    exact h
  | started | locked =>
    cases hc
    exact Int.le_trans h.1 h.2
  | collecting =>
    cases hc
    exact Int.le_trans h.1 (Int.le_trans h.2.1 h.2.2)
  | collected | built =>
    cases hc
    exact Int.le_trans h.1 (Int.le_trans h.2.1 h.2.2.1)
  | resolving =>
    cases hc
    exact h.1
  | routerRow | tracing =>
    cases hc
    exact h.1.1

/-! ### Steps -/

/-- The session traces a row. -/
def Phase.traces : Phase → Bool
  | .tracing .. => true
  | _ => false

/-- A session with a new phase that traces nothing. -/
theorem Session.Ok.move {r : Session} (h : r.Ok k) {phase : Phase} (hphase : phase.Ok k)
    (htraces : phase.traces = false) : Session.Ok k { r with phase := phase } where
  phase := hphase
  depCache := h.depCache
  routers := h.routers
  tracing c p row n heq := by
    have htracing : phase = .tracing c p row n := heq
    rw [htracing] at htraces
    cases htraces

/-- The chains noted under a version are covered by it. -/
theorem Session.Ok.routerMap {r : Session} (h : r.Ok k) {version : Int} {id : String}
    {chain : DependencyCheckResult} (hn : (r.routerMap version).lookup id = some (chain, n)) :
    k.Covers version n := by
  unfold Session.routerMap at hn
  split at hn
  · next v map hcache =>
    split at hn
    · next hv => exact hv ▸ h.routers (v, map) hcache id chain n hn
    · cases hn
  · cases hn

section Steps

variable {shortestPath : ShortestPath} {s s' : State} (h : Covered s)

include h

private theorem Covered.setSession (i : Nat) {r : Session} (hr : r.Ok s.clock) :
    Covered (s.setSession i r) where
  clock := h.clock
  slot := h.slot
  logicalCache := h.logicalCache
  map := h.map
  sessions := by
    intro r' hr'
    rcases List.mem_or_eq_of_mem_set hr' with hold | rfl
    · exact h.sessions r' hold
    · exact hr

/-- Time goes on while the caches stay, but for the slot of the store. -/
theorem Covered.advance (hclock : s'.clock.Valid) (hle : s.clock.Le s'.clock)
    (hslot : ∀ g, s'.store.logicalGraph = some g → s'.store.relaxedFlagForLogical = some false →
      s'.clock.Covers s'.store.topoVersion s'.graphSince)
    (hcache : s'.logicalCache = s.logicalCache) (hversion : s'.version = s.version)
    (hmap : s'.map = s.map) (hsessions : s'.sessions = s.sessions) : Covered s' where
  clock := hclock
  slot := hslot
  logicalCache := by
    intro e he
    rw [hcache] at he
    exact (h.logicalCache e he).advance hle
  map := by
    intro id e n he hn
    rw [hmap] at he
    rw [hversion]
    exact (h.map id e n he hn).advance hle
  sessions := by
    intro r hr
    rw [hsessions] at hr
    exact (h.sessions r hr).advance hle

private theorem Covered.commit (db : Database) : Covered
    { s with db := db, commits := s.commits + 1 } :=
  h.advance h.clock.commit ⟨Int.le_refl _, fun _ _ ↦ rfl⟩ h.slot rfl rfl rfl rfl

/-- A bump empties the slot of the store. -/
theorem Covered.bump : Covered { s with
    store := s.store.bumpVersion
    commitsAt := Function.update s.commitsAt (s.store.topoVersion + 1) s.commits } :=
  h.advance h.clock.bump s.clock.le_bump (fun _ hg ↦ nomatch hg) rfl rfl rfl rfl

private theorem Covered.openSession (useCache : Bool) :
    Covered { s with sessions := s.sessions ++ [{ useCache := useCache }] } where
  clock := h.clock
  slot := h.slot
  logicalCache := h.logicalCache
  map := h.map
  sessions := by
    intro r hr
    rcases List.mem_append.mp hr with hold | hnew
    · exact h.sessions r hold
    · rw [List.mem_singleton.mp hnew]
      constructor
      · trivial
      · intro e he
        cases he
      · intro e he
        cases he
      · intro c p row n hphase
        cases hphase

/-- The map of another version is replaced by an empty one. -/
theorem Covered.lookup (c : Call) :
    Covered { s with
      version := c.version
      map := if s.version = c.version then s.map else ∅ } where
  clock := h.clock
  slot := h.slot
  logicalCache := h.logicalCache
  map := by
    intro id e n he hn
    dsimp only at he
    split at he
    · next hversion =>
      have hold := h.map id e n he hn
      rw [hversion] at hold
      exact hold
    · rw [AList.lookup_empty] at he
      cases he
  sessions := h.sessions

/-- The store fills its slot from rows of the current version, or returns what it has. -/
theorem Covered.build (rows : Records) {since : Nat} {collectV : Int}
    (hcovers : s.clock.Covers collectV since)
    (hok : s.store.MissesLogical false → collectV = s.store.topoVersion) :
    Covered { s with
        store := (s.store.getLogicalGraph rows false).1
        graphSince := if s.store.logicalGraph.isSome && s.store.relaxedFlagForLogical = some false
          then s.graphSince else since } ∧
      s.clock.Covers s.store.topoVersion
        (if s.store.logicalGraph.isSome && s.store.relaxedFlagForLogical = some false
          then s.graphSince else since) := by
  rcases getLogicalGraph_cases s.store rows false with ⟨g, hg, hflag, hget⟩ | ⟨hmiss, hget⟩
  · rw [hget, hg, hflag]
    exact ⟨h.advance h.clock ⟨Int.le_refl _, fun _ _ ↦ rfl⟩ (fun _ _ _ ↦ h.slot g hg hflag) rfl rfl
      rfl rfl, h.slot g hg hflag⟩
  · have hkept : (s.store.logicalGraph.isSome &&
        decide (s.store.relaxedFlagForLogical = some false)) = false := by
      rcases hmiss with hnone | hflag
      · simp [hnone]
      · simp [hflag]
    rw [hget, hkept]
    have hnow : s.clock.Covers s.store.topoVersion since := hok hmiss ▸ hcovers
    exact ⟨h.advance h.clock ⟨Int.le_refl _, fun _ _ ↦ rfl⟩ (fun _ _ _ ↦ hnow) rfl rfl rfl rfl, hnow⟩

private theorem Covered.setLogicalCache {cache : Option (Int × Snapshot × Nat)}
    (hcache : ∀ e, cache = some e → s.clock.Covers e.1 e.2.2) :
    Covered { s with logicalCache := cache } where
  clock := h.clock
  slot := h.slot
  logicalCache := hcache
  map := h.map
  sessions := h.sessions

/-- A result is stored under a version that covers it. -/
theorem Covered.store {deviceId : String} {e : Entry}
    (he : ∀ n, e.since = some n → s.clock.Covers s.version n) :
    Covered { s with map := s.map.insert deviceId e } where
  clock := h.clock
  slot := h.slot
  logicalCache := h.logicalCache
  map := by
    intro id e' n he' hn
    by_cases hid : id = deviceId
    · subst hid
      rw [AList.lookup_insert, Option.some.injEq] at he'
      exact he n (he' ▸ hn)
    · rw [AList.lookup_insert_ne hid] at he'
      exact h.map id e' n he' hn
  sessions := h.sessions

/-- The row of a router covers its chain, the version noted with the chain covers the row. -/
theorem Covered.routerChain {i : Nat} {r : Session} {c : Call} {p : Resolution} {row : DeviceView}
    {since : Nat} {rowV : Int} (hr : r.Ok s.clock)
    (hphase : r.phase = .routerRow c p row since rowV)
    (hok : (r.routerMap s.store.topoVersion).lookup row.id = none → rowV = s.store.topoVersion)
    (hstep : s.stepSession shortestPath i r (.routerChain i) = some s') : Covered s' := by
  have hrow := hr.phase
  rw [hphase] at hrow
  obtain ⟨hp, hle, hsince⟩ := hrow
  have hcache : ∀ e, some (s.store.topoVersion, r.routerMap s.store.topoVersion) = some e →
      ∀ id chain n, e.2.lookup id = some (chain, n) → s.clock.Covers e.1 n := by
    intro e he id chain n hn
    cases he
    exact hr.routerMap hn
  simp only [State.stepSession, hphase] at hstep
  split at hstep
  · next chain n hhit =>
    cases hstep
    have hchain : s.clock.Covers c.version n :=
      (hr.routerMap hhit).of_le h.clock (Int.le_trans hle hsince.1)
    refine h.setSession i ⟨?_, hr.depCache, hcache, fun _ _ _ _ heq ↦ nomatch heq⟩
    exact hp.min ((hsince.of_le h.clock hle).min hchain)
  · next hmiss =>
    cases hstep
    refine h.setSession i ⟨⟨hp, hsince.of_le h.clock hle⟩, hr.depCache, hcache, ?_⟩
    intro c' p' row' n heq e he
    cases heq
    cases he
    exact hok hmiss ▸ hsince

/-- A chain is noted under the version of the cache that its row found. -/
theorem Covered.trace {i : Nat} {r : Session} {c : Call} {p : Resolution} {row : DeviceView}
    {since : Nat} (hr : r.Ok s.clock) (hphase : r.phase = .tracing c p row since)
    (hstep : s.stepSession shortestPath i r (.trace i) = some s') : Covered s' := by
  have hrow := hr.phase
  rw [hphase] at hrow
  simp only [State.stepSession, hphase] at hstep
  cases hstep
  refine h.setSession i ⟨hrow.1.min hrow.2, hr.depCache, ?_, fun _ _ _ _ heq ↦ nomatch heq⟩
  intro e he id chain n hn
  obtain ⟨e', he', rfl⟩ := Option.map_eq_some_iff.mp he
  by_cases hid : id = row.id
  · subst hid
    rw [AList.lookup_insert, Option.some.injEq, Prod.mk.injEq] at hn
    exact hn.2 ▸ hr.tracing c p row since hphase e' he'
  · rw [AList.lookup_insert_ne hid] at hn
    exact hr.routers e' he' id chain n hn

/-- What is published, or read from the snapshot cache, covers the version of the call. -/
theorem Covered.publish {i : Nat} {r : Session} (hr : r.Ok s.clock)
    (hstep : s.stepSession shortestPath i r (.publish i) = some s') : Covered s' := by
  simp only [State.stepSession] at hstep
  split at hstep
  · next c topoV rows graphV graph since hphase =>
    have hbuilt := hr.phase
    rw [hphase] at hbuilt
    obtain ⟨hle, hgraphV, hcovers⟩ := hbuilt
    split at hstep
    · next hcurrent =>
      cases hstep
      have htopo : s.clock.Covers topoV since := hcurrent.1 ▸ hcovers
      have hcached : Covered { s with logicalCache := some (topoV, ⟨rows, graph⟩, since) } := by
        refine h.setLogicalCache ?_
        intro e he
        cases he
        exact htopo
      exact hcached.setSession i (hr.move (htopo.of_le h.clock hle) rfl)
    · cases hstep
      have hcached : Covered { s with logicalCache := none } :=
        h.setLogicalCache (fun _ he ↦ nomatch he)
      refine hcached.setSession i (hr.move ?_ rfl)
      exact Int.le_trans hle (Int.le_trans hgraphV hcovers.1)
  · cases hstep

/-- The snapshot that is read under the lock covers the version that was noted before it. -/
theorem Covered.step_acquire {i : Nat} {r : Session} (hr : r.Ok s.clock)
    (hstep : s.stepSession shortestPath i r (.acquire i) = some s') : Covered s' := by
  have hphase := hr.phase
  simp only [State.stepSession] at hstep
  split at hstep
  · next c topoV hc =>
    rw [hc] at hphase
    split at hstep
    · cases hstep
    · split at hstep
      · next e he =>
        obtain ⟨hcached, hv⟩ := Option.filter_eq_some_iff.mp he
        have hcovers := h.logicalCache e hcached
        rw [decide_eq_true_eq] at hv
        rw [hv] at hcovers
        cases hstep
        exact h.setSession i
          (hr.move (hcovers.of_le h.clock hphase.1) rfl)
      · cases hstep
        exact h.setSession i (hr.move hphase rfl)
  · cases hstep

/-- The rows in the cache of the session cover the version they are kept under. -/
theorem Covered.step_collect {i : Nat} {r : Session} (hr : r.Ok s.clock)
    (hstep : s.stepSession shortestPath i r (.collect i) = some s') : Covered s' := by
  have hphase := hr.phase
  simp only [State.stepSession] at hstep
  split at hstep
  · next c topoV hc =>
    rw [hc] at hphase
    split at hstep
    · next e he =>
      obtain ⟨hcached, hv⟩ := Option.filter_eq_some_iff.mp he
      rw [Bool.and_eq_true, decide_eq_true_eq] at hv
      have hcovers := hr.depCache e hcached
      rw [hv.2] at hcovers
      cases hstep
      exact h.setSession i
        (hr.move ⟨hphase.1, hphase.2, hcovers⟩ rfl)
    · cases hstep
      exact h.setSession i
        (hr.move ⟨hphase.1, hphase.2, Int.le_refl _⟩ rfl)
  · cases hstep

/-- Rows that are read now cover every version so far. -/
theorem Covered.step_readRows {i : Nat} {r : Session} (hr : r.Ok s.clock)
    (hstep : s.stepSession shortestPath i r (.readRows i) = some s') : Covered s' := by
  have hphase := hr.phase
  simp only [State.stepSession] at hstep
  split at hstep
  · next c topoV collectV hc =>
    rw [hc] at hphase
    cases hstep
    have hcovers : s.clock.Covers collectV s.commits := h.clock.covers hphase.2.2
    refine h.setSession i ⟨⟨hphase.1, hphase.2.1, hcovers⟩, ?_, hr.routers,
      fun _ _ _ _ heq ↦ nomatch heq⟩
    intro e he
    dsimp only at he
    split at he
    · cases he
      exact hcovers
    · exact hr.depCache e he
  · cases hstep

/-- The graph is built from rows of the current version, or taken from the store. -/
theorem Covered.step_build {i : Nat} {r : Session} (hr : r.Ok s.clock)
    (hok : s.store.MissesLogical false → ∀ c topoV collectV rows since,
      r.phase = .collected c topoV collectV rows since → collectV = s.store.topoVersion)
    (hstep : s.stepSession shortestPath i r (.build i) = some s') : Covered s' := by
  have hphase := hr.phase
  simp only [State.stepSession] at hstep
  split at hstep
  · next c topoV collectV rows since hc =>
    rw [hc] at hphase
    cases hstep
    obtain ⟨hbuilt, hcovers⟩ := h.build rows.toRecords hphase.2.2
      (fun hmiss ↦ hok hmiss c topoV collectV rows since hc)
    have hversion : (s.store.getLogicalGraph rows.toRecords false).1.topoVersion =
        s.store.topoVersion := by
      rcases getLogicalGraph_cases s.store rows.toRecords false with ⟨g, _, _, hget⟩ | ⟨_, hget⟩
        <;> rw [hget]
    refine hbuilt.setSession i ?_
    have hclock : State.clock { s with
        store := (s.store.getLogicalGraph rows.toRecords false).1
        graphSince := if s.store.logicalGraph.isSome && s.store.relaxedFlagForLogical = some false
          then s.graphSince else since } = s.clock := by
      rw [State.clock, State.clock, hversion]
    rw [hclock]
    exact hr.move ⟨hphase.1, Int.le_trans hphase.2.1 hphase.2.2.1, hcovers⟩ rfl
  · cases hstep

/-- A router row that is read now covers every version so far. -/
theorem Covered.step_getRouter {i : Nat} {r : Session} (hr : r.Ok s.clock)
    (hstep : s.stepSession shortestPath i r (.getRouter i) = some s') : Covered s' := by
  have hphase := hr.phase
  simp only [State.stepSession] at hstep
  split at hstep
  · next c p hc =>
    rw [hc] at hphase
    have hnow : s.clock.Covers c.version s.commits := h.clock.covers hphase.1
    split at hstep
    · cases hstep
    · split at hstep
      · cases hstep
        exact h.setSession i (hr.move (hphase.min hnow) rfl)
      · cases hstep
        exact h.setSession i
          (hr.move ⟨hphase, hphase.1, h.clock.covers (Int.le_refl _)⟩ rfl)
  · cases hstep

/-- A result is stored under a version that it covers. -/
theorem Covered.step_store {i : Nat} {r : Session} (hr : r.Ok s.clock)
    (hok : ∀ c result n, r.phase = .finished c result (some n) → s.version ≤ c.version)
    (hstep : s.stepSession shortestPath i r (.store i) = some s') : Covered s' := by
  have hphase := hr.phase
  simp only [State.stepSession] at hstep
  split at hstep
  · next c result since hc =>
    rw [hc] at hphase
    cases hstep
    have hstored : Covered { s with map := s.map.insert c.deviceId ⟨result, since⟩ } := by
      refine h.store (fun n hn ↦ ?_)
      obtain rfl : since = some n := hn
      exact (hphase.2 n rfl).of_le h.clock (hok c result n hc)
    have hidle : Session.Ok s.clock { r with phase := .idle } :=
      hr.move trivial rfl
    exact hstored.setSession i hidle
  · cases hstep

private theorem Covered.stepSession {i : Nat} {r : Session} {a : Action}
    (hi : s.sessions[i]? = some r)
    (ha : a.session? = some i) (hok : Rechecked s a)
    (hstep : s.stepSession shortestPath i r a = some s') : Covered s' := by
  have hr := h.sessions r (List.mem_of_getElem? hi)
  have hphase := hr.phase
  cases a with
  | commit | bump | openSession => cases ha
  | call j deviceId =>
    simp only [State.stepSession] at hstep
    split at hstep
    · cases hstep
      exact h.setSession i (hr.move (Int.le_refl _) rfl)
    · cases hstep
  | lookup j =>
    simp only [State.stepSession] at hstep
    split at hstep
    · next c hc =>
      rw [hc] at hphase
      cases hstep
      have hmove : ∀ hit : Bool,
          Session.Ok s.clock { r with phase := if hit then .idle else .missed c } := by
        intro hit
        cases hit
        · exact hr.move hphase rfl
        · exact hr.move trivial rfl
      exact (h.lookup c).setSession i (hmove _)
    · cases hstep
  | start j =>
    simp only [State.stepSession] at hstep
    split at hstep
    · next c hc =>
      rw [hc] at hphase
      cases hstep
      exact h.setSession i (hr.move ⟨hphase, Int.le_refl _⟩ rfl)
    · cases hstep
  | acquire j =>
    obtain rfl := Option.some.inj ha
    exact h.step_acquire hr hstep
  | collect j =>
    obtain rfl := Option.some.inj ha
    exact h.step_collect hr hstep
  | readRows j =>
    obtain rfl := Option.some.inj ha
    exact h.step_readRows hr hstep
  | build j =>
    obtain rfl := Option.some.inj ha
    exact h.step_build hr (fun hmiss ↦ hok hmiss r hi) hstep
  | publish j =>
    obtain rfl := Option.some.inj ha
    exact h.publish hr hstep
  | getRouter j =>
    obtain rfl := Option.some.inj ha
    exact h.step_getRouter hr hstep
  | routerChain j =>
    obtain rfl := Option.some.inj ha
    cases hc : r.phase with
    | routerRow c p row since rowV =>
      exact h.routerChain hr hc (fun hmiss ↦ hok r hi c p row since rowV hc hmiss) hstep
    | _ =>
      simp only [State.stepSession, hc] at hstep
      cases hstep
  | trace j =>
    obtain rfl := Option.some.inj ha
    cases hc : r.phase with
    | tracing c p row since => exact h.trace hr hc hstep
    | _ =>
      simp only [State.stepSession, hc] at hstep
      cases hstep
  | finish j =>
    simp only [State.stepSession] at hstep
    split at hstep
    · next c p hc =>
      rw [hc] at hphase
      split at hstep
      · cases hstep
        refine h.setSession i (hr.move ⟨hphase.1, ?_⟩ rfl)
        intro n hn
        cases hn
        exact hphase
      · cases hstep
    · cases hstep
  | fail j =>
    obtain ⟨c, hc, rfl⟩ := Option.map_eq_some_iff.mp hstep
    exact h.setSession i (hr.move ⟨hphase.version_le hc, fun n hn ↦ nomatch hn⟩ rfl)
  | store j =>
    obtain rfl := Option.some.inj ha
    exact h.step_store hr (hok r hi) hstep

private theorem Covered.step {a : Action} (hok : Rechecked s a)
    (hstep : s.act shortestPath a = some s') :
    Covered s' := by
  cases a with
  | commit db =>
    cases hstep
    exact h.commit db
  | bump =>
    cases hstep
    exact h.bump
  | openSession useCache =>
    cases hstep
    exact h.openSession useCache
  | _ =>
    simp only [State.act, Action.session?] at hstep
    split at hstep
    · cases hstep
    · next r hi => exact h.stepSession hi rfl hok hstep

end Steps

private theorem Covered.init (db : Database) : Covered { db := db } where
  clock := ⟨fun _ _ _ _ ↦ Nat.le_refl _, Nat.le_refl _⟩
  slot _ hg := nomatch hg
  logicalCache _ he := nomatch he
  map id e n he := by
    rw [AList.lookup_empty] at he
    cases he
  sessions _ hr := nomatch hr

/-- In every run where no bump gets in between, a result that the cache holds while its version field
is `v` was computed from rows that had seen all commits up to bump `v`. -/
theorem upstream_cache_covered (shortestPath : ShortestPath) {s : State}
    (h : ((upstreamCache shortestPath).restrict Rechecked).Reachable s) {id : String} {e : Entry}
    (he : s.map.lookup id = some e) {n : Nat} (hn : e.since = some n) :
    s.commitsAt s.version ≤ n := by
  have hcovered : Covered s := by
    refine h.invariant ?_ ?_
    · intro s₀ hinit
      rw [show s₀ = { db := s₀.db } from hinit]
      exact .init s₀.db
    · intro s₁ a s₂ hs hstep
      exact hs.step hstep.1 hstep.2
  exact (hcovered.map id e n he hn).2

/-! ### A bump during a computation -/

/-- A lone ONT. -/
def loneOnt : Database where
  devices := [{ id := "ont", type := .ont, provisioned := true }]
  interfaces := []
  links := []
  interfaces_nodup := List.nodup_nil
  links_nodup := List.nodup_nil

/-- A second ONT is created. -/
def twoOnts : Database where
  devices := [{ id := "ont", type := .ont, provisioned := true }, { id := "new", type := .ont }]
  interfaces := []
  links := []
  interfaces_nodup := List.nodup_nil
  links_nodup := List.nodup_nil

/-- A call up to its store, with a snapshot of its own. -/
def compute (i : Nat) (deviceId : String) : List Action :=
  [.call i deviceId, .lookup i, .start i, .acquire i, .collect i, .readRows i, .build i, .publish i,
    .finish i]

/-- The version field, the commits of its bump, and the commits of the entry of the ONT. -/
def observed (s : State) : Int × Nat × Option Nat :=
  (s.version, s.commitsAt s.version, (s.map.lookup "ont").bind Entry.since)

/-- A call that starts after a commit and its bump, and stores under its own version. -/
theorem upstream_cache_covered_after_bump :
    ∃ s, ((upstreamCache (fun _ _ _ ↦ none)).restrict Rechecked).Reachable s ∧
      observed s = (1, 1, some 1) ∧ s.commitsAt s.version ≤ 1 := by
  have h0 : ((upstreamCache (fun _ _ _ ↦ none)).restrict Rechecked).Reachable { db := loneOnt } :=
    .init rfl
  have h1 := h0.step (a := Action.openSession true) ⟨trivial, rfl⟩
  have h2 := h1.step (a := Action.commit twoOnts) ⟨trivial, rfl⟩
  have h3 := h2.step (a := Action.bump) ⟨trivial, rfl⟩
  have h4 := h3.step (a := Action.call 0 "ont") ⟨trivial, rfl⟩
  have h5 := h4.step (a := Action.lookup 0) ⟨trivial, rfl⟩
  have h6 := h5.step (a := Action.start 0) ⟨trivial, rfl⟩
  have h7 := h6.step (a := Action.acquire 0) ⟨trivial, rfl⟩
  have h8 := h7.step (a := Action.collect 0) ⟨trivial, rfl⟩
  have h9 := h8.step (a := Action.readRows 0) ⟨trivial, rfl⟩
  have h10 := h9.step (a := Action.build 0) ⟨by
    intro _ r hr c topoV collectV rows since hphase
    cases hr
    cases hphase
    rfl, rfl⟩
  have h11 := h10.step (a := Action.publish 0) ⟨trivial, rfl⟩
  have h12 := h11.step (a := Action.finish 0) ⟨trivial, rfl⟩
  have h13 := h12.step (a := Action.store 0) ⟨by
    intro r hr c result n hphase
    cases hr
    cases hphase
    exact Int.le_refl _, rfl⟩
  refine ⟨_, h13, rfl, ?_⟩
  exact upstream_cache_covered _ h13 (show AList.lookup "ont" _ = some _ from rfl) rfl

/-- A call computes before a commit, another one looks up after the bump, and the first one stores
its result under the new version. -/
theorem stale_store_after_bump :
    ∃ s, (upstreamCache (fun _ _ _ ↦ none)).Reachable s ∧
      ∃ e n, s.map.lookup "ont" = some e ∧ e.since = some n ∧ n < s.commitsAt s.version := by
  have hrun : (System.run (State.act (fun _ _ _ ↦ none)) { db := loneOnt }
      ([.openSession true, .openSession true] ++ compute 0 "ont" ++
        [.commit twoOnts, .bump, .call 1 "new", .lookup 1, .store 0])).map observed =
      some (1, 1, some 0) := by
    decide +kernel
  obtain ⟨s, hs, hview⟩ := Option.map_eq_some_iff.mp hrun
  simp only [observed, Prod.mk.injEq] at hview
  obtain ⟨e, he, hsince⟩ := Option.bind_eq_some_iff.mp hview.2.2
  have hinit : (upstreamCache (fun _ _ _ ↦ none)).init { db := loneOnt } := rfl
  have hreachable : (upstreamCache (fun _ _ _ ↦ none)).Reachable s :=
    .run (State.act (fun _ _ _ ↦ none)) (fun _ _ _ ha ↦ ha) _ (.init hinit) hs
  refine ⟨s, hreachable, e, 0, he, hsince, ?_⟩
  rw [hview.2.1]
  exact Nat.one_pos

end Unoc.Pathfinding.Upstream
