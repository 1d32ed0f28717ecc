import Unoc.Base.Feed
import Unoc.Traffic.BackendTick

/-!
# Runs of the backend's traffic engine

What a sequence of ticks reports. With the caches of paths and adjacency a tick reports the traffic
over the routes of its own rows, as long as no version stands for two topologies. The snapshot after
each tick shows the values that were published last, and whatever it does not show was published last
with zeros.
-/

namespace Unoc.Traffic.Backend

open Unoc.Base
open Unoc.Model

/-! ### Flows without caches -/

/-- A leaf with its demand and the path that is found without a cache. -/
structure LeafFlow where
  leafId : String
  upBps : ℚ
  downBps : ℚ
  pathNodes : List String
  pathLinks : List String
  deriving DecidableEq, Repr

/-- The flow of a leaf, if it is up and has a tariff and a path. -/
def leafFlow (g : Paths) (inp : TickInput) (seed : Int) (tick : Nat) (d : Device) : Option LeafFlow :=
  if inp.status d.id ≠ .up then none
  else
    (inp.tariffOf d).bind (fun tf ↦
      if (leafPath g inp none d.id).1.length ≤ 1 then none
      else
        some {
          leafId := d.id
          upBps := pendingBps tf.maxUpMbps (deterministicRand01 seed tick d.id)
          downBps := pendingBps tf.maxDownMbps (deterministicRand01 seed tick d.id)
          pathNodes := (leafPath g inp none d.id).1
          pathLinks := (leafPath g inp none d.id).2 })

/-- The flows of a tick over the routes of its rows. -/
def TickInput.flows (inp : TickInput) (seed : Int) (tick : Nat) : List LeafFlow :=
  inp.gatedLeaves.filterMap (leafFlow (inp.pathsOver inp.adjacency) inp seed tick)

/-- The traffic that some flows put on an entry. -/
def load (ids : LeafFlow → List String) (bps : LeafFlow → ℚ) (flows : List LeafFlow) (id : String) : ℚ :=
  (flows.map (fun f ↦ ((ids f).count id : ℚ) * bps f)).sum

/-- The totals are the loads of some flows. -/
structure Reports (gen : Generated) (flows : List LeafFlow) : Prop where
  leaves : gen.leavesCount = flows.length
  deviceUp : ∀ id, (gen.deviceTotals.lookup id).getD 0 =
    load LeafFlow.pathNodes LeafFlow.upBps flows id
  deviceDown : ∀ id, (gen.deviceDownTotals.lookup id).getD 0 =
    load LeafFlow.pathNodes LeafFlow.downBps flows id
  linkUp : ∀ id, (gen.linkTotals.lookup id).getD 0 = load LeafFlow.pathLinks LeafFlow.upBps flows id
  linkDown : ∀ id, (gen.linkDownTotals.lookup id).getD 0 =
    load LeafFlow.pathLinks LeafFlow.downBps flows id

/-- A flow is added to the totals, and its path is kept. -/
def addFlow (st : Generated) (f : LeafFlow) : Generated where
  pathCache := st.pathCache.insert f.leafId (f.pathNodes, f.pathLinks)
  deviceTotals := f.pathNodes.foldl (addTotal f.upBps) st.deviceTotals
  deviceDownTotals := f.pathNodes.foldl (addTotal f.downBps) st.deviceDownTotals
  linkTotals := f.pathLinks.foldl (addTotal f.upBps) st.linkTotals
  linkDownTotals := f.pathLinks.foldl (addTotal f.downBps) st.linkDownTotals
  leavesCount := st.leavesCount + 1

private theorem lookup_foldl_addTotal (bps : ℚ) (ids : List String) (totals : Dict String ℚ)
    (id : String) :
    ((ids.foldl (addTotal bps) totals).lookup id).getD 0 =
      (totals.lookup id).getD 0 + ids.count id * bps := by
  induction ids generalizing totals with
  | nil => simp
  | cons x ids ih =>
    rw [List.foldl_cons, ih, addTotal]
    by_cases hx : x = id
    · subst hx
      rw [Dict.lookup_update_self, Option.getD_some, List.count_cons_self]
      push_cast
      ring
    · rw [Dict.lookup_update_of_ne _ _ _ (Ne.symm hx), List.count_cons_of_ne hx]

/-- A field of the totals that each flow adds its rate to, along some ids. -/
theorem lookup_foldl_addFlow (total : Generated → Dict String ℚ) (ids : LeafFlow → List String)
    (bps : LeafFlow → ℚ)
    (htotal : ∀ st f, total (addFlow st f) = (ids f).foldl (addTotal (bps f)) (total st))
    (flows : List LeafFlow) (st : Generated) (id : String) :
    ((total (flows.foldl addFlow st)).lookup id).getD 0 =
      ((total st).lookup id).getD 0 + load ids bps flows id := by
  induction flows generalizing st with
  | nil => simp [load]
  | cons f flows ih =>
    rw [List.foldl_cons, ih, htotal, lookup_foldl_addTotal]
    unfold load
    rw [List.map_cons, List.sum_cons]
    ring

private theorem leavesCount_foldl_addFlow (flows : List LeafFlow) (st : Generated) :
    (flows.foldl addFlow st).leavesCount = st.leavesCount + flows.length := by
  induction flows generalizing st with
  | nil => rfl
  | cons f flows ih =>
    rw [List.foldl_cons, ih, List.length_cons, addFlow]
    dsimp only
    omega

private theorem reports_foldl_addFlow (pathCache : Dict String (List String × List String))
    (flows : List LeafFlow) : Reports (flows.foldl addFlow { pathCache := pathCache }) flows where
  leaves := by rw [leavesCount_foldl_addFlow, Nat.zero_add]
  deviceUp id := by
    rw [lookup_foldl_addFlow Generated.deviceTotals LeafFlow.pathNodes LeafFlow.upBps (fun _ _ ↦ rfl)]
    simp
  deviceDown id := by
    rw [lookup_foldl_addFlow Generated.deviceDownTotals LeafFlow.pathNodes LeafFlow.downBps
      (fun _ _ ↦ rfl)]
    simp
  linkUp id := by
    rw [lookup_foldl_addFlow Generated.linkTotals LeafFlow.pathLinks LeafFlow.upBps (fun _ _ ↦ rfl)]
    simp
  linkDown id := by
    rw [lookup_foldl_addFlow Generated.linkDownTotals LeafFlow.pathLinks LeafFlow.downBps
      (fun _ _ ↦ rfl)]
    simp

/-! ### The path cache -/

/-- Cached paths are those that are found without a cache. -/
def PathsValid (g : Paths) (inp : TickInput) (pathCache : Dict String (List String × List String)) :
    Prop :=
  ∀ leafId path, pathCache.lookup leafId = some path →
    path = leafPath g inp none leafId ∧ 1 < path.1.length

section Generation

variable {g : Paths} {inp : TickInput} {seed : Int} {tick : Nat}

/-- A path from a valid cache is the one found without it. -/
theorem leafPath_of_valid {pathCache : Dict String (List String × List String)}
    (h : PathsValid g inp pathCache) (leafId : String) :
    leafPath g inp (pathCache.lookup leafId) leafId = leafPath g inp none leafId := by
  cases hcached : pathCache.lookup leafId with
  | none => rfl
  | some path =>
    have ⟨hpath, hlength⟩ := h leafId path hcached
    rw [← hpath]
    unfold leafPath
    rw [Option.getD_some]
    dsimp only
    rw [if_neg (by omega)]

private theorem addLeaf_eq {st : Generated} (h : PathsValid g inp st.pathCache) (d : Device) :
    addLeaf g inp seed tick st d = ((leafFlow g inp seed tick d).map (addFlow st)).getD st := by
  unfold addLeaf leafFlow
  rw [leafPath_of_valid h]
  generalize leafPath g inp none d.id = path
  split
  · rfl
  · cases inp.tariffOf d with
    | none => rfl
    | some tf =>
      rw [Option.bind_some]
      dsimp only
      split <;> rfl

/-- A flow goes over the path of its leaf. -/
theorem path_of_leafFlow {d : Device} {f : LeafFlow} (hf : leafFlow g inp seed tick d = some f) :
    f.leafId = d.id ∧ (f.pathNodes, f.pathLinks) = leafPath g inp none d.id ∧
      1 < f.pathNodes.length := by
  unfold leafFlow at hf
  generalize leafPath g inp none d.id = path at hf ⊢
  split at hf
  · cases hf
  · have ⟨tf, _, hf⟩ := Option.bind_eq_some_iff.mp hf
    split at hf
    · cases hf
    · next hlength =>
      rw [← Option.some.inj hf]
      exact ⟨rfl, rfl, not_le.mp hlength⟩

private theorem PathsValid.addFlow {st : Generated} (h : PathsValid g inp st.pathCache) {d : Device}
    {f : LeafFlow} (hf : leafFlow g inp seed tick d = some f) :
    PathsValid g inp (addFlow st f).pathCache := by
  have ⟨hid, hnodes, hlength⟩ := path_of_leafFlow hf
  intro leafId path hpath
  change (st.pathCache.insert f.leafId (f.pathNodes, f.pathLinks)).lookup leafId = some path at hpath
  by_cases hleaf : leafId = f.leafId
  · rw [hleaf, AList.lookup_insert] at hpath
    rw [← Option.some.inj hpath, hleaf, hid, ← hnodes]
    exact ⟨rfl, hlength⟩
  · rw [AList.lookup_insert_ne hleaf] at hpath
    exact h leafId path hpath

/-- The loop over the leaves adds their flows, and keeps the cache valid. -/
theorem foldl_addLeaf (leaves : List Device) {st : Generated} (h : PathsValid g inp st.pathCache) :
    leaves.foldl (addLeaf g inp seed tick) st =
        (leaves.filterMap (leafFlow g inp seed tick)).foldl addFlow st ∧
      PathsValid g inp (leaves.foldl (addLeaf g inp seed tick) st).pathCache := by
  induction leaves generalizing st with
  | nil => exact ⟨rfl, h⟩
  | cons d leaves ih =>
    rw [List.foldl_cons, addLeaf_eq h, List.filterMap_cons]
    cases hf : leafFlow g inp seed tick d with
    | none => exact ih h
    | some f => exact ih (h.addFlow hf)

end Generation

/-! ### Versions -/

/-- Two ticks with the same routes: one adjacency, the same devices to traverse, the same upstream
and the same paths of flows. Tariffs and statuses may differ. -/
structure SameTopology (a b : TickInput) : Prop where
  adjacency : a.adjacency = b.adjacency
  allowed : allowedDeviceIds a.catalog.devices = allowedDeviceIds b.catalog.devices
  types : devTypeById a.catalog.devices = devTypeById b.catalog.devices
  upstream : ∀ id, a.upstream id = b.upstream id
  resolve : ∀ flow, a.resolve flow = b.resolve flow

private theorem SameTopology.pathsOver {a b : TickInput} (h : SameTopology a b)
    (adjacency : Adjacency) :
    a.pathsOver adjacency = b.pathsOver adjacency := by
  unfold TickInput.pathsOver
  rw [h.allowed, h.types]

private theorem SameTopology.leafPath {a b : TickInput} (h : SameTopology a b) (g : Paths)
    (leafId : String) :
    leafPath g a none leafId = leafPath g b none leafId := by
  have hresolve : a.resolve = b.resolve := funext h.resolve
  unfold Backend.leafPath
  rw [hresolve, h.upstream]

/-- No version stands for two topologies. -/
def Versioned (ticks : List TickInput) : Prop :=
  ∀ a ∈ ticks, ∀ b ∈ ticks, a.version = b.version → SameTopology a b

/-- What the engine keeps under a version is what a tick of that version would compute. -/
structure CachesValid (engine : Engine) (inp : TickInput) : Prop where
  adjacency : engine.adjacencyCacheValid = true → engine.adjacencyTopoVersion = some inp.version →
    ∀ a, engine.adjacencyCache = some a → a = inp.adjacency
  paths : engine.pathCacheTopoV = some inp.version →
    PathsValid (inp.pathsOver inp.adjacency) inp engine.pathCache

private theorem cachesValid_start (inp : TickInput) : CachesValid {} inp where
  adjacency h := by cases h
  paths h := by cases h

section Tick

variable {engine : Engine} {inp : TickInput} (h : CachesValid engine inp)
include h

private theorem CachesValid.cachedAdjacency :
    (engine.cachedAdjacency inp.version).getD inp.adjacency = inp.adjacency := by
  unfold Engine.cachedAdjacency
  split
  · next hcond =>
    cases hcache : engine.adjacencyCache with
    | none => rfl
    | some a => exact h.adjacency hcond.1 hcond.2 a hcache
  · rfl

private theorem CachesValid.pathCacheAt :
    PathsValid (inp.pathsOver inp.adjacency) inp (engine.pathCacheAt inp.version) := by
  unfold Engine.pathCacheAt
  split
  · intro leafId path hpath
    cases hpath
  · next hsame => exact h.paths (not_not.mp hsame)

/-- A tick over valid caches generates the flows of its own rows. -/
theorem CachesValid.generate :
    Reports (engine.generate inp) (inp.flows engine.randomSeed engine.tickSeq) ∧
      PathsValid (inp.pathsOver inp.adjacency) inp (engine.generate inp).pathCache := by
  unfold Engine.generate generateFlowsForLeaves
  rw [h.cachedAdjacency]
  have ⟨hfold, hvalid⟩ := @foldl_addLeaf (inp.pathsOver inp.adjacency) inp engine.randomSeed
    engine.tickSeq inp.gatedLeaves { pathCache := engine.pathCacheAt inp.version } h.pathCacheAt
  refine ⟨?_, hvalid⟩
  rw [hfold]
  exact reports_foldl_addFlow _ _

/-- After a tick the caches are valid for every tick of the same version and the same topology, and
for every tick of another version. -/
theorem CachesValid.runTick {next : TickInput} (hsame : inp.version = next.version →
    SameTopology inp next) : CachesValid (engine.runTick inp).1 next := by
  constructor
  · intro _ hversion a ha
    change some inp.version = some next.version at hversion
    change some ((engine.cachedAdjacency inp.version).getD inp.adjacency) = some a at ha
    rw [h.cachedAdjacency] at ha
    cases ha
    exact (hsame (Option.some.inj hversion)).adjacency
  · intro hversion
    change some inp.version = some next.version at hversion
    have htopology := hsame (Option.some.inj hversion)
    have hvalid := h.generate.2
    intro leafId path hpath
    have ⟨heq, hlength⟩ := hvalid leafId path hpath
    refine ⟨?_, hlength⟩
    rw [heq, htopology.leafPath, htopology.pathsOver, htopology.adjacency]

end Tick

private theorem run_append (engine : Engine) (ticks more : List TickInput) :
    engine.run (ticks ++ more) =
      (((engine.run ticks).1.run more).1, (engine.run ticks).2 ++ ((engine.run ticks).1.run more).2) := by
  induction ticks generalizing engine with
  | nil => rfl
  | cons inp ticks ih =>
    change ((((engine.runTick inp).1.run (ticks ++ more)).1,
      (engine.runTick inp).2 ++ ((engine.runTick inp).1.run (ticks ++ more)).2)) = _
    rw [ih]
    change (_, _ ++ (_ ++ _)) = (_, (_ ++ _) ++ _)
    rw [List.append_assoc]
    rfl

/-- The seed never changes, and ticks are counted. -/
theorem run_counters (engine : Engine) (ticks : List TickInput) :
    (engine.run ticks).1.randomSeed = engine.randomSeed ∧
      (engine.run ticks).1.tickSeq = engine.tickSeq + ticks.length := by
  induction ticks generalizing engine with
  | nil => exact ⟨rfl, rfl⟩
  | cons inp ticks ih =>
    have ⟨hseed, htick⟩ := ih (engine.runTick inp).1
    refine ⟨hseed, htick.trans ?_⟩
    change engine.tickSeq + 1 + ticks.length = _
    rw [List.length_cons]
    omega

/-- The caches stay valid for whatever tick comes next. -/
theorem cachesValid_run (ticks : List TickInput) : ∀ {engine : Engine} {next : TickInput},
    (∀ inp ∈ next :: ticks, CachesValid engine inp) → Versioned (ticks ++ [next]) →
      CachesValid (engine.run ticks).1 next := by
  induction ticks with
  | nil => exact fun h _ ↦ h _ List.mem_cons_self
  | cons inp ticks ih =>
    intro engine next h hversioned
    have hinp := h inp (List.mem_cons_of_mem next List.mem_cons_self)
    refine @ih (engine.runTick inp).1 next ?_ ?_
    · intro later hlater
      apply hinp.runTick
      apply hversioned inp (by simp) later
      cases List.mem_cons.mp hlater with
      | inl heq => simp [heq]
      | inr hmem => simp [hmem]
    · intro a ha b hb
      exact hversioned a (List.mem_cons_of_mem inp ha) b (List.mem_cons_of_mem inp hb)

/-- In every run in which no version stands for two topologies, each tick reports the traffic of its
leaves along the routes of its own rows, as it would without the caches. -/
theorem ticks_report_own_routes (ticks : List TickInput) (inp : TickInput)
    (hversioned : Versioned (ticks ++ [inp])) :
    Reports ((({} : Engine).run ticks).1.generate inp) (inp.flows 0xAA55AA55 ticks.length) := by
  have hvalid := @cachesValid_run ticks {} inp (fun inp _ ↦ cachesValid_start inp) hversioned
  have ⟨hseed, htick⟩ := run_counters {} ticks
  have hreports := hvalid.generate.1
  rw [hseed, htick] at hreports
  simpa using hreports

private theorem nodup_noPortProfiles :
    (([] : List PortProfile).map (fun p ↦ (p.hardwareModelId, p.name))).Nodup :=
  List.nodup_nil

/-- A tick over `twoUplinks` with a tariff for its ONT. -/
def ontTick (resolve : Forwarding.Flow → Forwarding.FlowPath) (version : Nat) (status : Status) :
    TickInput where
  catalog := { twoUplinks with
    devices := twoUplinks.devices.map (fun d ↦ if d.id = "ont" then { d with tariffId := some 1 } else d)
    devices_nodup := by decide
    portProfiles := []
    hardwareModels_nodup := List.nodup_nil
    portProfiles_nodup := nodup_noPortProfiles }
  tariffs := [{ id := 1, maxUpMbps := 50, maxDownMbps := 250 }]
  status _ := status
  upstream _ := none
  resolve := resolve
  version := version

private theorem sameTopology_ontTick (resolve : Forwarding.Flow → Forwarding.FlowPath) (v w : Nat)
    (s s' : Status) :
    SameTopology (ontTick resolve v s) (ontTick resolve w s') :=
  ⟨rfl, rfl, rfl, fun _ ↦ rfl, fun _ ↦ rfl⟩

/-- The path that the first tick finds serves the second one, whose leaf is down, and the third. -/
theorem ticks_report_own_routes_ontTick :
    ((({} : Engine).run [ontTick (Paths.resolveFlow Forwarding.asciiLower Forwarding.smallIp {} {}) 7 .up,
        ontTick (Paths.resolveFlow Forwarding.asciiLower Forwarding.smallIp {} {}) 7 .down]).1.generate
      (ontTick (Paths.resolveFlow Forwarding.asciiLower Forwarding.smallIp {} {}) 7 .up)).leavesCount = 1 := by
  generalize hresolve : Paths.resolveFlow Forwarding.asciiLower Forwarding.smallIp {} {} = resolve
  have hversioned : Versioned ([ontTick resolve 7 .up, ontTick resolve 7 .down] ++
      [ontTick resolve 7 .up]) := by
    have hform : ∀ a ∈ [ontTick resolve 7 .up, ontTick resolve 7 .down] ++ [ontTick resolve 7 .up],
        ∃ s, a = ontTick resolve 7 s := by
      intro a ha
      simp only [List.cons_append, List.nil_append, List.mem_cons, List.not_mem_nil, or_false] at ha
      rcases ha with h | h | h
      · exact ⟨_, h⟩
      · exact ⟨_, h⟩
      · exact ⟨_, h⟩
    intro a ha b hb _
    have ⟨s, hs⟩ := hform a ha
    have ⟨t, ht⟩ := hform b hb
    rw [hs, ht]
    exact sameTopology_ontTick resolve 7 7 s t
  have hreports := ticks_report_own_routes [ontTick resolve 7 .up, ontTick resolve 7 .down]
    (ontTick resolve 7 .up) hversioned
  rw [hreports.leaves, ← hresolve]
  decide +kernel

/-! ### What is published -/

/-- The device items of some events, in the order of their publication. -/
def deviceItems (events : List MetricsEvent) : List (String × DeviceMetrics) :=
  events.flatMap (fun e ↦ match e with
    | .deviceMetricsUpdated devices _ => devices
    | .linkMetricsUpdated _ _ => [])

/-- The link items of some events, in the order of their publication. -/
def linkItems (events : List MetricsEvent) : List (String × LinkMetrics) :=
  events.flatMap (fun e ↦ match e with
    | .deviceMetricsUpdated _ _ => []
    | .linkMetricsUpdated links _ => links)

/-- The entries of a map are those of the items published last, and what has no entry was published
last with zeros, if at all. -/
structure ShowsLast {V E : Type} (entry : V → E) (zero : V) (shown : Dict String E)
    (published : List (String × V)) : Prop where
  value : ∀ id e, shown.lookup id = some e → ∃ v, Feed.last published id = some v ∧ e = entry v
  missing : ∀ id, shown.lookup id = none → ∀ v, Feed.last published id = some v → v = zero

private theorem lookup_snapshotMap {V E : Type} (entry : V → E) (changes zeros : List (String × V))
    (id : String) : (snapshotMap entry changes zeros).lookup id =
      ((Feed.last (zeros.filter (fun e ↦ e.1 ≠ "")) id).or (Feed.last changes id)).map entry := by
  unfold snapshotMap
  rw [Dict.lookup_foldl_insert, Dict.lookup_foldl_insert]
  unfold Feed.last
  cases (zeros.filter (fun e ↦ e.1 ≠ "")).reverse.find? (fun e ↦ decide (e.1 = id)) <;>
    cases changes.reverse.find? (fun e ↦ decide (e.1 = id)) <;> rfl

private theorem round_zeroItems {V : Type} (zero : V) (before : Finset String)
    {changes : List (String × V)}
    (hnodup : (changes.map Prod.fst).Nodup) :
    Feed.Round zero before changes (zeroItems zero before (itemIds changes)) where
  nodup := hnodup
  zeros_iff id := by
    unfold zeroItems itemIds
    rw [List.map_map]
    change id ∈ (RangeOrder.ascending.keys _).map (fun id ↦ id) ↔ _
    rw [List.map_id', RangeOrder.ascending.mem_keys, Finset.mem_sdiff, List.mem_toFinset]
  value e he := by
    have ⟨id, _, hid⟩ := List.mem_map.mp he
    rw [← hid]

/-- A snapshot shows what a round has published last. -/
theorem showsLast_snapshotMap {V E : Type} (entry : V → E) {zero : V} {before : Finset String}
    {changes published : List (String × V)} (hnodup : (changes.map Prod.fst).Nodup)
    (hpub : Feed.Retracted zero published before) :
    ShowsLast entry zero (snapshotMap entry changes (zeroItems zero before (itemIds changes)))
      (published ++ changes ++ zeroItems zero before (itemIds changes)) := by
  have hround := round_zeroItems zero before hnodup
  have hretracted := hround.retracted hpub
  generalize zeroItems zero before (itemIds changes) = zeros at hround hretracted ⊢
  constructor
  · intro id e he
    rw [lookup_snapshotMap] at he
    have ⟨v, hv, hentry⟩ := Option.map_eq_some_iff.mp he
    refine ⟨v, ?_, hentry.symm⟩
    by_cases hcurrent : id ∈ changes.map Prod.fst
    · rw [hround.last_of_active hcurrent]
      have hzero : Feed.last (zeros.filter (fun e ↦ e.1 ≠ "")) id = none := by
        rw [Feed.last_eq_none]
        intro hmem
        have ⟨z, hz, hid⟩ := List.mem_map.mp hmem
        exact ((hround.zeros_iff id).mp (List.mem_map.mpr ⟨z, (List.mem_filter.mp hz).1, hid⟩)).2
          hcurrent
      rw [hzero] at hv
      exact hv
    · rw [Feed.last_eq_none.mpr hcurrent, Option.or_none] at hv
      have hmem : id ∈ zeros.map Prod.fst := by
        by_contra hnot
        have hnone : Feed.last (zeros.filter (fun e ↦ e.1 ≠ "")) id = none := by
          rw [Feed.last_eq_none]
          intro hfiltered
          have ⟨z, hz, hid⟩ := List.mem_map.mp hfiltered
          exact hnot (List.mem_map.mpr ⟨z, (List.mem_filter.mp hz).1, hid⟩)
        rw [hnone] at hv
        cases hv
      rw [Feed.last_append]
      cases hlast : Feed.last zeros id with
      | none => exact absurd hmem (Feed.last_eq_none.mp hlast)
      | some z =>
        have hz := (hround.last_zeros hlast).1
        have ⟨e', he', hval⟩ := Option.map_eq_some_iff.mp hv
        have hv' := hround.value e'
          (List.mem_filter.mp (List.mem_reverse.mp (List.mem_of_find?_eq_some he'))).1
        rw [hz, ← hval, hv']
        rfl
  · intro id hnone v hv
    rw [lookup_snapshotMap, Option.map_eq_none_iff, Option.or_eq_none_iff] at hnone
    apply hretracted id ?_ v hv
    rw [List.mem_toFinset]
    exact Feed.last_eq_none.mp hnone.2

private theorem nodup_entries {V W : Type} (totals : Dict String V) (f : (_ : String) × V → W) :
    ((totals.entries.map (fun e ↦ (e.1, f e))).map Prod.fst).Nodup := by
  rw [List.map_map]
  exact totals.nodupKeys

/-- What the engine is about to retract, after some ticks. -/
structure FeedInv (engine : Engine) (published : List MetricsEvent) : Prop where
  devices : Feed.Retracted DeviceMetrics.zero (deviceItems published) engine.prevActiveDevices
  links : Feed.Retracted LinkMetrics.zero (linkItems published) engine.prevActiveLinks

/-- The snapshot against what was published. -/
structure Shows (engine : Engine) (published : List MetricsEvent) : Prop where
  devices : ShowsLast DeviceMetrics.entry DeviceMetrics.zero engine.lastDevices (deviceItems published)
  links : ShowsLast LinkMetrics.entry LinkMetrics.zero engine.lastLinks (linkItems published)

private theorem deviceItems_append (events more : List MetricsEvent) :
    deviceItems (events ++ more) = deviceItems events ++ deviceItems more := by
  unfold deviceItems
  rw [List.flatMap_append]

private theorem linkItems_append (events more : List MetricsEvent) :
    linkItems (events ++ more) = linkItems events ++ linkItems more := by
  unfold linkItems
  rw [List.flatMap_append]

private theorem deviceItems_publishIf (items : List (String × DeviceMetrics)) (tick : Nat) :
    deviceItems (publishIf .deviceMetricsUpdated items tick) = items ∧
      linkItems (publishIf .deviceMetricsUpdated items tick) = [] := by
  unfold publishIf
  split
  · next h => exact ⟨h.symm, rfl⟩
  · simp [deviceItems, linkItems]

private theorem linkItems_publishIf (items : List (String × LinkMetrics)) (tick : Nat) :
    deviceItems (publishIf .linkMetricsUpdated items tick) = [] ∧
      linkItems (publishIf .linkMetricsUpdated items tick) = items := by
  unfold publishIf
  split
  · next h => exact ⟨rfl, h.symm⟩
  · simp [deviceItems, linkItems]

/-- One tick shows what it has published, and keeps account of what to retract. -/
theorem FeedInv.runTick {engine : Engine} {published : List MetricsEvent} (h : FeedInv engine published)
    (inp : TickInput) : FeedInv (engine.runTick inp).1 (published ++ (engine.runTick inp).2) ∧
      Shows (engine.runTick inp).1 (published ++ (engine.runTick inp).2) := by
  have hdeviceNodup := nodup_entries (engine.generate inp).deviceTotals
    (fun e ↦ deviceChange inp.catalog (engine.generate inp).deviceDownTotals e.1 e.2)
  have hlinkNodup := nodup_entries (engine.generate inp).linkTotals
    (fun e ↦ (⟨e.2, ((if capMbpsOf inp.catalog e.1 ≤ 0 ∧ e.2 ≤ 0 then 0
      else e.2 / (capMbpsOf inp.catalog e.1 * 1000000) : ℚ) : WithTop ℚ)⟩ : LinkMetrics))
  have hdevices : deviceItems (published ++ (engine.runTick inp).2) = deviceItems published ++
      computeDeviceChanges inp.catalog (engine.generate inp).deviceTotals
        (engine.generate inp).deviceDownTotals ++
      zeroItems DeviceMetrics.zero engine.prevActiveDevices (itemIds (computeDeviceChanges inp.catalog
        (engine.generate inp).deviceTotals (engine.generate inp).deviceDownTotals)) := by
    unfold Engine.runTick
    simp only [deviceItems_append, deviceItems_publishIf, linkItems_publishIf, List.append_nil,
      List.nil_append, List.append_assoc]
  have hlinks : linkItems (published ++ (engine.runTick inp).2) = linkItems published ++
      computeLinkChanges inp.catalog (engine.generate inp).linkTotals ++
      zeroItems LinkMetrics.zero engine.prevActiveLinks (itemIds (computeLinkChanges inp.catalog
        (engine.generate inp).linkTotals)) := by
    unfold Engine.runTick
    simp only [linkItems_append, deviceItems_publishIf, linkItems_publishIf, List.nil_append,
      List.append_assoc]
  refine ⟨⟨?_, ?_⟩, ⟨?_, ?_⟩⟩
  · rw [hdevices]
    exact (round_zeroItems DeviceMetrics.zero engine.prevActiveDevices hdeviceNodup).retracted h.devices
  · rw [hlinks]
    exact (round_zeroItems LinkMetrics.zero engine.prevActiveLinks hlinkNodup).retracted h.links
  · rw [hdevices]
    exact showsLast_snapshotMap DeviceMetrics.entry hdeviceNodup h.devices
  · rw [hlinks]
    exact showsLast_snapshotMap LinkMetrics.entry hlinkNodup h.links

private theorem feedInv_start : FeedInv {} [] :=
  ⟨Feed.retracted_nil _, Feed.retracted_nil _⟩

private theorem shows_start : Shows {} [] := by
  constructor
  · constructor
    · intro id e he
      cases he
    · intro id _ v hv
      cases hv
  · constructor
    · intro id e he
      cases he
    · intro id _ v hv
      cases hv

private theorem feedInv_run (ticks : List TickInput) :
    FeedInv (({} : Engine).run ticks).1 (({} : Engine).run ticks).2 := by
  induction ticks using List.reverseRecOn with
  | nil => exact feedInv_start
  | append_singleton ticks inp ih =>
    rw [run_append]
    have hstep := (ih.runTick inp).1
    change FeedInv _ (_ ++ ((Engine.runTick _ inp).2 ++ []))
    rw [List.append_nil]
    exact hstep

/-- After every run of ticks, over any rows, the snapshot has for each device and each link the values
that were published for it last, and every device or link that it leaves out was published last with
zeros, or never. -/
theorem snapshot_shows_last_published (ticks : List TickInput) :
    Shows (({} : Engine).run ticks).1 (({} : Engine).run ticks).2 := by
  induction ticks using List.reverseRecOn with
  | nil => exact shows_start
  | append_singleton ticks inp ih =>
    have hstep := ((feedInv_run ticks).runTick inp).2
    rw [run_append]
    change Shows _ (_ ++ ((Engine.runTick _ inp).2 ++ []))
    rw [List.append_nil]
    exact hstep

end Unoc.Traffic.Backend
