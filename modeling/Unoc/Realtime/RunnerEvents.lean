import Unoc.Realtime.MetricsStore
import Unoc.Realtime.Outbox

/-!
# Metric events of the Go engine

`TariffTrafficRunner` of `backend/services/traffic/v2_runner.py` publishes one authoritative
`deviceMetricsUpdated` event in each tick. After the events that came through the outbox the client
holds the devices of the last of them, as long as its store takes each of its items.
-/

namespace Unoc.Realtime

open Unoc.Base

/-! ### The runner -/

/-- An entry of `device_metrics` in a snapshot of the Go engine. -/
structure GoMetrics where
  upBps : Option Float := none
  downBps : Option Float := none
  utilization : Option Float := none
  congested : Option Bool := none
  capacityMbps : Option Float := none
  demandUpBps : Option Float := none
  demandDownBps : Option Float := none
  scaleUp : Option Float := none
  scaleDown : Option Float := none
  throttled : Option Bool := none
  deriving DecidableEq

/-- A snapshot of the Go engine, as far as device events need it. -/
structure GoSnapshot where
  tick : Option Float := none
  deviceMetrics : Dict String GoMetrics := ∅

/-- The entry of one device; `v2_runner.py:89–101`. -/
def deviceMetricChange (devId : String) (metrics : GoMetrics) : MetricItem :=
  let upBps := metrics.upBps.getD 0
  let downBps := metrics.downBps.getD 0
  { id := devId
    bps := upBps + downBps
    utilization := metrics.utilization.getD 0
    fields := {
      upstreamBps := some upBps
      downstreamBps := some downBps
      congested := metrics.congested
      capacityMbps := metrics.capacityMbps
      demandUpBps := metrics.demandUpBps
      demandDownBps := metrics.demandDownBps
      scaleUp := metrics.scaleUp
      scaleDown := metrics.scaleDown
      throttled := metrics.throttled } }

/-- `build_device_metric_changes`; `v2_runner.py:86–103`. -/
def buildDeviceMetricChanges (snapshot : GoSnapshot) : List MetricItem :=
  snapshot.deviceMetrics.entries.map (fun e ↦ deviceMetricChange e.1 e.2)

/-- The payload that `_run_loop` publishes; `v2_runner.py:219–232`. -/
def runnerPayload (snapshot : GoSnapshot) : MetricsPayload where
  devices := buildDeviceMetricChanges snapshot
  tick := some (snapshot.tick.getD 0)
  authoritative := true

/-- The payload of a message: device metrics, or anything else. -/
inductive Payload (γ : Type) where
  | metrics (p : MetricsPayload)
  | other (body : γ)

/-- A message of another type. -/
def OtherMessage (γ : Type) : Type := {msg : Message γ // msg.type ≠ "deviceMetricsUpdated"}

/-- What happens to the outbox: ticks of the runner, messages of other types and gets. -/
inductive RunnerOp (γ : Type) where
  | tick (snapshot : GoSnapshot)
  | publish (msg : OtherMessage γ)
  | get

variable {γ : Type}

/-- The envelope of a metrics payload. -/
def metricsMessage (p : MetricsPayload) : Message (Payload γ) where
  type := "deviceMetricsUpdated"
  body := .metrics p

/-- The envelope of another message. -/
def otherMessage (msg : OtherMessage γ) : Message (Payload γ) where
  type := msg.1.type
  id := msg.1.id
  body := .other msg.1.body

/-- The operation on the outbox. -/
def RunnerOp.op : RunnerOp γ → Op (Payload γ)
  | .tick snapshot => .put (metricsMessage (runnerPayload snapshot))
  | .publish msg => .put (otherMessage msg)
  | .get => .get

/-- What the client hands to the metrics store. -/
def Message.metrics? (msg : Message (Payload γ)) : Option MetricsPayload :=
  if msg.type = "deviceMetricsUpdated" then
    match msg.body with
    | .metrics p => some p
    | .other _ => none
  else none

/-- The metric events among numbered messages. -/
def metricsOf (ms : List (Nat × Message (Payload γ))) : List MetricsPayload :=
  ms.filterMap (fun m ↦ m.2.metrics?)

/-- The store after some events. -/
def MetricsStore.applyAll (store : MetricsStore) (events : List MetricsPayload) : MetricsStore :=
  events.foldl MetricsStore.deviceMetricsUpdated store

/-! ### What the client holds -/

/-- The values of an item in a metric. -/
def SameValues (m : DeviceMetric) (it : MetricItem) : Prop :=
  m.bps = it.bps ∧ m.utilization = it.utilization ∧
    m.fields.upstreamBps = it.fields.upstreamBps ∧
    m.fields.downstreamBps = it.fields.downstreamBps

/-- The store has exactly the devices of an event, with its values. -/
structure Holds (store : MetricsStore) (p : MetricsPayload) : Prop where
  ids : ∀ id, (store.byId.own.lookup id).isSome ↔ ∃ it ∈ p.devices, it.id = id
  values : ∀ it ∈ p.devices, ∀ m, store.byId.own.lookup it.id = some m → SameValues m it

/-- The store takes an item without version: its id is a usable property name, nothing is inherited
under it, and the version of a stored metric can still grow, if its values differ at all. -/
def Takes (byId : ById) (it : MetricItem) : Prop :=
  it.id ≠ "" ∧ it.id ≠ "__proto__" ∧
    match byId.read it.id with
    | .falsy => True
    | .metric cur => cur.version + 1 > cur.version ∨ SameValues cur it
    | .other => False

/-- An item as the runner publishes it: without version, with both directions. -/
structure Unversioned (it : MetricItem) : Prop where
  version : it.version = none
  upstream : it.fields.upstreamBps.isSome
  downstream : it.fields.downstreamBps.isSome

private theorem Unversioned.sameValues_over {it : MetricItem} (h : Unversioned it) (version : Float)
    (cur : OptionalFields) : SameValues (it.over version cur) it := by
  obtain ⟨up, hup⟩ := Option.isSome_iff_exists.mp h.upstream
  obtain ⟨down, hdown⟩ := Option.isSome_iff_exists.mp h.downstream
  refine ⟨rfl, rfl, ?_, ?_⟩
  · simp [MetricItem.over, OptionalFields.orElse, hup]
  · simp [MetricItem.over, OptionalFields.orElse, hdown]

/-- A property that the object does not have itself is no metric, `__proto__` apart. -/
theorem read_of_own_none {byId : ById} {id : String} (hown : byId.own.lookup id = none)
    (hid : id ≠ "__proto__") : byId.read id = .falsy ∨ byId.read id = .other := by
  unfold ById.read
  rw [hown]
  cases byId.proto with
  | none =>
    dsimp only
    split
    · exact Or.inr rfl
    · exact Or.inl rfl
  | some p =>
    dsimp only
    rw [if_neg hid]
    split
    · exact Or.inr rfl
    · exact Or.inl rfl

/-- An own entry is read. -/
theorem read_of_own_some {byId : ById} {id : String} {m : DeviceMetric}
    (hown : byId.own.lookup id = some m) : byId.read id = .metric m := by
  unfold ById.read
  rw [hown]

/-- What is stored under the id of an item has its values iff the store takes the item. -/
theorem takes_iff {byId : ById} {it : MetricItem} (hit : Unversioned it) (hempty : it.id ≠ "") :
    (∃ m, (stored byId it).or (byId.own.lookup it.id) = some m ∧ SameValues m it) ↔
      Takes byId it := by
  unfold Takes stored
  by_cases hproto : it.id = "__proto__"
  · rw [if_pos (Or.inr hproto), hproto, byId.own_proto]
    simp
  rw [if_neg (not_or.mpr ⟨hempty, hproto⟩)]
  simp only [ne_eq, hempty, not_false_eq_true, hproto, true_and]
  cases hown : byId.own.lookup it.id with
  | none =>
    rcases read_of_own_none hown hproto with hread | hread
    · simp [incoming, hread, hit.sameValues_over]
    · simp [incoming, hread]
  | some cur =>
    have hread := read_of_own_some hown
    simp only [incoming, hread, hit.version, Option.getD_none]
    by_cases hgrows : cur.version + 1 > cur.version
    · simp [hgrows, hit.sameValues_over]
    · simp [hgrows]

/-- An event as the runner publishes it. -/
structure Authoritative (p : MetricsPayload) : Prop where
  authoritative : p.authoritative = true
  nodup : (p.devices.map MetricItem.id).Nodup
  unversioned : ∀ it ∈ p.devices, Unversioned it

private theorem authoritative_runnerPayload (snapshot : GoSnapshot) :
    Authoritative (runnerPayload snapshot) where
  authoritative := rfl
  nodup := by
    have hkeys := snapshot.deviceMetrics.nodupKeys
    rw [List.NodupKeys, List.keys] at hkeys
    simpa [runnerPayload, buildDeviceMetricChanges, deviceMetricChange, Function.comp_def] using hkeys
  unversioned := by
    intro it hit
    obtain ⟨e, _, rfl⟩ := List.mem_map.mp hit
    exact ⟨rfl, rfl, rfl⟩

private theorem find?_of_mem {items : List MetricItem} (hitems : (items.map MetricItem.id).Nodup)
    {it : MetricItem} (hit : it ∈ items) : items.find? (fun it' ↦ it'.id = it.id) = some it := by
  induction items with
  | nil => cases hit
  | cons x items ih =>
    obtain ⟨hx, hitems⟩ := List.nodup_cons.mp hitems
    rcases List.mem_cons.mp hit with rfl | hit
    · simp
    · have hne : x.id ≠ it.id := fun h ↦ hx (List.mem_map.mpr ⟨it, hit, h.symm⟩)
      rw [List.find?_cons_of_neg (by simpa using hne), ih hitems hit]

/-- One authoritative event, on any store. -/
theorem Authoritative.holds_iff {p : MetricsPayload} (hp : Authoritative p) (store : MetricsStore) :
    Holds (store.deviceMetricsUpdated p) p ↔ ∀ it ∈ p.devices, Takes store.byId it := by
  have hlookup := lookup_deviceMetricsUpdated store p hp.nodup
  have hlisted : ∀ it ∈ p.devices, it.id ≠ "" →
      (store.deviceMetricsUpdated p).byId.own.lookup it.id =
        (stored store.byId it).or (store.byId.own.lookup it.id) := by
    intro it hit hempty
    have hmem : it.id ∈ p.incomingIds := (mem_incomingIds p it.id).mpr ⟨hempty, it, hit, rfl⟩
    rw [hlookup, if_neg (fun h ↦ h.2 hmem), find?_of_mem hp.nodup hit, Option.bind_some]
  have hforeign : ∀ id, id ∉ p.incomingIds →
      (store.deviceMetricsUpdated p).byId.own.lookup id = none := by
    intro id hid
    rw [hlookup, if_pos ⟨hp.authoritative, hid⟩]
  constructor
  · intro h it hit
    obtain ⟨m, hm⟩ := Option.isSome_iff_exists.mp ((h.ids it.id).mpr ⟨it, hit, rfl⟩)
    have hempty : it.id ≠ "" := by
      intro hempty
      have hnone := hforeign it.id (fun hmem ↦ ((mem_incomingIds p it.id).mp hmem).1 hempty)
      rw [hnone] at hm
      cases hm
    refine (takes_iff (hp.unversioned it hit) hempty).mp ⟨m, ?_, h.values it hit m hm⟩
    rw [← hlisted it hit hempty, hm]
  · intro h
    have hvalue : ∀ it ∈ p.devices, ∃ m,
        (store.deviceMetricsUpdated p).byId.own.lookup it.id = some m ∧ SameValues m it := by
      intro it hit
      have hempty := (h it hit).1
      rw [hlisted it hit hempty]
      exact (takes_iff (hp.unversioned it hit) hempty).mpr (h it hit)
    constructor
    · intro id
      constructor
      · intro hsome
        by_contra hnot
        have hmem : id ∉ p.incomingIds := fun hmem ↦ hnot ((mem_incomingIds p id).mp hmem).2
        rw [hforeign id hmem] at hsome
        cases hsome
      · rintro ⟨it, hit, rfl⟩
        obtain ⟨m, hm, _⟩ := hvalue it hit
        rw [hm]
        rfl
    · intro it hit m hm
      obtain ⟨m', hm', hsame⟩ := hvalue it hit
      rw [hm', Option.some.injEq] at hm
      exact hm ▸ hsame

/-- Every metric event that the outbox delivers is one of the runner. -/
theorem authoritative_of_delivered {maxsize : Int} {ops : List (RunnerOp γ)} {p : MetricsPayload}
    (h : p ∈ metricsOf (History.run maxsize (ops.map RunnerOp.op)).delivered) :
    Authoritative p := by
  obtain ⟨m, hm, hp⟩ := List.mem_filterMap.mp h
  have hput := History.mem_puts_of_mem (List.mem_append_left _ hm)
  have hmsg : m.2 ∈ (ops.map RunnerOp.op).filterMap Op.msg? := by
    rw [← History.map_snd_puts maxsize]
    exact List.mem_map_of_mem hput
  obtain ⟨op, hop, hmsg⟩ := List.mem_filterMap.mp hmsg
  obtain ⟨op, _, rfl⟩ := List.mem_map.mp hop
  cases op with
  | tick snapshot =>
    have hm : metricsMessage (runnerPayload snapshot) = m.2 := Option.some.inj hmsg
    have hp : runnerPayload snapshot = p := by
      rw [← hm] at hp
      exact Option.some.inj hp
    exact hp ▸ authoritative_runnerPayload snapshot
  | publish msg =>
    have hm : otherMessage msg = m.2 := Option.some.inj hmsg
    have htype : (otherMessage msg).type ≠ "deviceMetricsUpdated" := msg.2
    rw [← hm, Message.metrics?, if_neg htype] at hp
    cases hp
  | get => cases hmsg

/-- After the events that the outbox delivered, the client holds the last of them iff its store,
as the earlier ones left it, takes each of its items. -/
theorem client_holds_last_iff (maxsize : Int) (ops : List (RunnerOp γ)) (store : MetricsStore)
    (earlier : List MetricsPayload) (last : MetricsPayload)
    (h : metricsOf (History.run maxsize (ops.map RunnerOp.op)).delivered = earlier ++ [last]) :
    Holds (store.applyAll (metricsOf (History.run maxsize (ops.map RunnerOp.op)).delivered)) last ↔
      ∀ it ∈ last.devices, Takes (store.applyAll earlier).byId it := by
  have hlast : Authoritative last := by
    apply authoritative_of_delivered
    rw [h]
    exact List.mem_append_right _ (List.mem_singleton_self last)
  have happly : store.applyAll (earlier ++ [last]) =
      (store.applyAll earlier).deviceMetricsUpdated last := by
    rw [MetricsStore.applyAll, List.foldl_append]
    rfl
  rw [h, happly]
  exact hlast.holds_iff _

/-- A snapshot with one device. -/
def singleDevice (devId : String) : GoSnapshot where
  tick := some 1
  deviceMetrics := AList.insert devId { upBps := some 3, downBps := some 4 } ∅

/-- A tick that comes through after another one was coalesced away. -/
def coalescedTicks : List (RunnerOp Unit) :=
  [.tick (singleDevice "a"), .tick (singleDevice "ont"), .get]

/-- Ticks that the outbox coalesced. -/
theorem client_holds_last_coalesced : Holds (MetricsStore.applyAll {}
    (metricsOf (History.run 4 (coalescedTicks.map RunnerOp.op)).delivered))
      (runnerPayload (singleDevice "ont")) := by
  refine (client_holds_last_iff 4 coalescedTicks {} [] (runnerPayload (singleDevice "ont")) rfl).mpr ?_
  intro it hit
  obtain rfl : it = deviceMetricChange "ont" { upBps := some 3, downBps := some 4 } := by
    simpa [runnerPayload, buildDeviceMetricChanges, singleDevice] using hit
  exact ⟨by decide, by decide, trivial⟩

/-- A device called like a property of `Object.prototype` never gets into the store. -/
theorem client_lacks_constructor :
    metricsOf (History.run 4 (([.tick (singleDevice "constructor"), .get] :
      List (RunnerOp Unit)).map RunnerOp.op)).delivered =
        [] ++ [runnerPayload (singleDevice "constructor")] ∧
      ¬ Holds (MetricsStore.applyAll {} [runnerPayload (singleDevice "constructor")])
        (runnerPayload (singleDevice "constructor")) := by
  refine ⟨rfl, ?_⟩
  intro h
  have hsome := (h.ids "constructor").mpr
    ⟨_, List.mem_singleton_self (deviceMetricChange "constructor" _), rfl⟩
  exact absurd hsome (by decide)

end Unoc.Realtime
