import Unoc.Status.Coalescing
import Unoc.Status.Evaluate

/-!
# Status recomputation

`recompute_devices_status` (`backend/services/status_recompute.py`) compares a status before with
the status after, and stores and publishes only what differs. Without a baseline from its caller,
`recompute_dirty` (`backend/services/status_service.py`) evaluates one itself. The propagation
snapshot and the diagnostics that the recomputation also fills are read by no evaluation.
-/

namespace Unoc.Status

open Unoc.Base Unoc.Model

/-- `evaluate_device_status` of a row in the current topology. -/
def evaluate (db : Database) (d : Device) : Status :=
  evaluateDeviceStatus (topology db) (deviceView d)

/-- Payload of `device.status.changed`; `status_recompute.py:337–355`. -/
structure StatusChanged where
  id : String
  status : Status
  effectiveStatus : Status
  adminOverrideStatus : Option Status
  topoVersion : Option Int
  deriving DecidableEq, Repr

/-- What a recomputation leaves, and the devices that it evaluated. -/
structure Outcome where
  evaluated : List String
  database : Database
  published : List StatusChanged
  transitions : List (String × Status × Status)

/-- `bulk_update_device_statuses`; `status_service.py:440–487`. -/
def bulkUpdateDeviceStatuses (db : Database) (deviceIds : List String) : Database :=
  { db with
    devices := db.devices.map (fun d ↦
      if d.id ∈ deviceIds then { d with status := evaluate db d } else d)
    devices_nodup := by
      have hids : ∀ d : Device,
          (if d.id ∈ deviceIds then { d with status := evaluate db d } else d).id = d.id := by
        intro d
        split <;> rfl
      simpa [Function.comp_def, hids] using db.devices_nodup }

/-- The rows that a recomputation evaluates; `status_recompute.py:182–189`. -/
def recomputedRows (db : Database) (deviceIds : Option (List String)) : List Device :=
  match deviceIds with
  | none => db.devices
  | some ids => ids.filterMap db.getDevice

/-- The transition of a row, if it has one; `status_recompute.py:326–333`. -/
def transition (db : Database) (baseline : Option (Dict String Status)) (d : Device) :
    Option (Device × Status × Status) :=
  let before := (baseline.bind (fun b ↦ b.lookup d.id)).getD (evaluate db d)
  let after := evaluate db d
  if before ≠ after then some (d, before, after) else none

/-- `recompute_devices_status`; `status_recompute.py:160–378`. -/
def recomputeDevicesStatus (db : Database) (deviceIds : Option (List String))
    (topoVersion : Option Int) (baselineStatus : Option (Dict String Status)) : Outcome :=
  let moved := (recomputedRows db deviceIds).filterMap (transition db baselineStatus)
  { evaluated := (recomputedRows db deviceIds).map Device.id
    database :=
      if moved = [] then db else bulkUpdateDeviceStatuses db (moved.map (fun m ↦ m.1.id))
    published := moved.map (fun m ↦
      ⟨m.1.id, m.2.2, m.2.2, m.1.adminOverrideStatus, topoVersion⟩)
    transitions := moved.map (fun m ↦ (m.1.id, m.2.1, m.2.2)) }

/-! ### Incremental recomputation -/

/-- The `cfg` of `recompute_dirty`; `status_service.py:173–180`. -/
structure DirtyConfig where
  enableIncremental : Bool := true
  topoVersion : Option Int := none
  baselineStatus : Option (Dict String Status) := none

/-- `upstream_cache` of the affected devices; `status_service.py:219–235`. -/
def upstreamCacheOf (t : Topology) (devices : List DeviceView) : Dict String Bool :=
  devices.foldl (fun c d ↦
    if d.deriveRole = .active then c.insert d.id (hasUpstreamL3OrAnchor t d).ok else c) ∅

/-- The baseline that `recompute_dirty` evaluates; `status_service.py:204–245`. -/
def baselineOf (db : Database) (affected : List String) : Dict String Status :=
  let rows := db.devices.filter (fun d ↦ d.id ∈ affected)
  let cache := upstreamCacheOf (topology db) (rows.map deviceView)
  (affected.filterMap db.getDevice).foldl (fun b d ↦
    b.insert d.id (evaluateDeviceStatus (topology db) (deviceView d) (some cache))) ∅

/-- `recompute_dirty`; `status_service.py:101–253`. -/
def recomputeDirty (graphCache : Option GraphCache) (storeVersion : Int) (db : Database)
    (devices links : List String) (cfg : DirtyConfig) : Outcome :=
  let seeds := dirtySeeds (topology db) devices links
  if cfg.enableIncremental = false ∨ seeds = [] then
    recomputeDevicesStatus db none cfg.topoVersion cfg.baselineStatus
  else
    let version := cfg.topoVersion.getD storeVersion
    let affected := affectedIds (ensureGraphCache graphCache version (topology db)).edges seeds
    let baseline := cfg.baselineStatus.getD (baselineOf db affected)
    recomputeDevicesStatus db (some affected) cfg.topoVersion (some baseline)

/-- `_run_consolidated_recompute`; `recompute_coalescer.py:132–185`. -/
def runConsolidatedRecompute (graphCache : Option GraphCache) (storeVersion : Int) (db : Database)
    (keys : List String) : Outcome :=
  let devices := dirtyDevices (topology db) keys
  let links := dirtyLinks (topology db) keys
  if devices ≠ [] ∨ links ≠ [] then
    recomputeDirty graphCache storeVersion db devices links { topoVersion := some storeVersion }
  else recomputeDevicesStatus db none (some storeVersion) none

/-! ### Calls without a baseline -/

/-- The calls that pass no baseline. -/
inductive Call where
  | devices (deviceIds : Option (List String)) (topoVersion : Option Int)
  | dirty (dirtyDevices dirtyLinks : List String) (enableIncremental : Bool) (topoVersion : Option Int)
  | coalesced (keys : List String)

section Calls

variable (graphCache : Option GraphCache) (storeVersion : Int) (db : Database)

/-- The outcome of a call. -/
def Call.run : Call → Outcome
  | .devices deviceIds topoVersion => recomputeDevicesStatus db deviceIds topoVersion none
  | .dirty dirtyDevices dirtyLinks enableIncremental topoVersion =>
    recomputeDirty graphCache storeVersion db dirtyDevices dirtyLinks
      { enableIncremental := enableIncremental, topoVersion := topoVersion }
  | .coalesced keys => runConsolidatedRecompute graphCache storeVersion db keys

/-- The device rows that a call has to bring up to date. -/
def Call.ids : Call → List String
  | .devices none _ => db.devices.map Device.id
  | .devices (some ids) _ => ids.filter (fun id ↦ (db.getDevice id).isSome)
  | .dirty dirtyDevices dirtyLinks enableIncremental topoVersion =>
    if enableIncremental then
      dirtyIds graphCache (topoVersion.getD storeVersion) (topology db) dirtyDevices dirtyLinks
    else db.devices.map Device.id
  | .coalesced keys => consolidatedIds graphCache storeVersion (topology db) keys

end Calls

variable {graphCache : Option GraphCache} {storeVersion : Int} {db : Database}

private theorem topology_ids : (topology db).devices.map DeviceView.id = db.devices.map Device.id := by
  simp [topology, Function.comp_def, deviceView]

private theorem mem_recomputedRows {ids : List String} {id : String} :
    id ∈ (recomputedRows db (some ids)).map Device.id ↔
      id ∈ ids.filter (fun id ↦ (db.getDevice id).isSome) := by
  simp only [recomputedRows, List.mem_map, List.mem_filterMap, List.mem_filter]
  constructor
  · rintro ⟨d, ⟨k, hk, hd⟩, rfl⟩
    obtain ⟨_, rfl⟩ := Database.getDevice_eq_some.mp hd
    exact ⟨hk, by rw [hd]; rfl⟩
  · rintro ⟨hid, hsome⟩
    obtain ⟨d, hd⟩ := Option.isSome_iff_exists.mp hsome
    exact ⟨d, ⟨id, hid, hd⟩, (Database.getDevice_eq_some.mp hd).2⟩

private theorem mem_evaluated_dirty {devices links : List String} {cfg : DirtyConfig}
    (hcfg : cfg.enableIncremental = true) {id : String} :
    id ∈ (recomputeDirty graphCache storeVersion db devices links cfg).evaluated ↔
      id ∈ dirtyIds graphCache (cfg.topoVersion.getD storeVersion) (topology db) devices links := by
  unfold recomputeDirty dirtyIds
  cases hs : dirtySeeds (topology db) devices links with
  | nil => simp [hcfg, recomputeDevicesStatus, recomputedRows, topology_ids]
  | cons s ss =>
    simp only [hcfg, Bool.true_eq_false, reduceCtorEq, or_self, if_false, topology_getDevice,
      Option.isSome_map]
    exact mem_recomputedRows

/-- A call evaluates the rows that it has to bring up to date. -/
theorem mem_evaluated (call : Call) {id : String} :
    id ∈ (call.run graphCache storeVersion db).evaluated ↔
      id ∈ call.ids graphCache storeVersion db := by
  cases call with
  | devices deviceIds topoVersion =>
    cases deviceIds with
    | none => exact Iff.rfl
    | some ids => exact mem_recomputedRows
  | dirty devices links enableIncremental topoVersion =>
    cases enableIncremental with
    | false => simp [Call.run, Call.ids, recomputeDirty, recomputeDevicesStatus, recomputedRows]
    | true => exact mem_evaluated_dirty rfl
  | coalesced keys =>
    show id ∈ (runConsolidatedRecompute graphCache storeVersion db keys).evaluated ↔
      id ∈ consolidatedIds graphCache storeVersion (topology db) keys
    unfold runConsolidatedRecompute consolidatedIds
    simp only []
    split
    · exact mem_evaluated_dirty rfl
    · rw [topology_ids]
      exact Iff.rfl

/-! ### Nothing moves -/

/-- A baseline that only holds current evaluations. -/
def Current (db : Database) (baseline : Option (Dict String Status)) : Prop :=
  ∀ d ∈ db.devices, ∀ s, baseline.bind (fun b ↦ b.lookup d.id) = some s → s = evaluate db d

private theorem mem_of_recomputedRows {deviceIds : Option (List String)} {d : Device}
    (h : d ∈ recomputedRows db deviceIds) : d ∈ db.devices := by
  cases deviceIds with
  | none => exact h
  | some ids =>
    obtain ⟨id, _, hd⟩ := List.mem_filterMap.mp h
    exact (Database.getDevice_eq_some.mp hd).1

/-- With a current baseline there is no transition, so nothing is stored or published. -/
theorem recompute_of_current {deviceIds : Option (List String)} {topoVersion : Option Int}
    {baseline : Option (Dict String Status)} (h : Current db baseline) :
    (recomputeDevicesStatus db deviceIds topoVersion baseline).database = db ∧
      (recomputeDevicesStatus db deviceIds topoVersion baseline).published = [] := by
  have hmoved : (recomputedRows db deviceIds).filterMap (transition db baseline) = [] := by
    apply List.filterMap_eq_nil_iff.mpr
    intro d hd
    have hd := mem_of_recomputedRows hd
    cases hb : baseline.bind (fun b ↦ b.lookup d.id) with
    | none => simp [transition, hb]
    | some s => simp [transition, hb, h d hd s hb]
  simp [recomputeDevicesStatus, hmoved]

private theorem current_none : Current db none := by
  intro d _ s hs
  cases hs

private theorem lookup_upstreamCacheOf {t : Topology} {devices : List DeviceView} {id : String}
    {ok : Bool} (h : (upstreamCacheOf t devices).lookup id = some ok) :
    ∃ d ∈ devices, d.id = id ∧ ok = (hasUpstreamL3OrAnchor t d).ok := by
  have hall := Dict.lookup_foldl_of_step
    (P := fun id ok ↦ ∃ d ∈ devices, d.id = id ∧ ok = (hasUpstreamL3OrAnchor t d).ok) devices
    (by
      intro m d hd k v hk
      split at hk
      · by_cases hkd : k = d.id
        · subst hkd
          rw [AList.lookup_insert, Option.some.injEq] at hk
          exact Or.inr ⟨d, hd, rfl, hk.symm⟩
        · rw [AList.lookup_insert_ne hkd] at hk
          exact Or.inl hk
      · exact Or.inl hk) h
  simpa using hall

/-- The baseline of `recompute_dirty` is taken after the change, so it is current. -/
private theorem current_baselineOf (affected : List String) :
    Current db (some (baselineOf db affected)) := by
  intro d hd s hs
  have hrow := Dict.lookup_foldl_of_step
    (P := fun id s ↦ ∃ e ∈ db.devices, e.id = id ∧ s = evaluate db e) (affected.filterMap db.getDevice)
    (by
      intro m e he k v hk
      obtain ⟨id, _, hget⟩ := List.mem_filterMap.mp he
      have hmem := (Database.getDevice_eq_some.mp hget).1
      by_cases hke : k = e.id
      · subst hke
        rw [AList.lookup_insert, Option.some.injEq] at hk
        right
        refine ⟨e, hmem, rfl, ?_⟩
        rw [← hk]
        apply evaluateDeviceStatus_of_cache
        intro ok hok
        obtain ⟨x, hx, hxe, rfl⟩ := lookup_upstreamCacheOf hok
        obtain ⟨y, hy, rfl⟩ := List.mem_map.mp hx
        have hye : y = e :=
          List.inj_on_of_nodup_map db.devices_nodup (List.mem_of_mem_filter hy) hmem hxe
        rw [hye]
      · rw [AList.lookup_insert_ne hke] at hk
        exact Or.inl hk) hs
  rcases hrow with h | ⟨e, he, hed, rfl⟩
  · simp at h
  · rw [List.inj_on_of_nodup_map db.devices_nodup he hd hed]

/-- A call without a baseline stores nothing and publishes nothing. -/
theorem run_stores_nothing (call : Call) :
    (call.run graphCache storeVersion db).database = db ∧
      (call.run graphCache storeVersion db).published = [] := by
  have hdirty : ∀ devices links (cfg : DirtyConfig), cfg.baselineStatus = none →
      (recomputeDirty graphCache storeVersion db devices links cfg).database = db ∧
        (recomputeDirty graphCache storeVersion db devices links cfg).published = [] := by
    intro devices links cfg hcfg
    unfold recomputeDirty
    simp only [hcfg, Option.getD_none]
    split
    · exact recompute_of_current current_none
    · exact recompute_of_current (current_baselineOf _)
  cases call with
  | devices deviceIds topoVersion => exact recompute_of_current current_none
  | dirty devices links enableIncremental topoVersion => exact hdirty devices links _ rfl
  | coalesced keys =>
    show (runConsolidatedRecompute graphCache storeVersion db keys).database = db ∧
      (runConsolidatedRecompute graphCache storeVersion db keys).published = []
    unfold runConsolidatedRecompute
    simp only []
    split
    · exact hdirty _ _ _ rfl
    · exact recompute_of_current current_none

/-! ### Up to date -/

/-- Every evaluated device has its evaluation stored, and an event if it was not stored before. -/
def UpToDate (db : Database) (o : Outcome) : Prop :=
  ∀ d ∈ db.devices, d.id ∈ o.evaluated →
    (∃ d' ∈ o.database.devices, d'.id = d.id ∧ d'.status = evaluate o.database d') ∧
      (d.status ≠ evaluate o.database d → ∃ e ∈ o.published, e.id = d.id)

/-- A call without a baseline brings its devices up to date if and only if they are already. -/
theorem recompute_up_to_date_iff (graphCache : Option GraphCache) (storeVersion : Int)
    (db : Database) (call : Call) :
    UpToDate db (call.run graphCache storeVersion db) ↔
      ∀ d ∈ db.devices, d.id ∈ call.ids graphCache storeVersion db → d.status = evaluate db d := by
  have hnothing : (call.run graphCache storeVersion db).database = db ∧
      (call.run graphCache storeVersion db).published = [] := run_stores_nothing call
  obtain ⟨hdb, hpub⟩ := hnothing
  unfold UpToDate
  simp only [hdb, hpub, mem_evaluated]
  constructor
  · intro h d hd hid
    obtain ⟨⟨d', hd', hdd, hstatus⟩, _⟩ := h d hd hid
    rwa [List.inj_on_of_nodup_map db.devices_nodup hd' hd hdd] at hstatus
  · intro h d hd hid
    refine ⟨⟨d, hd, rfl, h d hd hid⟩, ?_⟩
    intro hne
    exact absurd (h d hd hid) hne

/-- A device that was forced DOWN by an override after its status was stored. -/
def freshOverride : Database where
  devices := [{ id := "pop", type := .pop, status := .up, adminOverrideStatus := some .down }]
  interfaces := []
  links := []
  devices_nodup := List.nodup_singleton "pop"
  interfaces_nodup := List.nodup_nil
  links_nodup := List.nodup_nil

/-- The coalesced recomputation of the override leaves the stored status UP. -/
theorem recompute_misses_override :
    ¬ UpToDate freshOverride ((Call.coalesced ["pop"]).run none 1 freshOverride) := by
  intro h
  obtain ⟨⟨d', hd', _, hstatus⟩, _⟩ := h
    { id := "pop", type := .pop, status := .up, adminOverrideStatus := some .down } (by decide)
    (by decide +kernel)
  rw [(run_stores_nothing (Call.coalesced ["pop"])).1] at hd' hstatus
  rw [List.mem_singleton.mp hd'] at hstatus
  exact absurd hstatus (by decide)

end Unoc.Status
