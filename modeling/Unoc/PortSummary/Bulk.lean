import Unoc.Base.Buckets
import Unoc.PortSummary.Endpoint

/-!
# Bulk port summaries

The fallback of `get_bulk_port_summary` in `backend/api/endpoints/ports.py`: devices, profiles,
interfaces and links are fetched in batches and taken apart per device, and the cache is shared with
`get_port_summary`. The rows and the cache are those of one request per device. The queries of a
request are taken to read one state of the database.
-/

namespace Unoc.PortSummary

open Unoc.Base Unoc.Model Unoc.Status Unoc.Subscriber Unoc.Traffic
open Unoc.Traffic.Segments (strip)

/-! ### The cache -/

/-- `HTTPException`. -/
structure HttpException where
  statusCode : Nat
  detail : String
  deriving DecidableEq, Repr

/-- `_ports_summary_cache`: by version and device, when they expire and the rows; `ports.py:65`. -/
abbrev SummaryCache := Dict (Int × String) (ℚ × List PortRow)

/-- `_PORTS_CACHE_TTL_SEC`; `ports.py:64`. -/
def portsCacheTtlSec : ℚ := 1

/-- The cached rows of a device that have not expired; `ports.py:333–334`. -/
def freshRows (cache : SummaryCache) (tv : Int) (deviceId : String) (now : ℚ) : Option (List PortRow) :=
  (cache.lookup (tv, deviceId)).bind (fun e ↦ if now < e.1 then some e.2 else none)

/-- The rows of a device are stored; `ports.py:491`. -/
def storeRows (cache : SummaryCache) (tv : Int) (deviceId : String) (now : ℚ) (rows : List PortRow) :
    SummaryCache :=
  cache.insert (tv, deviceId) (now + portsCacheTtlSec, rows)

/-- The cleanup of a cache with many entries; `ports.py:494–500`. -/
def cleanup (cache : SummaryCache) (tv : Int) (cutoff : ℚ) : SummaryCache :=
  if 2048 < cache.entries.length then
    ((cache.entries.filter (fun e ↦ e.2.1 ≤ cutoff ∨ e.1.1 ≠ tv)).map Sigma.fst).foldl
      (fun m k ↦ m.erase k) cache
  else cache

section Requests

variable (now : ℚ) (tv : Int) (profiles : List PortProfile) (db : Database)

/-- The fallback of `get_port_summary` with its cache; `ports.py:328–502`. -/
def getPortSummaryFallback (deviceId : String) (cache : SummaryCache) :
    Except HttpException (List PortRow) × SummaryCache :=
  match freshRows cache tv deviceId now with
  | some rows => (.ok rows, cache)
  | none =>
    match db.getDevice deviceId with
    | none => (.error ⟨404, "Not found"⟩, cache)
    | some device =>
      let rows := fallbackSummary profiles db device
      (.ok rows, cleanup (storeRows cache tv deviceId now rows) tv now)

/-! ### The batches -/

/-- `MAX_BULK_IDS`; `ports.py:60`. -/
def maxBulkIds : Nat := 100

/-- `ordered_ids`; `ports.py:548–549`. -/
def orderedIds (ids : List String) : List String :=
  ids.foldl (fun seen x ↦ if x ∈ seen then seen else seen ++ [x]) []

/-- A hardware model id that is not falsy. -/
def truthyModel (id : Option Int) : Option Int := id.filter (· ≠ 0)

/-- `devices_by_id`; `ports.py:555–556`. -/
def devicesById (ids : List String) : Dict String Device :=
  (db.devices.filter (fun d ↦ d.id ∈ ids)).foldl (fun m d ↦ m.insert d.id d) ∅

/-- `hw_model_ids`; `ports.py:559`. -/
def hwModelIds (devices : Dict String Device) : List Int :=
  devices.entries.filterMap (fun e ↦ truthyModel e.2.hardwareModelId)

/-- `profile_cap_map` of the bulk request; `ports.py:560–576`. -/
def bulkProfileCapMap (hwModelIds : List Int) : Dict (Int × List Char) Int :=
  (profiles.filter (fun p ↦ p.hardwareModelId ∈ hwModelIds)).foldl
    (fun m p ↦
      match p.portRole, p.maxSubscribers with
      | some .pon, some n =>
        if p.hardwareModelId = 0 ∨ strip p.name = [] then m
        else m.insert (p.hardwareModelId, strip p.name) n
      | _, _ => m) ∅

/-- The interfaces of the devices. -/
def batchInterfaces (ids : List String) : List Interface :=
  db.interfaces.filter (fun i ↦ i.deviceId ∈ ids)

/-- `ifaces_by_device`; `ports.py:578–586`. -/
def ifacesByDevice (ids : List String) : Dict String (List Interface) :=
  (batchInterfaces db ids).foldl (Dict.distribute (fun i ↦ [i.deviceId])) (Dict.emptyBuckets ids)

/-- `all_iface_ids`; `ports.py:581–586`. -/
def allIfaceIds (ids : List String) : List String := (batchInterfaces db ids).map Interface.id

/-- `links_by_if` of the bulk request; `ports.py:588–601`. -/
def bulkLinksByIf (ids : List String) : Dict String (List Link) :=
  (db.links.filter (fun l ↦
    l.aInterfaceId ∈ allIfaceIds db ids ∨ l.bInterfaceId ∈ allIfaceIds db ids)).foldl
      (Dict.distribute (fun l ↦ [l.aInterfaceId, l.bInterfaceId]))
      (Dict.emptyBuckets (allIfaceIds db ids))

/-- What the batched queries give. -/
structure Batch where
  devicesById : Dict String Device
  profileCapMap : Dict (Int × List Char) Int
  ifacesByDevice : Dict String (List Interface)
  linksByIf : Dict String (List Link)

/-- The batched queries; `ports.py:554–601`. -/
def readBatch (ids : List String) : Batch where
  devicesById := devicesById db ids
  profileCapMap := bulkProfileCapMap profiles (hwModelIds (devicesById db ids))
  ifacesByDevice := ifacesByDevice db ids
  linksByIf := bulkLinksByIf db ids

namespace Batch

variable (b : Batch)

/-- `links_by_if.get(iface.id, [])`. -/
def portLinks (interfaceId : String) : List Link := (b.linksByIf.lookup interfaceId).getD []

/-- `_effective_interface_status` of the bulk request; `ports.py:603–612`. -/
def effectiveInterfaceStatus (device : Device) (iface : Interface) : String :=
  if (b.portLinks iface.id).any (fun ln ↦ evaluateLinkStatus (topology db) ln = .down) then "DOWN"
  else statusValue (evaluateDeviceStatus (topology db) (deviceView device))

/-- `device_profile_cap`; `ports.py:636–641`. -/
def deviceProfileCap (device : Device) : Dict (List Char) Int :=
  match truthyModel device.hardwareModelId with
  | none => ∅
  | some model =>
    (b.profileCapMap.entries.filter (fun e ↦ e.1.1 = model)).foldl
      (fun m e ↦ m.insert e.1.2 e.2) ∅

/-- The capacity of a PON port by its profile; `ports.py:652–654`. -/
def profileCapacity (device : Device) (iface : Interface) : Option Int :=
  let base := strip (iface.profileName.getD "")
  if base = [] then none else (b.deviceProfileCap device).lookup base

/-- Occupancy and capacity of an interface; `ports.py:646–662`. -/
def interfaceUse (device : Device) (iface : Interface) : Int × Option Int :=
  if iface.portRole = some .pon ∧ device.type = .olt then
    ((((resolveSubscriberModel db).ponOccupancy.lookup (device.id, iface.id)).getD 0 : Nat),
      b.profileCapacity device iface)
  else if iface.portRole = some .access then ((b.portLinks iface.id).length, none)
  else (min 1 (b.portLinks iface.id).length, some 1)

/-- One row; `ports.py:664–674`. -/
def row (device : Device) (iface : Interface) : PortRow where
  id := iface.id
  name := iface.name
  portRole := iface.portRole
  effectiveStatus := b.effectiveInterfaceStatus db device iface
  occupancy := (b.interfaceUse db device iface).1
  capacity := (b.interfaceUse db device iface).2

/-- The rows of one device; `ports.py:633–686`. -/
def summary (device : Device) : List PortRow :=
  let rows := ((b.ifacesByDevice.lookup device.id).getD []).map (b.row db device)
  (withCanonicalSubscribers false device.id rows (resolveSubscriberModel db)).insertionSort
    (fun x y ↦ x.sortKey ≤ y.sortKey)

/-- The body of the loop over the ids; `ports.py:619–690`. -/
def visit (acc : Dict String (List PortRow) × SummaryCache) (deviceId : String) :
    Dict String (List PortRow) × SummaryCache :=
  match b.devicesById.lookup deviceId with
  | none => acc
  | some device =>
    match freshRows acc.2 tv deviceId now with
    | some rows => (acc.1.insert deviceId rows, acc.2)
    | none =>
      let rows := b.summary db device
      (acc.1.insert deviceId rows, storeRows acc.2 tv deviceId now rows)

end Batch

/-- The fallback of `get_bulk_port_summary`; `ports.py:507–701`. -/
def getBulkPortSummaryFallback (ids : List String) (cache : SummaryCache) :
    Except HttpException (Dict String (List PortRow)) × SummaryCache :=
  if maxBulkIds < ids.length then (.error ⟨400, "Too many IDs (max 100)"⟩, cache)
  else if ids = [] then (.ok ∅, cache)
  else
    let b := readBatch profiles db (orderedIds ids)
    let acc := (orderedIds ids).foldl (b.visit now tv db) (∅, cache)
    (.ok acc.1, cleanup acc.2 tv now)

end Requests

/-! ### The batches of one device -/

section Batches

variable {profiles : List PortProfile} {db : Database} {ids : List String} {device : Device}

private theorem lookup_devicesById {id : String} (hid : id ∈ ids) :
    (devicesById db ids).lookup id = db.getDevice id := by
  have hnodup : ((db.devices.filter (fun d ↦ d.id ∈ ids)).map Device.id).Nodup :=
    db.devices_nodup.sublist (List.filter_sublist.map Device.id)
  unfold devicesById
  rw [lookup_foldl_rows (fun d ↦ d) hnodup (List.Perm.refl _), Option.map_id', Database.getDevice]
  apply Option.ext
  intro d
  rw [find?_key_eq_some hnodup, find?_key_eq_some db.devices_nodup, List.mem_filter]
  constructor
  · intro h
    exact ⟨h.1.1, h.2⟩
  · intro h
    exact ⟨⟨h.1, by rw [h.2]; exact decide_eq_true hid⟩, h.2⟩

private theorem bucket_deviceId (interfaces : List Interface) (id : String) :
    Dict.bucket (fun i : Interface ↦ [i.deviceId]) id interfaces =
      interfaces.filter (fun i ↦ i.deviceId = id) := by
  unfold Dict.bucket
  induction interfaces with
  | nil => rfl
  | cons i rest ih =>
    rw [List.flatMap_cons, ih]
    by_cases hi : i.deviceId = id
    · simp [hi]
    · simp [hi]

private theorem lookup_ifacesByDevice {id : String} (hid : id ∈ ids) :
    ((ifacesByDevice db ids).lookup id).getD [] = db.interfaces.filter (fun i ↦ i.deviceId = id) := by
  unfold ifacesByDevice batchInterfaces
  rw [Dict.lookup_foldl_distribute, Dict.lookup_emptyBuckets, if_pos hid, Option.map_some,
    Option.getD_some, List.nil_append, Dict.bucket_filter, bucket_deviceId]
  intro i _ hi
  rw [← List.mem_singleton.mp hi]
  exact decide_eq_true hid

private theorem lookup_bulkLinksByIf {id : String} (hid : id ∈ allIfaceIds db ids) :
    ((bulkLinksByIf db ids).lookup id).getD [] = linksByIf db id := by
  unfold bulkLinksByIf
  rw [Dict.lookup_foldl_distribute, Dict.lookup_emptyBuckets, if_pos hid, Option.map_some,
    Option.getD_some, List.nil_append, Dict.bucket_filter]
  · unfold Dict.bucket linksByIf
    simp
  · intro l _ hl
    rw [decide_eq_true_eq]
    cases List.mem_pair.mp hl with
    | inl h => exact .inl (h ▸ hid)
    | inr h => exact .inr (h ▸ hid)

/-- The profiles of one model among those of several. -/
theorem lookup_bulkProfileCapMap {models : List Int} {model : Int} (hmodel : model ∈ models)
    (hzero : model ≠ 0) (hdevice : device.hardwareModelId = some model) (base : List Char) :
    (bulkProfileCapMap profiles models).lookup (model, base) =
      (profileCapMap profiles device).lookup base := by
  unfold bulkProfileCapMap profileCapMap
  rw [hdevice]
  dsimp only
  have hempty : ∀ base : List Char, (∅ : Dict (Int × List Char) Int).lookup (model, base) =
      (∅ : Dict (List Char) Int).lookup base := fun _ ↦ rfl
  revert hempty
  generalize (∅ : Dict (Int × List Char) Int) = m
  generalize (∅ : Dict (List Char) Int) = m'
  intro hsame
  induction profiles generalizing m m' with
  | nil => exact hsame base
  | cons p rest ih =>
    rw [List.filter_cons, List.filter_cons]
    by_cases hp : p.hardwareModelId = model
    · have hmem : p.hardwareModelId ∈ models := hp ▸ hmodel
      rw [if_pos (decide_eq_true hmem), if_pos (decide_eq_true hp), List.foldl_cons, List.foldl_cons]
      apply ih
      intro k
      cases hrole : p.portRole with
      | none => exact hsame k
      | some role =>
        cases role with
        | access | uplink | trunk => exact hsame k
        | pon =>
          cases p.maxSubscribers with
          | none => exact hsame k
          | some n =>
            dsimp only
            by_cases hname : strip p.name = []
            · rw [if_pos (.inr hname), if_pos hname]
              exact hsame k
            · rw [if_neg (by rw [hp]; exact not_or.mpr ⟨hzero, hname⟩), if_neg hname, hp]
              by_cases hk : k = strip p.name
              · rw [hk, AList.lookup_insert, AList.lookup_insert]
              · rw [AList.lookup_insert_ne hk, AList.lookup_insert_ne (fun h ↦ hk (Prod.mk.inj h).2)]
                exact hsame k
    · rw [if_neg (fun h ↦ hp (of_decide_eq_true h))]
      by_cases hmem : p.hardwareModelId ∈ models
      · rw [if_pos (decide_eq_true hmem), List.foldl_cons]
        apply ih
        intro k
        rw [← hsame k]
        split
        · split
          · rfl
          · exact AList.lookup_insert_ne (fun h ↦ hp (Prod.mk.inj h).1.symm)
        · rfl
      · rw [if_neg (fun h ↦ hmem (of_decide_eq_true h))]
        exact ih m m' hsame

/-- The entries of a dictionary under one first component. -/
theorem lookup_foldl_entries {A B V : Type} [DecidableEq A] [DecidableEq B] (m : Dict (A × B) V)
    (a : A) (b : B) :
    ((m.entries.filter (fun e ↦ e.1.1 = a)).foldl (fun m e ↦ m.insert e.1.2 e.2)
      (∅ : Dict B V)).lookup b = m.lookup (a, b) := by
  have hkeys : ((m.entries.filter (fun e ↦ e.1.1 = a)).map Sigma.fst).Nodup :=
    List.Nodup.sublist (List.filter_sublist.map Sigma.fst) m.nodupKeys
  have hnodup : ((m.entries.filter (fun e ↦ e.1.1 = a)).map (fun e ↦ e.1.2)).Nodup := by
    have hmap : (m.entries.filter (fun e ↦ e.1.1 = a)).map (fun e ↦ e.1.2) =
        ((m.entries.filter (fun e ↦ e.1.1 = a)).map Sigma.fst).map Prod.snd := by
      rw [List.map_map]
      rfl
    rw [hmap]
    apply hkeys.map_on
    intro k hk k' hk' hsnd
    have ⟨e, he, hek⟩ := List.mem_map.mp hk
    have ⟨e', he', hek'⟩ := List.mem_map.mp hk'
    have hfst : e.1.1 = a := by simpa using (List.mem_filter.mp he).2
    have hfst' : e'.1.1 = a := by simpa using (List.mem_filter.mp he').2
    apply Prod.ext
    · rw [← hek, ← hek', hfst, hfst']
    · exact hsnd
  rw [lookup_foldl_rows (fun e ↦ e.2) hnodup (List.Perm.refl _)]
  apply Option.ext
  intro v
  rw [← Option.mem_def (a := v) (b := m.lookup (a, b)), AList.mem_lookup_iff, Option.map_eq_some_iff]
  constructor
  · intro h
    have ⟨e, he, hv⟩ := h
    have ⟨hmem, hb⟩ := (find?_key_eq_some hnodup).mp he
    have ⟨hentry, ha⟩ := List.mem_filter.mp hmem
    have ha : e.1.1 = a := by simpa using ha
    have heq : e = ⟨(a, b), v⟩ := by rw [← ha, ← hb, ← hv]
    rw [← heq]
    exact hentry
  · intro h
    refine ⟨⟨(a, b), v⟩, (find?_key_eq_some hnodup).mpr ⟨?_, rfl⟩, rfl⟩
    exact List.mem_filter.mpr ⟨h, by simp⟩

private theorem lookup_deviceProfileCap (hid : device.id ∈ ids) (hdevice : device ∈ db.devices)
    (hmodel : device.hardwareModelId ≠ some 0) (base : List Char) :
    ((readBatch profiles db ids).deviceProfileCap device).lookup base =
      (profileCapMap profiles device).lookup base := by
  unfold Batch.deviceProfileCap
  cases hm : device.hardwareModelId with
  | none =>
    unfold profileCapMap
    rw [hm]
    rfl
  | some model =>
    have hzero : model ≠ 0 := by
      intro h
      rw [hm, h] at hmodel
      exact hmodel rfl
    have htruthy : truthyModel (some model) = some model := by simp [truthyModel, hzero]
    rw [htruthy]
    dsimp only
    rw [lookup_foldl_entries]
    apply lookup_bulkProfileCapMap ?_ hzero hm
    have hlookup := (@lookup_devicesById db ids device.id hid).trans
      (Database.getDevice_eq_some.mpr ⟨hdevice, rfl⟩)
    have hentry := AList.mem_lookup_iff.mp (Option.mem_def.mpr hlookup)
    exact List.mem_filterMap.mpr ⟨_, hentry, by rw [hm]; exact htruthy⟩

/-- The rows of a device from the batches are those of its own request. -/
theorem summary_readBatch (hid : device.id ∈ ids) (hdevice : device ∈ db.devices)
    (hmodel : device.hardwareModelId ≠ some 0) :
    (readBatch profiles db ids).summary db device = fallbackSummary profiles db device := by
  have hrow : ∀ iface ∈ db.interfaces.filter (fun i ↦ i.deviceId = device.id),
      (readBatch profiles db ids).row db device iface = fallbackRow profiles db device iface := by
    intro iface hiface
    have ⟨hmem, howner⟩ := List.mem_filter.mp hiface
    have howner : iface.deviceId = device.id := by simpa using howner
    have hall : iface.id ∈ allIfaceIds db ids :=
      List.mem_map.mpr ⟨iface, List.mem_filter.mpr ⟨hmem, by rw [howner]; exact decide_eq_true hid⟩, rfl⟩
    have hlinks : (readBatch profiles db ids).portLinks iface.id = linksByIf db iface.id :=
      lookup_bulkLinksByIf hall
    have hcap : (readBatch profiles db ids).profileCapacity device iface =
        profileCapacity profiles device iface := by
      unfold Batch.profileCapacity profileCapacity
      dsimp only
      rw [lookup_deviceProfileCap hid hdevice hmodel]
    have huse : (readBatch profiles db ids).interfaceUse db device iface =
        interfaceUse profiles db device iface := by
      unfold Batch.interfaceUse interfaceUse
      rw [hlinks, hcap]
    unfold Batch.row fallbackRow Batch.effectiveInterfaceStatus effectiveInterfaceStatus
    rw [huse, hlinks]
  have hifaces : ((readBatch profiles db ids).ifacesByDevice.lookup device.id).getD [] =
      db.interfaces.filter (fun i ↦ i.deviceId = device.id) := lookup_ifacesByDevice hid
  unfold Batch.summary fallbackSummary
  rw [hifaces, List.map_congr_left hrow]

end Batches

/-! ### Requests one after another -/

section Loops

variable {now later : ℚ} {tv : Int} {profiles : List PortProfile} {db : Database}
  {cache : SummaryCache}

private theorem freshRows_storeRows (cache : SummaryCache) (id x : String) (rows : List PortRow) :
    freshRows (storeRows cache tv id now rows) tv x later =
      if x = id then if later < now + portsCacheTtlSec then some rows else none
      else freshRows cache tv x later := by
  unfold freshRows storeRows
  by_cases hx : x = id
  · rw [hx, AList.lookup_insert, if_pos rfl]
    rfl
  · rw [AList.lookup_insert_ne (fun h ↦ hx (Prod.mk.inj h).2), if_neg hx]

private theorem freshRows_eq_none_of_le {x : String} (h : freshRows cache tv x now = none)
    (hle : now ≤ later) : freshRows cache tv x later = none := by
  unfold freshRows at h ⊢
  cases he : cache.lookup (tv, x) with
  | none => rfl
  | some e =>
    rw [he, Option.bind_some] at h
    rw [Option.bind_some]
    by_cases hfresh : later < e.1
    · rw [if_pos (lt_of_le_of_lt hle hfresh)] at h
      cases h
    · exact if_neg hfresh

/-- The cleanup drops nothing that a request at the version could be answered with. -/
theorem freshRows_cleanup {x : String} (hle : now ≤ later) :
    freshRows (cleanup cache tv now) tv x later = freshRows cache tv x later := by
  unfold cleanup
  split
  · unfold freshRows
    rw [Dict.lookup_foldl_erase]
    split
    · next hold =>
      have ⟨e, he, hkey⟩ := List.mem_map.mp hold
      have ⟨hentry, hexpired⟩ := List.mem_filter.mp he
      have hexpired := of_decide_eq_true hexpired
      have hlookup : cache.lookup (tv, x) = some e.2 := by
        rw [← hkey]
        exact AList.mem_lookup_iff.mpr hentry
      have hle' : e.2.1 ≤ now := by
        apply hexpired.resolve_right
        rw [hkey]
        exact fun h ↦ h rfl
      rw [hlookup, Option.bind_some, if_neg (not_lt.mpr (hle'.trans hle))]
      rfl
    · rfl
  · rfl

/-- What is fresh for a device after its request, where nothing was before. -/
def filled (now : ℚ) (profiles : List PortProfile) (db : Database) (id : String) (later : ℚ) :
    Option (List PortRow) :=
  (db.getDevice id).bind (fun d ↦
    if later < now + portsCacheTtlSec then some (fallbackSummary profiles db d) else none)

/-- A step of a loop over ids stores the rows of an id that has no fresh ones. -/
def Fills (now : ℚ) (tv : Int) (profiles : List PortProfile) (db : Database)
    (step : SummaryCache → String → SummaryCache) (id : String) : Prop :=
  ∀ cache x later, now ≤ later → freshRows (step cache id) tv x later =
    if x = id ∧ freshRows cache tv id now = none then filled now profiles db x later
    else freshRows cache tv x later

private theorem fills_storeRows {id : String} {device : Device}
    (hdevice : db.getDevice id = some device)
    (x : String) :
    freshRows (storeRows cache tv id now (fallbackSummary profiles db device)) tv x later =
      if x = id ∧ (none : Option (List PortRow)) = none then filled now profiles db x later
      else freshRows cache tv x later := by
  rw [freshRows_storeRows]
  by_cases hx : x = id
  · rw [if_pos hx, if_pos (And.intro hx rfl), hx, filled, hdevice]
    rfl
  · rw [if_neg hx, if_neg (fun h ↦ hx h.1)]

/-- Without the device the cache stays. -/
theorem fills_self {id : String} (x : String) (hle : now ≤ later)
    (hfresh : freshRows cache tv id now = none) (hdevice : db.getDevice id = none) :
    freshRows cache tv x later =
      if x = id ∧ (none : Option (List PortRow)) = none then filled now profiles db x later
      else freshRows cache tv x later := by
  split
  · next hcond =>
    rw [hcond.1, filled, hdevice]
    exact freshRows_eq_none_of_le hfresh hle
  · rfl

private theorem getPortSummaryFallback_fresh {id : String} {rows : List PortRow}
    (hfresh : freshRows cache tv id now = some rows) :
    getPortSummaryFallback now tv profiles db id cache = (.ok rows, cache) := by
  unfold getPortSummaryFallback
  rw [hfresh]

private theorem getPortSummaryFallback_missing {id : String}
    (hfresh : freshRows cache tv id now = none)
    (hdevice : db.getDevice id = none) :
    getPortSummaryFallback now tv profiles db id cache = (.error ⟨404, "Not found"⟩, cache) := by
  unfold getPortSummaryFallback
  rw [hfresh, hdevice]

private theorem getPortSummaryFallback_computed {id : String} {device : Device}
    (hfresh : freshRows cache tv id now = none) (hdevice : db.getDevice id = some device) :
    getPortSummaryFallback now tv profiles db id cache = (.ok (fallbackSummary profiles db device),
      cleanup (storeRows cache tv id now (fallbackSummary profiles db device)) tv now) := by
  unfold getPortSummaryFallback
  rw [hfresh, hdevice]

private theorem fills_getPortSummaryFallback (id : String) :
    Fills now tv profiles db
      (fun cache id ↦ (getPortSummaryFallback now tv profiles db id cache).2) id := by
  intro cache x later hle
  dsimp only
  cases hfresh : freshRows cache tv id now with
  | some rows =>
    rw [getPortSummaryFallback_fresh hfresh, if_neg (fun h ↦ Option.some_ne_none rows h.2)]
  | none =>
    cases hdevice : db.getDevice id with
    | none =>
      rw [getPortSummaryFallback_missing hfresh hdevice]
      exact fills_self x hle hfresh hdevice
    | some device =>
      rw [getPortSummaryFallback_computed hfresh hdevice, freshRows_cleanup hle]
      exact fills_storeRows hdevice x

/-- A loop of such steps leaves what the cache had and the rows of the other ids. -/
theorem freshRows_foldl {step : SummaryCache → String → SummaryCache} (ids : List String)
    (hstep : ∀ id ∈ ids, Fills now tv profiles db step id) (x : String) (hle : now ≤ later) :
    freshRows (ids.foldl step cache) tv x later =
      if x ∈ ids ∧ freshRows cache tv x now = none then filled now profiles db x later
      else freshRows cache tv x later := by
  induction ids generalizing cache with
  | nil => simp
  | cons id rest ih =>
    have hfill := hstep id List.mem_cons_self
    rw [List.foldl_cons, ih (fun y hy ↦ hstep y (List.mem_cons_of_mem id hy)),
      hfill cache x now le_rfl, hfill cache x later hle]
    by_cases hx : x = id
    · rw [hx]
      by_cases hnone : freshRows cache tv id now = none
      · have hfilled : filled now profiles db id now = none →
            filled now profiles db id later = none := by
          unfold filled
          intro h
          cases hdevice : db.getDevice id with
          | none => rfl
          | some device =>
            have hnow : now < now + portsCacheTtlSec := lt_add_of_pos_right now one_pos
            rw [hdevice, Option.bind_some, if_pos hnow] at h
            cases h
        simp only [hnone, List.mem_cons_self, and_self, if_true]
        split
        · rfl
        · rfl
      · simp [hnone]
    · simp [hx]

/-- The rows that an existing device is answered with. -/
def served (now : ℚ) (tv : Int) (profiles : List PortProfile) (db : Database) (cache : SummaryCache)
    (id : String) : Option (List PortRow) :=
  (db.getDevice id).map (fun d ↦ (freshRows cache tv id now).getD (fallbackSummary profiles db d))

private theorem toOption_getPortSummaryFallback {id : String}
    (hid : (db.getDevice id).isSome = true) :
    (getPortSummaryFallback now tv profiles db id cache).1.toOption =
      served now tv profiles db cache id := by
  have ⟨device, hdevice⟩ := Option.isSome_iff_exists.mp hid
  unfold served
  cases hfresh : freshRows cache tv id now with
  | some rows =>
    rw [getPortSummaryFallback_fresh hfresh, hdevice]
    rfl
  | none =>
    rw [getPortSummaryFallback_computed hfresh hdevice, hdevice]
    rfl

section Visits

variable {all : List String} (hmodels : ∀ d ∈ db.devices, d.id ∈ all → d.hardwareModelId ≠ some 0)
include hmodels

/-- One visit of the loop. -/
theorem visit_readBatch {id : String} (hid : id ∈ all)
    (acc : Dict String (List PortRow) × SummaryCache) :
    ((readBatch profiles db all).visit now tv db acc id).1 =
        ((served now tv profiles db acc.2 id).map (fun rows ↦ acc.1.insert id rows)).getD acc.1 ∧
      ∀ x later, now ≤ later →
        freshRows ((readBatch profiles db all).visit now tv db acc id).2 tv x later =
          if x = id ∧ freshRows acc.2 tv id now = none then filled now profiles db x later
          else freshRows acc.2 tv x later := by
  have hlookup : (readBatch profiles db all).devicesById.lookup id = db.getDevice id :=
    lookup_devicesById hid
  unfold Batch.visit served
  rw [hlookup]
  cases hfresh : freshRows acc.2 tv id now with
  | some rows =>
    cases db.getDevice id with
    | none => exact ⟨rfl, fun x later _ ↦ (if_neg (fun h ↦ Option.some_ne_none rows h.2)).symm⟩
    | some device => exact ⟨rfl, fun x later _ ↦ (if_neg (fun h ↦ Option.some_ne_none rows h.2)).symm⟩
  | none =>
    cases hdevice : db.getDevice id with
    | none => exact ⟨rfl, fun x later hle ↦ fills_self x hle hfresh hdevice⟩
    | some device =>
      have ⟨hmem, hdid⟩ := Database.getDevice_eq_some.mp hdevice
      have hsummary : (readBatch profiles db all).summary db device =
          fallbackSummary profiles db device :=
        summary_readBatch (hdid ▸ hid) hmem (hmodels device hmem (hdid ▸ hid))
      dsimp only
      rw [hsummary]
      exact ⟨rfl, fun x later _ ↦ fills_storeRows hdevice x⟩

/-- The results of the loop. -/
theorem lookup_foldl_visit (ids : List String) (hall : ∀ id ∈ ids, id ∈ all) (hnodup : ids.Nodup)
    (acc : Dict String (List PortRow) × SummaryCache) (x : String) :
    (ids.foldl ((readBatch profiles db all).visit now tv db) acc).1.lookup x =
      if x ∈ ids then (served now tv profiles db acc.2 x).or (acc.1.lookup x)
      else acc.1.lookup x := by
  induction ids generalizing acc with
  | nil => simp
  | cons id rest ih =>
    have ⟨hresults, hcache⟩ := @visit_readBatch now tv profiles db all hmodels id
      (hall id List.mem_cons_self) acc
    have ⟨hnew, hrest⟩ := List.nodup_cons.mp hnodup
    rw [List.foldl_cons, ih (fun y hy ↦ hall y (List.mem_cons_of_mem id hy)) hrest, hresults]
    by_cases hx : x = id
    · rw [hx, if_neg hnew, if_pos List.mem_cons_self]
      cases served now tv profiles db acc.2 id with
      | none => rfl
      | some rows => exact AList.lookup_insert acc.1
    · have hserved : served now tv profiles db
          ((readBatch profiles db all).visit now tv db acc id).2 x =
            served now tv profiles db acc.2 x := by
        unfold served
        rw [hcache x now le_rfl, if_neg (fun h ↦ hx h.1)]
      have hlookup : (((served now tv profiles db acc.2 id).map
          (fun rows ↦ acc.1.insert id rows)).getD acc.1).lookup x = acc.1.lookup x := by
        cases served now tv profiles db acc.2 id with
        | none => rfl
        | some rows => exact AList.lookup_insert_ne hx
      rw [hserved, hlookup]
      simp [hx]

/-- The cache of the loop. -/
theorem freshRows_foldl_visit (ids : List String) (hall : ∀ id ∈ ids, id ∈ all)
    (acc : Dict String (List PortRow) × SummaryCache) (x : String) (hle : now ≤ later) :
    freshRows (ids.foldl ((readBatch profiles db all).visit now tv db) acc).2 tv x later =
      if x ∈ ids ∧ freshRows acc.2 tv x now = none then filled now profiles db x later
      else freshRows acc.2 tv x later := by
  have hsnd : (ids.foldl ((readBatch profiles db all).visit now tv db) acc).2 =
      ids.foldl (fun cache id ↦ ((readBatch profiles db all).visit now tv db (∅, cache) id).2)
        acc.2 := by
    clear hall
    induction ids generalizing acc with
    | nil => rfl
    | cons id rest ih =>
      rw [List.foldl_cons, List.foldl_cons, ih]
      have hvisit : ((readBatch profiles db all).visit now tv db acc id).2 =
          ((readBatch profiles db all).visit now tv db (∅, acc.2) id).2 := by
        unfold Batch.visit
        split
        · rfl
        · dsimp only
          split
          · rfl
          · rfl
      rw [hvisit]
  rw [hsnd]
  apply freshRows_foldl ids ?_ x hle
  intro id hid cache
  exact (visit_readBatch hmodels (hall id hid) (∅, cache)).2

end Visits

/-- The loop that drops repeated ids. -/
theorem orderedIds_spec (ids seen : List String) (hseen : seen.Nodup) :
    (ids.foldl (fun seen x ↦ if x ∈ seen then seen else seen ++ [x]) seen).Nodup ∧
      ∀ x, x ∈ ids.foldl (fun seen x ↦ if x ∈ seen then seen else seen ++ [x]) seen ↔
        x ∈ seen ∨ x ∈ ids := by
  induction ids generalizing seen with
  | nil => exact ⟨hseen, by simp⟩
  | cons id rest ih =>
    rw [List.foldl_cons]
    by_cases hid : id ∈ seen
    · rw [if_pos hid]
      have ⟨hnodup, hmem⟩ := ih seen hseen
      refine ⟨hnodup, fun x ↦ ?_⟩
      rw [hmem, List.mem_cons]
      constructor
      · tauto
      · rintro (h | rfl | h)
        · exact .inl h
        · exact .inl hid
        · exact .inr h
    · rw [if_neg hid]
      have hnew : (seen ++ [id]).Nodup := by
        apply hseen.append (List.nodup_singleton id)
        simpa using hid
      have ⟨hnodup, hmem⟩ := ih (seen ++ [id]) hnew
      refine ⟨hnodup, fun x ↦ ?_⟩
      rw [hmem, List.mem_append, List.mem_singleton, List.mem_cons, or_assoc]

private theorem mem_orderedIds {ids : List String} {x : String} : x ∈ orderedIds ids ↔ x ∈ ids := by
  rw [orderedIds, (orderedIds_spec ids [] List.nodup_nil).2]
  simp

/-- The bulk fallback answers every existing device as a request of its own would be, leaves the
others out, and leaves the rows that such requests one after another leave for later ones. -/
theorem getBulkPortSummary_agrees (now : ℚ) (tv : Int) (profiles : List PortProfile) (db : Database)
    (ids : List String) (cache : SummaryCache) (hlength : ids.length ≤ maxBulkIds)
    (hmodels : ∀ d ∈ db.devices, d.id ∈ ids → d.hardwareModelId ≠ some 0) :
    ∃ results, (getBulkPortSummaryFallback now tv profiles db ids cache).1 = .ok results ∧
      (∀ id, results.lookup id =
        if id ∈ ids ∧ (db.getDevice id).isSome = true then
          (getPortSummaryFallback now tv profiles db id cache).1.toOption
        else none) ∧
      ∀ id later, now ≤ later →
        freshRows (getBulkPortSummaryFallback now tv profiles db ids cache).2 tv id later =
          freshRows (ids.foldl (fun cache id ↦
            (getPortSummaryFallback now tv profiles db id cache).2) cache) tv id later := by
  have hmodels' : ∀ d ∈ db.devices, d.id ∈ orderedIds ids → d.hardwareModelId ≠ some 0 :=
    fun d hd hid ↦ hmodels d hd (mem_orderedIds.mp hid)
  unfold getBulkPortSummaryFallback
  rw [if_neg (not_lt.mpr hlength)]
  by_cases hnil : ids = []
  · rw [if_pos hnil, hnil]
    exact ⟨∅, rfl, fun id ↦ by simp, fun _ _ _ ↦ rfl⟩
  · rw [if_neg hnil]
    refine ⟨_, rfl, fun id ↦ ?_, fun id later hle ↦ ?_⟩
    · rw [lookup_foldl_visit hmodels' _ (fun _ h ↦ h) (orderedIds_spec ids [] List.nodup_nil).1,
        AList.lookup_empty, Option.or_none]
      by_cases hid : id ∈ ids
      · by_cases hdevice : (db.getDevice id).isSome = true
        · rw [if_pos (mem_orderedIds.mpr hid), if_pos ⟨hid, hdevice⟩,
            toOption_getPortSummaryFallback hdevice]
        · rw [if_pos (mem_orderedIds.mpr hid), if_neg (fun h ↦ hdevice h.2), served,
            Option.not_isSome_iff_eq_none.mp hdevice]
          rfl
      · rw [if_neg (fun h ↦ hid (mem_orderedIds.mp h)), if_neg (fun h ↦ hid h.1)]
    · rw [freshRows_cleanup hle, freshRows_foldl_visit hmodels' _ (fun _ h ↦ h) _ _ hle,
        freshRows_foldl ids (fun id _ ↦ fills_getPortSummaryFallback id) id hle]
      simp only [mem_orderedIds]

end Loops

/-- A request that names the OLT twice, and a device that does not exist. -/
theorem getBulkPortSummary_agrees_ponOlt :
    ∃ results,
      (getBulkPortSummaryFallback 0 7 [gponProfile] ponOlt ["olt", "gone", "olt"] ∅).1 = .ok results ∧
        results.lookup "olt" =
          (getPortSummaryFallback 0 7 [gponProfile] ponOlt "olt" ∅).1.toOption ∧
        results.lookup "gone" = none := by
  have hmodels : ∀ d ∈ ponOlt.devices, d.id ∈ ["olt", "gone", "olt"] → d.hardwareModelId ≠ some 0 := by
    decide
  have ⟨results, hok, hrows, _⟩ := getBulkPortSummary_agrees 0 7 [gponProfile] ponOlt
    ["olt", "gone", "olt"] ∅ (by decide) hmodels
  refine ⟨results, hok, ?_, ?_⟩
  · rw [hrows, if_pos (by decide)]
  · rw [hrows, if_neg (by decide)]

end Unoc.PortSummary
