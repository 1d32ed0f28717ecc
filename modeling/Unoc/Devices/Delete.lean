import Unoc.EventStore.Health
import Unoc.Links.Rules
import Unoc.Pathfinding.Store

/-!
# Deleting a device

`backend/api/endpoints/devices_helpers_delete.py` deletes a device with the rows that refer to it, one
table after the other. PostgreSQL checks the foreign keys of the tables; SQLite, with the settings of
`backend/db.py`, does not.
-/

namespace Unoc.Devices.Delete

open Unoc.Model Unoc.EventStore Unoc.Pathfinding

/-! ### Rows -/

/-- Row of table `interface` with its bridge domain; `models_pkg/interface.py:29–48`. -/
structure InterfaceRow extends Interface where
  bridgeDomainId : Option Int := none
  deriving DecidableEq

/-- Row of table `neighbor`; `models_pkg/l3.py:23–29`. -/
structure Neighbor where
  id : Int
  interfaceId : String
  ipAddress : String
  macAddress : String
  deriving DecidableEq

/-- Row of table `provisioningrecord`; `models_pkg/provisioning.py:15–30`. -/
structure ProvisioningRecord where
  id : Int
  ts : String
  deviceId : String
  interfaceId : String
  ip : String
  deriving DecidableEq

/-- Row of table `macaddressentry`; `models_pkg/l2.py:24–34`. -/
structure MacAddressEntry where
  id : Int
  macAddress : String
  interfaceId : String
  bridgeDomainId : Int
  deriving DecidableEq

/-- Row of table `bridgedomain`; `models_pkg/l2.py:16–21`. -/
structure BridgeDomain where
  id : Int
  name : String
  deviceId : String
  deriving DecidableEq

/-- The tables that refer to devices, the event store, and the pathfinding store of the process. -/
structure State where
  devices : List Device := []
  interfaces : List InterfaceRow := []
  links : List Link := []
  interfaceAddresses : List InterfaceAddress := []
  macAddressEntries : List MacAddressEntry := []
  neighbors : List Neighbor := []
  routes : List Route := []
  provisioningRecords : List ProvisioningRecord := []
  bridgeDomains : List BridgeDomain := []
  events : EventTable := ⟨[], EventTable.ordered_nil⟩
  pathfindingStore : PathfindingStore := {}
  devices_nodup : (devices.map Device.id).Nodup := by decide
  interfaces_nodup : (interfaces.map (·.id)).Nodup := by decide

namespace State

/-- The ids of the devices. -/
def deviceIds (s : State) : List String := s.devices.map Device.id

/-- The ids of the interfaces. -/
def interfaceIds (s : State) : List String := s.interfaces.map (·.id)

/-- The ids of the bridge domains. -/
def bridgeDomainIds (s : State) : List Int := s.bridgeDomains.map BridgeDomain.id

/-- `iface_ids`; `devices_helpers_delete.py:40–41`. -/
def ifaceIds (s : State) (deviceId : String) : List String :=
  (s.interfaces.filter (·.deviceId = deviceId)).map (·.id)

/-- Every foreign key names a row. -/
def ReferencesHold (s : State) : Prop :=
  (∀ d ∈ s.devices, ∀ p ∈ d.parentContainerId, p ∈ s.deviceIds) ∧
  (∀ i ∈ s.interfaces, i.deviceId ∈ s.deviceIds ∧ ∀ b ∈ i.bridgeDomainId, b ∈ s.bridgeDomainIds) ∧
  (∀ l ∈ s.links, l.aInterfaceId ∈ s.interfaceIds ∧ l.bInterfaceId ∈ s.interfaceIds) ∧
  (∀ m ∈ s.macAddressEntries, m.interfaceId ∈ s.interfaceIds ∧
    m.bridgeDomainId ∈ s.bridgeDomainIds) ∧
  (∀ n ∈ s.neighbors, n.interfaceId ∈ s.interfaceIds) ∧
  (∀ r ∈ s.routes, ∀ i ∈ r.interfaceId, i ∈ s.interfaceIds) ∧
  (∀ r ∈ s.provisioningRecords, r.deviceId ∈ s.deviceIds ∧ r.interfaceId ∈ s.interfaceIds) ∧
  (∀ b ∈ s.bridgeDomains, b.deviceId ∈ s.deviceIds)

/-- Whether the references hold is checked row by row. -/
instance (s : State) : Decidable s.ReferencesHold := inferInstanceAs (Decidable (_ ∧ _))

/-- Every reference names a row; the interface of an address is not a foreign key. -/
def NoDangling (s : State) : Prop :=
  s.ReferencesHold ∧ ∀ a ∈ s.interfaceAddresses, a.interfaceId ∈ s.interfaceIds

/-- Whether a reference dangles is checked row by row. -/
instance (s : State) : Decidable s.NoDangling := inferInstanceAs (Decidable (_ ∧ _))

end State

/-! ### The deletion -/

/-- What a deletion raises: a `LookupError`, or the error of a foreign key. -/
inductive DeleteError where
  | lookup (message : String)
  | integrity
  deriving DecidableEq

section Delete

variable (now : Nat → String)

/-- `append_domain_event`; `event_store.py:85–116`. -/
def State.appendDomainEvent (s : State) (e : DomainEvent) : State :=
  { s with events := s.events.appendDomainEvent now e }

/-- `LINK_DELETED` of a link that has none yet, with `deleted_link_ids`;
`devices_helpers_delete.py:68–73`. -/
def recordDeleted (deviceId : String) (p : State × List String) (link : Link) :
    State × List String :=
  if link.id ∈ p.2 then p
  else
    (p.1.appendDomainEvent now
      { eventType := .linkDeleted, entityId := link.id,
        payload := [("deleted_by_device_id", deviceId)] },
      p.2 ++ [link.id])

/-- The links with one end at an interface; `devices_helpers_delete.py:67–80`. -/
def deleteLinks (deviceId : String) (linkEnd : Link → String) (ifid : String)
    (p : State × List String) : State × List String :=
  let p := (p.1.links.filter (linkEnd · = ifid)).foldl (recordDeleted now deviceId) p
  ({ p.1 with links := p.1.links.filter (linkEnd · ≠ ifid) }, p.2)

/-- The body of the loop over `iface_ids`; `devices_helpers_delete.py:65–97`. -/
def cleanInterface (deviceId : String) (p : State × List String) (ifid : String) :
    State × List String :=
  let (s, deletedLinkIds) := deleteLinks now deviceId Link.bInterfaceId ifid
    (deleteLinks now deviceId Link.aInterfaceId ifid p)
  ({ s with
      interfaceAddresses := s.interfaceAddresses.filter (·.interfaceId ≠ ifid)
      macAddressEntries := s.macAddressEntries.filter (·.interfaceId ≠ ifid)
      neighbors := s.neighbors.filter (·.interfaceId ≠ ifid)
      routes := s.routes.filter (·.interfaceId ≠ some ifid)
      provisioningRecords := s.provisioningRecords.filter (·.interfaceId ≠ ifid)
      interfaces := s.interfaces.filter (·.id ≠ ifid)
      interfaces_nodup := (List.filter_sublist.map _).nodup s.interfaces_nodup },
    deletedLinkIds)

/-- `s.flush()`, which fails on a foreign key without a row where the database checks them. -/
def flush (foreignKeys : Bool) (s : State) : Except DeleteError State :=
  if foreignKeys ∧ ¬ s.ReferencesHold then .error .integrity else .ok s

/-- The interfaces with the rows that refer to them, if there is an interface;
`devices_helpers_delete.py:51–99`. -/
def deleteInterfaces (foreignKeys : Bool) (deviceId : String) (ids : List String) (s : State) :
    Except DeleteError State :=
  if ids = [] then .ok s
  else
    let s := { s with
      provisioningRecords := s.provisioningRecords.filter (·.deviceId ≠ deviceId) }
    flush foreignKeys (ids.foldl (cleanInterface now deviceId) (s, [])).1

/-- `delete_device_impl`; `devices_helpers_delete.py:31–114`. -/
def deleteDeviceImpl (foreignKeys : Bool) (s : State) (deviceId : String) :
    Except DeleteError State :=
  match s.devices.find? (·.id = deviceId) with
  | none => .error (.lookup "Not found")
  | some d => do
    let ids := s.ifaceIds deviceId
    let s := s.appendDomainEvent now
      { eventType := .deviceDeleted, entityId := deviceId,
        payload := [("device_type", Links.typeName d.type),
          ("interface_count", toString ids.length)] }
    let s ← deleteInterfaces now foreignKeys deviceId ids s
    let s ← flush foreignKeys
      { s with bridgeDomains := s.bridgeDomains.filter (·.deviceId ≠ deviceId) }
    let s ← flush foreignKeys
      { s with
        devices := s.devices.filter (·.id ≠ deviceId)
        devices_nodup := (List.filter_sublist.map _).nodup s.devices_nodup }
    pure { s with pathfindingStore := s.pathfindingStore.bumpVersion }

end Delete

/-! ### What the loop leaves -/

/-- The interfaces are gone with every row that refers to one of them, and nothing else is. -/
structure Cleaned (ids : List String) (s s' : State) : Prop where
  devices : s'.devices = s.devices
  interfaces : s'.interfaces = s.interfaces.filter (·.id ∉ ids)
  links : s'.links = s.links.filter (fun l ↦ l.aInterfaceId ∉ ids ∧ l.bInterfaceId ∉ ids)
  interfaceAddresses : s'.interfaceAddresses = s.interfaceAddresses.filter (·.interfaceId ∉ ids)
  macAddressEntries : s'.macAddressEntries = s.macAddressEntries.filter (·.interfaceId ∉ ids)
  neighbors : s'.neighbors = s.neighbors.filter (·.interfaceId ∉ ids)
  routes : s'.routes = s.routes.filter (fun r ↦ ∀ i ∈ ids, r.interfaceId ≠ some i)
  provisioningRecords :
    s'.provisioningRecords = s.provisioningRecords.filter (·.interfaceId ∉ ids)
  bridgeDomains : s'.bridgeDomains = s.bridgeDomains
  events : s.events.rows <+: s'.events.rows

/-- Two deletions leave the rows that neither deletes. -/
theorem filter_filter_of_iff {α : Type} {p q r : α → Bool} (rows : List α)
    (h : ∀ x, r x = true ↔ p x = true ∧ q x = true) :
    (rows.filter p).filter q = rows.filter r := by
  rw [List.filter_filter]
  apply List.filter_congr
  intro x _
  rw [Bool.eq_iff_iff, Bool.and_eq_true, h x]
  exact And.comm

private theorem Cleaned.nil (s : State) : Cleaned [] s s := by
  constructor <;> simp

private theorem Cleaned.append {xs ys : List String} {s s' s'' : State} (h : Cleaned xs s s')
    (h' : Cleaned ys s' s'') : Cleaned (xs ++ ys) s s'' where
  devices := h'.devices.trans h.devices
  interfaces := by
    rw [h'.interfaces, h.interfaces]
    exact filter_filter_of_iff _ (by simp)
  links := by
    rw [h'.links, h.links]
    exact filter_filter_of_iff _ (by simp; tauto)
  interfaceAddresses := by
    rw [h'.interfaceAddresses, h.interfaceAddresses]
    exact filter_filter_of_iff _ (by simp)
  macAddressEntries := by
    rw [h'.macAddressEntries, h.macAddressEntries]
    exact filter_filter_of_iff _ (by simp)
  neighbors := by
    rw [h'.neighbors, h.neighbors]
    exact filter_filter_of_iff _ (by simp)
  routes := by
    rw [h'.routes, h.routes]
    exact filter_filter_of_iff _ (by simp [or_imp, forall_and])
  provisioningRecords := by
    rw [h'.provisioningRecords, h.provisioningRecords]
    exact filter_filter_of_iff _ (by simp)
  bridgeDomains := h'.bridgeDomains.trans h.bridgeDomains
  events := h.events.trans h'.events

section Loop

variable (now : Nat → String) (deviceId : String)

private theorem rows_appendDomainEvent (table : EventTable) (e : DomainEvent) :
    table.rows <+: (table.appendDomainEvent now e).rows :=
  List.prefix_append _ _

/-- Recording links only appends events. -/
theorem foldl_recordDeleted (links : List Link) (p : State × List String) :
    ∃ events, p.1.events.rows <+: events.rows ∧
      (links.foldl (recordDeleted now deviceId) p).1 = { p.1 with events := events } := by
  induction links generalizing p with
  | nil => exact ⟨p.1.events, List.prefix_refl _, rfl⟩
  | cons link links ih =>
    obtain ⟨events, hevents, heq⟩ := ih (recordDeleted now deviceId p link)
    rw [List.foldl_cons]
    unfold recordDeleted at hevents heq ⊢
    split at hevents
    · next hmem =>
      rw [if_pos hmem] at heq ⊢
      exact ⟨events, hevents, heq⟩
    · next hmem =>
      rw [if_neg hmem] at heq ⊢
      exact ⟨events, (rows_appendDomainEvent now _ _).trans hevents, heq⟩

/-- Only the links and the events differ after the links of one end are deleted. -/
theorem deleteLinks_fst (linkEnd : Link → String) (ifid : String) (p : State × List String) :
    ∃ events, p.1.events.rows <+: events.rows ∧
      (deleteLinks now deviceId linkEnd ifid p).1 =
        { p.1 with links := p.1.links.filter (linkEnd · ≠ ifid), events := events } := by
  obtain ⟨events, hevents, heq⟩ :=
    foldl_recordDeleted now deviceId (p.1.links.filter (linkEnd · = ifid)) p
  refine ⟨events, hevents, ?_⟩
  dsimp only [deleteLinks]
  rw [heq]

/-- One pass of the loop cleans one interface. -/
theorem cleaned_cleanInterface (p : State × List String) (ifid : String) :
    Cleaned [ifid] p.1 (cleanInterface now deviceId p ifid).1 := by
  obtain ⟨eventsA, hA, hlinksA⟩ := deleteLinks_fst now deviceId Link.aInterfaceId ifid p
  obtain ⟨eventsB, hB, hlinksB⟩ := deleteLinks_fst now deviceId Link.bInterfaceId ifid
    (deleteLinks now deviceId Link.aInterfaceId ifid p)
  rw [hlinksA] at hB hlinksB
  dsimp only [cleanInterface]
  rw [hlinksB]
  constructor
  case links => exact filter_filter_of_iff _ (by simp)
  case events => exact hA.trans hB
  all_goals simp

/-- The loop cleans every interface. -/
theorem cleaned_foldl (ids : List String) (p : State × List String) :
    Cleaned ids p.1 (ids.foldl (cleanInterface now deviceId) p).1 := by
  induction ids generalizing p with
  | nil => exact .nil p.1
  | cons ifid ids ih => exact (cleaned_cleanInterface now deviceId p ifid).append (ih _)

end Loop

/-! ### What a deletion leaves -/

private theorem State.mem_ifaceIds {s : State} {deviceId ifid : String} :
    ifid ∈ s.ifaceIds deviceId ↔ ∃ i ∈ s.interfaces, i.deviceId = deviceId ∧ i.id = ifid := by
  simp [State.ifaceIds, and_assoc]

/-- An interface has an id of its own, and so is of the device if its id is. -/
theorem State.id_mem_ifaceIds {s : State} {deviceId : String} {i : InterfaceRow}
    (h : i ∈ s.interfaces) : i.id ∈ s.ifaceIds deviceId ↔ i.deviceId = deviceId := by
  rw [State.mem_ifaceIds]
  constructor
  · rintro ⟨j, hj, hdevice, hid⟩
    rw [← List.inj_on_of_nodup_map s.interfaces_nodup hj h hid]
    exact hdevice
  · intro hdevice
    exact ⟨i, h, hdevice, rfl⟩

/-- The tables after a deletion. The provisioning records of a device are only deleted if it has an
interface. -/
structure Deleted (deviceId : String) (ids : List String) (s s' : State) : Prop where
  devices : s'.devices = s.devices.filter (·.id ≠ deviceId)
  interfaces : s'.interfaces = s.interfaces.filter (·.deviceId ≠ deviceId)
  links : s'.links = s.links.filter (fun l ↦ l.aInterfaceId ∉ ids ∧ l.bInterfaceId ∉ ids)
  interfaceAddresses : s'.interfaceAddresses = s.interfaceAddresses.filter (·.interfaceId ∉ ids)
  macAddressEntries : s'.macAddressEntries = s.macAddressEntries.filter (·.interfaceId ∉ ids)
  neighbors : s'.neighbors = s.neighbors.filter (·.interfaceId ∉ ids)
  routes : s'.routes = s.routes.filter (fun r ↦ ∀ i ∈ ids, r.interfaceId ≠ some i)
  provisioningRecords : s'.provisioningRecords = s.provisioningRecords.filter (fun r ↦
    (ids = [] ∨ r.deviceId ≠ deviceId) ∧ r.interfaceId ∉ ids)
  bridgeDomains : s'.bridgeDomains = s.bridgeDomains.filter (·.deviceId ≠ deviceId)
  events : s.events.rows <+: s'.events.rows

section Spec

variable {now : Nat → String} {foreignKeys : Bool} {deviceId : String} {s s' : State}

/-- A flush changes no row, and succeeds with foreign keys only if the references hold. -/
theorem flush_ok (h : flush foreignKeys s = .ok s') :
    s' = s ∧ (foreignKeys = true → s.ReferencesHold) := by
  unfold flush at h
  split at h
  · cases h
  · next hchecks =>
    cases h
    exact ⟨rfl, fun hkeys ↦ by_contra (fun hno ↦ hchecks ⟨hkeys, hno⟩)⟩

private theorem flush_unchecked (s : State) : flush false s = .ok s := if_neg (by simp)

/-- The provisioning records of the device are only selected if there is an interface. -/
theorem deleteInterfaces_ok {ids : List String}
    (h : deleteInterfaces now foreignKeys deviceId ids s = .ok s') :
    Cleaned ids { s with provisioningRecords :=
      s.provisioningRecords.filter (fun r ↦ ids = [] ∨ r.deviceId ≠ deviceId) } s' := by
  unfold deleteInterfaces at h
  split at h
  · next hnil =>
    cases h
    subst hnil
    constructor <;> simp
  · next hids =>
    obtain ⟨rfl, _⟩ := flush_ok h
    simp only [hids, false_or]
    exact cleaned_foldl now deviceId ids (_, [])

/-- A deletion that succeeds found the device, and leaves references that a database with checks
allows. -/
theorem deleteDeviceImpl_ok (h : deleteDeviceImpl now foreignKeys s deviceId = .ok s') :
    deviceId ∈ s.deviceIds ∧ Deleted deviceId (s.ifaceIds deviceId) s s' ∧
      (foreignKeys = true → s'.ReferencesHold) := by
  unfold deleteDeviceImpl at h
  split at h
  · cases h
  · next d hfind =>
    have hdevice : deviceId ∈ s.deviceIds := by
      obtain ⟨hmem, hid⟩ := (find?_key_eq_some s.devices_nodup).mp hfind
      exact List.mem_map.mpr ⟨d, hmem, hid⟩
    obtain ⟨s₁, h₁, h⟩ := Links.bind_eq_ok.mp h
    obtain ⟨s₂, h₂, h⟩ := Links.bind_eq_ok.mp h
    obtain ⟨s₃, h₃, h⟩ := Links.bind_eq_ok.mp h
    obtain ⟨rfl, _⟩ := flush_ok h₂
    obtain ⟨rfl, hkeys⟩ := flush_ok h₃
    have hcleaned := deleteInterfaces_ok h₁
    cases h
    have hinterfaces : ∀ i ∈ s.interfaces,
        decide (i.id ∉ s.ifaceIds deviceId) = decide (i.deviceId ≠ deviceId) := by
      intro i hi
      rw [decide_eq_decide, State.id_mem_ifaceIds hi]
    refine ⟨hdevice, ?_, hkeys⟩
    exact
      { devices := congrArg (List.filter _) hcleaned.devices
        interfaces := hcleaned.interfaces.trans (List.filter_congr hinterfaces)
        links := hcleaned.links
        interfaceAddresses := hcleaned.interfaceAddresses
        macAddressEntries := hcleaned.macAddressEntries
        neighbors := hcleaned.neighbors
        routes := hcleaned.routes
        provisioningRecords :=
          hcleaned.provisioningRecords.trans (filter_filter_of_iff _ (by simp))
        bridgeDomains := congrArg (List.filter _) hcleaned.bridgeDomains
        events := (rows_appendDomainEvent now _ _).trans hcleaned.events }

private theorem deleteInterfaces_unchecked (now : Nat → String) (deviceId : String)
    (ids : List String)
    (s : State) : ∃ s', deleteInterfaces now false deviceId ids s = .ok s' := by
  unfold deleteInterfaces
  split
  · exact ⟨s, rfl⟩
  · exact ⟨_, flush_unchecked _⟩

/-- Without checks, a deletion of a device succeeds. -/
theorem deleteDeviceImpl_unchecked (now : Nat → String) (h : deviceId ∈ s.deviceIds) :
    ∃ s', deleteDeviceImpl now false s deviceId = .ok s' := by
  unfold deleteDeviceImpl
  split
  · next hnone =>
    obtain ⟨d, hmem, hid⟩ := List.mem_map.mp h
    simpa [hid] using List.find?_eq_none.mp hnone d hmem
  · obtain ⟨s₁, h₁⟩ := deleteInterfaces_unchecked now deviceId (s.ifaceIds deviceId) _
    exact ⟨_, Links.bind_eq_ok.mpr ⟨s₁, h₁, Links.bind_eq_ok.mpr ⟨_, flush_unchecked _,
      Links.bind_eq_ok.mpr ⟨_, flush_unchecked _, rfl⟩⟩⟩⟩

end Spec

/-! ### References after a deletion -/

/-- No row refers to the device or to one of its interfaces, and the device is gone. -/
structure NoReference (deviceId : String) (ids : List String) (s : State) : Prop where
  device : deviceId ∉ s.deviceIds
  interfaces : ∀ i ∈ s.interfaces, i.deviceId ≠ deviceId
  interfaceAddresses : ∀ a ∈ s.interfaceAddresses, a.interfaceId ∉ ids
  links : ∀ l ∈ s.links, l.aInterfaceId ∉ ids ∧ l.bInterfaceId ∉ ids
  neighbors : ∀ n ∈ s.neighbors, n.interfaceId ∉ ids
  routes : ∀ r ∈ s.routes, ∀ i ∈ ids, r.interfaceId ≠ some i
  provisioningRecords :
    ∀ r ∈ s.provisioningRecords, r.deviceId ≠ deviceId ∧ r.interfaceId ∉ ids
  parents : ∀ d ∈ s.devices, d.parentContainerId ≠ some deviceId

/-- The rows that do not refer to the device or to one of its interfaces are those of before, and so
are the events. -/
structure UnrelatedKept (deviceId : String) (ids : List String) (s s' : State) : Prop where
  devices :
    let unrelated := fun d : Device ↦ d.id ≠ deviceId ∧ d.parentContainerId ≠ some deviceId
    s'.devices.filter unrelated = s.devices.filter unrelated
  interfaces :
    s'.interfaces.filter (·.deviceId ≠ deviceId) = s.interfaces.filter (·.deviceId ≠ deviceId)
  links :
    let unrelated := fun l : Link ↦ l.aInterfaceId ∉ ids ∧ l.bInterfaceId ∉ ids
    s'.links.filter unrelated = s.links.filter unrelated
  interfaceAddresses :
    s'.interfaceAddresses.filter (·.interfaceId ∉ ids) =
      s.interfaceAddresses.filter (·.interfaceId ∉ ids)
  macAddressEntries :
    s'.macAddressEntries.filter (·.interfaceId ∉ ids) =
      s.macAddressEntries.filter (·.interfaceId ∉ ids)
  neighbors :
    s'.neighbors.filter (·.interfaceId ∉ ids) = s.neighbors.filter (·.interfaceId ∉ ids)
  routes :
    let unrelated := fun r : Route ↦ ∀ i ∈ ids, r.interfaceId ≠ some i
    s'.routes.filter unrelated = s.routes.filter unrelated
  provisioningRecords :
    let unrelated := fun r : ProvisioningRecord ↦ r.deviceId ≠ deviceId ∧ r.interfaceId ∉ ids
    s'.provisioningRecords.filter unrelated = s.provisioningRecords.filter unrelated
  bridgeDomains :
    s'.bridgeDomains.filter (·.deviceId ≠ deviceId) =
      s.bridgeDomains.filter (·.deviceId ≠ deviceId)
  events : s.events.rows <+: s'.events.rows

/-- A deletion that succeeds leaves no reference, and every unrelated row. -/
def DeletesCleanly (now : Nat → String) (foreignKeys : Bool) (s : State) (deviceId : String) :
    Prop :=
  ∀ s', deleteDeviceImpl now foreignKeys s deviceId = .ok s' →
    NoReference deviceId (s.ifaceIds deviceId) s' ∧
      UnrelatedKept deviceId (s.ifaceIds deviceId) s s'

section References

variable {deviceId : String} {ids : List String} {s s' : State}

/-- Every deletion keeps the unrelated rows. -/
theorem Deleted.unrelatedKept (h : Deleted deviceId ids s s') :
    UnrelatedKept deviceId ids s s' where
  devices := by
    rw [h.devices]
    exact filter_filter_of_iff _ (by simp)
  interfaces := by
    rw [h.interfaces]
    exact filter_filter_of_iff _ (by simp)
  links := by
    rw [h.links]
    exact filter_filter_of_iff _ (by simp)
  interfaceAddresses := by
    rw [h.interfaceAddresses]
    exact filter_filter_of_iff _ (by simp)
  macAddressEntries := by
    rw [h.macAddressEntries]
    exact filter_filter_of_iff _ (by simp)
  neighbors := by
    rw [h.neighbors]
    exact filter_filter_of_iff _ (by simp)
  routes := by
    rw [h.routes]
    exact filter_filter_of_iff _ (by simp)
  provisioningRecords := by
    rw [h.provisioningRecords]
    exact filter_filter_of_iff _ (by simp; tauto)
  bridgeDomains := by
    rw [h.bridgeDomains]
    exact filter_filter_of_iff _ (by simp)
  events := h.events

/-- Only the parents and the records of a device without interfaces may be left. -/
theorem Deleted.noReference (h : Deleted deviceId ids s s')
    (hparents : ∀ d ∈ s'.devices, d.parentContainerId ≠ some deviceId)
    (hrecords : ∀ r ∈ s'.provisioningRecords, r.deviceId ≠ deviceId) :
    NoReference deviceId ids s' where
  device := by simp [State.deviceIds, h.devices]
  interfaces := by simp [h.interfaces]
  interfaceAddresses := by simp [h.interfaceAddresses]
  links := by simp +contextual [h.links]
  neighbors := by simp [h.neighbors]
  routes := by simp [h.routes]
  provisioningRecords r hr := by
    refine ⟨hrecords r hr, ?_⟩
    rw [h.provisioningRecords] at hr
    exact (of_decide_eq_true (List.mem_filter.mp hr).2).2
  parents := hparents

end References

/-- A deletion is clean exactly where there is no such device, the database checks its foreign keys, or
the device contains no device and has an interface or no provisioning record. -/
theorem deletesCleanly_iff (now : Nat → String) (foreignKeys : Bool) (s : State)
    (deviceId : String) :
    DeletesCleanly now foreignKeys s deviceId ↔
      deviceId ∉ s.deviceIds ∨ foreignKeys = true ∨
        (∀ d ∈ s.devices, d.id ≠ deviceId → d.parentContainerId ≠ some deviceId) ∧
          ((∃ i ∈ s.interfaces, i.deviceId = deviceId) ∨
            ∀ r ∈ s.provisioningRecords, r.deviceId ≠ deviceId) := by
  have hids : s.ifaceIds deviceId = [] ↔ ¬ ∃ i ∈ s.interfaces, i.deviceId = deviceId := by
    simp [State.ifaceIds]
  constructor
  · intro hclean
    by_cases hdevice : deviceId ∈ s.deviceIds
    · cases foreignKeys with
      | true => exact Or.inr (Or.inl rfl)
      | false =>
        obtain ⟨s', hdelete⟩ := deleteDeviceImpl_unchecked now hdevice
        have hdeleted := (deleteDeviceImpl_ok hdelete).2.1
        have hnone := (hclean s' hdelete).1
        refine Or.inr (Or.inr ⟨?_, ?_⟩)
        · intro d hd hne
          apply hnone.parents d
          rw [hdeleted.devices]
          exact List.mem_filter.mpr ⟨hd, decide_eq_true hne⟩
        · by_cases hempty : s.ifaceIds deviceId = []
          · -- the records of a device without interfaces are all left
            right
            intro r hr
            apply (hnone.provisioningRecords r ?_).1
            rw [hdeleted.provisioningRecords, hempty]
            simpa using hr
          · exact Or.inl (not_not.mp (fun hno ↦ hempty (hids.mpr hno)))
    · exact Or.inl hdevice
  · intro hcondition s' hdelete
    obtain ⟨hdevice, hdeleted, hkeys⟩ := deleteDeviceImpl_ok hdelete
    refine ⟨?_, hdeleted.unrelatedKept⟩
    have hgone : deviceId ∉ s'.deviceIds := by simp [State.deviceIds, hdeleted.devices]
    rcases hcondition with habsent | hchecked | ⟨hparents, hrecords⟩
    · exact absurd hdevice habsent
    · -- a reference that is left would have failed its check
      obtain ⟨hparents, _, _, _, _, _, hrecords, _⟩ := hkeys hchecked
      refine hdeleted.noReference ?_ ?_
      · intro d hd hparent
        exact hgone (hparents d hd deviceId hparent)
      · intro r hr heq
        exact hgone (heq ▸ (hrecords r hr).1)
    · refine hdeleted.noReference ?_ ?_
      · intro d hd
        rw [hdeleted.devices] at hd
        obtain ⟨hd, hne⟩ := List.mem_filter.mp hd
        exact hparents d hd (of_decide_eq_true hne)
      · intro r hr
        rw [hdeleted.provisioningRecords] at hr
        obtain ⟨hr, hleft⟩ := List.mem_filter.mp hr
        rcases hrecords with hsome | hrecords
        · rcases (of_decide_eq_true hleft).1 with hempty | hne
          · exact absurd hsome (hids.mp hempty)
          · exact hne
        · exact hrecords r hr

/-! ### Deletions that leave references -/

/-- A POP that contains an OLT. -/
def containedOlt : State where
  devices := [{ id := "pop1", type := .pop },
    { id := "olt1", type := .olt, parentContainerId := some "pop1" }]

/-- An ONT without interfaces whose management address was assigned on the interface of an OLT. -/
def recordWithoutInterface : State where
  devices := [{ id := "ont1", type := .ont }, { id := "olt1", type := .olt }]
  interfaces := [{ id := "olt1-mgmt0", deviceId := "olt1", name := "mgmt0" }]
  provisioningRecords := [⟨1, "2025-01-01T00:00:00", "ont1", "olt1-mgmt0", "10.250.0.1"⟩]

/-- In both, no reference dangles, and the deletion leaves one that does. -/
theorem not_deletesCleanly :
    (containedOlt.NoDangling ∧ ∀ now, ¬ DeletesCleanly now false containedOlt "pop1") ∧
      recordWithoutInterface.NoDangling ∧
        ∀ now, ¬ DeletesCleanly now false recordWithoutInterface "ont1" := by
  refine ⟨⟨by decide +kernel, ?_⟩, by decide +kernel, ?_⟩
  · intro now hclean
    obtain ⟨s', hdelete⟩ := deleteDeviceImpl_unchecked now
      (show "pop1" ∈ containedOlt.deviceIds by decide)
    have hdeleted := (deleteDeviceImpl_ok hdelete).2.1
    let olt : Device := { id := "olt1", type := .olt, parentContainerId := some "pop1" }
    refine (hclean s' hdelete).1.parents olt ?_ rfl
    rw [hdeleted.devices]
    decide +kernel
  · intro now hclean
    obtain ⟨s', hdelete⟩ := deleteDeviceImpl_unchecked now
      (show "ont1" ∈ recordWithoutInterface.deviceIds by decide)
    have hdeleted := (deleteDeviceImpl_ok hdelete).2.1
    let record : ProvisioningRecord :=
      ⟨1, "2025-01-01T00:00:00", "ont1", "olt1-mgmt0", "10.250.0.1"⟩
    refine ((hclean s' hdelete).1.provisioningRecords record ?_).1 rfl
    rw [hdeleted.provisioningRecords]
    decide +kernel

end Unoc.Devices.Delete
