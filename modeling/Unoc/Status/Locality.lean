import Unoc.Status.DefaultRoutes
import Unoc.Status.Evaluate

/-!
# Locality of upstream connectivity

An edit of overrides and link statuses disturbs the devices and links whose forced-DOWN or up flag
it flips. On a set of device ids that usable links never leave, before or after the edit, and that
holds no disturbed device, the L3 trace and the logical graph answer as before.
-/

namespace Unoc.Status

open Unoc.Base Unoc.Model

/-! ### Edits -/

/-- New overrides of devices, and new overrides and statuses of links. -/
structure Edit where
  override : DeviceView → Option Status
  linkOverride : Link → Option Status
  linkStatus : Link → Status

namespace Edit

variable (e : Edit)

/-- The edited row of a device. -/
def device (d : DeviceView) : DeviceView := { d with adminOverrideStatus := e.override d }

/-- The edited row of a link. -/
def link (l : Link) : Link :=
  { l with adminOverrideStatus := e.linkOverride l, status := e.linkStatus l }

/-- The edited topology. -/
def apply (t : Topology) : Topology :=
  { t with
    devices := t.devices.map e.device
    links := t.links.map e.link
    devices_nodup := by simpa [Function.comp_def, device] using t.devices_nodup
    links_nodup := by simpa [Function.comp_def, link] using t.links_nodup }

/-- A change keeps the ids of devices. -/
@[simp] theorem device_id (d : DeviceView) : (e.device d).id = d.id := rfl

/-- A change keeps the types of devices. -/
@[simp] theorem device_type (d : DeviceView) : (e.device d).type = d.type := rfl

@[simp] private theorem device_vrfId (d : DeviceView) : (e.device d).vrfId = d.vrfId := rfl

@[simp] private theorem link_id (l : Link) : (e.link l).id = l.id := rfl

@[simp] private theorem link_aInterfaceId (l : Link) :
    (e.link l).aInterfaceId = l.aInterfaceId := rfl

@[simp] private theorem link_bInterfaceId (l : Link) :
    (e.link l).bInterfaceId = l.bInterfaceId := rfl

@[simp] private theorem link_kind (l : Link) : (e.link l).kind = l.kind := rfl

variable {e} {t : Topology}

/-- The devices after a change. -/
@[simp] theorem apply_devices : (e.apply t).devices = t.devices.map e.device := rfl

/-- The links after a change. -/
@[simp] theorem apply_links : (e.apply t).links = t.links.map e.link := rfl

@[simp] private theorem apply_interfaces : (e.apply t).interfaces = t.interfaces := rfl

@[simp] private theorem apply_routes : (e.apply t).routes = t.routes := rfl

@[simp] private theorem getInterface_apply (id : String) :
    (e.apply t).getInterface id = t.getInterface id := rfl

/-- A device after a change. -/
theorem getDevice_apply (id : String) :
    (e.apply t).getDevice id = (t.getDevice id).map e.device := by
  simp only [Topology.getDevice, apply_devices, List.find?_map]
  rfl

@[simp] private theorem ifToDev_apply (id : String) : ifToDev (e.apply t) id = ifToDev t id := rfl

@[simp] private theorem recordEnd_apply (id : String) : recordEnd
    (e.apply t) id = recordEnd t id := rfl

private theorem interfaceDevice_apply (id : String) :
    interfaceDevice (e.apply t) id = (interfaceDevice t id).map e.device := by
  unfold interfaceDevice getDeviceIf
  rw [getInterface_apply]
  cases t.getInterface id with
  | none => rfl
  | some i =>
    show (truthy (some i.deviceId)).bind (e.apply t).getDevice =
      ((truthy (some i.deviceId)).bind t.getDevice).map e.device
    cases truthy (some i.deviceId) with
    | none => rfl
    | some id => exact getDevice_apply id

end Edit

/-! ### Records -/

variable {t : Topology}

/-- The ends of the usable links; `dependency_resolver_core.py:64–143`. -/
def usableEdges (t : Topology) : List (String × String) :=
  (linkRecords t).map (fun r ↦ (r.aDeviceId, r.bDeviceId))

/-- The recorded ids are those of devices that are not forced down. -/
theorem mem_recordIds {p : DeviceType → Bool} {id : String} :
    id ∈ recordIds p (deviceRecords t) ↔
      ∃ d ∈ t.devices, d.id = id ∧ d.forcedDown = false ∧ p d.type = true := by
  simp only [recordIds, deviceRecords, List.mem_map, List.mem_filter]
  constructor
  · rintro ⟨_, ⟨⟨d, ⟨hd, hup⟩, rfl⟩, hp⟩, rfl⟩
    exact ⟨d, hd, rfl, by simpa using hup, hp⟩
  · rintro ⟨d, hd, rfl, hup, hp⟩
    exact ⟨⟨d.id, d.type⟩, ⟨⟨d, ⟨hd, by simpa using hup⟩, rfl⟩, hp⟩, rfl⟩

/-- A device has a record if and only if it is not forced DOWN. -/
theorem mem_recordIds_iff_up {d : DeviceView} (hd : d ∈ t.devices) :
    d.id ∈ recordIds (fun _ ↦ true) (deviceRecords t) ↔ d.forcedDown = false := by
  rw [mem_recordIds]
  constructor
  · rintro ⟨d', hd', hdd, hup, _⟩
    rwa [Topology.device_unique hd' hd hdd] at hup
  · intro hup
    exact ⟨d, hd, rfl, hup, rfl⟩

/-- All ids of records, by the check that everything passes. -/
theorem map_id_eq_recordIds (rs : List DeviceRecord) :
    rs.map DeviceRecord.id = recordIds (fun _ ↦ true) rs := by
  simp [recordIds]

/-- The record of a link that is up between recorded devices. -/
theorem linkRecord_eq_some {l : Link} {r : LinkRecord} :
    linkRecord t l = some r ↔
      linkUp l = true ∧ recordEnd t l.aInterfaceId = some r.aDeviceId ∧
        recordEnd t l.bInterfaceId = some r.bDeviceId ∧
        r.aDeviceId ∈ recordIds (fun _ ↦ true) (deviceRecords t) ∧
        r.bDeviceId ∈ recordIds (fun _ ↦ true) (deviceRecords t) ∧
        r.id = l.id ∧ r.kind = l.kind := by
  unfold linkRecord
  rw [map_id_eq_recordIds]
  cases recordEnd t l.aInterfaceId with
  | none => simp
  | some a =>
    cases recordEnd t l.bInterfaceId with
    | none => simp
    | some b =>
      obtain ⟨id, aDev, bDev, kind⟩ := r
      simp only [Option.bind_eq_bind, Option.bind_some, Option.pure_def]
      grind

/-! ### The undisturbed part -/

/-- A set of ids that usable links never leave and that an edit does not disturb. -/
structure Undisturbed (e : Edit) (t : Topology) (X : String → Prop) : Prop where
  device : ∀ d ∈ t.devices, X d.id → (e.device d).forcedDown = d.forcedDown
  link : ∀ l ∈ t.links, linkUp (e.link l) ≠ linkUp l → ∀ id,
    recordEnd t l.aInterfaceId = some id ∨ recordEnd t l.bInterfaceId = some id → ¬ X id
  before : ∀ a b, Adjacent (usableEdges t) a b → (X a ↔ X b)
  after : ∀ a b, Adjacent (usableEdges (e.apply t)) a b → (X a ↔ X b)

variable {e : Edit} {X : String → Prop}

private theorem adjacent_usableEdges {l : Link} {r : LinkRecord} (hl : l ∈ t.links)
    (hr : linkRecord t l = some r) : Adjacent (usableEdges t) r.aDeviceId r.bDeviceId :=
  Or.inl (List.mem_map.mpr ⟨r, List.mem_filterMap.mpr ⟨l, hl, hr⟩, rfl⟩)

/-- Away from the change the same ids are recorded. -/
theorem Undisturbed.mem_recordIds (h : Undisturbed e t X) {p : DeviceType → Bool} {id : String}
    (hid : X id) :
    id ∈ recordIds p (deviceRecords (e.apply t)) ↔ id ∈ recordIds p (deviceRecords t) := by
  simp only [Status.mem_recordIds, Edit.apply_devices, List.mem_map]
  constructor
  · rintro ⟨_, ⟨d, hd, rfl⟩, rfl, hup, hp⟩
    exact ⟨d, hd, rfl, by rw [← hup, h.device d hd hid], hp⟩
  · rintro ⟨d, hd, rfl, hup, hp⟩
    exact ⟨e.device d, ⟨d, hd, rfl⟩, rfl, by rw [← hup, h.device d hd hid], hp⟩

/-- The edit keeps the flag of a link that ends in the set. -/
theorem Undisturbed.linkUp_eq (h : Undisturbed e t X) {l : Link} (hl : l ∈ t.links) {id : String}
    (hid : X id)
    (hend : recordEnd t l.aInterfaceId = some id ∨ recordEnd t l.bInterfaceId = some id) :
    linkUp (e.link l) = linkUp l := by
  by_contra hne
  exact h.link l hl hne id hend hid

/-- A usable link with an end in the set is usable after the edit if and only if it was before. -/
theorem Undisturbed.linkRecord_iff (h : Undisturbed e t X) {l : Link} (hl : l ∈ t.links)
    {r : LinkRecord} (hX : X r.aDeviceId ∨ X r.bDeviceId) :
    linkRecord (e.apply t) (e.link l) = some r ↔ linkRecord t l = some r := by
  have hiff : (X r.aDeviceId ∧ X r.bDeviceId) →
      (linkRecord (e.apply t) (e.link l) = some r ↔ linkRecord t l = some r) := by
    rintro ⟨ha, hb⟩
    rw [linkRecord_eq_some, linkRecord_eq_some, h.mem_recordIds ha, h.mem_recordIds hb]
    constructor
    · rintro ⟨hup, hra, hrb, hrest⟩
      exact ⟨by rw [← h.linkUp_eq hl ha (Or.inl hra)]; exact hup, hra, hrb, hrest⟩
    · rintro ⟨hup, hra, hrb, hrest⟩
      exact ⟨by rw [h.linkUp_eq hl ha (Or.inl hra)]; exact hup, hra, hrb, hrest⟩
  constructor
  · intro hr
    have hadj := h.after _ _ (adjacent_usableEdges (List.mem_map.mpr ⟨l, hl, rfl⟩) hr)
    exact (hiff (by tauto)).mp hr
  · intro hr
    have hadj := h.before _ _ (adjacent_usableEdges hl hr)
    exact (hiff (by tauto)).mpr hr

/-- The link records with an end in the set are as before. -/
theorem Undisturbed.mem_linkRecords (h : Undisturbed e t X) {r : LinkRecord}
    (hX : X r.aDeviceId ∨ X r.bDeviceId) :
    r ∈ linkRecords (e.apply t) ↔ r ∈ linkRecords t := by
  simp only [linkRecords, Edit.apply_links, List.filterMap_map, List.mem_filterMap,
    Function.comp_apply]
  constructor
  · rintro ⟨l, hl, hr⟩
    exact ⟨l, hl, (h.linkRecord_iff hl hX).mp hr⟩
  · rintro ⟨l, hl, hr⟩
    exact ⟨l, hl, (h.linkRecord_iff hl hX).mpr hr⟩

/-! ### The trace -/

/-- The device of an interface by rows. -/
theorem interfaceDevice_eq_some {interfaceId : String} {d : DeviceView} :
    interfaceDevice t interfaceId = some d ↔
      ∃ i, t.getInterface interfaceId = some i ∧ truthy (some i.deviceId) = some d.id ∧
        d ∈ t.devices := by
  simp only [interfaceDevice, getDeviceIf, Option.bind_eq_some_iff]
  constructor
  · rintro ⟨i, hi, id, hid, hd⟩
    obtain ⟨hmem, rfl⟩ := Topology.getDevice_eq_some.mp hd
    exact ⟨i, hi, hid, hmem⟩
  · rintro ⟨i, hi, hid, hmem⟩
    exact ⟨i, hi, d.id, hid, Topology.getDevice_eq_some.mpr ⟨hmem, rfl⟩⟩

/-- The device of an interface is the one it names. -/
theorem deviceId_of_interfaceDevice {i : Interface} {d : DeviceView}
    (hi : t.getInterface i.id = some i) (hd : interfaceDevice t i.id = some d) :
    d.id = i.deviceId := by
  obtain ⟨j, hj, hid, _⟩ := interfaceDevice_eq_some.mp hd
  rw [hi, Option.some.injEq] at hj
  subst hj
  exact (eq_of_truthy hid).symm

/-- The trace passes the usable links that have both of their interface rows. -/
theorem traceLinkPassable_iff {l : Link} :
    traceLinkPassable t l = true ↔
      ∃ a b, interfaceDevice t l.aInterfaceId = some a ∧ interfaceDevice t l.bInterfaceId = some b ∧
        linkRecord t l = some ⟨l.id, a.id, b.id, l.kind⟩ := by
  have hend : ∀ {interfaceId : String} {d : DeviceView}, interfaceDevice t interfaceId = some d →
      recordEnd t interfaceId = some d.id ∧
        (d.id ∈ recordIds (fun _ ↦ true) (deviceRecords t) ↔ d.forcedDown = false) := by
    intro interfaceId d hd
    obtain ⟨i, hi, hid, hmem⟩ := interfaceDevice_eq_some.mp hd
    exact ⟨by simp [recordEnd, ifToDev, hi, hid], mem_recordIds_iff_up hmem⟩
  unfold traceLinkPassable
  cases ha : interfaceDevice t l.aInterfaceId with
  | none => simp
  | some a =>
    cases hb : interfaceDevice t l.bInterfaceId with
    | none => simp
    | some b => simp [linkRecord_eq_some, (hend ha).1, (hend hb).1, (hend ha).2, (hend hb).2]

/-- The passable links of an interface. -/
theorem mem_passableLinks {interfaceId : String} {l : Link} :
    l ∈ passableLinks t interfaceId ↔
      l ∈ t.links ∧ (l.aInterfaceId = interfaceId ∨ l.bInterfaceId = interfaceId) ∧
        traceLinkPassable t l = true := by
  simp only [passableLinks, List.mem_filter, decide_eq_true_eq, and_assoc]

/-- The peer over a passable link is at the other end of a usable link. -/
theorem adjacent_of_peer {i : Interface} {l : Link} {p : DeviceView}
    (hi : t.getInterface i.id = some i) (hl : l ∈ passableLinks t i.id)
    (hp : interfaceDevice t (peerInterface i.id l) = some p) :
    Adjacent (usableEdges t) i.deviceId p.id := by
  obtain ⟨hmem, hend, hpass⟩ := mem_passableLinks.mp hl
  obtain ⟨a, b, ha, hb, hr⟩ := traceLinkPassable_iff.mp hpass
  have hadj : Adjacent (usableEdges t) a.id b.id := adjacent_usableEdges hmem hr
  unfold peerInterface at hp
  split at hp
  · next hla =>
    rw [hb, Option.some.injEq] at hp
    rw [hla] at ha
    rw [← deviceId_of_interfaceDevice hi ha, ← hp]
    exact hadj
  · next hla =>
    rw [ha, Option.some.injEq] at hp
    rw [hend.resolve_left hla] at hb
    rw [← deviceId_of_interfaceDevice hi hb, ← hp]
    exact hadj.symm

/-- A peer of a device: a row at the other end of one of its usable links. -/
structure Peer (t : Topology) (dev p : DeviceView) : Prop where
  mem : p ∈ t.devices
  adjacent : Adjacent (usableEdges t) dev.id p.id

private theorem peer_of_interfaceDevice {dev p : DeviceView} {i : Interface} {l : Link}
    (hi : t.getInterface i.id = some i) (hdev : i.deviceId = dev.id)
    (hl : l ∈ passableLinks t i.id) (hp : interfaceDevice t (peerInterface i.id l) = some p) :
    Peer t dev p := by
  obtain ⟨_, _, _, hmem⟩ := interfaceDevice_eq_some.mp hp
  exact ⟨hmem, hdev ▸ adjacent_of_peer hi hl hp⟩

private theorem mem_of_firstById {links : List Link} {l : Link} (h : firstById links = some l) :
    l ∈ links := by
  have hleast : leastBy Link.id links = some l := h
  exact (leastBy_spec hleast).1

/-- The peer behind an interface is at the other end of one of its passable links. -/
theorem link_of_resolvePeerViaIf {p : DeviceView} {interfaceId expectIp : String}
    (hp : resolvePeerViaIf t interfaceId expectIp = some p) :
    ∃ l ∈ passableLinks t interfaceId,
      interfaceDevice t (peerInterface interfaceId l) = some p := by
  unfold resolvePeerViaIf at hp
  obtain ⟨l, hl, hp⟩ := Option.bind_eq_some_iff.mp hp
  refine ⟨l, ?_, hp⟩
  rcases Option.or_eq_some_iff.mp hl with hl | ⟨_, hl⟩
  · exact List.mem_of_mem_filter (mem_of_firstById hl)
  · exact mem_of_firstById hl

private theorem peer_of_resolvePeerViaIf {dev p : DeviceView} {i : Interface} {expectIp : String}
    (hi : t.getInterface i.id = some i) (hdev : i.deviceId = dev.id)
    (hp : resolvePeerViaIf t i.id expectIp = some p) : Peer t dev p := by
  obtain ⟨l, hl, hp⟩ := link_of_resolvePeerViaIf hp
  exact peer_of_interfaceDevice hi hdev hl hp

/-- The peers of a device are at the other ends of the passable links of its interfaces. -/
theorem mem_accessPeers {dev p : DeviceView} :
    p ∈ accessPeers t dev ↔
      ∃ i ∈ t.interfaces, i.deviceId = dev.id ∧ ∃ l ∈ passableLinks t i.id,
        peerInterface i.id l ≠ "" ∧ interfaceDevice t (peerInterface i.id l) = some p := by
  simp only [accessPeers, List.mem_flatMap, List.mem_filter, decide_eq_true_eq, and_assoc,
    List.mem_filterMap]
  apply exists_congr
  intro i
  apply and_congr_right'
  apply and_congr_right'
  apply exists_congr
  intro l
  apply and_congr_right'
  by_cases hpeer : peerInterface i.id l = ""
  · simp [truthy, hpeer, Option.filter_some]
  · simp [truthy_some hpeer, hpeer]

/-- A peer of an access device shares a link with it. -/
theorem peer_of_accessPeers {dev p : DeviceView} (hp : p ∈ accessPeers t dev) : Peer t dev p := by
  obtain ⟨i, hi, hdev, l, hl, _, hp⟩ := mem_accessPeers.mp hp
  exact peer_of_interfaceDevice (Topology.getInterface_eq_some.mpr ⟨hi, rfl⟩) hdev hl hp

/-- The upstream of an access device is one of its peers. -/
theorem mem_of_accessUpstream {dev p : DeviceView} (hp : accessUpstream t dev = some p) :
    p ∈ accessPeers t dev := by
  unfold accessUpstream at hp
  rcases Option.or_eq_some_iff.mp hp with hp | ⟨_, hp⟩
  · exact List.mem_of_find?_eq_some hp
  · exact List.mem_of_mem_head? hp

private theorem peer_of_accessUpstream {dev p : DeviceView} (hp : accessUpstream t dev = some p) :
    Peer t dev p := peer_of_accessPeers (mem_of_accessUpstream hp)

/-- The chosen route leaves through an interface of the router. -/
theorem egress_of_chosen {dev : DeviceView} {routes candidates rest : List Route} {chosen : Route}
    (hc : eligibleRoutes t dev routes = .ok candidates)
    (hsort : candidates.insertionSort (fun a b ↦ routeKey a ≤ routeKey b) = chosen :: rest) :
    ∃ i, chosen.interfaceId.getD "" = i.id ∧ t.getInterface i.id = some i ∧
      i.deviceId = dev.id := by
  have hmem : chosen ∈ candidates := by
    rw [← List.mem_insertionSort (fun a b ↦ routeKey a ≤ routeKey b), hsort]
    exact List.mem_cons_self
  obtain ⟨rfl, _⟩ := eligibleRoutes_eq_ok.mp hc
  obtain ⟨_, i, hi, hget, hdev⟩ := mem_routesVia.mp hmem
  exact ⟨i, by rw [hi]; rfl, hget, hdev⟩

/-- The upstream of a router shares a link with it. -/
theorem peer_of_routerUpstream {dev p : DeviceView} (hp : routerUpstream t dev = .ok p) :
    Peer t dev p := by
  obtain ⟨_, r, hr, hp⟩ := routerUpstream_eq_ok.mp hp
  obtain ⟨_, i, hi, hget, hdev⟩ := mem_routesVia.mp (leastBy_spec hr).1
  rw [hi, Option.getD_some] at hp
  exact peer_of_resolvePeerViaIf hget hdev hp

namespace Undisturbed

variable (h : Undisturbed e t X)

include h

private theorem traceLinkPassable_eq {l : Link} (hl : l ∈ t.links) {i : Interface}
    (hi : t.getInterface i.id = some i) (hend : l.aInterfaceId = i.id ∨ l.bInterfaceId = i.id)
    (hX : X i.deviceId) : traceLinkPassable (e.apply t) (e.link l) = traceLinkPassable t l := by
  have hends : ∀ {a b : DeviceView}, interfaceDevice t l.aInterfaceId = some a →
      interfaceDevice t l.bInterfaceId = some b → X a.id ∨ X b.id := by
    intro a b ha hb
    rcases hend with hla | hlb
    · rw [hla] at ha
      exact Or.inl (by rwa [deviceId_of_interfaceDevice hi ha])
    · rw [hlb] at hb
      exact Or.inr (by rwa [deviceId_of_interfaceDevice hi hb])
  rw [Bool.eq_iff_iff, traceLinkPassable_iff, traceLinkPassable_iff]
  simp only [Edit.link_aInterfaceId, Edit.link_bInterfaceId, Edit.interfaceDevice_apply,
    Option.map_eq_some_iff]
  constructor
  · rintro ⟨_, _, ⟨a, ha, rfl⟩, ⟨b, hb, rfl⟩, hr⟩
    exact ⟨a, b, ha, hb, (h.linkRecord_iff hl (hends ha hb)).mp hr⟩
  · rintro ⟨a, b, ha, hb, hr⟩
    exact ⟨e.device a, e.device b, ⟨a, ha, rfl⟩, ⟨b, hb, rfl⟩,
      (h.linkRecord_iff hl (hends ha hb)).mpr hr⟩

private theorem passableLinks_apply {i : Interface} (hi : t.getInterface i.id = some i)
    (hX : X i.deviceId) :
    passableLinks (e.apply t) i.id = (passableLinks t i.id).map e.link := by
  simp only [passableLinks, Edit.apply_links, List.filter_map]
  congr 1
  apply List.filter_congr
  intro l hl
  obtain ⟨hmem, hend⟩ := List.mem_filter.mp hl
  exact h.traceLinkPassable_eq hmem hi (of_decide_eq_true hend) hX

omit h in
private theorem firstById_map (links : List Link) :
    firstById (links.map e.link) = (firstById links).map e.link := by
  unfold firstById
  rw [← List.map_insertionSort (fun a b : Link ↦ a.id ≤ b.id) (fun a b : Link ↦ a.id ≤ b.id) e.link
    links (fun _ _ _ _ ↦ Iff.rfl)]
  exact List.head?_map

/-- The peer behind an egress is the edited row of the peer before. -/
theorem resolvePeerViaIf_apply {i : Interface} (hi : t.getInterface i.id = some i)
    (hX : X i.deviceId) (expectIp : String) :
    resolvePeerViaIf (e.apply t) i.id expectIp =
      (resolvePeerViaIf t i.id expectIp).map e.device := by
  have hchoice : ∀ x y : Option Link,
      ((x.map e.link).or (y.map e.link)).bind (fun l ↦
          interfaceDevice (e.apply t) (peerInterface i.id l)) =
        ((x.or y).bind (fun l ↦ interfaceDevice t (peerInterface i.id l))).map e.device := by
    intro x y
    cases x with
    | some l => exact Edit.interfaceDevice_apply _
    | none =>
      cases y with
      | some l => exact Edit.interfaceDevice_apply _
      | none => rfl
  unfold resolvePeerViaIf
  simp only [h.passableLinks_apply hi hX, List.filter_map, firstById_map]
  exact hchoice _ _

/-- The peers of an access device are the edited rows of its peers before. -/
theorem accessPeers_apply {dev : DeviceView} (hX : X dev.id) :
    accessPeers (e.apply t) (e.device dev) = (accessPeers t dev).map e.device := by
  simp only [accessPeers, Edit.apply_interfaces, Edit.device_id, List.map_flatMap]
  apply List.flatMap_congr
  intro i hi
  obtain ⟨hmem, hdev⟩ := List.mem_filter.mp hi
  have hdev : i.deviceId = dev.id := of_decide_eq_true hdev
  rw [h.passableLinks_apply (Topology.getInterface_eq_some.mpr ⟨hmem, rfl⟩) (hdev ▸ hX),
    List.filterMap_map, List.map_filterMap]
  apply List.filterMap_congr
  intro l _
  show (truthy (some (peerInterface i.id l))).bind (interfaceDevice (e.apply t)) =
    ((truthy (some (peerInterface i.id l))).bind (interfaceDevice t)).map e.device
  cases truthy (some (peerInterface i.id l)) with
  | none => rfl
  | some peer => exact Edit.interfaceDevice_apply peer

private theorem accessUpstream_apply {dev : DeviceView} (hX : X dev.id) :
    accessUpstream (e.apply t) (e.device dev) = (accessUpstream t dev).map e.device := by
  unfold accessUpstream
  rw [h.accessPeers_apply hX, List.find?_map, List.head?_map]
  show (((accessPeers t dev).find? (fun p ↦ routerClass p.type)).map e.device).or
    ((accessPeers t dev).head?.map e.device) = _
  cases (accessPeers t dev).find? (fun p ↦ routerClass p.type) with
  | none => rfl
  | some p => rfl

omit h in
private theorem eligibleRoutes_apply (dev : DeviceView) (routes : List Route) :
    eligibleRoutes (e.apply t) (e.device dev) routes = eligibleRoutes t dev routes := by
  induction routes with
  | nil => rfl
  | cons r routes ih =>
    unfold eligibleRoutes
    rw [ih]
    rfl

private theorem routerUpstream_apply {dev : DeviceView} (hX : X dev.id) :
    routerUpstream (e.apply t) (e.device dev) = (routerUpstream t dev).map e.device := by
  unfold routerUpstream
  rw [Edit.apply_routes, Edit.device_vrfId]
  generalize t.routes.filter (fun r ↦ some r.vrfId = dev.vrfId ∧ r.pfx = "0.0.0.0/0") = routes
  split
  · rfl
  · rw [eligibleRoutes_apply]
    cases hc : eligibleRoutes t dev routes with
    | error reason => rfl
    | ok candidates =>
      simp only [bind, Except.bind]
      split
      · rfl
      · next chosen rest hsort =>
        obtain ⟨i, hi, hget, hdev⟩ := egress_of_chosen hc hsort
        rw [hi, h.resolvePeerViaIf_apply hget (hdev ▸ hX)]
        cases resolvePeerViaIf t i.id (chosen.nextHop.getD "") with
        | none => rfl
        | some p => rfl

/-- The next hop of a device in the set is the edited row of the hop before. -/
theorem nextHop_apply {dev : DeviceView} (hX : X dev.id) :
    nextHop (e.apply t) (e.device dev) = (nextHop t dev).map e.device := by
  have hdown : ∀ {p : DeviceView}, Peer t dev p → (e.device p).forcedDown = p.forcedDown :=
    fun hp ↦ h.device _ hp.mem ((h.before _ _ hp.adjacent).mp hX)
  unfold nextHop
  rw [Edit.device_type, Edit.apply_interfaces, Edit.device_id, h.routerUpstream_apply hX,
    h.accessUpstream_apply hX]
  split_ifs
  · cases hp : routerUpstream t dev with
    | error reason => rfl
    | ok p =>
      simp only [Except.map, bind, Except.bind, hdown (peer_of_routerUpstream hp)]
      split <;> rfl
  · rfl
  · cases hp : accessUpstream t dev with
    | none => rfl
    | some p =>
      simp only [Option.map_some, Except.map, bind, Except.bind, hdown (peer_of_accessUpstream hp)]
      split <;> rfl

end Undisturbed

/-- A trace goes on to the upstream of the device, unless it is forced DOWN. -/
theorem nextHop_eq_ok {dev p : DeviceView} :
    nextHop t dev = .ok p ↔
      p.forcedDown = false ∧
        ((routerClass dev.type = true ∧ routerUpstream t dev = .ok p) ∨
          (routerClass dev.type = false ∧ accessUpstream t dev = some p)) := by
  unfold nextHop
  split_ifs with hrouter hnone
  · cases hr : routerUpstream t dev with
    | error reason => simp [hrouter, bind, Except.bind]
    | ok peer =>
      simp only [hrouter, bind, Except.bind]
      split
      · next hdown => grind
      · next hdown => grind
  · simp only [hrouter]
    constructor
    · intro h
      cases h
    · rintro ⟨_, ⟨hclass, _⟩ | ⟨_, hp⟩⟩
      · cases hclass
      · obtain ⟨i, hi, hdev, _⟩ := mem_accessPeers.mp (mem_of_accessUpstream hp)
        simpa [hdev] using List.all_eq_true.mp hnone i hi
  · cases hr : accessUpstream t dev with
    | none => simp [hrouter, bind, Except.bind]
    | some peer =>
      simp only [hrouter, bind, Except.bind]
      split
      · next hdown => grind
      · next hdown => grind

/-- The next hop of a device shares a link with it. -/
theorem peer_of_nextHop {dev p : DeviceView} (hp : nextHop t dev = .ok p) : Peer t dev p := by
  rcases (nextHop_eq_ok.mp hp).2 with ⟨_, hp⟩ | ⟨_, hp⟩
  · exact peer_of_routerUpstream hp
  · exact peer_of_accessUpstream hp

namespace Undisturbed

variable (h : Undisturbed e t X)

include h

private theorem traceStep_apply (fuel : Nat) : ∀ (visited chain : List String) {dev : DeviceView},
    dev ∈ t.devices → X dev.id →
      traceStep (e.apply t) fuel visited chain (e.device dev) =
        traceStep t fuel visited chain dev := by
  induction fuel with
  | zero => intro visited chain dev _ _; rfl
  | succ fuel ih =>
    intro visited chain dev hmem hX
    unfold traceStep
    rw [Edit.device_id, h.device dev hmem hX, Edit.device_type, h.nextHop_apply hX]
    have hvrf : needsVrf (e.device dev) = needsVrf dev := rfl
    rw [hvrf]
    split_ifs
    · rfl
    · rfl
    · rfl
    · rfl
    · cases hp : nextHop t dev with
      | error reason => rfl
      | ok p =>
        have hpeer := peer_of_nextHop hp
        exact ih _ _ hpeer.mem ((h.before _ _ hpeer.adjacent).mp hX)

/-- The trace from a device of the set is as before. -/
theorem traceL3PathToAnchor_apply {dev : DeviceView} (hmem : dev ∈ t.devices) (hX : X dev.id) :
    traceL3PathToAnchor (e.apply t) (e.device dev) = traceL3PathToAnchor t dev := by
  unfold traceL3PathToAnchor
  have hvrf : needsVrf (e.device dev) = needsVrf dev := rfl
  rw [h.device dev hmem hX, hvrf, Edit.device_id, Edit.apply_devices, List.length_map,
    h.traceStep_apply _ _ _ hmem hX]

end Undisturbed

end Unoc.Status
