import Unoc.Subscriber.InterfaceSearch

/-!
# The first pass of subscriber aggregation

What the device loop leaves behind, as a function of where each leaf is anchored: ONTs are counted
at once on their OLT and its PON port, CPEs become candidates of their AON port.
-/

namespace Unoc.Subscriber

open Unoc.Base Unoc.Model

variable {db : Database}

/-! ### The trace ends -/

/-- The interfaces of a device are its rows. -/
theorem mem_interfacesByDevice {deviceId : String} {i : Interface} :
    i ∈ interfacesByDevice db deviceId ↔ i ∈ db.interfaces ∧ i.deviceId = deviceId := by
  simp [interfacesByDevice, sortedInterfaces]

private theorem interfacesByDevice_subset (deviceId : String) :
    (interfacesByDevice db deviceId).map Interface.id ⊆ traceUniverse db := by
  intro id hmem
  obtain ⟨i, hi, rfl⟩ := List.mem_map.mp hmem
  exact List.mem_append_left _ (List.mem_map_of_mem (mem_interfacesByDevice.mp hi).1)

/-- What an interface queues comes from the universe. -/
theorem nextIds_subset (ifaceId : String) (iface : Interface) :
    linkNeighbors db ifaceId ++ siblingIds db iface ⊆ traceUniverse db := by
  apply List.append_subset.mpr
  constructor
  · intro id hmem
    obtain ⟨l, hl, hfar⟩ := List.mem_flatMap.mp (mem_sortedSet.mp hmem)
    apply List.mem_append_right
    apply List.mem_flatMap.mpr
    refine ⟨l, hl, ?_⟩
    unfold linkFarEnds at hfar
    grind
  · intro id hmem
    unfold siblingIds at hmem
    split at hmem
    · cases hmem
    · split at hmem
      · exact interfacesByDevice_subset _ (List.mem_of_mem_filter hmem)
      · cases hmem

/-- The loop of a trace ends: more iterations than `trace_anchor` is given find nothing else. -/
theorem traceAnchor_eq_of_fuel (start : Device) (domain : Domain) {fuel : Nat}
    (hfuel : (traceUniverse db).length ≤ fuel) :
    traceAnchor db start domain =
      traceLoop db domain fuel
        { queue := (interfacesByDevice db start.id).map Interface.id
          visited := (interfacesByDevice db start.id).map Interface.id } := by
  have hnodup : ((interfacesByDevice db start.id).map Interface.id).Nodup := by
    have hsorted : ((sortedInterfaces db).map Interface.id).Nodup :=
      ((List.perm_insertionSort _ db.interfaces).map _).nodup_iff.mpr db.interfaces_nodup
    exact hsorted.sublist (List.filter_sublist.map _)
  unfold traceAnchor
  rw [traceLoop_eq_searchLoop, traceLoop_eq_searchLoop]
  exact searchLoop_of_fuel (fun iface _ _ ↦ nextIds_subset iface.id iface) hnodup
    (interfacesByDevice_subset start.id) hfuel

/-! ### Anchors are interfaces of the right kind of device -/

/-- An anchor of some device type: an interface of a device of that type. -/
def IsPort (db : Database) (type : DeviceType) (k : String × String) : Prop :=
  ∃ device ∈ db.devices, ∃ iface ∈ db.interfaces,
    device.type = type ∧ device.id = k.1 ∧ iface.deviceId = k.1 ∧ iface.id = k.2

/-- The interface of a port determines it. -/
theorem IsPort.eq_of_snd {type type' : DeviceType} {k k' : String × String}
    (h : IsPort db type k) (h' : IsPort db type' k') (hs : k.2 = k'.2) : k = k' := by
  obtain ⟨_, _, i, hi, _, _, hd, hid⟩ := h
  obtain ⟨_, _, i', hi', _, _, hd', hid'⟩ := h'
  have hii : i = i' := List.inj_on_of_nodup_map db.interfaces_nodup hi hi' (by rw [hid, hid', hs])
  apply Prod.ext
  · rw [← hd, ← hd', hii]
  · exact hs

/-- An interface whose rows exist is a port of its device. -/
theorem isPort_of_get {id : String} {iface : Interface} {device : Device}
    (hi : db.getInterface id = some iface) (hd : db.getDevice iface.deviceId = some device) :
    IsPort db device.type (device.id, iface.id) := by
  obtain ⟨himem, _⟩ := Database.getInterface_eq_some.mp hi
  obtain ⟨hdmem, hid⟩ := Database.getDevice_eq_some.mp hd
  exact ⟨device, hdmem, iface, himem, rfl, rfl, hid.symm, rfl⟩

/-- An ONT is anchored at an OLT. -/
theorem anchorAt_olt {device : Device} {iface : Interface} {a : Anchor}
    (h : anchorAt .olt device iface = some a) :
    device.type = .olt ∧ a = ⟨device.id, iface.id, .firstReachableOltPon⟩ := by
  unfold anchorAt at h
  split at h
  · next hc => exact ⟨hc.2.1, (Option.some.inj h).symm⟩
  · simp at h

/-- A traced anchor is an interface of an OLT. -/
theorem isPort_traceAnchor {d : Device} {a : Anchor} (h : traceAnchor db d .olt = some a) :
    IsPort db .olt (a.deviceId, a.interfaceId) := by
  unfold traceAnchor at h
  rw [traceLoop_eq_searchLoop] at h
  obtain ⟨iface, device, _, hi, hd, hfound⟩ :=
    searchLoop_eq_some (P := fun _ ↦ True) (fun _ _ _ _ ↦ trivial) _ (fun _ _ ↦ trivial) h
  have hport := isPort_of_get hi hd
  obtain ⟨htype, rfl⟩ := anchorAt_olt hfound
  rwa [htype] at hport

/-- A direct AON anchor is an interface of an AON switch. -/
theorem isPort_traceDirectAonAnchor {d : Device} {a : Anchor}
    (h : traceDirectAonAnchor db d = some a) :
    IsPort db .aonSwitch (a.deviceId, a.interfaceId) := by
  obtain ⟨peerId, _, hp⟩ := List.exists_of_findSome?_eq_some h
  simp only [directAonPeer, Option.bind_eq_bind, Option.bind_eq_some_iff,
    Option.ite_none_right_eq_some, Option.some.injEq] at hp
  obtain ⟨iface, hi, device, hd, ht, rfl⟩ := hp
  have hport := isPort_of_get hi hd
  rwa [ht] at hport

/-! ### Where a leaf is anchored -/

/-- The PON port that a provisioned ONT counts on. -/
def ontKey (db : Database) (d : Device) : Option (String × String) :=
  if ontTypes d.type = true ∧ d.provisioned = true then
    (traceAnchor db d .olt).map (fun a ↦ (a.deviceId, a.interfaceId))
  else none

/-- The AON port that a provisioned CPE is a candidate for. -/
def cpeKey (db : Database) (d : Device) : Option (String × String) :=
  if cpeTypes d.type = true ∧ d.provisioned = true then
    (traceDirectAonAnchor db d).map (fun a ↦ (a.deviceId, a.interfaceId))
  else none

/-- The port of an ONT is one of an OLT. -/
theorem isPort_ontKey {d : Device} {k : String × String} (h : ontKey db d = some k) :
    IsPort db .olt k := by
  unfold ontKey at h
  split at h
  · obtain ⟨a, ha, rfl⟩ := Option.map_eq_some_iff.mp h
    exact isPort_traceAnchor ha
  · cases h

/-- The port of a CPE is one of an AON switch. -/
theorem isPort_cpeKey {d : Device} {k : String × String} (h : cpeKey db d = some k) :
    IsPort db .aonSwitch k := by
  unfold cpeKey at h
  split at h
  · obtain ⟨a, ha, rfl⟩ := Option.map_eq_some_iff.mp h
    exact isPort_traceDirectAonAnchor ha
  · cases h

/-- The decision that the first pass appends for a device. -/
def initialDecision (db : Database) (d : Device) : Option Decision :=
  if ontTypes d.type = false ∧ cpeTypes d.type = false then none
  else if d.provisioned = false then
    some { subscriberId := d.id, subscriberType := d.type, counted := some false,
           reason := .notProvisioned }
  else if ontTypes d.type then
    match traceAnchor db d .olt with
    | none =>
      some { subscriberId := d.id, subscriberType := d.type, counted := some false,
             domain := some .olt, reason := .noReachableAnchor }
    | some a =>
      some { subscriberId := d.id, subscriberType := d.type, counted := some true,
             domain := some .olt, anchorDeviceId := some a.deviceId,
             anchorInterfaceId := some a.interfaceId, reason := a.reason }
  else
    match traceDirectAonAnchor db d with
    | none =>
      some { subscriberId := d.id, subscriberType := d.type, counted := some false,
             domain := some .aon, reason := .noDirectAonAccessPort }
    | some a =>
      some { subscriberId := d.id, subscriberType := d.type, counted := none,
             domain := some .aon, anchorDeviceId := some a.deviceId,
             anchorInterfaceId := some a.interfaceId, reason := a.reason }

/-- Whether a device is a provisioned leaf, and of which domain. -/
def leafDomain (d : Device) : Option Domain :=
  if d.provisioned = false then none
  else if ontTypes d.type then some .olt
  else if cpeTypes d.type then some .aon
  else none

/-- What the body of the device loop does to one node. -/
def visitNode (db : Database) (n : Node) (d : Device) : Node :=
  let n := match leafDomain d with
    | none => n
    | some domain => if n.id = d.id then leafNode d.id domain n else n
  match ontKey db d with
  | none => n
  | some k => if n.id = k.1 then gainSubscriber d.id .olt n else n

/-! ### The body of the device loop, field by field -/

private theorem cpeTypes_eq_false {type : DeviceType} (h : ontTypes type = true) :
    cpeTypes type = false := by
  cases type <;> simp_all [ontTypes, cpeTypes]

/-- The branches of the device loop: no leaf, a leaf that is not provisioned, an ONT and a CPE. -/
theorem tallyDevice_cases (db : Database) (t : Tally) (d : Device) :
    (ontTypes d.type = false ∧ cpeTypes d.type = false ∧ tallyDevice db t d = t) ∨
      (¬ (ontTypes d.type = false ∧ cpeTypes d.type = false) ∧ d.provisioned = false ∧
        tallyDevice db t d = { t with decisions := t.decisions ++ [{
          subscriberId := d.id, subscriberType := d.type, counted := some false,
          reason := .notProvisioned }] }) ∨
      (ontTypes d.type = true ∧ cpeTypes d.type = false ∧ d.provisioned = true ∧
        tallyDevice db t d =
          tallyOnt db { t with perNode := updateNode t.perNode d.id (leafNode d.id .olt) } d) ∨
      (ontTypes d.type = false ∧ cpeTypes d.type = true ∧ d.provisioned = true ∧
        tallyDevice db t d =
          tallyCpe db { t with perNode := updateNode t.perNode d.id (leafNode d.id .aon) } d) := by
  by_cases hleaf : ontTypes d.type = false ∧ cpeTypes d.type = false
  · exact .inl ⟨hleaf.1, hleaf.2, if_pos hleaf⟩
  · right
    unfold tallyDevice
    rw [if_neg hleaf]
    cases hp : d.provisioned with
    | false => exact .inl ⟨hleaf, rfl, rfl⟩
    | true =>
      right
      cases ho : ontTypes d.type with
      | true => exact .inl ⟨rfl, cpeTypes_eq_false ho, rfl, rfl⟩
      | false =>
        have hc : cpeTypes d.type = true := by simpa [ho] using hleaf
        exact .inr ⟨rfl, hc, rfl, rfl⟩

private theorem tallyDevice_decisions (t : Tally) (d : Device) :
    (tallyDevice db t d).decisions = t.decisions ++ (initialDecision db d).toList := by
  unfold initialDecision
  rcases tallyDevice_cases db t d with ⟨ho, hc, h⟩ | ⟨hleaf, hp, h⟩ | ⟨ho, hc, hp, h⟩ | ⟨ho, hc, hp, h⟩
  · simp [h, ho, hc]
  · simp [h, hleaf, hp]
  · cases ha : traceAnchor db d .olt <;> simp [h, ho, hp, tallyOnt, ha]
  · cases ha : traceDirectAonAnchor db d <;> simp [h, ho, hc, hp, tallyCpe, ha]

private theorem tallyDevice_aonAccessOccupancy (t : Tally) (d : Device) :
    (tallyDevice db t d).aonAccessOccupancy = t.aonAccessOccupancy := by
  rcases tallyDevice_cases db t d with ⟨_, _, h⟩ | ⟨_, _, h⟩ | ⟨_, _, _, h⟩ | ⟨_, _, _, h⟩
  · rw [h]
  · rw [h]
  · cases ha : traceAnchor db d .olt <;> simp [h, tallyOnt, ha]
  · cases ha : traceDirectAonAnchor db d <;> simp [h, tallyCpe, ha]

private theorem tallyDevice_perNode (t : Tally) (d : Device) :
    (tallyDevice db t d).perNode = t.perNode.map (fun n ↦ visitNode db n d) := by
  unfold visitNode leafDomain ontKey
  rcases tallyDevice_cases db t d with ⟨ho, hc, h⟩ | ⟨_, hp, h⟩ | ⟨ho, hc, hp, h⟩ | ⟨ho, hc, hp, h⟩
  · simp [h, ho, hc]
  · simp [h, hp]
  · cases ha : traceAnchor db d .olt <;> simp [h, ho, hp, tallyOnt, ha, updateNode]
  · cases ha : traceDirectAonAnchor db d <;> simp [h, ho, hc, hp, tallyCpe, ha, updateNode]

/-- A field that each iteration updates on its own is updated by the loop on its own. -/
theorem field_foldl_mem {σ α β : Type} (field : σ → β) {step : σ → α → σ} (update : β → α → β)
    (xs : List α) (t : σ) (h : ∀ t, ∀ x ∈ xs, field (step t x) = update (field t) x) :
    field (xs.foldl step t) = xs.foldl update (field t) := by
  induction xs generalizing t with
  | nil => rfl
  | cons x xs ih =>
    rw [List.foldl_cons, ih _ (fun t y hy ↦ h t y (List.mem_cons_of_mem x hy)),
      h t x List.mem_cons_self, List.foldl_cons]

/-- A field of a loop that only depends on itself. -/
theorem field_foldl {σ α β : Type} (field : σ → β) {step : σ → α → σ} (update : β → α → β)
    (h : ∀ t x, field (step t x) = update (field t) x) (xs : List α) (t : σ) :
    field (xs.foldl step t) = xs.foldl update (field t) :=
  field_foldl_mem field update xs t (fun t x _ ↦ h t x)

/-- The sorted devices are the rows. -/
theorem mem_sortedDevices {d : Device} : d ∈ sortedDevices db ↔ d ∈ db.devices := by
  simp [sortedDevices]

/-- The far ends of links are named. -/
theorem ne_empty_of_mem_linkNeighbors {interfaceId id : String}
    (h : id ∈ linkNeighbors db interfaceId) : id ≠ "" := by
  obtain ⟨l, _, hfar⟩ := List.mem_flatMap.mp (mem_sortedSet.mp h)
  unfold linkFarEnds at hfar
  grind

private theorem interfaceId_ne_empty_of_traceDirectAonAnchor {d : Device} {a : Anchor}
    (h : traceDirectAonAnchor db d = some a) : a.interfaceId ≠ "" := by
  obtain ⟨peerId, hpeer, hp⟩ := List.exists_of_findSome?_eq_some h
  obtain ⟨i, _, hmem⟩ := List.mem_flatMap.mp hpeer
  simp only [directAonPeer, Option.bind_eq_bind, Option.bind_eq_some_iff,
    Option.ite_none_right_eq_some, Option.some.injEq] at hp
  obtain ⟨iface, hi, device, _, _, rfl⟩ := hp
  rw [(Database.getInterface_eq_some.mp hi).2]
  exact ne_empty_of_mem_linkNeighbors hmem

/-- A queued id is named, or it is an interface of a device that is no OLT. -/
def QueuedNamed (db : Database) (id : String) : Prop :=
  id ≠ "" ∨ ∀ iface device, db.getInterface id = some iface →
    db.getDevice iface.deviceId = some device → device.type ≠ .olt

private theorem queuedNamed_of_sibling {iface : Interface} {id : String}
    (h : id ∈ siblingIds db iface) :
    QueuedNamed db id := by
  right
  intro i device hi hd
  unfold siblingIds at h
  split at h
  · cases h
  · next owner howner =>
    split at h
    · next hcross =>
      obtain ⟨i', hi', rfl⟩ := List.mem_map.mp (List.mem_of_mem_filter h)
      obtain ⟨hrow, hdevice⟩ := mem_interfacesByDevice.mp hi'
      rw [Database.getInterface_eq_some.mpr ⟨hrow, rfl⟩, Option.some.injEq] at hi
      rw [← hi, hdevice, howner, Option.some.injEq] at hd
      rintro htype
      rw [hd, htype] at hcross
      cases hcross
    · cases h

/-- The PON port that a trace of an ONT finds is named. -/
theorem interfaceId_ne_empty_of_traceAnchor {d : Device} {a : Anchor} (hd : d ∈ db.devices)
    (ht : ontTypes d.type = true) (h : traceAnchor db d .olt = some a) : a.interfaceId ≠ "" := by
  have hstart : ∀ id ∈ (interfacesByDevice db d.id).map Interface.id, QueuedNamed db id := by
    intro id hid
    right
    intro i device hi hdev
    obtain ⟨i', hi', rfl⟩ := List.mem_map.mp hid
    obtain ⟨hrow, hdevice⟩ := mem_interfacesByDevice.mp hi'
    rw [Database.getInterface_eq_some.mpr ⟨hrow, rfl⟩, Option.some.injEq] at hi
    rw [← hi, hdevice, Database.getDevice_eq_some.mpr ⟨hd, rfl⟩,
      Option.some.injEq] at hdev
    rintro htype
    rw [hdev, htype] at ht
    cases ht
  have hnext : ∀ (_ : Device) iface, ∀ id ∈ linkNeighbors db iface.id ++ siblingIds db iface,
      QueuedNamed db id := by
    intro _ iface id hid
    cases List.mem_append.mp hid with
    | inl hid => exact Or.inl (ne_empty_of_mem_linkNeighbors hid)
    | inr hid => exact queuedNamed_of_sibling hid
  unfold traceAnchor at h
  rw [traceLoop_eq_searchLoop] at h
  obtain ⟨iface, device, hnamed, hi, hdev, hfound⟩ := searchLoop_eq_some hnext _ hstart h
  obtain ⟨htype, rfl⟩ := anchorAt_olt hfound
  cases hnamed with
  | inl hne => exact hne
  | inr hno => exact absurd htype (hno iface device hi hdev)

private theorem tallyDevice_ponOccupancy (t : Tally) {d : Device} (hd : d ∈ db.devices) :
    (tallyDevice db t d).ponOccupancy = Dict.count (ontKey db) t.ponOccupancy d := by
  unfold Dict.count Dict.accumulate ontKey
  rcases tallyDevice_cases db t d with ⟨ho, _, h⟩ | ⟨_, hp, h⟩ | ⟨ho, _, hp, h⟩ | ⟨ho, _, _, h⟩
  · simp [h, ho]
  · simp [h, hp]
  · cases ha : traceAnchor db d .olt with
    | none => simp [h, tallyOnt, ha]
    | some a =>
      have hne := interfaceId_ne_empty_of_traceAnchor hd ho ha
      simp [h, tallyOnt, ha, hne, ho, hp, increment]
  · cases ha : traceDirectAonAnchor db d <;> simp [h, tallyCpe, ha, ho]

private theorem tallyDevice_aonPortCandidates (t : Tally) (d : Device) :
    (tallyDevice db t d).aonPortCandidates =
      Dict.collect (cpeKey db) Device.id t.aonPortCandidates d := by
  unfold Dict.collect Dict.accumulate cpeKey
  rcases tallyDevice_cases db t d with ⟨_, hc, h⟩ | ⟨_, hp, h⟩ | ⟨_, hc, _, h⟩ | ⟨_, hc, hp, h⟩
  · simp [h, hc]
  · simp [h, hp]
  · cases ha : traceAnchor db d .olt <;> simp [h, tallyOnt, ha, hc]
  · cases ha : traceDirectAonAnchor db d with
    | none => simp [h, tallyCpe, ha]
    | some a =>
      have hne := interfaceId_ne_empty_of_traceDirectAonAnchor ha
      simp [h, tallyCpe, ha, hne, hc, hp, appendCandidate]

/-! ### The device loop -/

/-- The first pass counts the ONTs of each port. -/
theorem firstPass_ponOccupancy :
    (firstPass db).ponOccupancy = (sortedDevices db).foldl (Dict.count (ontKey db)) ∅ :=
  field_foldl_mem Tally.ponOccupancy _ _ _
    (fun t _ hd ↦ tallyDevice_ponOccupancy t (mem_sortedDevices.mp hd))

/-- The first pass collects the CPEs of each port. -/
theorem firstPass_aonPortCandidates :
    (firstPass db).aonPortCandidates =
      (sortedDevices db).foldl (Dict.collect (cpeKey db) Device.id) ∅ :=
  field_foldl Tally.aonPortCandidates _ tallyDevice_aonPortCandidates _ _

/-- A loop that appends optional elements filters them. -/
theorem foldl_append_toList {α β : Type} (f : α → Option β) (xs : List α) (ys : List β) :
    xs.foldl (fun ys x ↦ ys ++ (f x).toList) ys = ys ++ xs.filterMap f := by
  induction xs generalizing ys with
  | nil => simp
  | cons x xs ih =>
    rw [List.foldl_cons, ih, List.filterMap_cons]
    cases f x <;> simp

/-- The first pass decides on every leaf, in order. -/
theorem firstPass_decisions :
    (firstPass db).decisions = (sortedDevices db).filterMap (initialDecision db) := by
  unfold firstPass
  rw [field_foldl Tally.decisions (fun ds d ↦ ds ++ (initialDecision db d).toList)
    tallyDevice_decisions, foldl_append_toList]
  simp

/-- The first pass counts no CPE. -/
theorem firstPass_aonAccessOccupancy : (firstPass db).aonAccessOccupancy = ∅ := by
  unfold firstPass
  rw [field_foldl Tally.aonAccessOccupancy (fun m _ ↦ m) tallyDevice_aonAccessOccupancy]
  exact List.foldl_fixed' (fun _ ↦ rfl) _

/-- A loop that maps every element maps each element through the loop. -/
theorem foldl_map_eq_map_foldl {α β : Type} (f : β → α → β) (xs : List α) (ys : List β) :
    xs.foldl (fun ys x ↦ ys.map (fun y ↦ f y x)) ys = ys.map (fun y ↦ xs.foldl f y) := by
  induction xs generalizing ys with
  | nil => simp
  | cons x xs ih => rw [List.foldl_cons, ih, List.map_map]; rfl

/-- The first pass visits each node with every device. -/
theorem firstPass_perNode :
    (firstPass db).perNode =
      (initialNodes db).map (fun n ↦ (sortedDevices db).foldl (visitNode db) n) := by
  unfold firstPass
  rw [field_foldl Tally.perNode (fun ns d ↦ ns.map (fun n ↦ visitNode db n d))
    tallyDevice_perNode, foldl_map_eq_map_foldl]

/-! ### The nodes of anchors -/

/-- A node that lists the given subscribers, in some order, in a domain. -/
structure Lists (domain : Domain) (ids : List String) (n : Node) : Prop where
  subscriberIds : n.subscriberIds.Perm ids
  subscribers : n.subscribers = ids.length
  subscriberDomain : n.subscriberDomain = if ids = [] then none else some domain

/-- Sorting keeps the ids. -/
theorem perm_sortIds (ids : List String) : (sortIds ids).Perm ids := List.perm_insertionSort _ _

private theorem Lists.gainSubscriber {domain : Domain} {ids : List String} {n : Node} {id : String}
    (h : Lists domain ids n) (hnew : id ∉ ids) :
    Lists domain (ids ++ [id]) (gainSubscriber id domain n) := by
  have hn : id ∉ n.subscriberIds := fun hmem ↦ hnew (h.subscriberIds.mem_iff.mp hmem)
  have hperm : (sortIds (n.subscriberIds ++ [id])).Perm (ids ++ [id]) :=
    (perm_sortIds _).trans (h.subscriberIds.append_right [id])
  unfold Subscriber.gainSubscriber
  rw [if_neg hn]
  exact ⟨hperm, hperm.length_eq, by simp⟩

/-- A visit keeps the id of a node. -/
@[simp]
theorem visitNode_id (n : Node) (d : Device) : (visitNode db n d).id = n.id := by
  unfold visitNode leafNode gainSubscriber
  grind

/-- A visit keeps the type of a node. -/
@[simp]
theorem visitNode_type (n : Node) (d : Device) : (visitNode db n d).type = n.type := by
  unfold visitNode leafNode gainSubscriber
  grind

/-- A node of a device that is not a leaf only changes when it gains a subscriber. -/
theorem visitNode_of_not_leaf {n : Node} {d e : Device} (hd : d ∈ db.devices)
    (he : e ∈ db.devices) (hne : n.id = e.id) (ho : ontTypes e.type = false)
    (hc : cpeTypes e.type = false) :
    visitNode db n d =
      if (ontKey db d).map Prod.fst = some n.id then gainSubscriber d.id .olt n else n := by
  have hleaf : leafDomain d = none ∨ n.id ≠ d.id := by
    by_cases h : n.id = d.id
    · have hde : d = e := List.inj_on_of_nodup_map db.devices_nodup hd he (by rw [← h, hne])
      left
      simp [leafDomain, hde, ho, hc]
    · exact Or.inr h
  have hfirst : (match leafDomain d with
      | none => n
      | some domain => if n.id = d.id then leafNode d.id domain n else n) = n := by
    rcases hleaf with h | h
    · simp [h]
    · cases leafDomain d <;> simp [h]
  unfold visitNode
  rw [hfirst]
  cases hk : ontKey db d with
  | none => simp
  | some k =>
    by_cases h : n.id = k.1
    · simp [h]
    · simp [h, Ne.symm h]

/-- The ids of the devices that count on an anchor. -/
def idsOn (key : Device → Option (String × String)) (anchorId : String) (ds : List Device) :
    List String :=
  (ds.filter (fun d ↦ (key d).map Prod.fst = some anchorId)).map Device.id

private theorem foldl_visitNode_olt {e : Device} (he : e ∈ db.devices) (ht : e.type = .olt)
    (ds before : List Device) (hmem : ∀ d ∈ ds, d ∈ db.devices)
    (hnd : ((before ++ ds).map Device.id).Nodup) (n : Node) (hne : n.id = e.id)
    (h : Lists .olt (idsOn (ontKey db) e.id before) n) :
    Lists .olt (idsOn (ontKey db) e.id (before ++ ds)) (ds.foldl (visitNode db) n) := by
  induction ds generalizing before n with
  | nil => simpa using h
  | cons d ds ih =>
    have hd := hmem d List.mem_cons_self
    have hassoc : before ++ d :: ds = (before ++ [d]) ++ ds := by simp
    rw [hassoc] at hnd ⊢
    apply ih (before ++ [d]) (fun x hx ↦ hmem x (List.mem_cons_of_mem d hx)) hnd _
      (by simpa using hne)
    rw [visitNode_of_not_leaf hd he hne (by rw [ht]; rfl) (by rw [ht]; rfl), hne]
    by_cases hk : (ontKey db d).map Prod.fst = some e.id
    · have hnew : d.id ∉ idsOn (ontKey db) e.id before := by
        have hdis : d.id ∉ before.map Device.id := by
          rw [List.map_append, List.map_append] at hnd
          have hleft := (List.nodup_append.mp hnd).1
          intro hin
          exact (List.nodup_append.mp hleft).2.2 d.id hin d.id (by simp) rfl
        intro hin
        apply hdis
        obtain ⟨x, hx, hxd⟩ := List.mem_map.mp hin
        exact List.mem_map.mpr ⟨x, List.mem_of_mem_filter hx, hxd⟩
      have hgain := h.gainSubscriber hnew
      simpa [hk, idsOn] using hgain
    · simpa [hk, idsOn] using h

/-- No two sorted devices have one id. -/
theorem nodup_sortedDevices : ((sortedDevices db).map Device.id).Nodup :=
  ((List.perm_insertionSort _ db.devices).map _).nodup_iff.mpr db.devices_nodup

/-- After the device loop the node of an OLT lists the ONTs that are anchored on it. -/
theorem lists_olt {e : Device} (he : e ∈ db.devices) (ht : e.type = .olt) :
    Lists .olt (idsOn (ontKey db) e.id (sortedDevices db))
      ((sortedDevices db).foldl (visitNode db) { id := e.id, type := e.type }) := by
  have h := foldl_visitNode_olt he ht (sortedDevices db) [] (fun d ↦ mem_sortedDevices.mp)
    (by simpa using nodup_sortedDevices) { id := e.id, type := e.type } rfl
    ⟨List.Perm.refl _, rfl, rfl⟩
  simpa using h

/-- The device loop leaves the node of an AON switch alone. -/
theorem foldl_visitNode_aonSwitch {e : Device} (he : e ∈ db.devices) (ht : e.type = .aonSwitch)
    (ds : List Device) (hmem : ∀ d ∈ ds, d ∈ db.devices) (n : Node) (hne : n.id = e.id) :
    ds.foldl (visitNode db) n = n := by
  induction ds with
  | nil => rfl
  | cons d ds ih =>
    have hd := hmem d List.mem_cons_self
    have hstay : visitNode db n d = n := by
      rw [visitNode_of_not_leaf hd he hne (by rw [ht]; rfl) (by rw [ht]; rfl), if_neg]
      intro hk
      obtain ⟨k, hk, hkn⟩ := Option.map_eq_some_iff.mp hk
      obtain ⟨o, ho, _, _, hot, hok, _⟩ := isPort_ontKey hk
      have hoe : o = e := List.inj_on_of_nodup_map db.devices_nodup ho he (by rw [hok, hkn, hne])
      rw [hoe, ht] at hot
      cases hot
    rw [List.foldl_cons, hstay]
    exact ih (fun x hx ↦ hmem x (List.mem_cons_of_mem d hx))

end Unoc.Subscriber
