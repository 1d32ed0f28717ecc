import Unoc.Links.Create

/-!
# Accepted requests

What a call of `create_link_impl` that succeeds has checked, and what it leaves in the tables: default
interfaces at the end of the interface table, canonical media, and one link.
-/

namespace Unoc.Links

open Unoc.Model

variable {db db' : Database} {store store' : Store} {s s' : Session} {env : Runtime} {p : LinkCreate}

/-! ### Rows that are kept -/

/-- The device rows are kept, and interfaces named `if0` are added. -/
structure Grows (db db' : Database) : Prop where
  devices : db'.devices = db.devices
  interfaces : ∃ new, db'.interfaces = db.interfaces ++ new ∧ ∀ i ∈ new, i.name = "if0"

namespace Grows

private theorem refl (db : Database) : Grows db db := ⟨rfl, [], (List.append_nil _).symm, by simp⟩

/-- Database states that grow in two steps. -/
theorem trans {db'' : Database} (h : Grows db db') (h' : Grows db' db'') : Grows db db'' := by
  obtain ⟨new, hnew, hname⟩ := h.interfaces
  obtain ⟨new', hnew', hname'⟩ := h'.interfaces
  refine ⟨h'.devices.trans h.devices, new ++ new', by rw [hnew', hnew, List.append_assoc], ?_⟩
  intro i hi
  rcases List.mem_append.mp hi with hi | hi
  · exact hname i hi
  · exact hname' i hi

/-- A database state that grows keeps its devices. -/
theorem getDevice (h : Grows db db') (id : String) : db'.getDevice id = db.getDevice id := by
  rw [Database.getDevice, Database.getDevice, h.devices]

/-- A database state that grows keeps the types of its devices. -/
theorem dtype_eq (h : Grows db db') (id : String) : dtype db' id = dtype db id := by
  rw [dtype, dtype, h.getDevice]

/-- A database state that grows keeps its interfaces. -/
theorem getInterface (h : Grows db db') {id : String} {i : Interface}
    (hi : db.getInterface id = some i) : db'.getInterface id = some i := by
  obtain ⟨new, hnew, _⟩ := h.interfaces
  obtain ⟨hmem, rfl⟩ := Database.getInterface_eq_some.mp hi
  exact Database.getInterface_eq_some.mpr ⟨by rw [hnew]; exact List.mem_append_left _ hmem, rfl⟩

/-- A database state that grows keeps the ends of a link. -/
theorem linkDeviceIds_eq (h : Grows db db') {l : Link} {ends : String × String}
    (hl : linkDeviceIds db l = some ends) : linkDeviceIds db' l = some ends := by
  simp only [linkDeviceIds, Option.bind_eq_bind, Option.bind_eq_some_iff] at hl ⊢
  obtain ⟨ia, ha, ib, hb, hends⟩ := hl
  exact ⟨ia, h.getInterface ha, ib, h.getInterface hb, hends⟩

end Grows

/-! ### Default interfaces -/

/-- The outcome of `ensure_default_interface` in a session that is not lost. -/
structure Opens (db db' : Database) (interfaceId : String) (i : Interface) : Prop where
  grows : Grows db db'
  links : db'.links = db.links
  media : db'.physicalMedia = db.physicalMedia
  found : db'.getInterface interfaceId = some i
  others : ∀ id ≠ interfaceId, db'.getInterface id = db.getInterface id
  /-- An existing row, or the row of a device without one. -/
  row : db.getInterface interfaceId = some i ∨
    db.getInterface interfaceId = none ∧ i.deviceId = deriveDev interfaceId ∧
      isDefault interfaceId = true ∧ i.name = "if0" ∧ i ∈ db'.interfaces

/-- The two ways in which `ensure_default_interface` returns an interface. -/
theorem ensureDefaultInterface_ok {interfaceId : String} {i : Interface}
    (h : ensureDefaultInterface interfaceId s = (.ok (some i), s')) :
    s.lost = false ∧ ((s' = s ∧ s.rows.db.getInterface interfaceId = some i) ∨
      (s.rows.db.getInterface interfaceId = none ∧ isDefault interfaceId = true ∧
        ∃ dev, s.rows.db.getDevice (deriveDev interfaceId) = some dev ∧
          i = ⟨interfaceId, dev.id, "if0", none, .up, none, none, none⟩ ∧
          Tx.add (insertInterface i) s = (.ok (), s'))) := by
  unfold ensureDefaultInterface at h
  obtain ⟨hlost, found, hfound, h⟩ := Tx.query_bind_eq_ok.mp h
  refine ⟨hlost, ?_⟩
  rw [Except.ok.injEq] at hfound
  cases found with
  | some iface =>
    obtain ⟨hi, rfl⟩ := Tx.pure_eq_ok.mp h
    exact Or.inl ⟨rfl, hfound.trans hi⟩
  | none =>
    refine Or.inr ⟨hfound, ?_⟩
    by_cases hdefault : isDefault interfaceId = true
    · simp only [hdefault, if_true] at h
      obtain ⟨_, dev, hdev, h⟩ := Tx.query_bind_eq_ok.mp h
      rw [Except.ok.injEq] at hdev
      cases dev with
      | none => exact absurd (Tx.pure_eq_ok.mp h).1 (by simp)
      | some dev =>
        obtain ⟨u, m, hadd, h⟩ := Tx.bind_eq_ok.mp h
        obtain ⟨hi, rfl⟩ := Tx.pure_eq_ok.mp h
        rw [Option.some.injEq] at hi
        exact ⟨hdefault, dev, hdev, hi.symm, hi ▸ hadd⟩
    · simp only [hdefault, Bool.false_eq_true, if_false] at h
      exact absurd (Tx.pure_eq_ok.mp h).1 (by simp)

/-- An interface that is ensured is opened. -/
theorem ensureDefaultInterface_opens {interfaceId : String} {i : Interface}
    (h : ensureDefaultInterface interfaceId s = (.ok (some i), s')) (hlost : s'.lost = false) :
    Opens s.rows.db s'.rows.db interfaceId i := by
  obtain ⟨_, ⟨rfl, hi⟩ | ⟨hnone, hdefault, dev, hdev, rfl, hadd⟩⟩ := ensureDefaultInterface_ok h
  · exact ⟨.refl _, rfl, rfl, hi, fun _ _ ↦ rfl, Or.inl hi⟩
  · obtain ⟨hinsert, _⟩ := Tx.add_eq_ok hadd hlost
    obtain ⟨hdevices, hinterfaces, hlinks, hmedia, _⟩ := insertInterface_eq_some hinsert
    have hmem : (⟨interfaceId, dev.id, "if0", none, .up, none, none, none⟩ : Interface) ∈
        s'.rows.db.interfaces := by
      rw [hinterfaces]
      exact List.mem_append_right _ (List.mem_singleton_self _)
    refine ⟨⟨hdevices, _, hinterfaces, by simp⟩, hlinks, hmedia,
      Database.getInterface_eq_some.mpr ⟨hmem, rfl⟩, ?_, Or.inr ⟨hnone, ?_, hdefault, rfl, hmem⟩⟩
    · intro id hne
      simp only [Database.getInterface, hinterfaces, List.find?_append]
      simp [Ne.symm hne]
    · exact (Database.getDevice_eq_some.mp hdev).2

/-- The interface belongs to the device that its id was resolved to. -/
theorem Opens.deviceId {interfaceId : String} {i : Interface} {dev : Device}
    (h : Opens db db' interfaceId i) (hdev : deviceFor db interfaceId = some dev) :
    i.deviceId = dev.id := by
  obtain ⟨id, hid, hget⟩ := Option.bind_eq_some_iff.mp hdev
  have hid' : devFromIfaceId db interfaceId = some id := (Option.filter_eq_some_iff.mp hid).1
  have hdevid : dev.id = id := (Database.getDevice_eq_some.mp hget).2
  rw [hdevid]
  unfold devFromIfaceId at hid'
  rcases h.row with hi | ⟨hnone, hdevice, hdefault, _, _⟩
  · rw [hi] at hid'
    exact Option.some.inj hid'
  · simp only [hnone, hdefault, if_true, Option.some.injEq] at hid'
    rw [hdevice, hid']

/-- A device that an interface id resolves to has an id. -/
theorem deviceFor_eq_some {interfaceId : String} {dev : Device}
    (h : deviceFor db interfaceId = some dev) : db.getDevice dev.id = some dev ∧ dev.id ≠ "" := by
  obtain ⟨id, hid, hget⟩ := Option.bind_eq_some_iff.mp h
  have hdevid : dev.id = id := (Database.getDevice_eq_some.mp hget).2
  have hne : id ≠ "" := by simpa using (Option.filter_eq_some_iff.mp hid).2
  rw [hdevid]
  exact ⟨hget, hne⟩

/-- The device of an interface only depends on its row and the devices. -/
theorem deviceFor_congr {interfaceId : String} (hgrows : Grows db db')
    (h : db'.getInterface interfaceId = db.getInterface interfaceId) :
    deviceFor db' interfaceId = deviceFor db interfaceId := by
  have hget : db'.getDevice = db.getDevice := funext hgrows.getDevice
  simp only [deviceFor, devFromIfaceId, h, hget]

/-- Opening an interface changes no device that an interface id resolves to. -/
theorem Opens.deviceFor_eq {interfaceId : String} {i : Interface} (h : Opens db db' interfaceId i)
    (id : String) : deviceFor db' id = deviceFor db id := by
  by_cases hid : id = interfaceId
  · subst hid
    rcases h.row with hi | ⟨hnone, hdevice, hdefault, _, _⟩
    · exact deviceFor_congr h.grows (h.found.trans hi.symm)
    · have hget : db'.getDevice = db.getDevice := funext h.grows.getDevice
      simp only [deviceFor, devFromIfaceId, h.found, hnone, hdefault, if_true, hdevice, hget]
  · exact deviceFor_congr h.grows (h.others id hid)

/-! ### One link -/

/-- One end of an accepted request: the device, and the interface that it has before the link is
added. -/
structure End (db mid : Database) (interfaceId : String) (dev : Device) (i : Interface) : Prop where
  device : deviceFor db interfaceId = some dev
  found : mid.getInterface interfaceId = some i
  deviceId : i.deviceId = dev.id
  row : db.getInterface interfaceId = some i ∨ db.getInterface interfaceId = none ∧ i.name = "if0"

/-- Both interfaces of a link are opened, one after the other. -/
theorem openInterfaces_opens {detail : String} {aIf bIf : Interface}
    (h : openInterfaces p detail s = (.ok (aIf, bIf), s')) (hlost : s'.lost = false) :
    ∃ mid, Opens s.rows.db mid p.aInterfaceId aIf ∧ Opens mid s'.rows.db p.bInterfaceId bIf := by
  unfold openInterfaces at h
  obtain ⟨found, m, hopen, h⟩ := Tx.bind_eq_ok.mp h
  obtain ⟨found', m', hopen', h⟩ := Tx.bind_eq_ok.mp h
  cases found with
  | none => exact absurd (Tx.check_eq_ok.mp h).1 (by simp)
  | some aIf' =>
    cases found' with
    | none => exact absurd (Tx.check_eq_ok.mp h).1 (by simp)
    | some bIf' =>
      obtain ⟨_, _, h⟩ := Tx.check_bind_eq_ok.mp h
      obtain ⟨heq, rfl⟩ := Tx.pure_eq_ok.mp h
      obtain ⟨rfl, rfl⟩ := Prod.mk.inj heq
      have hmid : m.lost = false := (ensureDefaultInterface_ok hopen').1
      exact ⟨m.rows.db, ensureDefaultInterface_opens hopen hmid,
        ensureDefaultInterface_opens hopen' hlost⟩

/-- What opening two interfaces of known devices leaves behind. -/
theorem openInterfaces_ok {detail : String} {aDev bDev : Device} {aIf bIf : Interface}
    (h : openInterfaces p detail s = (.ok (aIf, bIf), s')) (hlost : s'.lost = false)
    (hne : p.aInterfaceId ≠ p.bInterfaceId) (ha : deviceFor s.rows.db p.aInterfaceId = some aDev)
    (hb : deviceFor s.rows.db p.bInterfaceId = some bDev) :
    Grows s.rows.db s'.rows.db ∧ s'.rows.db.links = s.rows.db.links ∧
      s'.rows.db.physicalMedia = s.rows.db.physicalMedia ∧
      End s.rows.db s'.rows.db p.aInterfaceId aDev aIf ∧
      End s.rows.db s'.rows.db p.bInterfaceId bDev bIf := by
  obtain ⟨mid, hopens, hopens'⟩ := openInterfaces_opens h hlost
  have hsame := hopens.others p.bInterfaceId hne.symm
  refine ⟨hopens.grows.trans hopens'.grows, hopens'.links.trans hopens.links,
    hopens'.media.trans hopens.media, ⟨ha, ?_, hopens.deviceId ha, ?_⟩,
    ⟨hb, hopens'.found, hopens'.deviceId (by rw [hopens.deviceFor_eq, hb]), ?_⟩⟩
  · rw [hopens'.others _ hne, hopens.found]
  · exact hopens.row.imp id (fun hrow ↦ ⟨hrow.1, hrow.2.2.2.1⟩)
  · rw [← hsame]
    exact hopens'.row.imp id (fun hrow ↦ ⟨hrow.1, hrow.2.2.2.1⟩)

/-- The default medium only touches the table of media. -/
theorem pickDefaultPhysicalMediumId_ok {aDev bDev : Device} {r : Option Int}
    (h : pickDefaultPhysicalMediumId env p aDev bDev s = (.ok r, s')) :
    s' = { s with rows := ensurePhysicalMedia s.rows } := by
  unfold pickDefaultPhysicalMediumId at h
  obtain ⟨_, _, _, h⟩ := Tx.query_bind_eq_ok.mp h
  obtain ⟨u', m, hadd, h⟩ := Tx.bind_eq_ok.mp h
  obtain ⟨_, _, rfl⟩ := Tx.query_eq_ok.mp h
  exact (Prod.mk.inj hadd).2.symm

/-- Choosing a medium changes no device, interface or link. -/
theorem selectMedium_ok {aDev bDev : Device} {r : Option Int}
    (h : selectMedium env p aDev bDev s = (.ok r, s')) :
    s'.lost = s.lost ∧ s'.rows.db.devices = s.rows.db.devices ∧
      s'.rows.db.interfaces = s.rows.db.interfaces ∧ s'.rows.db.links = s.rows.db.links := by
  unfold selectMedium at h
  split at h
  · rw [pickDefaultPhysicalMediumId_ok h]
    exact ⟨rfl, rfl, rfl, rfl⟩
  · obtain ⟨_, rfl⟩ := Tx.pure_eq_ok.mp h
    exact ⟨rfl, rfl, rfl, rfl⟩

/-- An event changes no row. -/
theorem appendDomainEvent_db {eventType entityId : String} {payload : EventStore.Payload}
    (h : appendDomainEvent env eventType entityId payload store = some store') :
    store'.db = store.db := by
  obtain ⟨r, _, rfl⟩ := Option.map_eq_some_iff.mp h
  rfl

/-- The last part of a request: its checks, its link, and the session with its rows. -/
theorem finishLink_eq_ok {d : Details} {aDev bDev : Device} {aIf bIf : Interface} {l : Link} :
    finishLink d env p aDev bDev aIf bIf s = (.ok l, s') ↔
      s.lost = false ∧ enforcePonRoleIfDeclared s.rows.db aDev bDev aIf bIf = .ok () ∧
        enforceSingleUpstreamRules s.rows.db aDev bDev = .ok () ∧ ∃ selected m,
          selectMedium env p aDev bDev s = (.ok selected, m) ∧
          checkMedium d p (classify aDev.type bDev.type) selected m.rows.db = .ok () ∧
          l = linkRow p (classify aDev.type bDev.type) selected
            (derivedLength env p selected m.rows.db) ∧
          s' = (Tx.add (insertLink l) (Tx.add (appendDomainEvent env "LINK_CREATED" l.id
            (linkCreatedPayload (classify aDev.type bDev.type) l)) m).2).2 := by
  constructor
  · intro h
    obtain ⟨hlost, _, hpon, h⟩ := Tx.query_bind_eq_ok.mp h
    obtain ⟨_, _, hupstream, h⟩ := Tx.query_bind_eq_ok.mp h
    obtain ⟨selected, m, hselect, h⟩ := Tx.bind_eq_ok.mp h
    obtain ⟨_, _, hmedium, h⟩ := Tx.query_bind_eq_ok.mp h
    obtain ⟨_, _, ⟨⟩, h⟩ := Tx.query_bind_eq_ok.mp h
    rw [Tx.bind_of_ok (Tx.add_eq _ m), Tx.bind_of_ok (Tx.add_eq _ _)] at h
    obtain ⟨rfl, rfl⟩ := Tx.pure_eq_ok.mp h
    exact ⟨hlost, hpon, hupstream, selected, m, hselect, hmedium, rfl, rfl⟩
  · rintro ⟨hlost, hpon, hupstream, selected, m, hselect, hmedium, rfl, rfl⟩
    have hmid : m.lost = false := (selectMedium_ok hselect).1.trans hlost
    refine Tx.query_bind_eq_ok.mpr ⟨hlost, (), hpon, ?_⟩
    refine Tx.query_bind_eq_ok.mpr ⟨hlost, (), hupstream, ?_⟩
    refine Tx.bind_eq_ok.mpr ⟨selected, m, hselect, ?_⟩
    refine Tx.query_bind_eq_ok.mpr ⟨hmid, (), hmedium, ?_⟩
    refine Tx.query_bind_eq_ok.mpr ⟨hmid, _, rfl, ?_⟩
    rw [Tx.bind_of_ok (Tx.add_eq _ m), Tx.bind_of_ok (Tx.add_eq _ _)]
    rfl

/-- The last part of a request adds one link. -/
theorem finishLink_ok {d : Details} {aDev bDev : Device} {aIf bIf : Interface} {l : Link}
    (h : finishLink d env p aDev bDev aIf bIf s = (.ok l, s')) (hlost : s'.lost = false) :
    s.lost = false ∧ enforceSingleUpstreamRules s.rows.db aDev bDev = .ok () ∧
      (∃ selected lengthKm, l = linkRow p (classify aDev.type bDev.type) selected lengthKm) ∧
      s'.rows.db.devices = s.rows.db.devices ∧ s'.rows.db.interfaces = s.rows.db.interfaces ∧
      s'.rows.db.links = s.rows.db.links ++ [l] := by
  obtain ⟨hs, _, hupstream, selected, m, hselect, _, hl, hsession⟩ := finishLink_eq_ok.mp h
  obtain ⟨_, hdevices, hinterfaces, hlinks⟩ := selectMedium_ok hselect
  rw [hsession] at hlost
  obtain ⟨hinsert, hlost'⟩ := Tx.add_eq_ok (Tx.add_eq _ _) hlost
  obtain ⟨happend, _⟩ := Tx.add_eq_ok (Tx.add_eq _ _) hlost'
  rw [← hsession] at hinsert
  have hdb := appendDomainEvent_db happend
  obtain ⟨hdevices', hinterfaces', hlinks'⟩ := insertLink_eq_some hinsert
  rw [hdb] at hdevices' hinterfaces' hlinks'
  refine ⟨hs, hupstream, ⟨selected, _, hl⟩, hdevices'.trans hdevices,
    hinterfaces'.trans hinterfaces, ?_⟩
  rw [hlinks', hlinks]

/-! ### The whole call -/

/-- What an accepted request has checked, and its link; `mid` is the database with the interfaces of
the link and without the link. -/
structure Accepted (p : LinkCreate) (db mid db' : Database) (aDev bDev : Device)
    (aIf bIf : Interface) (l : Link) : Prop where
  endpoints : p.aInterfaceId ≠ p.bInterfaceId
  pairing : checkPairing createDetails p aDev bDev db = .ok ()
  grows : Grows db mid
  midLinks : mid.links = db.links
  aEnd : End db mid p.aInterfaceId aDev aIf
  bEnd : End db mid p.bInterfaceId bDev bIf
  upstream : enforceSingleUpstreamRules mid aDev bDev = .ok ()
  devices : db'.devices = mid.devices
  interfaces : db'.interfaces = mid.interfaces
  links : db'.links = mid.links ++ [l]
  aId : l.aInterfaceId = (canonicalLinkId p.aInterfaceId p.bInterfaceId).aId
  bId : l.bInterfaceId = (canonicalLinkId p.aInterfaceId p.bInterfaceId).bId

/-- Both devices of a request are found. -/
theorem resolveDevices_eq_ok {detail : String} {aDev bDev : Device} :
    resolveDevices p detail db = .ok (aDev, bDev) ↔
      deviceFor db p.aInterfaceId = some aDev ∧ deviceFor db p.bInterfaceId = some bDev := by
  unfold resolveDevices
  cases deviceFor db p.aInterfaceId <;> cases deviceFor db p.bInterfaceId <;> simp

private theorem checkCanonicalId_eq_ok {u : Unit} :
    checkCanonicalId p s = (.ok u, s') ↔ hasCanonicalId p = true ∧ s = s' := by
  unfold checkCanonicalId
  split
  · next h => simp [Tx.pure_eq_ok, h]
  · next h => simp [Tx.bind_eq_ok, Tx.check_eq_ok, h]

/-- The checks that a request passes before its last part. -/
theorem createLink_eq_ok {l : Link} : createLink env p s = (.ok l, s') ↔
    s.lost = false ∧ checkEndpointsDiffer p = .ok () ∧ checkIdFree p s.rows.db = .ok () ∧
      ∃ aDev bDev, deviceFor s.rows.db p.aInterfaceId = some aDev ∧
        deviceFor s.rows.db p.bInterfaceId = some bDev ∧
        checkPairing createDetails p aDev bDev s.rows.db = .ok () ∧ ∃ aIf bIf m,
          openInterfaces p createDetails.interfaceNotFound s = (.ok (aIf, bIf), m) ∧
          m.lost = false ∧ hasCanonicalId p = true ∧ checkLength p = .ok () ∧
          checkMediumExists p m.rows.db = .ok () ∧
          finishLink createDetails env p aDev bDev aIf bIf m = (.ok l, s') := by
  constructor
  · intro h
    obtain ⟨_, hdiffer, h⟩ := Tx.check_bind_eq_ok.mp h
    obtain ⟨hlost, _, hfree, h⟩ := Tx.query_bind_eq_ok.mp h
    obtain ⟨_, ⟨aDev, bDev⟩, hresolve, h⟩ := Tx.query_bind_eq_ok.mp h
    obtain ⟨ha, hb⟩ := resolveDevices_eq_ok.mp hresolve
    obtain ⟨_, _, hpairing, h⟩ := Tx.query_bind_eq_ok.mp h
    obtain ⟨⟨aIf, bIf⟩, m, hopen, h⟩ := Tx.bind_eq_ok.mp h
    obtain ⟨_, m', hid, h⟩ := Tx.bind_eq_ok.mp h
    obtain ⟨hcanonical, rfl⟩ := checkCanonicalId_eq_ok.mp hid
    obtain ⟨_, hlength, h⟩ := Tx.check_bind_eq_ok.mp h
    obtain ⟨hmid, _, hmedium, h⟩ := Tx.query_bind_eq_ok.mp h
    exact ⟨hlost, hdiffer, hfree, aDev, bDev, ha, hb, hpairing, aIf, bIf, m, hopen, hmid, hcanonical,
      hlength, hmedium, h⟩
  · rintro ⟨hlost, hdiffer, hfree, aDev, bDev, ha, hb, hpairing, aIf, bIf, m, hopen, hmid,
      hcanonical, hlength, hmedium, h⟩
    refine Tx.check_bind_eq_ok.mpr ⟨(), hdiffer, ?_⟩
    refine Tx.query_bind_eq_ok.mpr ⟨hlost, (), hfree, ?_⟩
    refine Tx.query_bind_eq_ok.mpr ⟨hlost, (aDev, bDev), resolveDevices_eq_ok.mpr ⟨ha, hb⟩, ?_⟩
    refine Tx.query_bind_eq_ok.mpr ⟨hlost, (), hpairing, ?_⟩
    refine Tx.bind_eq_ok.mpr ⟨(aIf, bIf), m, hopen, ?_⟩
    refine Tx.bind_eq_ok.mpr ⟨(), m, checkCanonicalId_eq_ok.mpr ⟨hcanonical, rfl⟩, ?_⟩
    refine Tx.check_bind_eq_ok.mpr ⟨(), hlength, ?_⟩
    exact Tx.query_bind_eq_ok.mpr ⟨hmid, (), hmedium, h⟩

/-- A call succeeds if its statements do and the commit finds no broken constraint. -/
theorem createLinkImpl_eq_ok : createLinkImpl env store p = .ok store' ↔
    ∃ l, createLink env p ⟨store, false⟩ = (.ok l, ⟨store', false⟩) := by
  unfold createLinkImpl
  rcases hrun : createLink env p ⟨store, false⟩ with ⟨e | l, s⟩
  · simp
  · obtain ⟨rows, lost⟩ := s
    cases lost <;> simp

/-- A created link was accepted. -/
theorem createLinkImpl_ok (h : createLinkImpl env store p = .ok store') :
    ∃ mid aDev bDev aIf bIf l, Accepted p store.db mid store'.db aDev bDev aIf bIf l := by
  obtain ⟨l, hrun⟩ := createLinkImpl_eq_ok.mp h
  obtain ⟨_, hdiffer, _, aDev, bDev, ha, hb, hpairing, aIf, bIf, m, hopen, hmid, _, _, _, hfinish⟩ :=
    createLink_eq_ok.mp hrun
  obtain ⟨_, hupstream, ⟨selected, lengthKm, rfl⟩, hdev, hif, hlinks⟩ := finishLink_ok hfinish rfl
  have hne : p.aInterfaceId ≠ p.bInterfaceId := by simpa [checkEndpointsDiffer] using hdiffer
  obtain ⟨hgrows, hmidLinks, _, haEnd, hbEnd⟩ := openInterfaces_ok hopen hmid hne ha hb
  exact ⟨m.rows.db, aDev, bDev, aIf, bIf, _, hne, hpairing, hgrows, hmidLinks, haEnd, hbEnd,
    hupstream, hdev, hif, hlinks, rfl, rfl⟩

end Unoc.Links
