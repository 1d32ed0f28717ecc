import Unoc.Base.System
import Unoc.Devices.Delete
import Unoc.Provisioning.Gate

/-!
# Devices in containers

`validate_parent_child` of `backend/utils.py`, and `create_device_impl` and `update_device_impl` of
`backend/api/endpoints/devices_helpers_mutation_core.py` on the table of devices. In every run of
creations, updates, deletions and seedings each device lies in a container of a type that its own type
allows, so that provisioning never misses a container. What a creation or update adds to other tables
comes with a step of its own; the checks against hardware models and tariffs are parameters.
-/

namespace Unoc.Devices

open Unoc.Base Unoc.Model Unoc.Status Unoc.EventStore
open Unoc.Devices.Delete (State flush deleteDeviceImpl)

/-! ### The parent of a device -/

/-- A device type in a text: the class and the member of an enumeration. -/
def memberText (type : DeviceType) : String := "DeviceType." ++ Links.typeName type

/-- A parent, if it is given, exists and has a type that is accepted. -/
def requireParent (devices : List Device) (parentId : Option String) (missing : String)
    (accept : DeviceType → Bool) (message : String) : Except String Unit :=
  match truthy parentId with
  | none => .ok ()
  | some id =>
    match devices.find? (fun d ↦ d.id = id) with
    | none => .error missing
    | some parent => if accept parent.type then .ok () else .error message

/-- `validate_parent_child`; `utils.py:47–113`. -/
def validateParentChild (devices : List Device) (type : DeviceType) (parentId : Option String) :
    Except String Unit :=
  match type with
  | .pop | .coreSite =>
    if parentId.isSome then .error (memberText type ++ " must not have a parent") else .ok ()
  | .backboneGateway | .coreRouter =>
    requireParent devices parentId "Parent device not found" (fun t ↦ t = .coreSite)
      (memberText type ++ " parent must be CORE_SITE")
  | .olt | .aonSwitch =>
    requireParent devices parentId "Parent device not found" (fun t ↦ t = .pop)
      (memberText type ++ " parent must be POP")
  | .edgeRouter =>
    requireParent devices parentId "Parent device not found" (fun t ↦ t = .pop || t = .coreSite)
      "EDGE_ROUTER parent must be POP or CORE_SITE"
  | .splitter | .hop | .nvt | .odf =>
    requireParent devices parentId "Parent container not found" (fun _ ↦ true) ""
  | .ont | .businessOnt | .aonCpe =>
    requireParent devices parentId "Parent device not found" (fun t ↦ t ≠ .pop && t ≠ .coreSite)
      (memberText type ++ " must not be directly parented by container (POP/CORE_SITE)")

/-! ### Requests -/

/-- What a request raises; `devices_helpers_mutation_core.py:35–40`. -/
inductive RequestError where
  | conflict (message : String)
  | unprocessable (message : String)
  | lookup (message : String)
  | integrity
  deriving DecidableEq, Repr

/-- The settings, and what the tables of hardware models and tariffs say of a device type. -/
structure Catalogs where
  enforceSingle : Bool
  autoAssigned : DeviceType → Option Int
  hardwareModelError : DeviceType → Int → Option String
  tariffError : DeviceType → Int → Option String
  defaultInsertionLoss : DeviceType → Option Int → Option ℚ

/-- `DeviceCreate`, as far as the columns are modelled; `schemas.py:243–250`. -/
structure DeviceCreate where
  id : String
  type : DeviceType
  status : Model.Status := .up
  parentContainerId : Option String := none
  hardwareModelId : Option Int := none

/-- The fields that a `DeviceUpdate` sets, as far as the columns are modelled; `schemas.py:253–265`. -/
structure DeviceUpdate where
  status : Option (Option Model.Status) := none
  parentContainerId : Option (Option String) := none
  adminOverrideStatus : Option (Option Model.Status) := none
  txPowerDbm : Option (Option ℚ) := none
  sensitivityMinDbm : Option (Option ℚ) := none
  insertionLossDb : Option (Option ℚ) := none
  tariffId : Option (Option Int) := none
  hardwareModelId : Option (Option Int) := none

/-- The row of a new device; `devices_helpers_mutation_core.py:118–139`. -/
def DeviceCreate.device (cat : Catalogs) (payload : DeviceCreate) : Device :=
  let hardwareModelId := payload.hardwareModelId.or (cat.autoAssigned payload.type)
  { id := payload.id
    type := payload.type
    status := payload.status
    parentContainerId := payload.parentContainerId
    hardwareModelId := hardwareModelId
    insertionLossDb :=
      if passiveInline payload.type then cat.defaultInsertionLoss payload.type hardwareModelId
      else none }

/-- The columns that are set, where the status is not null;
`devices_helpers_mutation_core.py:345–346`. -/
def DeviceUpdate.apply (payload : DeviceUpdate) (d : Device) : Device :=
  { d with
    status := payload.status.join.getD d.status
    parentContainerId := payload.parentContainerId.getD d.parentContainerId
    adminOverrideStatus := payload.adminOverrideStatus.getD d.adminOverrideStatus
    txPowerDbm := payload.txPowerDbm.getD d.txPowerDbm
    sensitivityMinDbm := payload.sensitivityMinDbm.getD d.sensitivityMinDbm
    insertionLossDb := payload.insertionLossDb.getD d.insertionLossDb
    tariffId := payload.tariffId.getD d.tariffId
    hardwareModelId := payload.hardwareModelId.getD d.hardwareModelId }

/-- A row is added to the table of devices. -/
def addDevice (s : State) (d : Device) (hnew : d.id ∉ s.deviceIds) : State :=
  { s with
    devices := s.devices ++ [d]
    devices_nodup := by
      rw [List.map_append]
      apply s.devices_nodup.append (List.nodup_singleton _)
      exact List.disjoint_singleton.mpr hnew }

/-- The row of a device is replaced. -/
def replaceDevice (s : State) (id : String) (f : Device → Device) (hid : ∀ d, (f d).id = d.id) : State :=
  { s with
    devices := s.devices.map (fun d ↦ if d.id = id then f d else d)
    devices_nodup := by
      have hids : (Device.id ∘ fun d ↦ if d.id = id then f d else d) = Device.id := by
        funext d
        change (if d.id = id then f d else d).id = d.id
        split
        · exact hid d
        · rfl
      rw [List.map_map, hids]
      exact s.devices_nodup }

/-- The commit of a request, which fails on a foreign key without a row. -/
def commit (foreignKeys : Bool) (s : State) : Except RequestError State :=
  match flush foreignKeys s with
  | .ok s => .ok { s with pathfindingStore := s.pathfindingStore.bumpVersion }
  | .error _ => .error .integrity

section Requests

variable (cat : Catalogs) (now : Nat → String) (foreignKeys : Bool)

/-- `create_device_impl` on the devices; `devices_helpers_mutation_core.py:56–148`. -/
def createDeviceImpl (s : State) (payload : DeviceCreate) : Except RequestError State :=
  if hid : payload.id ∈ s.deviceIds then .error (.conflict "Device ID already exists")
  else if payload.type = .backboneGateway ∧ cat.enforceSingle = true ∧
      s.devices.any (fun d ↦ d.type = .backboneGateway) then
    .error (.conflict "Backbone gateway already exists (single mode)")
  else
    match validateParentChild s.devices payload.type payload.parentContainerId with
    | .error err => .error (.unprocessable err)
    | .ok () =>
      match payload.hardwareModelId.bind (cat.hardwareModelError payload.type) with
      | some err => .error (.unprocessable err)
      | none =>
        commit foreignKeys ((addDevice s (payload.device cat) hid).appendDomainEvent now
          { eventType := .deviceCreated, entityId := payload.id,
            payload := [("device_type", Links.typeName payload.type)] })

/-- An error that a catalog gives is raised. -/
def refuse (err : Option String) : Except String Unit :=
  match err with
  | some err => .error err
  | none => .ok ()

/-- The check of a parent that is set; `devices_helpers_mutation_core.py:300–305`. -/
def checkNewParent (s : State) (d : Device) (payload : DeviceUpdate) : Except String Unit :=
  match payload.parentContainerId with
  | some parentId => validateParentChild s.devices d.type parentId
  | none => .ok ()

/-- The checks of an update, in their order; `devices_helpers_mutation_core.py:290–320`. -/
def checkUpdate (s : State) (d : Device) (payload : DeviceUpdate) : Except String Unit := do
  refuse (payload.hardwareModelId.join.bind (cat.hardwareModelError d.type))
  checkNewParent s d payload
  refuse (payload.tariffId.join.bind (cat.tariffError d.type))

/-- `update_device_impl` on the devices; `devices_helpers_mutation_core.py:283–349`. -/
def updateDeviceImpl (s : State) (deviceId : String) (payload : DeviceUpdate) :
    Except RequestError State :=
  match s.devices.find? (fun d ↦ d.id = deviceId) with
  | none => .error (.lookup "Not found")
  | some d =>
    match checkUpdate cat s d payload with
    | .error err => .error (.unprocessable err)
    | .ok () =>
      -- the column of the status takes no null
      if payload.status = some none then .error .integrity
      else commit foreignKeys ((replaceDevice s deviceId payload.apply (fun _ ↦ rfl)).appendDomainEvent now
        { eventType := .deviceUpdated, entityId := deviceId,
          payload := [("device_type", Links.typeName d.type)] })

/-- `BACKBONE_GATEWAY_ID`; `seed_service.py:37`. -/
def backboneGatewayId : String := "backbone_gateway"

/-- `ensure_backbone_gateway` on the table of devices; `seed_service.py:127–166`. -/
def ensureBackboneGateway (s : State) : State :=
  if cat.enforceSingle = false then s
  else if hid : backboneGatewayId ∈ s.deviceIds then s
  else if s.devices.any (fun d ↦ d.type = .backboneGateway) then s
  else addDevice s { id := backboneGatewayId, type := .backboneGateway, status := .up, provisioned := true } hid

end Requests

/-! ### Placement -/

/-- The types of a parent that each type allows. -/
def mayContain (parent : DeviceType) : DeviceType → Bool
  | .pop | .coreSite => false
  | .backboneGateway | .coreRouter => parent = .coreSite
  | .olt | .aonSwitch => parent = .pop
  | .edgeRouter => parent = .pop || parent = .coreSite
  | .splitter | .hop | .nvt | .odf => true
  | .ont | .businessOnt | .aonCpe => parent ≠ .pop && parent ≠ .coreSite

/-- A container has no parent, and any other device none or one that may contain it. -/
structure PlacedAt (devices : List Device) (type : DeviceType) (parentId : Option String) : Prop where
  root : type = .pop ∨ type = .coreSite → parentId = none
  parent : ∀ id, truthy parentId = some id →
    ∃ parent ∈ devices, parent.id = id ∧ mayContain parent.type type = true

/-- Every device is placed. -/
def Placed (devices : List Device) : Prop :=
  ∀ d ∈ devices, PlacedAt devices d.type d.parentContainerId

section Validation

variable {devices : List Device} {type : DeviceType} {parentId : Option String}

private theorem requireParent_eq_ok (hnodup : (devices.map Device.id).Nodup)
    {missing message : String}
    {accept : DeviceType → Bool} :
    requireParent devices parentId missing accept message = .ok () ↔
      ∀ id, truthy parentId = some id →
        ∃ parent ∈ devices, parent.id = id ∧ accept parent.type = true := by
  unfold requireParent
  cases truthy parentId with
  | none => simp
  | some id =>
    dsimp only
    cases hfind : devices.find? (fun d ↦ d.id = id) with
    | none =>
      have hnone : ∀ d ∈ devices, d.id ≠ id := by simpa using hfind
      simp only [reduceCtorEq, false_iff]
      intro h
      have ⟨parent, hmem, hid, _⟩ := h id rfl
      exact hnone parent hmem hid
    | some parent =>
      have ⟨hmem, hid⟩ := (find?_key_eq_some hnodup).mp hfind
      dsimp only
      split
      · next haccept =>
        simp only [true_iff]
        intro id' hid'
        exact ⟨parent, hmem, hid.trans (Option.some.inj hid'), haccept⟩
      · next haccept =>
        simp only [reduceCtorEq, false_iff]
        intro h
        have ⟨parent', hmem', hid', haccept'⟩ := h id rfl
        rw [List.inj_on_of_nodup_map hnodup hmem' hmem (hid'.trans hid.symm)] at haccept'
        exact haccept haccept'

/-- The validation accepts exactly the parents under which the device is placed. -/
theorem validateParentChild_eq_ok (hnodup : (devices.map Device.id).Nodup) :
    validateParentChild devices type parentId = .ok () ↔ PlacedAt devices type parentId := by
  have hroot : type = .pop ∨ type = .coreSite →
      ((if parentId.isSome then .error (memberText type ++ " must not have a parent") else .ok () :
        Except String Unit) = .ok () ↔ PlacedAt devices type parentId) := by
    intro htype
    cases parentId with
    | none => exact iff_of_true rfl ⟨fun _ ↦ rfl, fun id h ↦ by cases h⟩
    | some id => exact iff_of_false (by simp) (fun h ↦ Option.some_ne_none id (h.root htype))
  have hother : ¬ (type = .pop ∨ type = .coreSite) →
      ((∀ id, truthy parentId = some id →
        ∃ parent ∈ devices, parent.id = id ∧ mayContain parent.type type = true) ↔
          PlacedAt devices type parentId) := by
    intro htype
    exact ⟨fun h ↦ ⟨fun h ↦ absurd h htype, h⟩, fun h ↦ h.parent⟩
  unfold validateParentChild
  cases type with
  | pop => exact hroot (.inl rfl)
  | coreSite => exact hroot (.inr rfl)
  | _ => exact (requireParent_eq_ok hnodup).trans (hother (by simp))

end Validation

/-! ### Runs -/

/-- A request, the seeding of the backbone gateway, or a step that leaves ids, types and parents of the
devices alone: everything that other requests do, and what a creation, an update or the seeding adds
to other tables. -/
inductive Request where
  | create (payload : DeviceCreate)
  | update (id : String) (payload : DeviceUpdate)
  | delete (id : String)
  | seed
  | other (s : State)

section System

variable (cat : Catalogs) (now : Nat → String) (foreignKeys : Bool)

/-- The outcomes of a request; one that raises is rolled back. -/
inductive Handled (s : State) : Request → State → Prop where
  | created {payload : DeviceCreate} {s' : State}
      (h : createDeviceImpl cat now foreignKeys s payload = .ok s') : Handled s (.create payload) s'
  | updated {id : String} {payload : DeviceUpdate} {s' : State}
      (h : updateDeviceImpl cat now foreignKeys s id payload = .ok s') :
      Handled s (.update id payload) s'
  | deleted {id : String} {s' : State} (h : deleteDeviceImpl now foreignKeys s id = .ok s') :
      Handled s (.delete id) s'
  | seeded : Handled s .seed (ensureBackboneGateway cat s)
  | refused (r : Request) : Handled s r s
  | other {s' : State} (h : s'.devices.map (fun d ↦ (d.id, d.type, d.parentContainerId)) =
      s.devices.map (fun d ↦ (d.id, d.type, d.parentContainerId))) : Handled s (.other s') s'

/-- All runs from a database without devices. -/
def lifecycle : System State Request where
  init s := s.devices = []
  step := Handled cat now foreignKeys

/-- A deletion is checked by the database, or the device contains none. -/
def DeletesSafely (s : State) (r : Request) : Prop :=
  ∀ id, r = .delete id → foreignKeys = true ∨ ∀ d ∈ s.devices, d.parentContainerId ≠ some id

end System

section Steps

variable {cat : Catalogs} {now : Nat → String} {foreignKeys : Bool} {s s' : State}

/-- A device stays placed where the row of its parent keeps id and type. -/
theorem PlacedAt.mono {devices devices' : List Device} {type : DeviceType} {parentId : Option String}
    (h : PlacedAt devices type parentId)
    (hkept : ∀ d ∈ devices, truthy parentId = some d.id →
      ∃ d' ∈ devices', d'.id = d.id ∧ d'.type = d.type) : PlacedAt devices' type parentId where
  root := h.root
  parent id hid := by
    have ⟨parent, hmem, hpid, hmay⟩ := h.parent id hid
    have ⟨parent', hmem', hpid', htype⟩ := hkept parent hmem (by rw [hpid]; exact hid)
    exact ⟨parent', hmem', hpid'.trans hpid, by rw [htype]; exact hmay⟩

private theorem devices_commit (h : commit foreignKeys s = .ok s') : s'.devices = s.devices := by
  unfold commit at h
  cases hflush : flush foreignKeys s with
  | error e =>
    rw [hflush] at h
    cases h
  | ok s₁ =>
    rw [hflush] at h
    cases h
    rw [(Delete.flush_ok hflush).1]

private theorem createDeviceImpl_ok {payload : DeviceCreate}
    (h : createDeviceImpl cat now foreignKeys s payload = .ok s') :
    s'.devices = s.devices ++ [payload.device cat] ∧
      PlacedAt s.devices payload.type payload.parentContainerId := by
  unfold createDeviceImpl at h
  split at h
  · cases h
  · next hid =>
    split at h
    · cases h
    · cases hvalid : validateParentChild s.devices payload.type payload.parentContainerId with
      | error err =>
        rw [hvalid] at h
        cases h
      | ok u =>
        rw [hvalid] at h
        dsimp only at h
        split at h
        · cases h
        · exact ⟨devices_commit h, (validateParentChild_eq_ok s.devices_nodup).mp hvalid⟩

private theorem checkUpdate_ok {d : Device} {payload : DeviceUpdate}
    (h : checkUpdate cat s d payload = .ok ()) :
    ∀ parentId, payload.parentContainerId = some parentId → PlacedAt s.devices d.type parentId := by
  intro parentId hparent
  have ⟨_, _, h⟩ := Links.bind_eq_ok.mp h
  have ⟨_, hnew, _⟩ := Links.bind_eq_ok.mp h
  unfold checkNewParent at hnew
  rw [hparent] at hnew
  exact (validateParentChild_eq_ok s.devices_nodup).mp hnew

private theorem updateDeviceImpl_ok {id : String} {payload : DeviceUpdate}
    (h : updateDeviceImpl cat now foreignKeys s id payload = .ok s') :
    s'.devices = s.devices.map (fun d ↦ if d.id = id then payload.apply d else d) ∧
      ∀ d ∈ s.devices, d.id = id → ∀ parentId, payload.parentContainerId = some parentId →
        PlacedAt s.devices d.type parentId := by
  unfold updateDeviceImpl at h
  split at h
  · cases h
  · next d hfind =>
    have ⟨hmem, hid⟩ := (find?_key_eq_some s.devices_nodup).mp hfind
    cases hcheck : checkUpdate cat s d payload with
    | error err =>
      rw [hcheck] at h
      cases h
    | ok u =>
      rw [hcheck] at h
      dsimp only at h
      split at h
      · cases h
      · refine ⟨devices_commit h, ?_⟩
        intro d' hmem' hid'
        rw [List.inj_on_of_nodup_map s.devices_nodup hmem' hmem (hid'.trans hid.symm)]
        exact checkUpdate_ok hcheck

/-- A new device that is placed leaves the others in their places. -/
private theorem Placed.added (hplaced : Placed s.devices) {new : Device}
    (hdevices : s'.devices = s.devices ++ [new])
    (hnew : PlacedAt s.devices new.type new.parentContainerId) : Placed s'.devices := by
  have hkept : ∀ d ∈ s.devices, ∃ d' ∈ s'.devices, d'.id = d.id ∧ d'.type = d.type := by
    intro d hd
    rw [hdevices]
    exact ⟨d, List.mem_append_left _ hd, rfl, rfl⟩
  intro d hd
  rw [hdevices] at hd
  cases List.mem_append.mp hd with
  | inl hold => exact (hplaced d hold).mono (fun d hd _ ↦ hkept d hd)
  | inr hadded =>
    rw [List.mem_singleton.mp hadded]
    exact hnew.mono (fun d hd _ ↦ hkept d hd)

private theorem Placed.created (hplaced : Placed s.devices) {payload : DeviceCreate}
    (h : createDeviceImpl cat now foreignKeys s payload = .ok s') : Placed s'.devices := by
  have ⟨hdevices, hnew⟩ := createDeviceImpl_ok h
  exact hplaced.added hdevices hnew

private theorem Placed.seeded (hplaced : Placed s.devices) :
    Placed (ensureBackboneGateway cat s).devices := by
  unfold ensureBackboneGateway
  split
  · exact hplaced
  · split
    · exact hplaced
    · split
      · exact hplaced
      · next hid _ =>
        apply hplaced.added rfl
        -- the gateway has no parent
        constructor
        · intro _
          rfl
        · intro id hparent
          cases hparent

private theorem Placed.updated (hplaced : Placed s.devices) {id : String} {payload : DeviceUpdate}
    (h : updateDeviceImpl cat now foreignKeys s id payload = .ok s') : Placed s'.devices := by
  have ⟨hdevices, hchecked⟩ := updateDeviceImpl_ok h
  have hkept : ∀ d ∈ s.devices, ∃ d' ∈ s'.devices, d'.id = d.id ∧ d'.type = d.type := by
    intro d hd
    rw [hdevices]
    refine ⟨_, List.mem_map.mpr ⟨d, hd, rfl⟩, ?_⟩
    split
    · exact ⟨rfl, rfl⟩
    · exact ⟨rfl, rfl⟩
  intro d' hd'
  rw [hdevices] at hd'
  have ⟨d, hd, heq⟩ := List.mem_map.mp hd'
  rw [← heq]
  split
  · next hid =>
    cases hparent : payload.parentContainerId with
    | none =>
      unfold DeviceUpdate.apply
      rw [hparent]
      exact (hplaced d hd).mono (fun d hd _ ↦ hkept d hd)
    | some parentId =>
      unfold DeviceUpdate.apply
      rw [hparent]
      exact (hchecked d hd hid parentId hparent).mono (fun d hd _ ↦ hkept d hd)
  · exact (hplaced d hd).mono (fun d hd _ ↦ hkept d hd)

private theorem truthy_eq_some {o : Option String} {id : String} (h : truthy o = some id) :
    o = some id := by
  unfold truthy at h
  exact Option.filter_eq_some_iff.mp h |>.1

private theorem Placed.deleted (hplaced : Placed s.devices) {id : String}
    (hsafe : foreignKeys = true ∨ ∀ d ∈ s.devices, d.parentContainerId ≠ some id)
    (h : deleteDeviceImpl now foreignKeys s id = .ok s') : Placed s'.devices := by
  have ⟨_, hdeleted, hreferences⟩ := Delete.deleteDeviceImpl_ok h
  intro d hd
  have hd' := hd
  rw [hdeleted.devices] at hd'
  have hold := (List.mem_filter.mp hd').1
  apply (hplaced d hold).mono
  intro parent hparent htruthy
  have hpid := truthy_eq_some htruthy
  refine ⟨parent, ?_, rfl, rfl⟩
  cases hsafe with
  | inl hkeys =>
    -- the database has checked that the parent is still there
    have hstill := (hreferences hkeys).1 d hd parent.id hpid
    have ⟨row, hrow, hrowId⟩ := List.mem_map.mp hstill
    have hrow' := hrow
    rw [hdeleted.devices] at hrow'
    rw [← List.inj_on_of_nodup_map s.devices_nodup (List.mem_filter.mp hrow').1 hparent hrowId]
    exact hrow
  | inr hnone =>
    rw [hdeleted.devices]
    apply List.mem_filter.mpr
    refine ⟨hparent, decide_eq_true ?_⟩
    intro heq
    rw [heq] at hpid
    exact hnone d hold hpid

private theorem Placed.other (hplaced : Placed s.devices)
    (h : s'.devices.map (fun d ↦ (d.id, d.type, d.parentContainerId)) =
      s.devices.map (fun d ↦ (d.id, d.type, d.parentContainerId))) : Placed s'.devices := by
  intro d' hd'
  have hmem : (d'.id, d'.type, d'.parentContainerId) ∈
      s.devices.map (fun d ↦ (d.id, d.type, d.parentContainerId)) := by
    rw [← h]
    exact List.mem_map.mpr ⟨d', hd', rfl⟩
  have ⟨d, hd, heq⟩ := List.mem_map.mp hmem
  have htype : d.type = d'.type := congrArg (fun k ↦ k.2.1) heq
  have hparent : d.parentContainerId = d'.parentContainerId := congrArg (fun k ↦ k.2.2) heq
  rw [← htype, ← hparent]
  apply (hplaced d hd).mono
  intro parent hparent _
  have hback : (parent.id, parent.type, parent.parentContainerId) ∈
      s'.devices.map (fun d ↦ (d.id, d.type, d.parentContainerId)) := by
    rw [h]
    exact List.mem_map.mpr ⟨parent, hparent, rfl⟩
  have ⟨row, hrow, hkey⟩ := List.mem_map.mp hback
  exact ⟨row, hrow, congrArg (fun k ↦ k.1) hkey, congrArg (fun k ↦ k.2.1) hkey⟩

/-- The parent check of provisioning, for a device that is placed. -/
theorem PlacedAt.checkParent {db : Database} {d : Device}
    (h : PlacedAt db.devices d.type d.parentContainerId) :
    Provisioning.checkParent db d =
      if truthy d.parentContainerId = none ∨ d.type = .olt ∨ d.type = .aonSwitch then .ok ()
      else .error (Provisioning.raiseError .invalidProvisionPath (some "unexpected parent")) := by
  unfold Provisioning.checkParent
  cases hparent : truthy d.parentContainerId with
  | none => rw [if_pos (.inl rfl)]
  | some id =>
    have ⟨parent, hmem, hid, hmay⟩ := h.parent id hparent
    have hget : db.getDevice id = some parent := Database.getDevice_eq_some.mpr ⟨hmem, hid⟩
    cases htype : d.type with
    | olt =>
      rw [htype] at hmay
      have hpop : parent.type = .pop := by simpa [mayContain] using hmay
      simp [Provisioning.parentType, hget, hpop]
    | aonSwitch =>
      rw [htype] at hmay
      have hpop : parent.type = .pop := by simpa [mayContain] using hmay
      simp [Provisioning.parentType, hget, hpop]
    | _ => simp [Provisioning.parentType]

/-- In every run of creations, updates, safe deletions and other requests each device lies in a
container that its type allows. Provisioning then never misses a container: its check of the parent
passes for OLTs, AON switches and devices without a parent, and finds any other parent unexpected. -/
theorem devices_placed (h : ((lifecycle cat now foreignKeys).restrict
    (DeletesSafely foreignKeys)).Reachable s) :
    Placed s.devices ∧ ∀ db : Database, db.devices = s.devices → ∀ d ∈ s.devices,
      Provisioning.checkParent db d =
        if truthy d.parentContainerId = none ∨ d.type = .olt ∨ d.type = .aonSwitch then .ok ()
        else .error (Provisioning.raiseError .invalidProvisionPath (some "unexpected parent")) := by
  have hplaced : Placed s.devices := by
    apply System.Reachable.invariant (I := fun s ↦ Placed s.devices) ?_ ?_ h
    · intro s hinit d hd
      rw [hinit] at hd
      cases hd
    · intro s r s' hplaced hstep
      have ⟨hsafe, hhandled⟩ := hstep
      cases hhandled with
      | created h => exact hplaced.created h
      | updated h => exact hplaced.updated h
      | deleted h => exact hplaced.deleted (hsafe _ rfl) h
      | seeded => exact hplaced.seeded
      | refused r => exact hplaced
      | other h => exact hplaced.other h
  refine ⟨hplaced, fun db hdevices d hd ↦ ?_⟩
  apply PlacedAt.checkParent
  rw [hdevices]
  exact hplaced d hd

end Steps

/-- Catalogs that accept everything. -/
def lenient : Catalogs where
  enforceSingle := false
  autoAssigned _ := none
  hardwareModelError _ _ := none
  tariffError _ _ := none
  defaultInsertionLoss _ _ := none

/-- The requests of a user who creates a site with an OLT and a router, moves the router out of it and
deletes it. -/
def siteRequests : List Request :=
  [.create { id := "pop", type := .pop },
    .create { id := "olt", type := .olt, parentContainerId := some "pop" },
    .create { id := "edge", type := .edgeRouter, parentContainerId := some "pop" },
    .update "edge" { parentContainerId := some none, status := some (some .down) },
    .delete "edge"]

/-- What a request leaves behind, if it is not refused. -/
def handle (s : State) : Request → Option State
  | .create payload => (createDeviceImpl lenient (fun _ ↦ "") true s payload).toOption
  | .update id payload => (updateDeviceImpl lenient (fun _ ↦ "") true s id payload).toOption
  | .delete id => (deleteDeviceImpl (fun _ ↦ "") true s id).toOption
  | .seed => some (ensureBackboneGateway lenient s)
  | .other _ => none

/-- Tables without rows. -/
def emptyTables : State where
  devices := []
  interfaces := []
  devices_nodup := List.nodup_nil
  interfaces_nodup := List.nodup_nil

private theorem handled_of_handle {s s' : State} {r : Request} (h : handle s r = some s') :
    Handled lenient (fun _ ↦ "") true s r s' := by
  have hok : ∀ {ε : Type} {x : Except ε State}, x.toOption = some s' → x = .ok s' := by
    intro ε x hx
    cases x with
    | error e => cases hx
    | ok s => exact congrArg Except.ok (Option.some.inj hx)
  cases r with
  | create payload => exact .created (hok h)
  | update id payload => exact .updated (hok h)
  | delete id => exact .deleted (hok h)
  | seed =>
    cases h
    exact .seeded
  | other s => cases h

private theorem reachable_handle {s s' : State} (requests : List Request)
    (h : ((lifecycle lenient (fun _ ↦ "") true).restrict (DeletesSafely true)).Reachable s)
    (hrun : requests.foldlM handle s = some s') :
    ((lifecycle lenient (fun _ ↦ "") true).restrict (DeletesSafely true)).Reachable s' := by
  induction requests generalizing s with
  | nil =>
    cases hrun
    exact h
  | cons r rest ih =>
    have ⟨s₁, hhandled, hrest⟩ := Option.bind_eq_some_iff.mp hrun
    exact ih (.step h ⟨fun _ _ ↦ .inl rfl, handled_of_handle hhandled⟩) hrest

/-- A site whose router is moved and deleted. -/
theorem devices_placed_site : ∃ s, siteRequests.foldlM handle emptyTables = some s ∧
    s.devices.map Device.id = ["pop", "olt"] ∧ Placed s.devices := by
  have hids : (siteRequests.foldlM handle emptyTables).map (fun s ↦ s.devices.map Device.id) =
      some ["pop", "olt"] := by
    decide +kernel
  cases hrun : siteRequests.foldlM handle emptyTables with
  | none =>
    rw [hrun] at hids
    cases hids
  | some s =>
    rw [hrun] at hids
    have hinit : (lifecycle lenient (fun _ ↦ "") true).init emptyTables := rfl
    have hreachable := reachable_handle siteRequests (.init hinit) hrun
    exact ⟨s, rfl, Option.some.inj hids, (devices_placed hreachable).1⟩

end Unoc.Devices
