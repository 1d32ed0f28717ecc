import Unoc.Base.System
import Unoc.Provisioning.Gate

/-!
# Runs of provisioning requests

Provisioning and every request that only adds rows (links, devices, interfaces, addresses, routes)
keep what a provisioned device stands on. Starting without provisioned devices, each device that was
provisioned has its chain to a provisioned OLT, its provisioned switch or its router in every later
state.
-/

namespace Unoc.Provisioning

open Unoc.Base Unoc.Model Unoc.Status
open Relation (ReflTransGen)

/-! ### What a request keeps -/

/-- A state that keeps the devices of another one, as far as the checks read them, and its links that
are up with the devices at their ends. -/
structure Retains (db db' : Database) : Prop where
  devices : ∀ d ∈ db.devices, ∃ d' ∈ db'.devices, d'.id = d.id ∧ d'.type = d.type ∧
    d'.adminOverrideStatus = d.adminOverrideStatus ∧ (d.provisioned = true → d'.provisioned = true)
  links : ∀ l ∈ db.links, linkUp l = true → ∃ l' ∈ db'.links, linkUp l' = true ∧ l'.kind = l.kind ∧
    (∀ id, recordEnd (topology db) l.aInterfaceId = some id →
      recordEnd (topology db') l'.aInterfaceId = some id) ∧
    (∀ id, recordEnd (topology db) l.bInterfaceId = some id →
      recordEnd (topology db') l'.bInterfaceId = some id)

/-- A property of a device that its later rows keep. -/
def Kept (p : Device → Prop) : Prop :=
  ∀ d d' : Device, d'.id = d.id → d'.type = d.type → d'.adminOverrideStatus = d.adminOverrideStatus →
    (d.provisioned = true → d'.provisioned = true) → p d → p d'

section Retained

variable {db db' : Database} (h : Retains db db')
include h

private theorem Retains.inService {p : Device → Prop} (hp : Kept p) {id : String}
    (hin : InService db p id) : InService db' p id := by
  have ⟨d, hd, hid, hup, hpd⟩ := hin
  have ⟨d', hd', hid', htype, hover, hprov⟩ := h.devices d hd
  exact ⟨d', hd', hid'.trans hid, by rw [hover]; exact hup, hp d d' hid' htype hover hprov hpd⟩

private theorem Retains.upLink {p : LinkType → Prop} {u v : String}
    (hlink : UpLink db (fun l ↦ p l.kind) u v) :
    UpLink db' (fun l ↦ p l.kind) u v := by
  have ⟨l, hl, hup, hp, hends⟩ := hlink
  have ⟨l', hl', hup', hkind, ha, hb⟩ := h.links l hl hup
  have hp' : p l'.kind := by
    rw [hkind]
    exact hp
  refine ⟨l', hl', hup', hp', ?_⟩
  cases hends with
  | inl hends => exact .inl ⟨ha u hends.1, hb v hends.2⟩
  | inr hends => exact .inr ⟨ha v hends.1, hb u hends.2⟩

private theorem Retains.onAccessPath {device device' : Device} (hid : device'.id = device.id)
    {id : String}
    (hon : OnAccessPath db device id) : OnAccessPath db' device' id := by
  apply h.inService ?_ (hon.imp (q := fun d ↦ opticalType d.type = true ∧
    (d.id = device'.id ∨ d.type = .olt ∨ passiveInline d.type = true)) ?_)
  · intro d d' hid' htype _ _ hp
    rw [hid', htype]
    exact hp
  · intro d hp
    rw [hid]
    exact hp

private theorem Retains.hasOltPath {device device' : Device} (hid : device'.id = device.id)
    (hpath : HasOltPath db device) : HasOltPath db' device' := by
  have ⟨olt, holt, htype, hprov, hup, hreached⟩ := hpath
  have ⟨olt', holt', hid', htype', hover, hprov'⟩ := h.devices olt holt
  have hhops : AccessHop db device ≤ AccessHop db' device' := by
    intro u v hhop
    exact ⟨h.upLink (p := fun kind ↦ kind = .fiber) hhop.1, h.onAccessPath hid hhop.2.1,
      h.onAccessPath hid hhop.2.2⟩
  refine ⟨olt', holt', htype'.trans htype, hprov' hprov, by rw [hover]; exact hup, ?_⟩
  rw [hid', hid]
  exact ReflTransGen.mono hhops _ _ hreached

private theorem Retains.hasNeighbor {device device' : Device} (hid : device'.id = device.id)
    {p : Device → Prop} (hp : Kept p) (hneighbor : HasNeighbor db device p) :
    HasNeighbor db' device' p := by
  have ⟨id, hlink, hself, hother⟩ := hneighbor
  refine ⟨id, ?_, ?_, h.inService hp hother⟩
  · rw [hid]
    exact h.upLink (p := fun _ ↦ True) hlink
  · rw [hid]
    exact h.inService (fun _ _ _ _ _ _ _ ↦ trivial) hself

/-- What a device stands on stays, as long as its own row keeps its id, its type and its parent. -/
theorem Retains.supported {device device' : Device} (hid : device'.id = device.id)
    (htype : device'.type = device.type)
    (hparent : device'.parentContainerId = device.parentContainerId) (hs : Supported db device) :
    Supported db' device' where
  parent parentId hparentId := by
    rw [hparent] at hparentId
    have ⟨parent, hmem, hpid, hfits⟩ := hs.parent parentId hparentId
    have ⟨parent', hmem', hpid', hptype, _⟩ := h.devices parent hmem
    exact ⟨parent', hmem', hpid'.trans hpid, by rw [htype, hptype]; exact hfits⟩
  olt hont := by
    rw [htype] at hont
    exact h.hasOltPath hid (hs.olt hont)
  switch hcpe := by
    rw [htype] at hcpe
    apply h.hasNeighbor hid ?_ (hs.switch hcpe)
    intro d d' _ htype' hover hprov hp
    rw [htype', hover]
    exact ⟨⟨hp.1.1, hprov hp.1.2⟩, hp.2⟩
  router holt := by
    rw [htype] at holt
    apply h.hasNeighbor hid ?_ (hs.router holt)
    intro d d' _ htype' _ _ hp
    rw [htype']
    exact hp

end Retained

/-! ### Requests -/

/-- A request that only adds: it sets no flag, and keeps the parents. -/
structure Grows (db db' : Database) : Prop extends Retains db db' where
  flags : ∀ d' ∈ db'.devices, d'.provisioned = true → ∃ d ∈ db.devices, d'.id = d.id ∧
    d'.type = d.type ∧ d'.parentContainerId = d.parentContainerId ∧ d.provisioned = true

/-- The row of a device is replaced. -/
def setDevice (db : Database) (device : Device) (f : Device → Device) (hid : ∀ d, (f d).id = d.id) :
    Database :=
  { db with
    devices := db.devices.map (fun d ↦ if d.id = device.id then f d else d)
    devices_nodup := by
      rw [List.map_map]
      have hids : (Device.id ∘ fun d ↦ if d.id = device.id then f d else d) = Device.id := by
        funext d
        change (if d.id = device.id then f d else d).id = d.id
        split
        · exact hid d
        · rfl
      rw [hids]
      exact db.devices_nodup }

/-- The commit of `provision_device`; `provisioning_service.py:315–324,357`. -/
def commitProvisioned (db : Database) (device : Device) : Database :=
  setDevice db device markProvisioned (fun _ ↦ rfl)

/-- A provisioning request, or a request that only adds rows. The rows that provisioning adds itself
(the management interface and its address, neighbours, routes) come with a step of the second kind. -/
inductive Request where
  | provision (id : String)
  | grow (db : Database)

/-- The outcomes of a request. -/
inductive Handled (db : Database) : Request → Database → Prop where
  | provisioned {device : Device} (hdevice : db.getDevice device.id = some device)
      (hok : checkProvision db device = .ok ()) :
      Handled db (.provision device.id) (commitProvisioned db device)
  | refused (id : String) : Handled db (.provision id) db
  | grown {db' : Database} (h : Grows db db') : Handled db (.grow db') db'

/-- All runs of requests, from a network without provisioned devices. -/
def provisioning : System Database Request where
  init db := ∀ d ∈ db.devices, d.provisioned = false
  step := Handled

/-- Every provisioned device has what it needs from its neighbourhood. -/
def Grounded (db : Database) : Prop :=
  ∀ d ∈ db.devices, d.provisioned = true → d.type ∈ provisionableTypes ∧ Supported db d

section Requests

variable {db db' : Database}

private theorem retains_commitProvisioned (db : Database) (device : Device) :
    Retains db (commitProvisioned db device) where
  devices d hd := by
    refine ⟨if d.id = device.id then markProvisioned d else d, List.mem_map.mpr ⟨d, hd, rfl⟩, ?_⟩
    split
    · exact ⟨rfl, rfl, rfl, fun _ ↦ rfl⟩
    · exact ⟨rfl, rfl, rfl, fun h ↦ h⟩
  links l hl hup := ⟨l, hl, hup, rfl, fun _ h ↦ h, fun _ h ↦ h⟩

/-- Appended rows: no new device is provisioned, and no interface takes the name of a missing one. -/
theorem Grows.append {devices : List Device} {interfaces : List Interface} {links : List Link}
    (hdevices : db'.devices = db.devices ++ devices)
    (hinterfaces : db'.interfaces = db.interfaces ++ interfaces)
    (hlinks : db'.links = db.links ++ links) (hflags : ∀ d ∈ devices, d.provisioned = false)
    (hnames : ∀ i ∈ interfaces, ∀ l ∈ db.links, i.id ≠ l.aInterfaceId ∧ i.id ≠ l.bInterfaceId) :
    Grows db db' := by
  have hend : ∀ name, (∀ i ∈ interfaces, i.id ≠ name) →
      recordEnd (topology db') name = recordEnd (topology db) name := by
    intro name hname
    have hnone : interfaces.find? (fun i ↦ i.id = name) = none :=
      List.find?_eq_none.mpr (fun i hi ↦ by simpa using hname i hi)
    unfold recordEnd ifToDev Topology.getInterface topology
    dsimp only
    rw [hinterfaces, List.find?_append, hnone, Option.or_none]
  constructor
  · constructor
    · intro d hd
      exact ⟨d, by rw [hdevices]; exact List.mem_append_left _ hd, rfl, rfl, rfl, fun h ↦ h⟩
    · intro l hl hup
      refine ⟨l, by rw [hlinks]; exact List.mem_append_left _ hl, hup, rfl, ?_, ?_⟩
      · rw [hend _ (fun i hi ↦ (hnames i hi l hl).1)]
        exact fun _ h ↦ h
      · rw [hend _ (fun i hi ↦ (hnames i hi l hl).2)]
        exact fun _ h ↦ h
  · intro d' hd' hprov
    rw [hdevices] at hd'
    cases List.mem_append.mp hd' with
    | inl hd => exact ⟨d', hd, rfl, rfl, rfl, hprov⟩
    | inr hd =>
      rw [hflags d' hd] at hprov
      cases hprov

private theorem Grounded.provisioned (h : Grounded db) {device : Device}
    (hdevice : device ∈ db.devices)
    (hok : checkProvision db device = .ok ()) : Grounded (commitProvisioned db device) := by
  intro d' hd' hprov
  have ⟨d, hd, heq⟩ := List.mem_map.mp hd'
  have hext := retains_commitProvisioned db device
  rw [← heq] at hprov ⊢
  split
  · next hid =>
    have hrow : d = device := List.inj_on_of_nodup_map db.devices_nodup hd hdevice hid
    have hadmissible := Admissible.of_ok hdevice hok
    rw [hrow]
    have hid' : (markProvisioned device).id = device.id := rfl
    have htype : (markProvisioned device).type = device.type := rfl
    have hparent : (markProvisioned device).parentContainerId = device.parentContainerId := rfl
    exact ⟨hadmissible.type, hext.supported hid' htype hparent hadmissible.supported⟩
  · next hid =>
    rw [if_neg hid] at hprov
    have ⟨htype, hsupported⟩ := h d hd hprov
    exact ⟨htype, hext.supported rfl rfl rfl hsupported⟩

private theorem Grounded.grown (h : Grounded db) (hgrows : Grows db db') : Grounded db' := by
  intro d' hd' hprov
  have ⟨d, hd, hid, htype, hparent, hprov'⟩ := hgrows.flags d' hd' hprov
  have ⟨hprovisionable, hsupported⟩ := h d hd hprov'
  exact ⟨by rw [htype]; exact hprovisionable,
    hgrows.toRetains.supported hid htype hparent hsupported⟩

/-- In every run of provisioning requests and of requests that only add rows, every provisioned device
has the chain, the switch, the router and the parent that its type needs. -/
theorem provisioned_devices_grounded (h : provisioning.Reachable db) : Grounded db := by
  apply System.Reachable.invariant (I := Grounded) ?_ ?_ h
  · intro db hinit d hd hprov
    rw [hinit d hd] at hprov
    cases hprov
  · intro db request db' hgrounded hstep
    cases hstep with
    | provisioned hdevice hok =>
      exact hgrounded.provisioned (Database.getDevice_eq_some.mp hdevice).1 hok
    | refused id => exact hgrounded
    | grown hgrows => exact hgrounded.grown hgrows

end Requests

/-- An OLT and an ONT on one fiber, and a router that is not connected. -/
def newAccess : Database where
  devices := [
    { id := "core", type := .coreRouter },
    { id := "olt", type := .olt },
    { id := "ont", type := .ont }]
  interfaces := [
    { id := "core-0", deviceId := "core", name := "0" },
    { id := "olt-0", deviceId := "olt", name := "0" },
    { id := "olt-1", deviceId := "olt", name := "1" },
    { id := "ont-0", deviceId := "ont", name := "0" }]
  links := [{ id := "l1", aInterfaceId := "ont-0", bInterfaceId := "olt-0" }]

/-- The same after the OLT was connected. -/
def connectedAccess : Database :=
  { newAccess with
    links := [
      { id := "l1", aInterfaceId := "ont-0", bInterfaceId := "olt-0" },
      { id := "l2", aInterfaceId := "olt-1", bInterfaceId := "core-0" }]
    links_nodup := by decide }

/-- An OLT and then its ONT are provisioned. -/
theorem provisioned_devices_grounded_newAccess :
    Grounded (commitProvisioned (commitProvisioned connectedAccess { id := "olt", type := .olt })
      { id := "ont", type := .ont }) := by
  apply provisioned_devices_grounded
  have hstart : provisioning.Reachable newAccess := .init (by
    unfold provisioning
    decide)
  have hgrown : Grows newAccess connectedAccess :=
    Grows.append (List.append_nil _).symm (List.append_nil _).symm rfl (by simp) (by simp)
  have hconnected : provisioning.Reachable connectedAccess := .step hstart (.grown hgrown)
  have holt : connectedAccess.getDevice "olt" = some { id := "olt", type := .olt } := by decide
  have hont : (commitProvisioned connectedAccess { id := "olt", type := .olt }).getDevice "ont" =
      some { id := "ont", type := .ont } := by decide +kernel
  have hfirst : provisioning.Reachable (commitProvisioned connectedAccess { id := "olt", type := .olt }) :=
    .step hconnected (.provisioned holt (by decide +kernel))
  exact .step hfirst (.provisioned hont (by decide +kernel))

end Unoc.Provisioning
