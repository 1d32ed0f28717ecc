import Unoc.Base.Settling
import Unoc.Provisioning.MacAllocator
import Unoc.Provisioning.ManagementAddress

/-!
# L3 uplinks

`backend/services/provisioning_l3_auto.py`: addresses, neighbors and a default route for the uplinks
of a router. The session flushes an added row with the next query, which sees it; `none` is an
exception that a flush raises. An exception of the commit at the end is swallowed after a rollback, to
the tables of the last commit: those before the call, which its caller has committed
(`provisioning_service.py:362–366`).
-/

namespace Unoc.Provisioning

open Unoc.Base
open Unoc.Model

/-! ### Rows -/

/-- Row of table `neighbor`; `models_pkg/l3.py:23–29`. -/
structure Neighbor where
  interfaceId : String
  ipAddress : String
  macAddress : String
  deriving DecidableEq, Repr

/-- The columns of `uq_neighbor_if_ip`. -/
def Neighbor.key (n : Neighbor) : String × String := (n.interfaceId, n.ipAddress)

/-- The tables that the configuration of uplinks reads and writes. -/
structure L3Tables extends Ipam where
  devices : List Device := []
  neighbors : List Neighbor := []
  routes : List Route := []

/-- SHA-1, the ids that the database gives to rows, and whether the guard of the event store forbids
to write devices and interfaces; `db.py:75–87`. -/
structure L3Env where
  sha1 : String → Fin 20 → UInt8
  newId : List Int → Int
  newId_notMem : ∀ ids, newId ids ∉ ids
  guarded : Bool := false

/-! ### VRFs -/

/-- The query for the management VRF. -/
def L3Tables.mgmtVrf (db : L3Tables) : Option Vrf := db.vrfs.find? (fun v ↦ v.name = "mgmt")

/-- `desired`; `seed_helpers/ipam.py:41–48`. -/
def desiredPrefixes : List (String × String) :=
  [("core_mgmt", "10.252.0.0/24"), ("olt_mgmt", "10.251.0.0/24"), ("ont_mgmt", "10.250.0.0/16"),
    ("aon_mgmt", "10.253.0.0/24"), ("cpe_mgmt", "10.254.0.0/24"), ("noc_tools", "10.250.10.0/24")]

/-- Insert a VRF under a new id. -/
def L3Env.addVrf (env : L3Env) (vrfs : List Vrf) (name : String) : List Vrf :=
  vrfs ++ [⟨env.newId (vrfs.map Vrf.id), name⟩]

/-- Insert a prefix of a VRF under a new id. -/
def L3Env.addPrefix (env : L3Env) (vrfId : Int) (prefixes : List Prefix) (p : String × String) :
    List Prefix :=
  prefixes ++ [⟨env.newId (prefixes.map Prefix.id), p.2, vrfId, some p.1⟩]

/-- `ensure_ipam_defaults` without a VRF `mgmt`: the new VRF has no prefixes yet;
`seed_helpers/ipam.py:15–72`. -/
def L3Tables.ensureIpamDefaults (db : L3Tables) (env : L3Env) : L3Tables :=
  let vrfs := env.addVrf db.vrfs "mgmt"
  { db with
    vrfs := if vrfs.any (fun v ↦ v.name = "internet") then vrfs else env.addVrf vrfs "internet"
    prefixes := desiredPrefixes.foldl (env.addPrefix (env.newId (db.vrfs.map Vrf.id))) db.prefixes }

/-- `session.get(Device, id)`. -/
def L3Tables.getDevice (db : L3Tables) (id : String) : Option Device :=
  db.devices.find? (fun d ↦ d.id = id)

/-- Write `device.vrf_id`. -/
def L3Tables.setVrf (db : L3Tables) (id : String) (vrfId : Int) : L3Tables :=
  { db with
    devices := db.devices.map (fun d ↦ if d.id = id then { d with vrfId := some vrfId } else d) }

/-- A router without a VRF gets the management VRF; `provisioning_l3_auto.py:50–53`. -/
def L3Tables.assignVrf (db : L3Tables) (env : L3Env) (device : Device) (vrf : Vrf) :
    Option (L3Tables × Int) :=
  match device.vrfId with
  | some vrfId => some (db, vrfId)
  | none => if env.guarded then none else some (db.setVrf device.id vrf.id, vrf.id)

/-! ### Rows of an uplink -/

/-- `_stable_ptp_pair`, with the mask added where rows are written;
`provisioning_l3_auto.py:61–79`. -/
def stablePtpPair (env : L3Env) (linkId : String) : String × String :=
  let x := (env.sha1 linkId 0).toNat
  let y := (env.sha1 linkId 1 &&& 0xFE).toNat
  ("172.18." ++ toString x ++ "." ++ toString y, "172.18." ++ toString x ++ "." ++ toString (y + 1))

/-- A link to an upstream router as the loop reads it. -/
structure Uplink where
  linkId : String
  myIf : String
  peerIf : String
  peerVrfId : Option Int
  deriving DecidableEq, Repr

namespace Uplink

variable (env : L3Env) (u : Uplink)

/-- `ln.id or f"{my_if}--{peer_if}"`. -/
def pairKey : String := if u.linkId = "" then u.myIf ++ "--" ++ u.peerIf else u.linkId

/-- The lower interface id gets the lower address; `provisioning_l3_auto.py:174–179`. -/
def myIp : String :=
  if u.myIf < u.peerIf then (stablePtpPair env u.pairKey).1 else (stablePtpPair env u.pairKey).2

/-- The other address of the pair. -/
def peerIp : String :=
  if u.myIf < u.peerIf then (stablePtpPair env u.pairKey).2 else (stablePtpPair env u.pairKey).1

/-- `peer_dev.vrf_id or device.vrf_id`. -/
def peerVrf (vrfId : Int) : Int := (u.peerVrfId.filter (fun v ↦ v ≠ 0)).getD vrfId

end Uplink

/-- The bytes of the digest that an address pair shows. -/
def Uplink.octets (u : Uplink) (env : L3Env) : UInt8 × UInt8 :=
  (env.sha1 u.pairKey 0, env.sha1 u.pairKey 1 &&& 0xFE)

/-- The peers that are upstream of a router; `provisioning_l3_auto.py:150–158`. -/
def upstream : DeviceType → DeviceType → Bool
  | .edgeRouter, .coreRouter | .coreRouter, .backboneGateway => true
  | _, _ => false

/-- `my_if`; `provisioning_l3_auto.py:139`. -/
def myIfOf (myIfIds : List String) (ln : Link) : String :=
  if ln.aInterfaceId ∈ myIfIds then ln.aInterfaceId else ln.bInterfaceId

/-- `peer_if`; `provisioning_l3_auto.py:140`. -/
def peerIfOf (myIf : String) (ln : Link) : String :=
  if myIf = ln.aInterfaceId then ln.bInterfaceId else ln.aInterfaceId

/-- The upstream link of a row, if it is one; `provisioning_l3_auto.py:135–158`. -/
def L3Tables.uplinkOf (db : L3Tables) (type : DeviceType) (myIfIds : List String) (ln : Link) :
    Option Uplink :=
  if ln.aInterfaceId ∈ myIfIds ∨ ln.bInterfaceId ∈ myIfIds then do
    let myIf := myIfOf myIfIds ln
    let peerIf := peerIfOf myIf ln
    let row ← db.getInterface peerIf
    let peer ← db.getDevice row.deviceId
    if upstream type peer.type then some ⟨ln.id, myIf, peerIf, peer.vrfId⟩ else none
  else none

/-- Set a row that is down to up; `provisioning_l3_auto.py:161–169`. -/
def L3Tables.adminUp (db : L3Tables) (env : L3Env) (id : String) : Option L3Tables :=
  match db.getInterface id with
  | none => some db
  | some row =>
    if row.adminStatus = .down then
      if env.guarded then none
      else some { db with
        interfaces := db.interfaces.map (fun i ↦
          if i.id = id then { i with adminStatus := .up } else i) }
    else some db

/-- `_ensure_addr`; `provisioning_l3_auto.py:82–97`. -/
def L3Tables.ensureAddr (db : L3Tables) (interfaceId ip : String) (mask : Nat) (vrfId : Int) :
    Option L3Tables :=
  if db.addresses.any (fun a ↦ a.interfaceId = interfaceId ∧ a.ip = ip) then some db
  else if db.addresses.any (fun a ↦ a.interfaceId = interfaceId) then some db
  else (db.flushAddress
    { interfaceId := interfaceId, ip := ip, prefixLen := mask, vrfId := some vrfId }).map
      (fun ipam ↦ { db with toIpam := ipam })

/-- The dummy address of a neighbor; `provisioning_l3_auto.py:106–109`. -/
def neighborMac (env : L3Env) (interfaceId ip linkId : String) : String :=
  let d := env.sha1 (linkId ++ ":" ++ interfaceId ++ ":" ++ ip)
  String.ofList ([':'].intercalate
    ([0x02, (d 0).toNat, (d 1).toNat, (d 2).toNat, (d 3).toNat, (d 4).toNat].map
      MacAllocator.hexByte))

/-- `_ensure_neighbor`; `provisioning_l3_auto.py:100–109`. -/
def L3Tables.ensureNeighbor (db : L3Tables) (env : L3Env) (interfaceId ip linkId : String) :
    L3Tables :=
  if db.neighbors.any (fun n ↦ n.interfaceId = interfaceId ∧ n.ipAddress = ip) then db
  else { db with
    neighbors := db.neighbors ++ [⟨interfaceId, ip, neighborMac env interfaceId ip linkId⟩] }

/-- The prefix of a default route. -/
def defaultPrefix : String := "0.0.0.0/0"

/-- A default route of a VRF over one of some interfaces. -/
def DefaultVia (vrfId : Int) (interfaceIds : List String) (r : Route) : Prop :=
  r.vrfId = vrfId ∧ r.pfx = defaultPrefix ∧ ∃ i ∈ interfaceIds, r.interfaceId = some i

/-- Whether a route is a default one over these interfaces compares its fields. -/
instance (vrfId : Int) (interfaceIds : List String) (r : Route) :
    Decidable (DefaultVia vrfId interfaceIds r) :=
  inferInstanceAs (Decidable (_ ∧ _ ∧ _))

/-- `_ensure_default_route`; `provisioning_l3_auto.py:112–131`. -/
def L3Tables.ensureDefaultRoute (db : L3Tables) (env : L3Env) (vrfId : Int) (myIfIds : List String)
    (interfaceId nextHop : String) : L3Tables :=
  if db.routes.any (fun r ↦ r.vrfId = vrfId ∧ r.pfx = defaultPrefix ∧
      r.interfaceId = some interfaceId ∧ r.nextHop = some nextHop) then db
  else if db.routes.any (fun r ↦ DefaultVia vrfId myIfIds r) then db
  else { db with
    routes := db.routes ++ [{
      id := env.newId (db.routes.map Route.id)
      vrfId := vrfId
      pfx := defaultPrefix
      nextHop := some nextHop
      interfaceId := some interfaceId }] }

/-! ### The loop -/

/-- The body of the loop for an upstream link; `provisioning_l3_auto.py:160–188`. -/
def L3Tables.configureUplink (db : L3Tables) (env : L3Env) (vrfId : Int) (myIfIds : List String)
    (u : Uplink) : Option L3Tables := do
  let db ← db.adminUp env u.myIf
  let db ← db.adminUp env u.peerIf
  let db ← db.ensureAddr u.myIf (u.myIp env) 31 vrfId
  let db ← db.ensureAddr u.peerIf (u.peerIp env) 31 (u.peerVrf vrfId)
  let db := db.ensureNeighbor env u.myIf (u.peerIp env) u.linkId
  let db := db.ensureNeighbor env u.peerIf (u.myIp env) u.linkId
  return db.ensureDefaultRoute env vrfId myIfIds u.myIf (u.peerIp env)

/-- The body of the loop; `provisioning_l3_auto.py:135–188`. -/
def configureLink (env : L3Env) (type : DeviceType) (vrfId : Int) (myIfIds : List String)
    (db : L3Tables) (ln : Link) : Option L3Tables :=
  match db.uplinkOf type myIfIds ln with
  | none => some db
  | some u => db.configureUplink env vrfId myIfIds u

/-- An iteration, with the flag `changed` that an upstream link sets;
`provisioning_l3_auto.py:134, 188`. -/
def configureNext (env : L3Env) (type : DeviceType) (vrfId : Int) (myIfIds : List String)
    (state : L3Tables × Bool) (ln : Link) : Option (L3Tables × Bool) :=
  (configureLink env type vrfId myIfIds state.1 ln).map (fun db ↦
    (db, state.2 || (state.1.uplinkOf type myIfIds ln).isSome))

/-- The ids of the interfaces of a device. -/
def L3Tables.interfaceIdsOf (db : L3Tables) (deviceId : String) : List String :=
  (db.interfaces.filter (fun i ↦ i.deviceId = deviceId)).map (fun i ↦ i.id)

/-- The tables with a VRF `mgmt`; `provisioning_l3_auto.py:43–48`. -/
def L3Tables.withMgmt (db : L3Tables) (env : L3Env) : L3Tables :=
  if db.mgmtVrf.isSome then db else db.ensureIpamDefaults env

/-- `auto_configure_l3_uplinks` for the device with an id and the rows of table `link` in the order
of the query; `commits` tells whether a commit succeeds; `provisioning_l3_auto.py:26–195`. -/
def autoConfigureL3Uplinks (env : L3Env) (commits : Bool) (db : L3Tables) (linkRows : List Link)
    (id : String) : Option L3Tables :=
  match db.getDevice id with
  | none => some db
  | some device =>
    if device.type = .edgeRouter ∨ device.type = .coreRouter then
      match (db.withMgmt env).mgmtVrf with
      | none => some (db.withMgmt env)
      | some vrf => do
        let (start, vrfId) ← (db.withMgmt env).assignVrf env device vrf
        let myIfIds := start.interfaceIdsOf id
        if myIfIds = [] then return start
        let (after, changed) ←
          linkRows.foldlM (configureNext env device.type vrfId myIfIds) (start, false)
        -- after a rollback the call returns normally
        return if changed && !commits then db else after
    else some db

/-! ### What a step writes -/

variable {env : L3Env} {db db' : L3Tables} {vrfId : Int} {myIfIds : List String} {u : Uplink}

/-- The columns of an interface that the loop does not write. -/
def place (i : InterfaceRow) : String × String := (i.id, i.deviceId)

/-- The row of an interface is down. -/
def L3Tables.Down (db : L3Tables) (id : String) : Prop :=
  ∃ i, db.getInterface id = some i ∧ i.adminStatus = .down

/-- The router has a default route of its VRF. -/
def L3Tables.HasDefault (db : L3Tables) (vrfId : Int) (myIfIds : List String) : Prop :=
  ∃ r ∈ db.routes, DefaultVia vrfId myIfIds r

/-- The search for a default route finds one if there is one. -/
theorem any_defaultVia : db.routes.any (fun r ↦ DefaultVia vrfId myIfIds r) = true ↔
    db.HasDefault vrfId myIfIds := by
  simp [L3Tables.HasDefault]

/-- The addresses of an uplink. -/
def Uplink.addressRows (u : Uplink) (env : L3Env) (vrfId : Int) : List AddressRow :=
  [{ interfaceId := u.myIf, ip := u.myIp env, prefixLen := 31, vrfId := some vrfId },
    { interfaceId := u.peerIf, ip := u.peerIp env, prefixLen := 31, vrfId := some (u.peerVrf vrfId) }]

/-- The neighbors of an uplink. -/
def Uplink.neighborRows (u : Uplink) (env : L3Env) : List Neighbor :=
  [⟨u.myIf, u.peerIp env, neighborMac env u.myIf (u.peerIp env) u.linkId⟩,
    ⟨u.peerIf, u.myIp env, neighborMac env u.peerIf (u.myIp env) u.linkId⟩]

/-- The default route of an uplink. -/
def Uplink.defaultRoute (u : Uplink) (env : L3Env) (vrfId : Int) (routes : List Route) : Route where
  id := env.newId (routes.map Route.id)
  vrfId := vrfId
  pfx := defaultPrefix
  nextHop := some (u.peerIp env)
  interfaceId := some u.myIf

/-- The device of an interface, if both rows exist. -/
def L3Tables.deviceOf (db : L3Tables) (interfaceId : String) : Option Device :=
  ((db.getInterface interfaceId).map (fun i ↦ i.deviceId)).bind db.getDevice

/-- An uplink is read off a link of the device and the row of its peer. -/
theorem uplinkOf_eq_some {type : DeviceType} {ln : Link} :
    db.uplinkOf type myIfIds ln = some u ↔
      (ln.aInterfaceId ∈ myIfIds ∨ ln.bInterfaceId ∈ myIfIds) ∧ u.linkId = ln.id ∧
        u.myIf = myIfOf myIfIds ln ∧ u.peerIf = peerIfOf u.myIf ln ∧
        ∃ peer, db.deviceOf u.peerIf = some peer ∧ upstream type peer.type = true ∧
          u.peerVrfId = peer.vrfId := by
  unfold L3Tables.uplinkOf L3Tables.deviceOf
  split
  · next hmine =>
    simp only [Option.bind_eq_bind, Option.bind_eq_some_iff, Option.map_eq_some_iff,
      Option.ite_none_right_eq_some, Option.some.injEq, hmine, true_and]
    constructor
    · rintro ⟨row, hrow, peer, hpeer, hup, rfl⟩
      exact ⟨rfl, rfl, rfl, peer, ⟨_, ⟨row, hrow, rfl⟩, hpeer⟩, hup, rfl⟩
    · obtain ⟨linkId, myIf, peerIf, peerVrfId⟩ := u
      dsimp only
      rintro ⟨rfl, rfl, rfl, peer, ⟨_, ⟨row, hrow, rfl⟩, hpeer⟩, hup, rfl⟩
      exact ⟨row, hrow, peer, hpeer, hup, rfl⟩
  · next hother =>
    simp [hother]

/-- An uplink starts at an interface of the device. -/
theorem uplinkOf_myIf_mem {type : DeviceType} {ln : Link}
    (h : db.uplinkOf type myIfIds ln = some u) : u.myIf ∈ myIfIds := by
  obtain ⟨hmine, _, hmy, _⟩ := uplinkOf_eq_some.mp h
  rw [hmy, myIfOf]
  split
  · next ha => exact ha
  · next ha => exact hmine.resolve_left ha

/-- An interface that is down is set up; other calls change nothing. -/
theorem adminUp_cases {id : String} (h : db.adminUp env id = some db') :
    (db' = db ∧ ¬ db.Down id) ∨
      db' = { db with
        interfaces := db.interfaces.map (fun i ↦
          if i.id = id then { i with adminStatus := .up } else i) } := by
  unfold L3Tables.adminUp at h
  cases hrow : db.getInterface id with
  | none =>
    simp only [hrow, Option.some.injEq] at h
    refine .inl ⟨h.symm, ?_⟩
    rintro ⟨i, hi, _⟩
    rw [hrow] at hi
    cases hi
  | some row =>
    simp only [hrow] at h
    by_cases hdown : row.adminStatus = .down
    · rw [if_pos hdown] at h
      cases hguard : env.guarded with
      | true =>
        rw [if_pos hguard] at h
        cases h
      | false =>
        rw [if_neg (by rw [hguard]; exact Bool.false_ne_true)] at h
        exact .inr (Option.some.inj h).symm
    · rw [if_neg hdown] at h
      refine .inl ⟨(Option.some.inj h).symm, ?_⟩
      rintro ⟨i, hi, hi'⟩
      rw [hrow] at hi
      obtain rfl := Option.some.inj hi
      exact hdown hi'

/-- After an interface is set up, the interfaces that are down were down before, and it is not one of
them. -/
theorem down_of_setUp {id x : String}
    (h : L3Tables.Down { db with
      interfaces := db.interfaces.map (fun i ↦
        if i.id = id then { i with adminStatus := .up } else i) } x) : db.Down x ∧ x ≠ id := by
  obtain ⟨i, hi, hdown⟩ := h
  have hid : ∀ j : InterfaceRow,
      (if j.id = id then { j with adminStatus := .up } else j).id = j.id := by
    intro j
    split <;> rfl
  have hfind : ((db.interfaces.find? (fun j ↦ j.id = x)).map
      (fun j ↦ if j.id = id then { j with adminStatus := .up } else j)) = some i := by
    rw [← hi]
    unfold Ipam.getInterface
    rw [List.find?_map]
    congr 2
    funext j
    simp only [Function.comp, hid]
  obtain ⟨j, hj, rfl⟩ := Option.map_eq_some_iff.mp hfind
  have hjx : j.id = x := by simpa using List.find?_some hj
  by_cases hx : j.id = id
  · rw [if_pos hx] at hdown
    cases hdown
  · rw [if_neg hx] at hdown
    exact ⟨⟨j, hj, hdown⟩, fun hxid ↦ hx (hjx.trans hxid)⟩

private theorem adminUp_eq_some {id : String} (h : db.adminUp env id = some db') :
    (∃ interfaces, db' = { db with interfaces := interfaces }) ∧
      db'.interfaces.map place = db.interfaces.map place ∧
        ∀ x, db'.Down x → db.Down x ∧ x ≠ id := by
  rcases adminUp_cases h with ⟨rfl, hup⟩ | rfl
  · refine ⟨⟨db'.interfaces, rfl⟩, rfl, ?_⟩
    intro x hdown
    refine ⟨hdown, ?_⟩
    rintro rfl
    exact hup hdown
  · refine ⟨⟨_, rfl⟩, ?_, fun x hdown ↦ down_of_setUp hdown⟩
    rw [List.map_map]
    apply List.map_congr_left
    intro i _
    by_cases hi : i.id = id <;> simp [place, hi]

/-- An interface that is not down stays as it is. -/
theorem adminUp_of_not_down {id : String} (h : ¬ db.Down id) : db.adminUp env id = some db := by
  unfold L3Tables.adminUp
  cases hrow : db.getInterface id with
  | none => rfl
  | some row =>
    have hup : row.adminStatus ≠ .down := fun hdown ↦ h ⟨row, hrow, hdown⟩
    simp only [hup, if_false]

private theorem ensureAddr_eq_some {interfaceId ip : String} {mask : Nat}
    (h : db.ensureAddr interfaceId ip mask vrfId = some db') :
    db' = { db with
      addresses := ensureRow (fun a ↦ a.interfaceId) db.addresses
        { interfaceId := interfaceId, ip := ip, prefixLen := mask, vrfId := some vrfId } } := by
  unfold L3Tables.ensureAddr at h
  split at h
  · next hsame =>
    have hany : ∃ a ∈ db.addresses, a.interfaceId = interfaceId := by
      simp only [List.any_eq_true, decide_eq_true_eq] at hsame
      obtain ⟨a, ha, hi, _⟩ := hsame
      exact ⟨a, ha, hi⟩
    rw [ensureRow_of_present hany]
    exact (Option.some.inj h).symm
  · split at h
    · next hany =>
      rw [ensureRow_of_present (by simpa using hany)]
      exact (Option.some.inj h).symm
    · next hnone =>
      obtain ⟨ipam, hflush, rfl⟩ := Option.map_eq_some_iff.mp h
      unfold Ipam.flushAddress at hflush
      split at hflush
      · cases hflush
      · rw [← Option.some.inj hflush, ensureRow, if_neg hnone]

/-- An interface with an address stays as it is. -/
theorem ensureAddr_of_present {interfaceId ip : String} {mask : Nat}
    (h : ∃ a ∈ db.addresses, a.interfaceId = interfaceId) :
    db.ensureAddr interfaceId ip mask vrfId = some db := by
  unfold L3Tables.ensureAddr
  split
  · rfl
  · rw [if_pos (by simpa using h)]

/-- A neighbor is ensured by its key. -/
theorem ensureNeighbor_eq (db : L3Tables) (env : L3Env) (interfaceId ip linkId : String) :
    db.ensureNeighbor env interfaceId ip linkId = { db with
      neighbors := ensureRow Neighbor.key db.neighbors
        ⟨interfaceId, ip, neighborMac env interfaceId ip linkId⟩ } := by
  unfold L3Tables.ensureNeighbor ensureRow
  simp only [Neighbor.key, Prod.mk.injEq]
  split <;> rfl

/-- With the interface of the router the first query finds nothing that the second does not. -/
theorem ensureDefaultRoute_eq (db : L3Tables) (env : L3Env) {interfaceId : String}
    (h : interfaceId ∈ myIfIds) (nextHop : String) :
    db.ensureDefaultRoute env vrfId myIfIds interfaceId nextHop = { db with
      routes := if db.routes.any (fun r ↦ DefaultVia vrfId myIfIds r) then db.routes
        else db.routes ++ [{
          id := env.newId (db.routes.map Route.id)
          vrfId := vrfId
          pfx := defaultPrefix
          nextHop := some nextHop
          interfaceId := some interfaceId }] } := by
  unfold L3Tables.ensureDefaultRoute
  split
  · next hsame =>
    have hany : db.routes.any (fun r ↦ DefaultVia vrfId myIfIds r) = true := by
      simp only [List.any_eq_true, decide_eq_true_eq] at hsame ⊢
      obtain ⟨r, hr, hvrf, hpfx, hif, _⟩ := hsame
      exact ⟨r, hr, hvrf, hpfx, interfaceId, h, hif⟩
    rw [if_pos hany]
  · split <;> rfl

/-- What the loop does for an uplink. -/
structure Configured (env : L3Env) (vrfId : Int) (myIfIds : List String) (db db' : L3Tables)
    (u : Uplink) : Prop where
  vrfs : db'.vrfs = db.vrfs
  prefixes : db'.prefixes = db.prefixes
  devices : db'.devices = db.devices
  places : db'.interfaces.map place = db.interfaces.map place
  down : ∀ x, db'.Down x → db.Down x ∧ x ≠ u.myIf ∧ x ≠ u.peerIf
  addresses : db'.addresses =
    ensureRows (fun a ↦ a.interfaceId) db.addresses (u.addressRows env vrfId)
  neighbors : db'.neighbors = ensureRows Neighbor.key db.neighbors (u.neighborRows env)
  routes : db'.routes = if db.routes.any (fun r ↦ DefaultVia vrfId myIfIds r) then db.routes
    else db.routes ++ [u.defaultRoute env vrfId db.routes]

/-- What a configured uplink leaves behind. -/
theorem Configured.of_configureUplink (hmy : u.myIf ∈ myIfIds)
    (h : db.configureUplink env vrfId myIfIds u = some db') :
    Configured env vrfId myIfIds db db' u := by
  unfold L3Tables.configureUplink at h
  simp only [Option.bind_eq_bind, Option.bind_eq_some_iff, Option.pure_def] at h
  obtain ⟨db₁, h₁, db₂, h₂, db₃, h₃, db₄, h₄, h⟩ := h
  obtain ⟨⟨interfaces₁, rfl⟩, hplaces₁, hdown₁⟩ := adminUp_eq_some h₁
  obtain ⟨⟨interfaces₂, rfl⟩, hplaces₂, hdown₂⟩ := adminUp_eq_some h₂
  obtain rfl := ensureAddr_eq_some h₃
  obtain rfl := ensureAddr_eq_some h₄
  rw [ensureNeighbor_eq, ensureNeighbor_eq, ensureDefaultRoute_eq _ _ hmy] at h
  have hdb' := (Option.some.inj h).symm
  subst hdb'
  refine ⟨rfl, rfl, rfl, hplaces₂.trans hplaces₁, ?_, rfl, rfl, rfl⟩
  intro x hdown
  obtain ⟨hdown, hpeer⟩ := hdown₂ x hdown
  obtain ⟨hdown, hmyIf⟩ := hdown₁ x hdown
  exact ⟨hdown, hmyIf, hpeer⟩

end Unoc.Provisioning
