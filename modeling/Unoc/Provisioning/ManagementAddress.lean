import Unoc.Model.Rows

/-!
# Management addresses

The allocation part of `provision_device`, `backend/services/provisioning_service.py:169–307`. The
first host without a row of the prefix is the candidate; the VRF is asked about the candidate alone,
and an insertion that the database refuses rolls the session back before the next attempt.
-/

namespace Unoc.Provisioning

open Unoc.Model

/-! ### Rows -/

/-- Row of table `vrf`; `models_pkg/ipam.py:39–41`. -/
structure Vrf where
  id : Int
  name : String
  deriving DecidableEq, Repr

/-- Row of table `prefix`, with column `prefix` as `cidr`; `models_pkg/ipam.py:44–50`. -/
structure Prefix where
  id : Int
  cidr : String
  vrfId : Int
  description : Option String := none
  deriving DecidableEq, Repr

/-- Row of table `interface` with its unique column; `models_pkg/interface.py:46`. -/
structure InterfaceRow extends Interface where
  macAddress : Option String := none
  deriving DecidableEq, Repr

/-- Row of table `interfaceaddress`; `models_pkg/ipam.py:25–36`. -/
structure AddressRow extends InterfaceAddress where
  prefixLen : Nat
  vrfId : Option Int := none
  prefixId : Option Int := none
  deriving DecidableEq, Repr

/-- The tables of the allocation, as `ensure_ipam_defaults` leaves them. -/
structure Ipam where
  vrfs : List Vrf := []
  prefixes : List Prefix := []
  interfaces : List InterfaceRow := []
  addresses : List AddressRow := []

namespace Ipam

variable (db : Ipam)

/-- `session.get(VRF, id)`. -/
def getVrf (id : Int) : Option Vrf := db.vrfs.find? (fun v ↦ v.id = id)

/-- `session.get(Prefix, id)`. -/
def getPrefix (id : Int) : Option Prefix := db.prefixes.find? (fun p ↦ p.id = id)

/-- `session.get(Interface, id)`. -/
def getInterface (id : String) : Option InterfaceRow := db.interfaces.find? (fun i ↦ i.id = id)

/-- The first address of an interface; `provisioning_service.py:229–231,262–264`. -/
def addressOf (interfaceId : String) : Option AddressRow :=
  db.addresses.find? (fun a ↦ a.interfaceId = interfaceId)

/-- The query of the guard; `provisioning_service.py:272–277`. -/
def existingIp (vrfId : Int) (ip : String) : Bool :=
  db.addresses.any (fun a ↦ a.vrfId = some vrfId ∧ a.ip = ip)

/-- The query of the search; `provisioning_ipam.py:43–47`. -/
def taken (prefixId : Int) (ip : String) : Bool :=
  db.addresses.any (fun a ↦ a.prefixId = some prefixId ∧ a.ip = ip)

/-- The constraints of table `interface`; `models_pkg/interface.py:30,46–50`. -/
def interfaceRefused (i : InterfaceRow) : Bool :=
  db.interfaces.any (fun x ↦
    x.id = i.id ∨ x.deviceId = i.deviceId ∧ x.name = i.name ∨
      x.macAddress.isSome ∧ x.macAddress = i.macAddress)

/-- The constraints of table `interfaceaddress`, which null columns never break;
`models_pkg/ipam.py:33–36`. -/
def addressRefused (a : AddressRow) : Bool :=
  db.addresses.any (fun x ↦
    x.prefixId.isSome ∧ x.prefixId = a.prefixId ∧ x.ip = a.ip ∨
      x.vrfId.isSome ∧ x.vrfId = a.vrfId ∧ x.ip = a.ip)

/-- Flush a new interface; `none` is an `IntegrityError`. -/
def flushInterface (i : InterfaceRow) : Option Ipam :=
  if db.interfaceRefused i then none else some { db with interfaces := db.interfaces ++ [i] }

/-- Flush a new address; `none` is an `IntegrityError`. -/
def flushAddress (a : AddressRow) : Option Ipam :=
  if db.addressRefused a then none else some { db with addresses := db.addresses ++ [a] }

/-- Some address row of the VRF has the address. -/
def UsedIn (vrfId : Int) (ip : String) : Prop :=
  ∃ a ∈ db.addresses, a.vrfId = some vrfId ∧ a.ip = ip

variable {db}

private theorem existingIp_iff {vrfId : Int} {ip : String} :
    db.existingIp vrfId ip = true ↔ db.UsedIn vrfId ip := by
  simp [existingIp, UsedIn]

/-- Whether an address is in use is checked on the rows. -/
instance {vrfId : Int} {ip : String} : Decidable (db.UsedIn vrfId ip) :=
  decidable_of_iff _ existingIp_iff

private theorem getVrf_id {id : Int} {v : Vrf} (h : db.getVrf id = some v) : v.id = id := by
  simpa using List.find?_some h

/-- A row whose host has no row of the prefix is refused by its VRF alone. -/
theorem addressRefused_iff {a : AddressRow} {prefixId : Int} (hid : a.prefixId = some prefixId)
    (hfree : db.taken prefixId a.ip = false) :
    db.addressRefused a = true ↔ ∃ v, a.vrfId = some v ∧ db.UsedIn v a.ip := by
  have hother : ∀ x ∈ db.addresses, ¬ (x.prefixId = some prefixId ∧ x.ip = a.ip) := by
    simpa [taken] using hfree
  simp only [addressRefused, List.any_eq_true, decide_eq_true_eq]
  constructor
  · intro ⟨x, hx, h⟩
    rcases h with ⟨_, hp, hip⟩ | ⟨hv, heq, hip⟩
    · exact absurd ⟨hp.trans hid, hip⟩ (hother x hx)
    · have ⟨v, hv⟩ := Option.isSome_iff_exists.mp hv
      exact ⟨v, heq ▸ hv, x, hx, hv, hip⟩
  · intro ⟨v, hv, x, hx, hxv, hip⟩
    exact ⟨x, hx, .inr ⟨by rw [hxv]; rfl, hxv.trans hv.symm, hip⟩⟩

end Ipam

/-! ### The prefix of a device -/

/-- `PROVISIONABLE_TYPES`; `constants/provisioning.py:14–22`. -/
def provisionableTypes : List DeviceType :=
  [.coreRouter, .edgeRouter, .olt, .aonSwitch, .ont, .businessOnt, .aonCpe]

/-- `classify_prefix_role`; `provisioning_ipam.py:19–32`. -/
def classifyPrefixRole : DeviceType → Option String
  | .coreRouter => some "core_mgmt"
  | .edgeRouter => some "core_mgmt"
  | .olt => some "olt_mgmt"
  | .aonSwitch => some "aon_mgmt"
  | .ont => some "ont_mgmt"
  | .businessOnt => some "ont_mgmt"
  | .aonCpe => some "cpe_mgmt"
  | _ => none

example : ∀ t ∈ provisionableTypes, (classifyPrefixRole t).isSome := by decide

/-- `role_to_cidr`; `provisioning_service.py:179–185`. -/
def roleToCidr : List (String × String) := [
  ("core_mgmt", "10.252.0.0/24"),
  ("olt_mgmt", "10.251.0.0/24"),
  ("ont_mgmt", "10.250.0.0/16"),
  ("aon_mgmt", "10.253.0.0/24"),
  ("cpe_mgmt", "10.254.0.0/24")]

/-- The prefix by its description, else by its well-known text; `provisioning_service.py:174–208`.
Seeding the tables once more, as the source does before the second try, adds nothing to them. -/
def managementPrefix (db : Ipam) (prefixRole : String) : Option Prefix :=
  (db.prefixes.find? (fun p ↦ p.description = some prefixRole)).or
    ((roleToCidr.lookup prefixRole).bind fun cidr ↦ db.prefixes.find? (fun p ↦ p.cidr = cidr))

/-! ### Allocation -/

/-- What the allocation raises. -/
inductive Failure where
  | http (statusCode : Nat) (detail : String)
  | integrityError
  | valueError
  deriving DecidableEq, Repr

/-- `raise_error(ErrorCode.POOL_EXHAUSTED)`; `errors.py:31,44–49`. -/
def poolExhausted : Failure := .http 409 "POOL_EXHAUSTED"

/-- An `ip_network`: its `hosts()` in order and its `prefixlen`. -/
structure Network where
  hosts : List String
  prefixlen : Nat

/-- What the allocation hands on: the rows of the session, and the context of the event and the
audit record. -/
structure Allocation where
  rows : Ipam
  ip : Option String := none
  fromPrefix : Option Prefix := none
  targetVrf : Option Vrf := none

/-- `f"{device.id}-mgmt0"`. -/
def ifaceId (device : Device) : String := device.id ++ "-mgmt0"

/-- The new management interface; `provisioning_service.py:253–259`. -/
def mgmtInterface (device : Device) (mac : String) : InterfaceRow where
  id := ifaceId device
  deviceId := device.id
  name := "mgmt0"
  role := some .management
  macAddress := some mac

/-- The new address; `provisioning_service.py:286–292`. -/
def mgmtAddress (interfaceId : String) (p : Prefix) (targetVrf : Option Vrf)
    (candidate : String × Nat) :
    AddressRow where
  interfaceId := interfaceId
  ip := candidate.1
  prefixLen := candidate.2
  vrfId := targetVrf.map Vrf.id
  prefixId := some p.id

section Allocate

-- `ipaddress.ip_network`, for networks of both versions; `none` is its `ValueError`.
variable (ipNetwork : String → Option Network)

/-- The hosts in order up to the first without a row of the prefix; `provisioning_ipam.py:42–49`. -/
def firstFree (db : Ipam) (p : Prefix) (net : Network) : Option String :=
  net.hosts.find? (fun host ↦ !db.taken p.id host)

/-- `next_free_ip_in_prefix`; `provisioning_ipam.py:35–50`. -/
def nextFreeIpInPrefix (db : Ipam) (p : Prefix) : Except Failure (Option (String × Nat)) :=
  match ipNetwork p.cidr with
  | none => .error .valueError
  | some net => .ok ((firstFree db p net).map fun host ↦ (host, net.prefixlen))

/-- The next candidate, or exhaustion. -/
def nextCandidate (db : Ipam) (p : Prefix) : Except Failure (String × Nat) := do
  match ← nextFreeIpInPrefix ipNetwork db p with
  | some nxt => return nxt
  | none => throw poolExhausted

/-- The guard of an attempt: a candidate in use in the VRF is searched again;
`provisioning_service.py:270–284`. -/
def guardCandidate (rows : Ipam) (p : Prefix) (targetVrf : Option Vrf) (candidate : String × Nat) :
    Except Failure (String × Nat) :=
  if targetVrf.any (fun v ↦ rows.existingIp v.id candidate.1) then nextCandidate ipNetwork rows p
  else .ok candidate

/-- `max_retries`; `provisioning_service.py:266`. -/
def maxRetries : Nat := 5

/-- The retry loop, by the number of attempts that are left; `provisioning_service.py:268–307`. A
rollback leaves the committed rows. -/
def placeAddress (committed : Ipam) (interfaceId : String) (p : Prefix) (targetVrf : Option Vrf) :
    Nat → Ipam → String × Nat → Except Failure (Ipam × String)
  | 0, _, _ => .error poolExhausted
  | left + 1, rows, candidate => do
    let chosen ← guardCandidate ipNetwork rows p targetVrf candidate
    match rows.flushAddress (mgmtAddress interfaceId p targetVrf chosen) with
    | some rows' => return (rows', chosen.1)
    | none =>
      let nxt ← nextCandidate ipNetwork committed p
      placeAddress committed interfaceId p targetVrf left committed nxt

/-- The context of an address that operations have set; `provisioning_service.py:238–247`. -/
def reuseAddress (db : Ipam) (p : Prefix) (existingAddr : AddressRow) : Allocation :=
  let q := (existingAddr.prefixId.bind db.getPrefix).getD p
  { rows := db, ip := existingAddr.ip, fromPrefix := q,
    targetVrf := if q.vrfId = 0 then none else db.getVrf q.vrfId }

/-- The context before the interface is looked at, or the refusal of a second management interface;
`provisioning_service.py:226–251`. -/
def allocationContext (db : Ipam) (device : Device) (p : Prefix) (candidate : String × Nat) :
    Except Failure Allocation :=
  match (db.getInterface (ifaceId device)).bind fun _ ↦ db.addressOf (ifaceId device) with
  | none => .ok { rows := db, ip := candidate.1, fromPrefix := p, targetVrf := db.getVrf p.vrfId }
  | some existingAddr =>
    if device.type = .coreRouter ∨ device.type = .edgeRouter then
      .ok (reuseAddress db p existingAddr)
    else .error (.http 400 "DUPLICATE_MGMT_INTERFACE")

/-- The rows with the management interface; the query that follows flushes it;
`provisioning_service.py:252–264`. -/
def ensureInterface (db : Ipam) (device : Device) (mac : String) : Except Failure Ipam :=
  match db.getInterface (ifaceId device) with
  | some _ => .ok db
  | none =>
    match db.flushInterface (mgmtInterface device mac) with
    | some rows => .ok rows
    | none => .error .integrityError

/-- The allocation from a prefix; `provisioning_service.py:214–307`. -/
def allocateFrom (db : Ipam) (device : Device) (mac : String) (p : Prefix) :
    Except Failure Allocation := do
  let candidate ← nextCandidate ipNetwork db p
  let context ← allocationContext db device p candidate
  let rows ← ensureInterface db device mac
  match rows.addressOf (ifaceId device) with
  | some _ => return { context with rows := rows }
  | none =>
    let (rows', ip) ← placeAddress ipNetwork db (ifaceId device) p
        context.targetVrf maxRetries rows candidate
    return { context with rows := rows', ip := some ip }

/-- The allocation part of `provision_device`, for the address that `next_mac` returns;
`provisioning_service.py:169–307`. -/
def allocateMgmtAddress (db : Ipam) (device : Device) (mac : String) : Except Failure Allocation :=
  match classifyPrefixRole device.type with
  | none => .ok { rows := db }
  | some prefixRole =>
    match managementPrefix db prefixRole with
    | none => .error (.http 400 ("INVALID_PROVISION_PATH missing prefix " ++ prefixRole))
    | some p => allocateFrom ipNetwork db device mac p

/-! ### One attempt -/

variable {ipNetwork} {db committed rows : Ipam} {device : Device} {mac interfaceId host : String}
    {p : Prefix}
  {net : Network} {targetVrf : Option Vrf}

private theorem nextCandidate_eq (hnet : ipNetwork p.cidr = some net) :
    nextCandidate ipNetwork db p =
    match firstFree db p net with
    | some host => .ok (host, net.prefixlen)
    | none => .error poolExhausted := by
  simp only [nextCandidate, nextFreeIpInPrefix, hnet, bind, Except.bind]
  cases firstFree db p net <;> rfl

private theorem firstFree_free (h : firstFree db p net = some host) :
    host ∈ net.hosts ∧ db.taken p.id host = false := by
  apply And.intro (List.mem_of_find?_eq_some h)
  simpa using List.find?_some h

/-- The guard never changes the first free host: the search behind it does not look at the VRF. -/
theorem guardCandidate_first (hnet : ipNetwork p.cidr = some net)
    (h : firstFree rows p net = some host) :
    guardCandidate ipNetwork rows p targetVrf (host, net.prefixlen) =
        .ok (host, net.prefixlen) := by
  unfold guardCandidate
  split
  · rw [nextCandidate_eq hnet, h]
  · rfl

/-- The address rows after the first host without a row is taken. -/
theorem placeAddress_fresh (hnet : ipNetwork p.cidr = some net)
    (h : firstFree rows p net = some host)
    (hfresh : ∀ v, targetVrf = some v → ¬ rows.UsedIn v.id host) (left : Nat) :
    placeAddress ipNetwork committed interfaceId p targetVrf (left + 1) rows (host, net.prefixlen) =
      .ok ({ rows with addresses := rows.addresses ++
        [mgmtAddress interfaceId p targetVrf (host, net.prefixlen)] }, host) := by
  have hkept : rows.addressRefused
      (mgmtAddress interfaceId p targetVrf (host, net.prefixlen)) = false := by
    rw [← Bool.not_eq_true, Ipam.addressRefused_iff rfl (firstFree_free h).2]
    intro ⟨v, hv, hused⟩
    have ⟨w, hw, hid⟩ := Option.map_eq_some_iff.mp hv
    exact hfresh w hw (hid ▸ hused)
  simp only [placeAddress, guardCandidate_first hnet h, bind, Except.bind, Ipam.flushAddress, hkept]
  rfl

/-- A candidate that its VRF refuses is refused in every attempt: a retry never succeeds. -/
theorem placeAddress_used {v : Vrf} (hnet : ipNetwork p.cidr = some net)
    (h : firstFree committed p net = some host) (hrows : rows.addresses = committed.addresses)
    (hused : committed.UsedIn v.id host) (left : Nat) :
    placeAddress ipNetwork committed interfaceId p (some v) left rows (host, net.prefixlen) =
      .error poolExhausted := by
  induction left generalizing rows with
  | zero => rfl
  | succ left ih =>
    have hrowsFree : firstFree rows p net = some host := by
      rw [← h]
      simp only [firstFree, Ipam.taken, hrows]
    have hrefused : rows.addressRefused
        (mgmtAddress interfaceId p (some v) (host, net.prefixlen)) = true := by
      rw [Ipam.addressRefused_iff rfl (firstFree_free hrowsFree).2]
      apply Exists.intro v.id
      rw [Ipam.UsedIn, hrows]
      exact ⟨rfl, hused⟩
    simp only [placeAddress, guardCandidate_first hnet hrowsFree, bind, Except.bind,
        Ipam.flushAddress,
      hrefused, if_true, nextCandidate_eq hnet, h]
    exact ih rfl

/-! ### The whole allocation -/

private theorem ensureInterface_keeps (h : ensureInterface db device mac = .ok rows) :
    rows.addresses = db.addresses ∧ (rows.getInterface (ifaceId device)).isSome := by
  unfold ensureInterface at h
  split at h
  next i hi =>
    cases h
    simp [hi]
  next hnone =>
    split at h
    next rows' hflush =>
      cases h
      unfold Ipam.flushInterface at hflush
      split at hflush
      · cases hflush
      · cases hflush
        simp [Ipam.getInterface, mgmtInterface]
    next => cases h

/-- The device has no management address. -/
def NoMgmtAddress (db : Ipam) (device : Device) : Prop :=
  ∀ a ∈ db.addresses, a.interfaceId ≠ ifaceId device

private theorem NoMgmtAddress.addressOf_eq (hno : NoMgmtAddress db device)
    (hrows : rows.addresses = db.addresses) :
    rows.addressOf (ifaceId device) = none := by
  simpa [Ipam.addressOf, hrows, NoMgmtAddress] using hno

/-- Without a management address the allocation is its first search, the interface and the loop. -/
theorem allocateFrom_eq (hno : NoMgmtAddress db device) (hnet : ipNetwork p.cidr = some net)
    (h : firstFree db p net = some host) : allocateFrom ipNetwork db device mac p =
      (ensureInterface db device mac).bind fun rows ↦
        (placeAddress ipNetwork db (ifaceId device) p (db.getVrf p.vrfId) maxRetries rows
          (host, net.prefixlen)).bind fun placed ↦
            .ok ⟨placed.1, some placed.2, some p, db.getVrf p.vrfId⟩ := by
  have hcontext : allocationContext db device p (host, net.prefixlen) =
      .ok ⟨db, some host, some p, db.getVrf p.vrfId⟩ := by
    unfold allocationContext
    rw [hno.addressOf_eq rfl, Option.bind_fun_none]
  simp only [allocateFrom, nextCandidate_eq hnet, h, bind, Except.bind, hcontext]
  cases hrows : ensureInterface db device mac with
  | error e => rfl
  | ok rows =>
    simp only [hno.addressOf_eq (ensureInterface_keeps hrows).1]
    rfl

/-- Every host of the prefix is used in its VRF. -/
def Exhausted (db : Ipam) (p : Prefix) (net : Network) : Prop :=
  ∀ host ∈ net.hosts, db.UsedIn p.vrfId host

/-- The management interface is there or its row is accepted. -/
def InterfaceReady (db : Ipam) (device : Device) (mac : String) : Prop :=
  ∃ rows, ensureInterface db device mac = .ok rows

/-- The first host without a row of the prefix answers for the VRF: there is none and the VRF is
full, or it is unused in the VRF, or the VRF is known and full, or no interface is inserted for
it. -/
def FirstHostDecides (db : Ipam) (device : Device) (mac : String) (p : Prefix)
    (net : Network) : Prop :=
  match firstFree db p net with
  | none => Exhausted db p net
  | some host =>
    db.UsedIn p.vrfId host →
      (db.getVrf p.vrfId).isSome ∧ Exhausted db p net ∨ ¬ InterfaceReady db device mac

variable (ipNetwork) in
/-- What the allocation owes its caller: exhaustion is raised for a full VRF only, and success
leaves the interface with one address, a host of the prefix that the VRF had not used. -/
structure AllocationRight (db : Ipam) (device : Device) (mac : String) (p : Prefix) : Prop where
  exhausted : allocateMgmtAddress ipNetwork db device mac = .error poolExhausted →
    ∀ net, ipNetwork p.cidr = some net → Exhausted db p net
  allocated : ∀ r, allocateMgmtAddress ipNetwork db device mac = .ok r →
    (r.rows.getInterface (ifaceId device)).isSome ∧
      ∃ a net, r.rows.addresses.filter (fun x ↦ x.interfaceId = ifaceId device) = [a] ∧
        ipNetwork p.cidr = some net ∧ a.ip ∈ net.hosts ∧ ¬ db.UsedIn p.vrfId a.ip

private theorem allocateMgmtAddress_eq
    (hp : (classifyPrefixRole device.type).bind (managementPrefix db) = some p) :
    allocateMgmtAddress ipNetwork db device mac = allocateFrom ipNetwork db device mac p := by
  have ⟨prefixRole, hrole, hprefix⟩ := Option.bind_eq_some_iff.mp hp
  simp only [allocateMgmtAddress, hrole, hprefix]

/-- The session after a success of the first attempt. -/
theorem allocated_address (hno : NoMgmtAddress db device)
    (hrows : ensureInterface db device mac = .ok rows) (candidate : String × Nat) :
    (rows.addresses ++ [mgmtAddress (ifaceId device) p targetVrf candidate]).filter
      (fun x ↦ x.interfaceId = ifaceId device) =
        [mgmtAddress (ifaceId device) p targetVrf candidate] := by
  rw [List.filter_append, (ensureInterface_keeps hrows).1, List.filter_eq_nil_iff.mpr]
  · simp [mgmtAddress]
  · simpa [NoMgmtAddress] using hno

/-- The three ends of an allocation without a management address, by its first free host. -/
theorem allocateFrom_none (hnet : ipNetwork p.cidr = some net) (h : firstFree db p net = none) :
    allocateFrom ipNetwork db device mac p = .error poolExhausted := by
  simp only [allocateFrom, nextCandidate_eq hnet, h, bind, Except.bind]

private theorem allocateFrom_fresh (hno : NoMgmtAddress db device)
    (hnet : ipNetwork p.cidr = some net)
    (h : firstFree db p net = some host)
    (hfresh : ∀ v, db.getVrf p.vrfId = some v → ¬ db.UsedIn v.id host)
    (hrows : ensureInterface db device mac = .ok rows) : allocateFrom ipNetwork db device mac p =
      .ok ⟨{ rows with addresses := rows.addresses ++
        [mgmtAddress (ifaceId device) p (db.getVrf p.vrfId) (host, net.prefixlen)] },
            some host, some p,
          db.getVrf p.vrfId⟩ := by
  have haddresses := (ensureInterface_keeps hrows).1
  have hfirst : firstFree rows p net = some host := by
    rw [← h]
    simp only [firstFree, Ipam.taken, haddresses]
  have hunused : ∀ v, db.getVrf p.vrfId = some v → ¬ rows.UsedIn v.id host := by
    simpa only [Ipam.UsedIn, haddresses] using hfresh
  rw [allocateFrom_eq hno hnet h, hrows]
  simp only [Except.bind, maxRetries, placeAddress_fresh hnet hfirst hunused]

private theorem allocateFrom_used {v : Vrf} (hno : NoMgmtAddress db device)
    (hnet : ipNetwork p.cidr = some net)
    (h : firstFree db p net = some host) (hv : db.getVrf p.vrfId = some v)
    (hused : db.UsedIn v.id host)
    (hrows : ensureInterface db device mac = .ok rows) :
    allocateFrom ipNetwork db device mac p = .error poolExhausted := by
  rw [allocateFrom_eq hno hnet h, hrows, hv]
  simp only [Except.bind, placeAddress_used hnet h (ensureInterface_keeps hrows).1 hused]

/-- Without an interface row the failure is the one of the database. -/
theorem allocateFrom_notReady (hno : NoMgmtAddress db device) (hnet : ipNetwork p.cidr = some net)
    (h : firstFree db p net = some host) (hready : ¬ InterfaceReady db device mac) :
    allocateFrom ipNetwork db device mac p = .error .integrityError := by
  rw [allocateFrom_eq hno hnet h]
  cases hrows : ensureInterface db device mac with
  | ok rows => exact absurd ⟨rows, hrows⟩ hready
  | error e =>
    unfold ensureInterface at hrows
    split at hrows
    next => cases hrows
    next =>
      split at hrows
      next => cases hrows
      next =>
        cases hrows
        rfl

/-! ### The law -/

private theorem right_of_exhausted (hnet : ipNetwork p.cidr = some net)
    (hrun : allocateMgmtAddress ipNetwork db device mac = .error poolExhausted) :
    AllocationRight ipNetwork db device mac p ↔ Exhausted db p net := by
  constructor
  · intro hright
    exact hright.exhausted hrun net hnet
  · intro hfull
    constructor
    · intro _ net' hnet'
      rw [hnet] at hnet'
      cases hnet'
      exact hfull
    · intro r hr
      rw [hrun] at hr
      cases hr

private theorem right_of_failure {e : Failure} (he : e ≠ poolExhausted)
    (hrun : allocateMgmtAddress ipNetwork db device mac = .error e) :
    AllocationRight ipNetwork db device mac p where
  exhausted h := by
    rw [hrun] at h
    cases h
    exact absurd rfl he
  allocated r hr := by
    rw [hrun] at hr
    cases hr

/-- A success of the first attempt is right when the VRF had not used the host. -/
theorem right_of_allocated (hno : NoMgmtAddress db device) (hnet : ipNetwork p.cidr = some net)
    (h : firstFree db p net = some host) (hrows : ensureInterface db device mac = .ok rows)
    (hrun : allocateMgmtAddress ipNetwork db device mac =
      .ok ⟨{ rows with addresses := rows.addresses ++
        [mgmtAddress (ifaceId device) p targetVrf (host, net.prefixlen)] }, some host, some p,
            targetVrf⟩) :
    AllocationRight ipNetwork db device mac p ↔ ¬ db.UsedIn p.vrfId host := by
  have haddress : _ = [mgmtAddress (ifaceId device) p targetVrf (host, net.prefixlen)] :=
    allocated_address hno hrows (host, net.prefixlen)
  constructor
  · intro hright
    have ⟨_, a, _, hfilter, _, _, hunused⟩ := hright.allocated _ hrun
    rw [haddress] at hfilter
    cases hfilter
    exact hunused
  · intro hunused
    constructor
    · intro hfail
      rw [hrun] at hfail
      cases hfail
    · intro r hr
      rw [hrun] at hr
      cases hr
      apply And.intro (ensureInterface_keeps hrows).2
      exact ⟨_, net, haddress, hnet, (firstFree_free h).1, hunused⟩

/-- A management address is allocated rightly exactly when the first host without a row of the
prefix answers for the VRF. -/
theorem allocateMgmtAddress_right_iff
    (hp : (classifyPrefixRole device.type).bind (managementPrefix db) = some p)
    (hno : NoMgmtAddress db device) :
    AllocationRight ipNetwork db device mac p ↔
      ∀ net, ipNetwork p.cidr = some net → FirstHostDecides db device mac p net := by
  have heq : allocateMgmtAddress ipNetwork db device mac = allocateFrom ipNetwork db device mac p :=
    allocateMgmtAddress_eq hp
  cases hnet : ipNetwork p.cidr with
  | none =>
    have hrun : allocateFrom ipNetwork db device mac p = .error .valueError := by
      simp only [allocateFrom, nextCandidate, nextFreeIpInPrefix, hnet, bind, Except.bind]
    exact iff_of_true (right_of_failure (by decide) (heq.trans hrun)) (fun _ h ↦ nomatch h)
  | some net =>
    suffices hnext : AllocationRight ipNetwork db device mac p ↔
        FirstHostDecides db device mac p net by
      simpa only [Option.some.injEq, forall_eq'] using hnext
    unfold FirstHostDecides
    split
    next hnone => exact right_of_exhausted hnet (heq.trans (allocateFrom_none hnet hnone))
    next host hhost =>
      by_cases hready : InterfaceReady db device mac
      · have ⟨rows, hrows⟩ := hready
        by_cases hused : db.UsedIn p.vrfId host
        · cases hv : db.getVrf p.vrfId with
          | some v =>
            have hrun := allocateFrom_used hno hnet hhost hv (Ipam.getVrf_id hv ▸ hused) hrows
            rw [right_of_exhausted hnet (heq.trans hrun)]
            simp [hused, hready]
          | none =>
            -- an unknown VRF is not asked, and its null column breaks no constraint
            have hrun := allocateFrom_fresh hno hnet hhost (by simp [hv]) hrows
            rw [right_of_allocated hno hnet hhost hrows (heq.trans hrun)]
            simp [hused, hready]
        · have hrun := allocateFrom_fresh hno hnet hhost
              (fun v hv ↦ Ipam.getVrf_id hv ▸ hused) hrows
          rw [right_of_allocated hno hnet hhost hrows (heq.trans hrun)]
          simp [hused]
      · have hrun := allocateFrom_notReady hno hnet hhost hready
        exact iff_of_true (right_of_failure (by decide) (heq.trans hrun)) (fun _ ↦ .inr hready)

end Allocate

/-! ### A full answer of a VRF that is not full -/

/-- A router without a management interface. -/
def edgeRouter : Device where
  id := "edge1"
  type := .edgeRouter

/-- `ip_network` on the text of the seeded core prefix. -/
def coreNetwork (cidr : String) : Option Network :=
  if cidr = "10.252.0.0/24" then
    some ⟨(List.range 254).map fun i ↦ "10.252.0." ++ toString (i + 1), 24⟩
  else none

/-- The seeded core prefix in VRF 1. -/
def corePrefix : Prefix := ⟨1, "10.252.0.0/24", 1, some "core_mgmt"⟩

/-- An address of VRF 1, set by hand and without a prefix. -/
def manualAddress : AddressRow where
  interfaceId := "core1-lo0"
  ip := "10.252.0.1"
  prefixLen := 32
  vrfId := some 1

/-- The seeded tables without any address. -/
def seededTables : Ipam where
  vrfs := [⟨1, "mgmt"⟩]
  prefixes := [corePrefix]

/-- The seeded tables with the address set by hand. -/
def manualTables : Ipam := { seededTables with addresses := [manualAddress] }

/-- An address that an earlier allocation gave out. -/
def allocatedAddress : AddressRow where
  interfaceId := "core1-mgmt0"
  ip := "10.252.0.1"
  prefixLen := 24
  vrfId := some 1
  prefixId := some 1

/-- The seeded tables after an allocation, with an address set by hand at the last host. -/
def allocatedTables : Ipam :=
  { seededTables with addresses := [allocatedAddress, { manualAddress with ip := "10.252.0.254" }] }

/-- After an allocation the next host is free in the VRF, and the rule holds. -/
theorem allocateMgmtAddress_right_seeded :
    AllocationRight coreNetwork allocatedTables edgeRouter "02:55:4e:00:00:00" corePrefix := by
  have hno : NoMgmtAddress allocatedTables edgeRouter := by
    simp [NoMgmtAddress, allocatedTables, allocatedAddress, manualAddress, ifaceId, edgeRouter]
  refine (allocateMgmtAddress_right_iff (by decide) hno).mpr (fun net hnet ↦ ?_)
  obtain rfl := Option.some.inj hnet
  have hfirst : firstFree allocatedTables corePrefix
      ⟨(List.range 254).map fun i ↦ "10.252.0." ++ toString (i + 1), 24⟩ = some "10.252.0.2" := by
    decide +kernel
  rw [FirstHostDecides, hfirst]
  intro hused
  exact absurd hused (by decide)

/-- One address set by hand at the first host: exhaustion is raised with 253 hosts unused. -/
theorem allocateMgmtAddress_exhausted_manual :
    (classifyPrefixRole edgeRouter.type).bind (managementPrefix manualTables) = some corePrefix ∧
      NoMgmtAddress manualTables edgeRouter ∧
      ¬ AllocationRight coreNetwork manualTables edgeRouter "02:55:4e:00:00:00" corePrefix := by
  refine ⟨by decide, by simp [NoMgmtAddress, manualTables, manualAddress, ifaceId, edgeRouter], ?_⟩
  intro hright
  have hrun : allocateMgmtAddress coreNetwork manualTables edgeRouter "02:55:4e:00:00:00" =
      .error poolExhausted := by rfl
  have hused := hright.exhausted hrun _ rfl "10.252.0.2" (by decide +kernel)
  revert hused
  decide

end Unoc.Provisioning
