import Unoc.Base.Frontier
import Unoc.Base.Least
import Unoc.Links.Identity
import Unoc.Model.Rows
import Unoc.Realtime.LinksStore

/-!
# Selection of ports by the client

The interfaces that the client proposes for a new link between two devices;
`unoc-frontend-v2/src/stores/links/create/selection.ts` and `helpers.ts`. A free port is chosen by its
role, and several steps may then put another one in its place: the anchor of an ODF, the preference for
another port than `if0`, the options of an OLT, and last the lock on `if0` of an ODF that is linked to
an OLT.
-/

namespace Unoc.Links.PortSelection

open Unoc.Base
open Model (DeviceType InterfaceRole PortRole AdminStatus)
open Realtime (ClientLink)

/-! ### Devices -/

/-- `IfaceLite`; a field that is `null` or absent has no value. An empty id counts as none everywhere in
the client; `helpers.ts:3–9`. -/
structure IfaceLite where
  id : String
  name : String
  role : Option InterfaceRole
  portRole : Option PortRole
  adminStatus : Option AdminStatus
  id_ne_empty : id ≠ ""

/-- What the selection reads of `DeviceOutX`; `interfaces` may not be loaded. -/
structure Device where
  id : String
  name : String
  type : Option DeviceType
  interfaces : Option (List IfaceLite)

/-- The devices store. -/
abbrev DevicesStore := List Device

namespace DevicesStore

variable (devStore : DevicesStore) (id : String)

/-- A device of the store by its id. -/
def byId : Option Device := devStore.find? (·.id = id)

/-- `devStore.byId(id)?.type`. -/
def typeOf : Option DeviceType := (devStore.byId id).bind (·.type)

/-- `dev?.interfaces || []`. -/
def ifaces : List IfaceLite := ((devStore.byId id).bind (·.interfaces)).getD []

end DevicesStore

namespace IfaceLite

variable (i : IfaceLite)

/-- `helpers.ts:11`. -/
def isMgmt : Bool := i.name = "mgmt0" || i.role = some .management

/-- `helpers.ts:12`. -/
def isUp : Bool := i.adminStatus.getD .up = .up

/-- `toLowerCase` of the characters that have an ASCII letter as their lower case; the Kelvin sign is
one of them. -/
def lowerChar (c : Char) : Char := if c = Char.ofNat 0x212A then 'k' else c.toLower

/-- `helpers.ts:14–21`. -/
def getPortRole : Option PortRole :=
  if i.portRole.isSome then i.portRole
  else if i.role = some .p2pUplink then some .uplink
  else if i.role = some .access then some .access
  else if "uplink".toList <+: i.name.toList.map lowerChar then some .uplink
  else none

/-- Up, not for management, and not in the set of used interfaces. -/
def available (usedIfaces : List String) : Bool :=
  !i.isMgmt && i.isUp && i.id ∉ usedIfaces

end IfaceLite

/-- `isOntFamily`; `helpers.ts:23–24`. -/
def isOntFamily (t : Option DeviceType) : Bool := t = some .ont || t = some .businessOnt

/-- `isPassive`, also written as `passiveSet` and `isPassiveType`; `helpers.ts:26–27`. -/
def isPassive (t : Option DeviceType) : Bool :=
  t = some .odf || t = some .splitter || t = some .nvt || t = some .hop

/-- `isContainerType`; `selection.ts:16`. -/
def isContainerType (t : Option DeviceType) : Bool := t = some .pop || t = some .coreSite

/-- `` `${devId}-if0` ``. -/
def if0Id (devId : String) : String := devId ++ "-if0"

/-! ### Passive paths -/

section

variable (links : List ClientLink) (devStore : DevicesStore)

/-- `adj.get`: the passive devices that links join to a passive device; `helpers.ts:45–57`. -/
def passiveNbrs (id : String) : List String :=
  links.flatMap (fun l ↦
    if isPassive (devStore.typeOf l.aDeviceId) && isPassive (devStore.typeOf l.bDeviceId) then
      (if l.aDeviceId = id then [l.bDeviceId] else []) ++
        (if l.bDeviceId = id then [l.aDeviceId] else [])
    else [])

/-- `hasOltNeighbor`: the other end of the first link to an OLT; `helpers.ts:58–66,103–111`. -/
def hasOltNeighbor (odfId : String) : Option String :=
  ((links.filter (fun l ↦ l.aDeviceId = odfId || l.bDeviceId = odfId)).map
    (fun l ↦ if l.aDeviceId = odfId then l.bDeviceId else l.aDeviceId)).find?
      (fun other ↦ devStore.typeOf other = some .olt)

/-- The devices that the search visits when it finds no OLT, in the order of the queue;
`helpers.ts:67–82`. -/
def passiveSearch (passiveId : String) : List String :=
  Frontier.loop (fun _ id ↦ passiveNbrs links devStore id) (1 + 2 * links.length)
    [passiveId] [passiveId]

/-- The OLT beside the first ODF of the search that has one. -/
def upstreamOlt (passiveId : String) : Option String :=
  (passiveSearch links devStore passiveId).findSome? (fun cur ↦
    if devStore.typeOf cur = some .odf then hasOltNeighbor links devStore cur else none)

/-- `validateOntPassive`; `helpers.ts:31–83`. -/
def validateOntPassive (passiveId : String) : Bool := (upstreamOlt links devStore passiveId).isSome

end

section

variable {links : List ClientLink} {devStore : DevicesStore}

private theorem mem_deviceIds {x y : String} (h : y ∈ passiveNbrs links devStore x) :
    y ∈ links.flatMap (fun l ↦ [l.aDeviceId, l.bDeviceId]) := by
  obtain ⟨l, hl, hy⟩ := List.mem_flatMap.mp h
  refine List.mem_flatMap.mpr ⟨l, hl, ?_⟩
  split at hy
  · grind
  · cases hy

/-- The search visits what passive devices lead to. -/
theorem mem_passiveSearch {start x : String} : x ∈ passiveSearch links devStore start ↔
    Reached (fun u v ↦ v ∈ passiveNbrs links devStore u) [start] x := by
  have hcard : (links.flatMap (fun l ↦ [l.aDeviceId, l.bDeviceId])).toFinset.card ≤
      2 * links.length := by
    have hfin := List.toFinset_card_le (links.flatMap (fun l ↦ [l.aDeviceId, l.bDeviceId]))
    have hlength : (links.flatMap (fun l ↦ [l.aDeviceId, l.bDeviceId])).length =
        links.length * 2 := by
      simp [List.length_flatMap]
    omega
  have hnext : ∀ (_ : Nat) (v w : String),
      w ∈ passiveNbrs links devStore v ↔ w ∈ passiveNbrs links devStore v := fun _ _ _ ↦ Iff.rfl
  have hin : ∀ v w, w ∈ passiveNbrs links devStore v →
      w ∈ (links.flatMap (fun l ↦ [l.aDeviceId, l.bDeviceId])).toFinset :=
    fun v w hw ↦ List.mem_toFinset.mpr (mem_deviceIds hw)
  refine Frontier.mem_loop_iff hnext hin ?_
  rw [List.length_singleton]
  omega

/-- A passive device is below an OLT if passive devices lead from it to an ODF beside one. -/
theorem validateOntPassive_iff {passiveId : String} :
    validateOntPassive links devStore passiveId = true ↔
      ∃ odf, Reached (fun u v ↦ v ∈ passiveNbrs links devStore u) [passiveId] odf ∧
        devStore.typeOf odf = some .odf ∧ (hasOltNeighbor links devStore odf).isSome = true := by
  simp only [validateOntPassive, upstreamOlt, List.findSome?_isSome_iff, mem_passiveSearch]
  refine exists_congr (fun odf ↦ and_congr_right (fun _ ↦ ?_))
  split
  · next hodf => exact ⟨fun h ↦ ⟨hodf, h⟩, fun h ↦ h.2⟩
  · next hodf => exact ⟨fun h ↦ absurd h Bool.false_ne_true, fun h ↦ absurd h.1 hodf⟩

end

/-! ### Choice of a port -/

/-- `Option`; `selection.ts:14`. -/
structure PortOption where
  id : String
  label : String
  deriving DecidableEq, Repr

/-- `buildUsedInterfaceSet`; `selection.ts:18–25`. -/
def buildUsedInterfaceSet (links : List ClientLink) : List String :=
  links.flatMap (fun l ↦ [l.aInterfaceId, l.bInterfaceId].filter (· ≠ ""))

/-- `rank`; `selection.ts:35–48`. -/
def rank (usedIfaces : List String) (i : IfaceLite) : Nat :=
  let pr := i.getPortRole
  let unused := i.id ∉ usedIfaces
  let legacyP2P := i.role = some .p2pUplink
  let legacyAccess := i.role = some .access
  if unused ∧ pr = some .uplink then 0
  else if unused ∧ pr = some .access then 1
  else if unused ∧ pr = some .trunk then 2
  else if unused ∧ (legacyP2P ∨ legacyAccess) then 3
  else if pr = some .uplink then 4
  else if pr = some .access then 5
  else if pr = some .trunk then 6
  else if legacyP2P ∨ legacyAccess then 7
  else 9

section

variable (devStore : DevicesStore)

/-- The interfaces of a device that are free. -/
def candidates (devId : String) (usedIfaces : List String) : List IfaceLite :=
  (devStore.ifaces devId).filter (·.available usedIfaces)

/-- `pickInterface`; `selection.ts:27–58`. -/
def pickInterface (devId : String) (usedIfaces : List String) : String :=
  let ifaces := devStore.ifaces devId
  match leastBy (rank usedIfaces) (candidates devStore devId usedIfaces) with
  | some i => i.id
  | none =>
    match ifaces.find? (fun i ↦ i.id = if0Id devId && i.isUp && i.id ∉ usedIfaces) with
    | some if0 => if0.id
    | none =>
      match ifaces.find? (·.available usedIfaces) with
      | some anyAvail => anyAvail.id
      | none => if0Id devId

/-- `pickWithRole`; `selection.ts:60–72`. -/
def pickWithRole (devId : String) (usedIfaces : List String) (preferred : PortRole) : String :=
  match (candidates devStore devId usedIfaces).find? (·.getPortRole = some preferred) with
  | some i => i.id
  | none => pickInterface devStore devId usedIfaces

/-- The interfaces at the two ends. -/
structure Ends where
  aIface : String
  bIface : String
  deriving DecidableEq, Repr

/-- `isOltOdf`. -/
def isOltOdf (x y : Option DeviceType) : Bool := x = some .olt && y = some .odf

/-- `odfSide`, the ODF of an OLT and an ODF. -/
def odfSide (aType bType : Option DeviceType) (aDeviceId bDeviceId : String) : Option String :=
  if isOltOdf aType bType then some bDeviceId
  else if isOltOdf bType aType then some aDeviceId
  else none

/-- The assignment to the interface of one side. -/
def Ends.assign (e : Ends) (aDeviceId side iface : String) : Ends :=
  if side = aDeviceId then { e with aIface := iface } else { e with bIface := iface }

/-- `anchorOdfIf0ForOltPair`; `selection.ts:74–99`. -/
def anchorOdfIf0ForOltPair (usedIfaces : List String) (aType bType : Option DeviceType)
    (aDeviceId bDeviceId : String) (e : Ends) : Ends :=
  match odfSide aType bType aDeviceId bDeviceId with
  | none => e
  | some side =>
    let list := devStore.ifaces side
    if list.any (fun i ↦ i.id = if0Id side && i.isUp && i.id ∉ usedIfaces) then
      e.assign aDeviceId side (if0Id side)
    else e

/-- The first interface of a device other than `if0` that is up and unused. -/
def nonIf0 (devId : String) (usedIfaces : List String) : Option IfaceLite :=
  ((devStore.ifaces devId).filter (fun i ↦ i.isUp && i.id ∉ usedIfaces)).find?
    (fun i ↦ i.id ≠ if0Id devId)

/-- `preferNonIf0ForOdfIfOntPassive`; `selection.ts:101–132`. -/
def preferNonIf0ForOdfIfOntPassive (usedIfaces : List String) (aType bType : Option DeviceType)
    (aDeviceId bDeviceId : String) (e : Ends) : Ends :=
  let odfDeviceId :=
    if isPassive aType && isOntFamily bType then some aDeviceId
    else if isPassive bType && isOntFamily aType then some bDeviceId
    else none
  match odfDeviceId with
  | none => e
  | some side =>
    match nonIf0 devStore side usedIfaces with
    | some i => e.assign aDeviceId side i.id
    | none => e

/-- The interfaces that are offered beside a selected one: those with its port role, else those with its
role, else all that are free, else `if0`; `selection.ts:141–153`. -/
def sameRole (devId : String) (sel : Option IfaceLite) (usedIfaces : List String) :
    List IfaceLite :=
  let list := devStore.ifaces devId
  let selectedPortRole := sel.bind (·.getPortRole)
  let avail := candidates devStore devId usedIfaces
  let byPortRole := avail.filter (·.getPortRole = selectedPortRole)
  let byRole := avail.filter (fun i ↦
    (sel.bind (·.role)).isSome && i.role = sel.bind (·.role))
  if byPortRole ≠ [] then byPortRole
  else if byRole ≠ [] then byRole
  else if avail ≠ [] then avail
  else
    (list.find? (fun i ↦ i.id = if0Id devId && i.isUp && i.id ∉ usedIfaces)).toList

/-- An interface as an option of the selection. -/
def toOption (i : IfaceLite) : PortOption := ⟨i.id, i.name⟩

/-- The options of these, with the selected interface in front if it is free and not one of them;
`selection.ts:154–159`. -/
def withSelected (devId : String) (sel : Option IfaceLite) (usedIfaces : List String) :
    List PortOption :=
  let opts := (sameRole devStore devId sel usedIfaces).map toOption
  match sel with
  | some i =>
    if opts.all (·.id ≠ i.id) && i.available usedIfaces then toOption i :: opts else opts
  | none => opts

/-- `getOptions`; `selection.ts:134–165`. -/
def getOptions (devId selectedId : String) (usedIfaces : List String) : List PortOption :=
  let sel := (devStore.ifaces devId).find? (·.id = selectedId)
  let opts := withSelected devStore devId sel usedIfaces
  if opts = [] then [⟨if0Id devId, "if0"⟩] else opts

/-- `filterPONForOLT`; `selection.ts:167–189`. -/
def filterPONForOLT (links : List ClientLink) (devId : String) (opts : List PortOption) :
    List PortOption :=
  let ponPorts := ((devStore.ifaces devId).filter (·.portRole = some .pon)).map (·.id)
  let linkedPon := links.flatMap (fun l ↦
    (if l.aDeviceId = devId && l.aInterfaceId ∈ ponPorts then [l.aInterfaceId] else []) ++
      (if l.bDeviceId = devId && l.bInterfaceId ∈ ponPorts then [l.bInterfaceId] else []))
  let ponSet := ponPorts.filter (· ∉ linkedPon)
  if ponSet = [] then opts else opts.filter (·.id ∈ ponSet)

/-- `annotatePassiveOptionsViaOlt`; `helpers.ts:85–144`. -/
def annotatePassiveOptionsViaOlt (links : List ClientLink) (passiveId : String)
    (opts : List PortOption) : List PortOption :=
  match upstreamOlt links devStore passiveId with
  | none => opts
  | some oltId =>
    let oltName := Realtime.orText (((devStore.byId oltId).map (·.name)).getD "") oltId
    opts.map (fun o ↦ ⟨o.id, o.label ++ " • via OLT " ++ oltName⟩)

end

/-- What `computeSelections` returns, besides the two types; `selection.ts:280–287`. -/
structure Selections extends Ends where
  aOptions : List PortOption
  bOptions : List PortOption
  deriving DecidableEq, Repr

/-- `lockOdfOptionsForOltPair`; `selection.ts:191–213`. -/
def lockOdfOptionsForOltPair (aType bType : Option DeviceType) (aDeviceId bDeviceId : String)
    (s : Selections) : Selections :=
  match odfSide aType bType aDeviceId bDeviceId with
  | none => s
  | some side =>
    let anchor := if0Id side
    if side = aDeviceId then { s with aIface := anchor, aOptions := [⟨anchor, "if0"⟩] }
    else { s with bIface := anchor, bOptions := [⟨anchor, "if0"⟩] }

/-- The selected port, or the first of the options where it is not one of them;
`selection.ts:361–366`. -/
def snap (iface : String) (opts : List PortOption) : String :=
  match opts with
  | [] => iface
  | o :: _ => if opts.any (·.id = iface) then iface else o.id

/-- `phase1GuardsOk`; the flag is `GPON_ODF_AGG_PHASE1`; `selection.ts:215–273`. -/
def phase1GuardsOk (isPhase1Enabled : Bool) (links : List ClientLink) (devStore : DevicesStore)
    (aDeviceId bDeviceId : String) (aType bType : Option DeviceType) : Bool :=
  if !isPhase1Enabled then true
  else if aType = some .olt && isOntFamily bType || bType = some .olt && isOntFamily aType then false
  else if aType = some .olt && bType ≠ some .odf || bType = some .olt && aType ≠ some .odf then false
  else if isOntFamily aType && !isPassive bType then false
  else if isOntFamily bType && !isPassive aType then false
  else if isOntFamily aType && isPassive bType && bType ≠ some .odf &&
      !validateOntPassive links devStore bDeviceId then false
  else if isOntFamily bType && isPassive aType && aType ≠ some .odf &&
      !validateOntPassive links devStore aDeviceId then false
  else true

/-! ### The selection -/

section

variable (devStore : DevicesStore) (links : List ClientLink) (aDeviceId bDeviceId : String)

/-- `isOntOrPassive`. -/
def isOntOrPassive (t : Option DeviceType) : Bool := isOntFamily t || isPassive t

/-- The ports chosen by role; `selection.ts:290–322`. -/
def initialEnds (usedIfaces : List String) (aType bType : Option DeviceType) : Ends :=
  let pick := fun devId ↦ pickInterface devStore devId usedIfaces
  let pickRole := fun devId preferred ↦ pickWithRole devStore devId usedIfaces preferred
  if aType = some .aonCpe ∧ bType = some .aonSwitch ∨
      bType = some .aonCpe ∧ aType = some .aonSwitch then
    { aIface := if aType = some .aonSwitch then pickRole aDeviceId .access else pick aDeviceId
      bIface := if bType = some .aonSwitch then pickRole bDeviceId .access else pick bDeviceId }
  else if aType = some .olt ∧ isOntOrPassive bType ∨ bType = some .olt ∧ isOntOrPassive aType then
    { aIface := if aType = some .olt then pickRole aDeviceId .pon else pick aDeviceId
      bIface := if bType = some .olt then pickRole bDeviceId .pon else pick bDeviceId }
  else { aIface := pick aDeviceId, bIface := pick bDeviceId }

/-- The options of an OLT are its free PON ports, and its port is one of them;
`selection.ts:354–367`. -/
def restrictToPon (aType bType : Option DeviceType) (s : Selections) : Selections :=
  if aType = some .olt && isOntOrPassive bType || bType = some .olt && isOntOrPassive aType then
    let aOptions :=
      if aType = some .olt then filterPONForOLT devStore links aDeviceId s.aOptions else s.aOptions
    let bOptions :=
      if bType = some .olt then filterPONForOLT devStore links bDeviceId s.bOptions else s.bOptions
    { aIface := if aType = some .olt then snap s.aIface aOptions else s.aIface
      bIface := if bType = some .olt then snap s.bIface bOptions else s.bIface
      aOptions := aOptions
      bOptions := bOptions }
  else s

/-- The ports before the options; `selection.ts:288–341`. -/
def preferredEnds (usedIfaces : List String) (aType bType : Option DeviceType) : Ends :=
  let e := initialEnds devStore aDeviceId bDeviceId usedIfaces aType bType
  let e := anchorOdfIf0ForOltPair devStore usedIfaces aType bType aDeviceId bDeviceId e
  preferNonIf0ForOdfIfOntPassive devStore usedIfaces aType bType aDeviceId bDeviceId e

/-- The ports with their options; `selection.ts:343–367`. -/
def portsWithOptions (usedIfaces : List String) (aType bType : Option DeviceType) : Selections :=
  let e := preferredEnds devStore aDeviceId bDeviceId usedIfaces aType bType
  let s : Selections :=
    { aIface := e.aIface
      bIface := e.bIface
      aOptions := getOptions devStore aDeviceId e.aIface usedIfaces
      bOptions := getOptions devStore bDeviceId e.bIface usedIfaces }
  let s := lockOdfOptionsForOltPair aType bType aDeviceId bDeviceId s
  restrictToPon devStore links aDeviceId bDeviceId aType bType s

/-- `computeSelections`; `selection.ts:275–381`. -/
def computeSelections : Selections :=
  let aType := devStore.typeOf aDeviceId
  let bType := devStore.typeOf bDeviceId
  let usedIfaces := buildUsedInterfaceSet links
  let s := portsWithOptions devStore links aDeviceId bDeviceId usedIfaces aType bType
  if isPassive aType && isOntFamily bType then
    { s with aOptions := annotatePassiveOptionsViaOlt devStore links aDeviceId s.aOptions }
  else if isPassive bType && isOntFamily aType then
    { s with bOptions := annotatePassiveOptionsViaOlt devStore links bDeviceId s.bOptions }
  else s

end

end Unoc.Links.PortSelection
