import Unoc.Links.Identity
import Unoc.Links.OpticalPolicy
import Unoc.Links.Session

/-!
# Creating one link

`create_link_impl` of `backend/api/endpoints/links_helpers_create.py` with the helpers of
`backend/services/links_service.py` and `backend/utils.py`. The batch endpoint repeats parts of it
with texts of its own, so that the steps take their texts as parameters. What happens after the
commit (notifications and recomputations) is left out.
-/

namespace Unoc.Links

open Unoc.Model
open Unoc.EventStore
open Unoc.Status (passiveInline ontClass matchEither classifyLink allowedMediaCodesForClass)

/-- `LinkCreate`; `schemas.py:213–223`. -/
structure LinkCreate where
  id : String
  aInterfaceId : String
  bInterfaceId : String
  status : Status := .up
  adminOverrideStatus : Option Status := none
  lengthKm : Option ℚ := none
  physicalMediumId : Option Int := none
  deriving DecidableEq, Repr

/-- The texts in which the two endpoints differ. -/
structure Details where
  interfaceNotFound : String
  oltOntDirect : String
  notOdf : String
  mediumSuffix : LinkClassification → String

/-- The texts of `create_link_impl`; `links_helpers_create.py:89–91,119–131,190–196`. -/
def createDetails : Details where
  interfaceNotFound := "Interface not found (and auto-create failed)"
  oltOntDirect := "Direct OLT↔ONT links are not allowed. Connect via an ODF."
  notOdf := "ODF must connect upstream to an OLT PON-port, not "
  mediumSuffix cls := " (rule " ++ cls.ruleId ++ ")"

variable (d : Details) (env : Runtime) (p : LinkCreate)

/-! ### Devices -/

/-- The part before the last dash: `iid.rsplit("-", 1)`. -/
def beforeLastDash (iid : String) : Option String :=
  if '-' ∈ iid.toList then
    some (String.ofList ((iid.toList.reverse.dropWhile (fun c ↦ c ≠ '-')).drop 1).reverse)
  else none

/-- `_dev_from_iface_id`; `links_helpers_create.py:47–64`. -/
def devFromIfaceId (db : Database) (iid : String) : Option String :=
  match db.getInterface iid with
  | some iface => some iface.deviceId
  | none =>
    if isDefault iid then some (deriveDev iid)
    else (beforeLastDash iid).filter (fun devPart ↦ (db.getDevice devPart).isSome)

/-- The device behind an interface id; an empty device id counts as none. -/
def deviceFor (db : Database) (iid : String) : Option Device :=
  ((devFromIfaceId db iid).filter (fun id ↦ id ≠ "")).bind db.getDevice

/-- The devices at both ends; `links_helpers_create.py:85–92`. -/
def resolveDevices (detail : String) (db : Database) : Except LinkError (Device × Device) :=
  match deviceFor db p.aInterfaceId, deviceFor db p.bInterfaceId with
  | some aDev, some bDev => .ok (aDev, bDev)
  | _, _ => .error (.http 400 detail)

/-! ### Checks -/

/-- The id is not taken; `links_helpers_create.py:81–83`. -/
def checkIdFree (db : Database) : Except LinkError Unit :=
  failIf (db.getLink p.id).isSome (.http 409 "Link already exists")

/-- `links_helpers_create.py:70–71`. -/
def checkEndpointsDiffer : Except LinkError Unit :=
  failIf (p.aInterfaceId = p.bInterfaceId) (.http 400 "Endpoints must differ")

/-- The checks on the two devices, up to the placement of an ONT; `links_helpers_create.py:93–139`. -/
def checkPairing (aDev bDev : Device) (db : Database) : Except LinkError Unit := do
  failIf (aDev.type = .pop || bDev.type = .pop) (raiseError .popLinkDisallowed "POP container endpoint")
  let cls := classify aDev.type bDev.type
  failIf (!cls.allowed) (raiseError .invalidLinkType cls.ruleId)
  failIf (aDev.type = .odf && bDev.type = .odf)
    (raiseError .linkInvalidPairing "Direct ODF↔ODF links (cascades) are not supported.")
  failIf (matchEither (· = .olt) ontClass aDev.type bDev.type)
    (raiseError .linkInvalidPairing d.oltOntDirect)
  let other := if aDev.type = .olt then bDev else aDev
  failIf ((aDev.type = .olt || bDev.type = .olt) &&
      (passiveInline other.type || ontClass other.type) && other.type ≠ .odf)
    (raiseError .linkInvalidUpstream (d.notOdf ++ typeName other.type))
  enforceOntPlacementRules db aDev bDev p.aInterfaceId p.bInterfaceId

/-- `links_helpers_create.py:163–164`. -/
def checkLength : Except LinkError Unit :=
  failIf (p.lengthKm.any (fun km ↦ km < 0)) (.http 400 "length_km must be >= 0")

/-- `links_helpers_create.py:165–167`. -/
def checkMediumExists (db : Database) : Except LinkError Unit :=
  failIf (p.physicalMediumId.any (fun id ↦ (db.getPhysicalMedium id).isNone))
    (.http 400 "Invalid physical_medium_id")

/-! ### Interfaces -/

/-- `ensure_default_interface`; `utils.py:14–34`. -/
def ensureDefaultInterface (interfaceId : String) : Tx (Option Interface) := do
  match ← Tx.query (fun db ↦ .ok (db.getInterface interfaceId)) with
  | some iface => pure (some iface)
  | none =>
    if isDefault interfaceId then
      match ← Tx.query (fun db ↦ .ok (db.getDevice (deriveDev interfaceId))) with
      | some dev =>
        Tx.add (insertInterface ⟨interfaceId, dev.id, "if0", none, .up, none, none, none⟩)
        pure (some ⟨interfaceId, dev.id, "if0", none, .up, none, none, none⟩)
      | none => pure none
    else pure none

/-- The interfaces at both ends, created if need be; `links_helpers_create.py:142–149`. -/
def openInterfaces (detail : String) : Tx (Interface × Interface) := do
  let aIf ← ensureDefaultInterface p.aInterfaceId
  let bIf ← ensureDefaultInterface p.bInterfaceId
  match aIf, bIf with
  | some aIf, some bIf =>
    Tx.check (failIf (aIf.name = "mgmt0" || bIf.name = "mgmt0")
      (raiseError .invalidLinkType "management interface"))
    pure (aIf, bIf)
  | _, _ => Tx.check (.error (.http 400 detail))

/-- The ids that the id of a link may be. -/
def hasCanonicalId : Bool :=
  let ids := canonicalLinkId p.aInterfaceId p.bInterfaceId
  p.id = ids.canonicalId || p.id = ids.userOrderId

/-- The error for any other id. -/
def notCanonical : LinkError :=
  .http 400 ("Link id not canonical; expected '" ++
    (canonicalLinkId p.aInterfaceId p.bInterfaceId).canonicalId ++ "'")

/-- `links_helpers_create.py:153–160`. -/
def checkCanonicalId : Tx Unit :=
  if hasCanonicalId p then pure ()
  else do
    Tx.query (checkIdFree p)
    Tx.check (.error (notCanonical p))

/-! ### Media -/

/-- The media of `ensure_physical_media`: code, kind and range; `seed_service.py:48–55`. -/
def canonicalMedia : List (String × String × Option ℚ) := [
  ("SMF_G652D", "optical", none),
  ("SMF_G657A1", "optical", none),
  ("SMF_G657A2", "optical", none),
  ("MMF_OM3", "optical", none),
  ("MMF_OM4", "optical", none),
  ("CAT6A_UTP", "copper", some (1 / 10))]

/-- The next row id of a table with an integer key. -/
def nextMediumId (media : List PhysicalMedium) : Int :=
  ((media.map PhysicalMedium.id).max?.getD 0) + 1

/-- `ensure_physical_media`: add the canonical media whose code is missing; `seed_service.py:46–61`. -/
def ensurePhysicalMedia (store : Store) : Store :=
  let existing := store.db.physicalMedia.map PhysicalMedium.code
  let media := canonicalMedia.foldl (fun media (code, kind, maxKm) ↦
    if code ∈ existing then media
    else media ++ [⟨nextMediumId media, code, kind, maxKm⟩]) store.db.physicalMedia
  { store with db := { store.db with physicalMedia := media } }

/-- The id of the medium with a code. -/
def mediumIdOfCode (db : Database) (code : String) : Option Int :=
  (db.physicalMedia.find? (fun m ↦ m.code = code)).map PhysicalMedium.id

/-- `pick_default_physical_medium_id`: one of the codes of the class by the hash of the link id,
else `SMF_G652D`; `links_service.py:40–77`. -/
def pickDefaultPhysicalMediumId (aDev bDev : Device) : Tx (Option Int) := do
  let codes := (allowedMediaCodesForClass (classifyLink aDev.type bDev.type)).insertionSort (· ≤ ·)
  Tx.query (fun _ ↦ .ok ())
  Tx.add (fun store ↦ some (ensurePhysicalMedia store))
  Tx.query (fun db ↦ .ok
    ((codes[env.md5 p.id % codes.length]?.bind (mediumIdOfCode db)).or (mediumIdOfCode db "SMF_G652D")))

/-- `selected_pm_id`; `links_helpers_create.py:177–179`. -/
def selectMedium (aDev bDev : Device) : Tx (Option Int) :=
  if p.physicalMediumId.isNone then pickDefaultPhysicalMediumId env p aDev bDev else pure none

/-- The medium of a link exists and fits the class; `links_helpers_create.py:181–196`. -/
def checkMedium (cls : LinkClassification) (selected : Option Int) (db : Database) :
    Except LinkError Unit :=
  match p.physicalMediumId.or selected with
  | none => .ok ()
  | some id =>
    match db.getPhysicalMedium id with
    | none => .error (.http 400 "Invalid physical_medium_id")
    | some medium =>
      let allowed := cls.linkClass.allowedMediaCodes
      failIf (allowed ≠ [] && medium.code ∉ allowed)
        (.http 400 ("Physical medium '" ++ medium.code ++ "' not allowed for link class '" ++
          cls.linkClass.name ++ "'" ++ d.mediumSuffix cls))

/-- `round(km, 3)` for a length that is not negative. -/
def roundMetres (km : ℚ) : ℚ := ((km * 1000 + 1 / 2).floor : ℚ) / 1000

/-- `derive_default_length_km`; `links_service.py:80–99`. -/
def deriveDefaultLengthKm (db : Database) (linkId : String) (mediumId : Int) : Option ℚ :=
  (db.getPhysicalMedium mediumId).map (fun medium ↦
    match medium.maxRangeKm with
    | some range =>
      if medium.kind ≠ "optical" then roundMetres (range * 8 / 10)
      else (11 + (env.md5 (linkId ++ ":len") % 190 : Nat)) / 100
    | none => (11 + (env.md5 (linkId ++ ":len") % 190 : Nat)) / 100)

/-- `derived_length`, where an id of zero counts as none; `links_helpers_create.py:199–202`. -/
def derivedLength (selected : Option Int) (db : Database) : Option ℚ :=
  p.lengthKm.or (((selected.filter (· ≠ 0)).or (p.physicalMediumId.filter (· ≠ 0))).bind
    (deriveDefaultLengthKm env db p.id))

/-! ### The link -/

/-- `str(kind)`. -/
def kindText : LinkType → String
  | .fiber => "LinkType.FIBER"
  | .p2p => "LinkType.P2P"
  | .mgmt => "LinkType.MGMT"

/-- The row of a link; `links_helpers_create.py:174,208–221`. -/
def linkRow (cls : LinkClassification) (selected : Option Int) (lengthKm : Option ℚ) : Link where
  id := p.id
  aInterfaceId := (canonicalLinkId p.aInterfaceId p.bInterfaceId).aId
  bInterfaceId := (canonicalLinkId p.aInterfaceId p.bInterfaceId).bId
  status := p.status
  kind := if cls.linkClass = .shared .routedP2p then .p2p else .fiber
  adminOverrideStatus := p.adminOverrideStatus
  lengthKm := lengthKm
  physicalMediumId := p.physicalMediumId.or selected

/-- The event of a link; `links_helpers_create.py:232–242`. -/
def linkCreatedPayload (cls : LinkClassification) (l : Link) : Payload := [
  ("a_interface_id", l.aInterfaceId),
  ("b_interface_id", l.bInterfaceId),
  ("kind", kindText l.kind),
  ("rule_id", cls.ruleId)]

/-- From the port of the OLT to the row of the link; `links_helpers_create.py:170–243`. -/
def finishLink (aDev bDev : Device) (aIf bIf : Interface) : Tx Link := do
  let cls := classify aDev.type bDev.type
  Tx.query (fun db ↦ enforcePonRoleIfDeclared db aDev bDev aIf bIf)
  Tx.query (fun db ↦ enforceSingleUpstreamRules db aDev bDev)
  let selected ← selectMedium env p aDev bDev
  Tx.query (checkMedium d p cls selected)
  let lengthKm ← Tx.query (fun db ↦ .ok (derivedLength env p selected db))
  let link := linkRow p cls selected lengthKm
  -- the queries after `ensure_default_interface` have flushed its interfaces, so that `s.new` holds
  -- none of them and no PORT_CONNECTED event is written
  Tx.add (appendDomainEvent env "LINK_CREATED" link.id (linkCreatedPayload cls link))
  Tx.add (insertLink link)
  pure link

/-- The statements of `create_link_impl` before its commit; `links_helpers_create.py:68–243`. -/
def createLink : Tx Link := do
  Tx.check (checkEndpointsDiffer p)
  Tx.query (checkIdFree p)
  let (aDev, bDev) ← Tx.query (resolveDevices p createDetails.interfaceNotFound)
  Tx.query (checkPairing createDetails p aDev bDev)
  let (aIf, bIf) ← openInterfaces p createDetails.interfaceNotFound
  checkCanonicalId p
  Tx.check (checkLength p)
  Tx.query (checkMediumExists p)
  finishLink createDetails env p aDev bDev aIf bIf

/-- `create_link_impl`: an error rolls the session back; `links_helpers_create.py:68–370`. -/
def createLinkImpl (store : Store) (p : LinkCreate) : Except LinkError Store :=
  match createLink env p ⟨store, false⟩ with
  | (.ok _, s) => if s.lost then .error (.http 409 "Link already exists") else .ok s.rows
  | (.error e, _) => .error e

/-! ### A small network -/

/-- An OLT, an ODF, a splitter with one OUT port, and two ONTs. -/
def accessNetwork : Store where
  db :=
    { devices := [{ id := "olt", type := .olt }, { id := "odf", type := .odf },
        { id := "split", type := .splitter }, { id := "ont1", type := .ont },
        { id := "ont2", type := .ont }]
      interfaces := [{ id := "split-in", deviceId := "split", name := "in" },
        { id := "split-out1", deviceId := "split", name := "out1" }]
      links := []
      physicalMedia := [{ id := 1, code := "SMF_G652D", kind := "optical" }]
      links_nodup := List.nodup_nil }

/-- A request for a link of one kilometre of the first medium. -/
def linkRequest (aInterfaceId bInterfaceId : String) : LinkCreate where
  id := (canonicalLinkId aInterfaceId bInterfaceId).userOrderId
  aInterfaceId := aInterfaceId
  bInterfaceId := bInterfaceId
  lengthKm := some 1
  physicalMediumId := some 1

/-- A clock and a hash that are constant. -/
def constantRuntime : Runtime := ⟨fun _ ↦ 0, fun _ ↦ ""⟩

end Unoc.Links
