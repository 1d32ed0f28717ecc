import Unoc.Links.Batch

/-!
# Changing and deleting links

`update_link_impl`, `set_link_override_impl` and `delete_link_impl` of
`backend/api/endpoints/links_helpers_update.py`, `links_helpers_override.py` and
`links_helpers_delete.py`, up to their commits. What happens after the commit (notifications and
recomputations) is left out.
-/

namespace Unoc.Links

open Unoc.Model
open Unoc.EventStore

variable (env : Runtime)

/-! ### Rows -/

/-- The rows without a link; `s.delete(link)`. -/
def removeLink (id : String) (db : Database) : Database :=
  { db with
    links := db.links.filter (fun l ↦ l.id ≠ id)
    links_nodup := (List.filter_sublist.map _).nodup db.links_nodup }

/-- Assignments to the attributes of a link that leave its id alone. -/
structure LinkAssignment where
  set : Link → Link
  id_set : ∀ l, (set l).id = l.id

/-- The rows with assignments to one link. -/
def assignLink (id : String) (f : LinkAssignment) (db : Database) : Database :=
  { db with
    links := db.links.map (fun l ↦ if l.id = id then f.set l else l)
    links_nodup := by
      rw [List.map_map, List.map_congr_left (g := Link.id)]
      · exact db.links_nodup
      · intro l _
        dsimp only [Function.comp_apply]
        split
        · exact f.id_set l
        · rfl }

/-- A domain event and the change of the rows in one transaction. -/
def commitWith (eventType entityId : String) (payload : Payload) (change : Database → Database)
    (store : Store) : Except LinkError Store :=
  match appendDomainEvent env eventType entityId payload store with
  | none => .error .database
  | some rows => .ok { rows with db := change rows.db }

/-! ### Deletion -/

/-- The text of a value that may be missing. -/
def textOrNone (text : Option String) : String := text.getD "None"

/-- `delete_link_impl`; `links_helpers_delete.py:21–50`. -/
def deleteLinkImpl (store : Store) (linkId : String) : Except LinkError Store :=
  match store.db.getLink linkId with
  | none => .error (.http 404 "Not found")
  | some link =>
    commitWith env "LINK_DELETED" linkId
      [("a_interface_id", textOrNone ((store.db.getInterface link.aInterfaceId).map Interface.id)),
        ("b_interface_id", textOrNone ((store.db.getInterface link.bInterfaceId).map Interface.id))]
      (removeLink linkId) store

/-! ### Updates -/

/-- `LinkUpdate`: a field that is not set is `none`, one that is set to `null` is `some none`;
`schemas.py:232–237`. -/
structure LinkUpdate where
  status : Option (Option Status) := none
  adminOverrideStatus : Option (Option Status) := none
  lengthKm : Option (Option ℚ) := none
  physicalMediumId : Option (Option Int) := none
  deriving DecidableEq, Repr

/-- `sorted(data.keys())`. -/
def LinkUpdate.changedFields (u : LinkUpdate) : List String :=
  (if u.adminOverrideStatus.isSome then ["admin_override_status"] else []) ++
    (if u.lengthKm.isSome then ["length_km"] else []) ++
    (if u.physicalMediumId.isSome then ["physical_medium_id"] else []) ++
    (if u.status.isSome then ["status"] else [])

/-- `setattr` of every field that is set; `links_helpers_update.py:89–90`. -/
def LinkUpdate.assignment (u : LinkUpdate) : LinkAssignment where
  set l := { l with
    status := (u.status.join).getD l.status
    adminOverrideStatus := u.adminOverrideStatus.getD l.adminOverrideStatus
    lengthKm := u.lengthKm.getD l.lengthKm
    physicalMediumId := u.physicalMediumId.getD l.physicalMediumId }
  id_set _ := rfl

/-- The device of the interface with an id. -/
def deviceOfInterface (db : Database) (interfaceId : String) : Option Device :=
  (db.getInterface interfaceId).bind (fun i ↦ db.getDevice i.deviceId)

/-- The length that is set is not negative; `links_helpers_update.py:35–36`. -/
def checkNewLength (u : LinkUpdate) : Except LinkError Unit :=
  failIf (u.lengthKm.join.any (fun km ↦ km < 0)) (.http 400 "length_km must be >= 0")

/-- The medium that is set exists; `links_helpers_update.py:37–39`. -/
def checkNewMediumExists (u : LinkUpdate) (db : Database) : Except LinkError Unit :=
  failIf (u.physicalMediumId.join.any (fun id ↦ (db.getPhysicalMedium id).isNone))
    (.http 400 "Invalid physical_medium_id")

/-- The medium that is set fits the class of the link, if both devices are there;
`links_helpers_update.py:60–80`. -/
def checkNewMedium (u : LinkUpdate) (link : Link) (db : Database) : Except LinkError Unit :=
  match u.physicalMediumId.join, deviceOfInterface db link.aInterfaceId,
    deviceOfInterface db link.bInterfaceId with
  | some id, some aDev, some bDev => do
    let cls := classify aDev.type bDev.type
    failIf (!cls.allowed) (raiseError .invalidLinkType cls.ruleId)
    match db.getPhysicalMedium id with
    | none => .error (.http 400 "Invalid physical_medium_id")
    | some medium =>
      let allowed := cls.linkClass.allowedMediaCodes
      failIf (allowed ≠ [] && medium.code ∉ allowed)
        (.http 400 ("Physical medium '" ++ medium.code ++ "' not allowed for link class '" ++
          cls.linkClass.name ++ "' (rule " ++ cls.ruleId ++ ")"))
  | _, _, _ => .ok ()

/-- `update_link_impl`. The column `status` takes no `null`; `links_helpers_update.py:28–92`. -/
def updateLinkImpl (store : Store) (linkId : String) (u : LinkUpdate) : Except LinkError Store :=
  match store.db.getLink linkId with
  | none => .error (.http 404 "Not found")
  | some link => do
    checkNewLength u
    checkNewMediumExists u store.db
    checkNewMedium u link store.db
    failIf (u.status = some none) .database
    commitWith env "LINK_UPDATED" link.id [("changed_fields", toString u.changedFields)]
      (assignLink linkId u.assignment) store

/-! ### Overrides -/

/-- The values of `Status` that the endpoint takes; `links_helpers_override.py:38–42`. -/
def overrideStatus : String → Option Status
  | "UP" => some .up
  | "DOWN" => some .down
  | "DEGRADED" => some .degraded
  | _ => none

/-- The override of a link. -/
def overrideAssignment (value : Option Status) : LinkAssignment where
  set l := { l with adminOverrideStatus := value }
  id_set _ := rfl

/-- `set_link_override_impl` for the value in the body; `links_helpers_override.py:22–55`. -/
def setLinkOverrideImpl (store : Store) (linkId : String) (newVal : Option String) :
    Except LinkError Store :=
  match store.db.getLink linkId with
  | none => .error (.http 404 "Not found")
  | some link => do
    failIf (newVal.any (fun v ↦ (overrideStatus v).isNone)) (.http 400 "Invalid override status")
    commitWith env "LINK_UPDATED" link.id
      [("field", "admin_override_status"), ("admin_override_status", textOrNone newVal)]
      (assignLink linkId (overrideAssignment (newVal.bind overrideStatus))) store

end Unoc.Links
