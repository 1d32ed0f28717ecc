import Unoc.Base.FirstGoal
import Unoc.Optical.PathResolver
import Unoc.Provisioning.ManagementAddress

/-!
# What may be provisioned

The checks of `provision_device` and the helpers of `backend/services/provisioning_dependency.py`: a
search from an ONT over passive devices and OLTs to a provisioned OLT, the direct link of an AON CPE
to a provisioned switch, the direct link of an OLT to a router, and the upstream of an AON switch. The
checks succeed exactly for devices that stand in these relations to the rows. The caches behind the
upstream evaluation are left out.
-/

namespace Unoc.Provisioning

open Unoc.Base Unoc.Model Unoc.Status
open Unoc.Optical (PathResolver.buildOpticalGraph PathResolver.Graph)
open Relation (ReflTransGen)

/-! ### Searching the optical graph -/

/-- `_provisioned_upstream_available`; `provisioning_dependency.py:29–34`. -/
def provisionedUpstreamAvailable (device : Option Device) : Bool :=
  device.any (fun d ↦ d.provisioned && d.adminOverrideStatus ≠ some .down)

/-- The body of the neighbour loop; `provisioning_dependency.py:55–59`. -/
def visitNeighbor (path : List String) (st : List (String × List String) × List String) (nb : String) :
    List (String × List String) × List String :=
  if nb ∈ st.2 then st else (st.1 ++ [(nb, path ++ [nb])], st.2 ++ [nb])

/-- The queue loop of `_shortest_path`. A node is queued once; `provisioning_dependency.py:49–60`. -/
def shortestPathLoop (neighbors : String → List String) (dst : String) :
    Nat → List (String × List String) → List String → Option (List String)
  | 0, _, _ => none
  | _ + 1, [], _ => none
  | fuel + 1, (node, path) :: q, seen =>
    if node = dst then some path
    else
      shortestPathLoop neighbors dst fuel
        ((neighbors node).foldl (visitNeighbor path) (q, seen)).1
        ((neighbors node).foldl (visitNeighbor path) (q, seen)).2

/-- A subgraph of `networkx`: some nodes of a graph, and the edges between them. -/
structure Subgraph where
  graph : PathResolver.Graph
  allowed : List String

namespace Subgraph

variable (g : Subgraph)

/-- `node in g`. -/
def Contains (node : String) : Prop := node ∈ g.graph.nodes ∧ node ∈ g.allowed

/-- Whether a graph has a device is a search in its nodes. -/
instance : DecidablePred g.Contains := fun _ ↦ inferInstanceAs (Decidable (_ ∧ _))

/-- `sorted(g.neighbors(node))`. -/
def sortedNeighbors (node : String) : List String :=
  ((g.graph.neighbors node).filter (fun nb ↦ g.Contains nb)).insertionSort (fun a b ↦ a ≤ b)

/-- `_shortest_path`; `provisioning_dependency.py:46–60`. -/
def shortestPath (src dst : String) : Option (List String) :=
  if g.Contains src ∧ g.Contains dst then
    shortestPathLoop g.sortedNeighbors dst (g.graph.nodes.keys.length + 1) [(src, [src])] [src]
  else none

end Subgraph

variable (db : Database)

/-- `optical_graph`; `provisioning_dependency.py:68–69`. -/
def opticalGraph : PathResolver.Graph :=
  PathResolver.buildOpticalGraph (deviceRecords (topology db)) (linkRecords (topology db))

/-- `access_graph`; `provisioning_dependency.py:73–78`. -/
def accessGraph (device : Device) : Subgraph where
  graph := opticalGraph db
  allowed := ((deviceRecords (topology db)).filter (fun rec ↦
    rec.id = device.id ∨ rec.type = .olt ∨ passiveInline rec.type)).map DeviceRecord.id

/-- `candidates`, before they are sorted; `provisioning_dependency.py:79–88`. -/
def oltCandidates (device : Device) : List (List String × String) :=
  (deviceRecords (topology db)).filterMap (fun rec ↦
    if rec.type = .olt ∧ provisionedUpstreamAvailable (db.getDevice rec.id) then
      ((accessGraph db device).shortestPath device.id rec.id).map (fun path ↦ (path, rec.id))
    else none)

/-- `has_valid_provisioned_olt_path`; `provisioning_dependency.py:63–90`. -/
def hasValidProvisionedOltPath (device : Device) : Bool :=
  ontClass device.type && device.id ∈ (opticalGraph db).nodes && (oltCandidates db device) ≠ []

/-- The other end of a record at a device; `provisioning_dependency.py:101–106`. -/
def otherEnd (device : Device) (link : LinkRecord) : Option String :=
  if link.aDeviceId = device.id then some link.bDeviceId
  else if link.bDeviceId = device.id then some link.aDeviceId
  else none

/-- `has_valid_provisioned_aon_switch_path`; `provisioning_dependency.py:93–110`. -/
def hasValidProvisionedAonSwitchPath (device : Device) : Bool :=
  device.type = .aonCpe && (linkRecords (topology db)).any (fun link ↦
    ((otherEnd device link).bind db.getDevice).any (fun other ↦
      other.type = .aonSwitch && provisionedUpstreamAvailable (some other)))

/-- `dependency_ok`; `provisioning_dependency.py:117–155`. -/
def dependencyOk (device : Device) : Bool :=
  if routerClass device.type then true
  else if ontClass device.type then hasValidProvisionedOltPath db device
  else if device.type = .aonCpe then hasValidProvisionedAonSwitchPath db device
  else
    let res := hasUpstreamL3OrAnchor (topology db) (deviceView device)
    res.ok ||
      (db.devices.all (fun d ↦ d.type ≠ .backboneGateway) &&
        res.reasons.all (fun reason ↦ reason = .routersNoL3) &&
        device.type ∈ [DeviceType.olt, .aonSwitch, .ont, .businessOnt, .aonCpe])

/-! ### The checks of a request -/

/-- The codes of the checks; `errors.py:14–25`. -/
inductive ErrorCode where
  | invalidProvisionPath
  | alreadyProvisioned
  | containerRequired
  deriving DecidableEq, Repr

/-- The value of a code. -/
def ErrorCode.value : ErrorCode → String
  | .invalidProvisionPath => "INVALID_PROVISION_PATH"
  | .alreadyProvisioned => "ALREADY_PROVISIONED"
  | .containerRequired => "CONTAINER_REQUIRED"

/-- `_DEFAULT_STATUS`; `errors.py:28–41`. -/
def ErrorCode.defaultStatus : ErrorCode → Nat
  | .invalidProvisionPath => 400
  | .alreadyProvisioned => 409
  | .containerRequired => 422

/-- `raise_error`; `errors.py:44–49`. -/
def raiseError (code : ErrorCode) (detailSuffix : Option String := none) : Failure :=
  .http code.defaultStatus (match detailSuffix with
    | none => code.value
    | some suffix => code.value ++ " " ++ suffix)

/-- `_access_dependency_error_message`; `provisioning_service.py:62–67`. -/
def accessDependencyErrorMessage : DeviceType → String
  | .ont => "Cannot provision ONT: no valid provisioned OLT path found."
  | .businessOnt => "Cannot provision BUSINESS_ONT: no valid provisioned OLT path found."
  | _ => "Cannot provision AON_CPE: upstream AON_SWITCH is missing or not provisioned."

/-- `_enforce_access_parent_dependency`; `provisioning_service.py:70–82`. -/
def enforceAccessParentDependency (device : Device) : Except Failure Unit :=
  if (ontClass device.type ∧ ¬ hasValidProvisionedOltPath db device) ∨
      (device.type = .aonCpe ∧ ¬ hasValidProvisionedAonSwitchPath db device) then
    .error (.http 400 (accessDependencyErrorMessage device.type))
  else .ok ()

/-- `DEVICE_PARENT_POOL_MAP`: the type of a parent, which no type requires;
`constants/provisioning.py:43–47`. -/
def parentType : DeviceType → Option DeviceType
  | .olt | .aonSwitch => some .pop
  | _ => none

/-- The check of the parent; `provisioning_service.py:92–113`. -/
def checkParent (device : Device) : Except Failure Unit :=
  match truthy device.parentContainerId, parentType device.type with
  | none, _ => .ok ()
  | some _, none => .error (raiseError .invalidProvisionPath (some "unexpected parent"))
  | some parentId, some expected =>
    if (db.getDevice parentId).any (fun parent ↦ parent.type = expected) then .ok ()
    else .error (raiseError .containerRequired (some "expected parent DeviceType.POP"))

/-- `structural_adjacent_to_router`; `provisioning_service.py:131–146`. -/
def structuralAdjacentToRouter (device : Device) : Bool :=
  (linkRecords (topology db)).any (fun link ↦
    ((otherEnd device link).bind db.getDevice).any (fun other ↦ routerClass other.type))

/-- `skip_dependency_enforcement`; `provisioning_service.py:154–159`. -/
def skipDependencyEnforcement (type : DeviceType) : Bool :=
  type ∈ [DeviceType.olt, .ont, .businessOnt, .aonCpe]

/-- A guard that raises. -/
def failIf (cond : Bool) (failure : Failure) : Except Failure Unit :=
  if cond then .error failure else .ok ()

/-- The checks of `provision_device`, in their order; `provisioning_service.py:85–165`. -/
def checkProvision (device : Device) : Except Failure Unit := do
  failIf (device.type ∉ provisionableTypes) (raiseError .invalidProvisionPath)
  failIf device.provisioned (raiseError .alreadyProvisioned)
  checkParent db device
  enforceAccessParentDependency db device
  failIf (device.type = .olt && !structuralAdjacentToRouter db device)
    (raiseError .invalidProvisionPath (some "no router adjacency"))
  failIf (!skipDependencyEnforcement device.type && !dependencyOk db device)
    (raiseError .invalidProvisionPath (some "upstream dependency failed"))

/-- The row of a device that was provisioned; `provisioning_service.py:315–324`. -/
def markProvisioned (device : Device) : Device :=
  { device with
    provisioned := true
    txPowerDbm := if device.type = .olt then some (device.txPowerDbm.getD 5) else device.txPowerDbm
    sensitivityMinDbm :=
      if ontClass device.type then some (device.sensitivityMinDbm.getD (-30))
      else device.sensitivityMinDbm }

/-! ### What the search finds -/

section Search

variable {neighbors : String → List String}

private theorem foldl_visitNeighbor (path ws : List String) (q : List (String × List String))
    (seen : List String) :
    (((ws.foldl (visitNeighbor path) (q, seen)).1.map Prod.fst),
      (ws.foldl (visitNeighbor path) (q, seen)).2) =
        ws.foldl Frontier.enter (q.map Prod.fst, seen) := by
  induction ws generalizing q seen with
  | nil => rfl
  | cons w ws ih =>
    rw [List.foldl_cons, List.foldl_cons]
    unfold visitNeighbor Frontier.enter
    dsimp only
    by_cases hw : w ∈ seen
    · rw [if_pos hw, if_pos hw]
      exact ih q seen
    · rw [if_neg hw, if_neg hw]
      have hstep := ih (q ++ [(w, path ++ [w])]) (seen ++ [w])
      rw [List.map_append] at hstep
      exact hstep

/-- The paths in the queue decide nothing. -/
theorem isSome_shortestPathLoop (dst : String) (fuel : Nat) :
    ∀ (q : List (String × List String)) (seen : List String),
      (shortestPathLoop neighbors dst fuel q seen).isSome =
        (Frontier.search neighbors (fun v ↦ v = dst) fuel (q.map Prod.fst) seen).isSome := by
  induction fuel with
  | zero => exact fun _ _ ↦ rfl
  | succ fuel ih =>
    intro q seen
    cases q with
    | nil => rfl
    | cons e q =>
      rw [List.map_cons, shortestPathLoop, Frontier.search]
      by_cases hdst : e.1 = dst
      · rw [if_pos hdst, if_pos (by simpa using hdst)]
        rfl
      · rw [if_neg hdst, if_neg (by simpa using hdst), ih, ← foldl_visitNeighbor e.2]

end Search

namespace Subgraph

variable {g : Subgraph} {u v : String}

private theorem mem_sortedNeighbors :
    v ∈ g.sortedNeighbors u ↔ (u, v) ∈ g.graph.edges.keys ∧ g.Contains v := by
  unfold sortedNeighbors PathResolver.Graph.neighbors
  rw [List.mem_insertionSort, List.mem_filter, decide_eq_true_eq]
  apply and_congr_left
  intro _
  constructor
  · intro h
    have ⟨k, hk, hv⟩ := List.mem_map.mp h
    have ⟨hkey, hu⟩ := List.mem_filter.mp hk
    rw [decide_eq_true_eq] at hu
    rw [← hu, ← hv]
    exact hkey
  · intro h
    exact List.mem_map.mpr ⟨(u, v), List.mem_filter.mpr ⟨h, by simp⟩, rfl⟩

/-- A path is found exactly where the subgraph connects two of its nodes. -/
theorem isSome_shortestPath {src dst : String} : (g.shortestPath src dst).isSome = true ↔
    (g.Contains src ∧ g.Contains dst) ∧
      ReflTransGen (fun u v ↦ v ∈ g.sortedNeighbors u) src dst := by
  unfold shortestPath
  split
  · next hends =>
    rw [isSome_shortestPathLoop]
    have hin : ∀ u, ∀ w ∈ g.sortedNeighbors u, w ∈ g.graph.nodes.keys.toFinset := by
      intro u w hw
      rw [List.mem_toFinset, ← AList.mem_keys]
      exact (mem_sortedNeighbors.mp hw).2.1
    have hfuel : [src].length + g.graph.nodes.keys.toFinset.card ≤ g.graph.nodes.keys.length + 1 := by
      have hcard := List.toFinset_card_le g.graph.nodes.keys
      rw [List.length_singleton]
      omega
    have hsearch : ∀ v, Frontier.search g.sortedNeighbors (fun v ↦ v = dst)
        (g.graph.nodes.keys.length + 1) [src] [src] = some v ↔
          FirstGoal g.sortedNeighbors (fun v ↦ v = dst) [src] v :=
      fun v ↦ Frontier.search_eq_some_iff hin (List.nodup_singleton src) hfuel
    rw [Option.isSome_iff_exists]
    constructor
    · intro h
      have ⟨v, hv⟩ := h
      have hfirst := (hsearch v).mp hv
      have hgoal : v = dst := by simpa using hfirst.goal_eq
      rw [← hgoal]
      exact ⟨⟨hends.1, by rw [hgoal]; exact hends.2⟩, Reached.singleton_iff.mp hfirst.reached⟩
    · intro h
      have hgoal : decide (dst = dst) = true := by simp
      have ⟨v, hfirst⟩ : ∃ v, FirstGoal g.sortedNeighbors (fun v ↦ v = dst) [src] v :=
        exists_firstGoal hgoal (Reached.singleton_iff.mpr h.2)
      exact ⟨v, (hsearch v).mpr hfirst⟩
  · next hends =>
    constructor
    · intro h
      cases h
    · intro h
      exact absurd h.1 hends

end Subgraph

/-! ### The rows behind the search -/

/-- A device that is not forced down and has a property. -/
def InService (p : Device → Prop) (id : String) : Prop :=
  ∃ d ∈ db.devices, d.id = id ∧ d.adminOverrideStatus ≠ some .down ∧ p d

/-- A link that is up joins two devices. -/
def UpLink (p : Link → Prop) (u v : String) : Prop :=
  ∃ l ∈ db.links, linkUp l = true ∧ p l ∧
    ((recordEnd (topology db) l.aInterfaceId = some u ∧ recordEnd (topology db) l.bInterfaceId = some v) ∨
      (recordEnd (topology db) l.aInterfaceId = some v ∧ recordEnd (topology db) l.bInterfaceId = some u))

/-- What lies on the way from an ONT to its OLT: itself, passive devices and OLTs. -/
def OnAccessPath (device : Device) (id : String) : Prop :=
  InService db (fun d ↦ opticalType d.type = true ∧
    (d.id = device.id ∨ d.type = .olt ∨ passiveInline d.type = true)) id

/-- A fiber between two devices on the way from an ONT to its OLT. -/
def AccessHop (device : Device) (u v : String) : Prop :=
  UpLink db (fun l ↦ l.kind = .fiber) u v ∧ OnAccessPath db device u ∧ OnAccessPath db device v

/-- A chain of fibers to an OLT that is provisioned and not forced down. -/
def HasOltPath (device : Device) : Prop :=
  ∃ olt ∈ db.devices, olt.type = .olt ∧ olt.provisioned = true ∧ olt.adminOverrideStatus ≠ some .down ∧
    ReflTransGen (AccessHop db device) device.id olt.id

/-- A direct link to a device with a property, neither end forced down. -/
def HasNeighbor (device : Device) (p : Device → Prop) : Prop :=
  ∃ id, UpLink db (fun _ ↦ True) device.id id ∧ InService db (fun _ ↦ True) device.id ∧
    InService db p id

section Rows

variable {db}

private theorem mem_deviceRecords {rec : DeviceRecord} : rec ∈ deviceRecords (topology db) ↔
    ∃ d ∈ db.devices, d.adminOverrideStatus ≠ some .down ∧ rec = ⟨d.id, d.type⟩ := by
  unfold deviceRecords topology
  simp only [List.mem_map, List.mem_filter]
  constructor
  · intro h
    have ⟨v, ⟨⟨d, hd, hv⟩, hup⟩, hrec⟩ := h
    rw [← hv] at hup hrec
    refine ⟨d, hd, ?_, hrec.symm⟩
    intro hdown
    simp [DeviceView.forcedDown, deviceView, hdown] at hup
  · intro h
    have ⟨d, hd, hup, hrec⟩ := h
    refine ⟨deviceView d, ⟨⟨d, hd, rfl⟩, ?_⟩, hrec.symm⟩
    unfold DeviceView.forcedDown
    rw [Bool.not_eq_true', decide_eq_false_iff_not]
    exact hup

/-- A record of a row with a property of its id and its type. -/
theorem exists_deviceRecord {p : String → DeviceType → Prop} {id : String} :
    (∃ rec ∈ deviceRecords (topology db), rec.id = id ∧ p rec.id rec.type) ↔
      InService db (fun d ↦ p d.id d.type) id := by
  constructor
  · intro h
    have ⟨rec, hrec, hid, hp⟩ := h
    have ⟨d, hd, hup, heq⟩ := mem_deviceRecords.mp hrec
    rw [heq] at hid hp
    exact ⟨d, hd, hid, hup, hp⟩
  · intro h
    have ⟨d, hd, hid, hup, hp⟩ := h
    exact ⟨⟨d.id, d.type⟩, mem_deviceRecords.mpr ⟨d, hd, hup, rfl⟩, hid, hp⟩

private theorem InService.and {p q : Device → Prop} {id : String} (hp : InService db p id)
    (hq : InService db q id) : InService db (fun d ↦ p d ∧ q d) id := by
  have ⟨d, hd, hid, hup, hp⟩ := hp
  have ⟨d', hd', hid', _, hq⟩ := hq
  have heq : d' = d := List.inj_on_of_nodup_map db.devices_nodup hd' hd (hid'.trans hid.symm)
  rw [heq] at hq
  exact ⟨d, hd, hid, hup, hp, hq⟩

/-- A weaker property of a device in service. -/
theorem InService.imp {p q : Device → Prop} {id : String} (hp : InService db p id)
    (h : ∀ d, p d → q d) : InService db q id := by
  have ⟨d, hd, hid, hup, hp⟩ := hp
  exact ⟨d, hd, hid, hup, h d hp⟩

/-- The record of a link, with the devices at its ends. -/
theorem exists_linkRecord {p : LinkType → Prop} {u v : String} :
    (∃ rec ∈ linkRecords (topology db), p rec.kind ∧
      Dict.Joins LinkRecord.aDeviceId LinkRecord.bDeviceId rec u v) ↔
    UpLink db (fun l ↦ p l.kind) u v ∧ InService db (fun _ ↦ True) u ∧
      InService db (fun _ ↦ True) v := by
  have hids : ∀ id, id ∈ (deviceRecords (topology db)).map DeviceRecord.id ↔
      InService db (fun _ ↦ True) id := by
    intro id
    rw [List.mem_map, ← exists_deviceRecord (p := fun _ _ ↦ True)]
    simp
  constructor
  · intro h
    have ⟨rec, hrec, hp, hjoins⟩ := h
    have ⟨l, hl, hlink⟩ := List.mem_filterMap.mp hrec
    unfold linkRecord at hlink
    split at hlink
    · next hup =>
      have ⟨a, ha, hlink⟩ := Option.bind_eq_some_iff.mp hlink
      have ⟨b, hb, hlink⟩ := Option.bind_eq_some_iff.mp hlink
      split at hlink
      · next hends =>
        cases hlink
        rw [hids, hids] at hends
        cases hjoins with
        | inl h =>
          have ⟨hu, hv⟩ := h
          dsimp only at hu hv
          rw [← hu, ← hv]
          exact ⟨⟨l, hl, hup, hp, .inl ⟨ha, hb⟩⟩, hends.1, hends.2⟩
        | inr h =>
          have ⟨hu, hv⟩ := h
          dsimp only at hu hv
          rw [← hu, ← hv]
          exact ⟨⟨l, hl, hup, hp, .inr ⟨ha, hb⟩⟩, hends.2, hends.1⟩
      · cases hlink
    · cases hlink
  · intro h
    have ⟨⟨l, hl, hup, hp, hends⟩, hu, hv⟩ := h
    have hrecord : ∀ a b, recordEnd (topology db) l.aInterfaceId = some a →
        recordEnd (topology db) l.bInterfaceId = some b → InService db (fun _ ↦ True) a →
          InService db (fun _ ↦ True) b → ⟨l.id, a, b, l.kind⟩ ∈ linkRecords (topology db) := by
      intro a b ha hb hina hinb
      refine List.mem_filterMap.mpr ⟨l, hl, ?_⟩
      unfold linkRecord
      rw [if_pos hup, ha, hb]
      change (if _ then _ else _) = _
      rw [if_pos ⟨(hids a).mpr hina, (hids b).mpr hinb⟩]
      rfl
    cases hends with
    | inl h => exact ⟨_, hrecord u v h.1 h.2 hu hv, hp, .inl ⟨rfl, rfl⟩⟩
    | inr h => exact ⟨_, hrecord v u h.1 h.2 hv hu, hp, .inr ⟨rfl, rfl⟩⟩

/-! ### The checks against the rows -/

private theorem mem_opticalGraph_nodes {id : String} : id ∈ (opticalGraph db).nodes ↔
    InService db (fun d ↦ opticalType d.type = true) id := by
  rw [← exists_deviceRecord (p := fun _ type ↦ opticalType type = true)]
  change id ∈ Optical.PathResolver.opticalNodes _ ↔ _
  rw [← AList.lookup_isSome, Optical.PathResolver.opticalNodes, Dict.lookup_foldl_insert, AList.lookup_empty,
    Option.or_none, Option.isSome_map, List.find?_isSome]
  simp only [List.mem_reverse, List.mem_filter, decide_eq_true_eq, and_assoc]
  constructor
  · intro h
    have ⟨rec, hrec, htype, hid⟩ := h
    exact ⟨rec, hrec, hid, htype⟩
  · intro h
    have ⟨rec, hrec, hid, htype⟩ := h
    exact ⟨rec, hrec, htype, hid⟩

private theorem mem_opticalGraph_edges {u v : String} : (u, v) ∈ (opticalGraph db).edges.keys ↔
    UpLink db (fun l ↦ l.kind = .fiber) u v ∧ u ∈ (opticalGraph db).nodes ∧
      v ∈ (opticalGraph db).nodes := by
  have hrecords := @exists_linkRecord db (fun kind ↦ kind = .fiber) u v
  have hedges : (u, v) ∈ (opticalGraph db).edges.keys ↔ ∃ rec ∈ linkRecords (topology db),
      (rec.aDeviceId ∈ (opticalGraph db).nodes ∧ rec.bDeviceId ∈ (opticalGraph db).nodes ∧
        rec.kind = .fiber) ∧
      Dict.Joins LinkRecord.aDeviceId LinkRecord.bDeviceId rec u v := by
    rw [← AList.mem_keys, ← AList.lookup_isSome]
    change ((((linkRecords (topology db)).filter (fun l ↦ l.aDeviceId ∈ (opticalGraph db).nodes ∧
      l.bDeviceId ∈ (opticalGraph db).nodes ∧ l.kind = .fiber)).foldl (Dict.connect
        LinkRecord.aDeviceId LinkRecord.bDeviceId LinkRecord.id LinkRecord.id) ∅).lookup
          (u, v)).isSome = true ↔ _
    rw [Dict.lookup_foldl_connect, AList.lookup_empty, Option.or_none, Option.isSome_map,
      List.find?_isSome]
    simp only [List.mem_reverse, List.mem_filter, decide_eq_true_eq, and_assoc]
  rw [hedges]
  constructor
  · intro h
    have ⟨rec, hrec, ⟨ha, hb, hkind⟩, hjoins⟩ := h
    refine ⟨(hrecords.mp ⟨rec, hrec, hkind, hjoins⟩).1, ?_⟩
    cases hjoins with
    | inl h => exact ⟨h.1 ▸ ha, h.2 ▸ hb⟩
    | inr h => exact ⟨h.1 ▸ hb, h.2 ▸ ha⟩
  · intro h
    have ⟨hlink, hu, hv⟩ := h
    have ⟨rec, hrec, hkind, hjoins⟩ := hrecords.mpr ⟨hlink,
      (mem_opticalGraph_nodes.mp hu).imp (fun _ _ ↦ trivial),
      (mem_opticalGraph_nodes.mp hv).imp (fun _ _ ↦ trivial)⟩
    refine ⟨rec, hrec, ?_, hjoins⟩
    cases hjoins with
    | inl h => exact ⟨h.1 ▸ hu, h.2 ▸ hv, hkind⟩
    | inr h => exact ⟨h.2 ▸ hv, h.1 ▸ hu, hkind⟩

private theorem contains_accessGraph {device : Device} {id : String} :
    (accessGraph db device).Contains id ↔ OnAccessPath db device id := by
  have hallowed : id ∈ (accessGraph db device).allowed ↔ InService db (fun d ↦
      d.id = device.id ∨ d.type = .olt ∨ passiveInline d.type = true) id := by
    rw [← exists_deviceRecord (p := fun id type ↦
      id = device.id ∨ type = .olt ∨ passiveInline type = true)]
    unfold accessGraph
    simp only [List.mem_map, List.mem_filter, decide_eq_true_eq]
    constructor
    · intro h
      have ⟨rec, ⟨hrec, hp⟩, hid⟩ := h
      exact ⟨rec, hrec, hid, hp⟩
    · intro h
      have ⟨rec, hrec, hid, hp⟩ := h
      exact ⟨rec, ⟨hrec, hp⟩, hid⟩
  unfold Subgraph.Contains
  rw [hallowed]
  change id ∈ (opticalGraph db).nodes ∧ _ ↔ _
  rw [mem_opticalGraph_nodes]
  constructor
  · intro h
    exact h.1.and h.2
  · intro h
    exact ⟨h.imp (fun _ hp ↦ hp.1), h.imp (fun _ hp ↦ hp.2)⟩

private theorem mem_sortedNeighbors_accessGraph {device : Device} {u v : String}
    (hu : OnAccessPath db device u) :
    v ∈ (accessGraph db device).sortedNeighbors u ↔ AccessHop db device u v := by
  rw [Subgraph.mem_sortedNeighbors, contains_accessGraph]
  change (u, v) ∈ (opticalGraph db).edges.keys ∧ _ ↔ _
  rw [mem_opticalGraph_edges]
  constructor
  · intro h
    exact ⟨h.1.1, hu, h.2⟩
  · intro h
    refine ⟨⟨h.1, ?_, ?_⟩, h.2.2⟩
    · exact mem_opticalGraph_nodes.mpr (hu.imp (fun _ hp ↦ hp.1))
    · exact mem_opticalGraph_nodes.mpr (h.2.2.imp (fun _ hp ↦ hp.1))

private theorem reached_accessGraph {device : Device} {u v : String}
    (hu : OnAccessPath db device u) :
    ReflTransGen (fun u v ↦ v ∈ (accessGraph db device).sortedNeighbors u) u v ↔
      ReflTransGen (AccessHop db device) u v := by
  constructor
  · intro h
    have hboth : OnAccessPath db device v ∧ ReflTransGen (AccessHop db device) u v := by
      induction h with
      | refl => exact ⟨hu, .refl⟩
      | tail _ hstep ih =>
        have hhop := (mem_sortedNeighbors_accessGraph ih.1).mp hstep
        exact ⟨hhop.2.2, ih.2.tail hhop⟩
    exact hboth.2
  · intro h
    induction h with
    | refl => exact .refl
    | tail _ hhop ih => exact ih.tail ((mem_sortedNeighbors_accessGraph hhop.2.1).mpr hhop)

private theorem provisionedUpstreamAvailable_some {d : Device} : provisionedUpstreamAvailable
    (some d) = true ↔
    d.provisioned = true ∧ d.adminOverrideStatus ≠ some .down := by
  simp [provisionedUpstreamAvailable]

/-- The search of the optical graph succeeds exactly for an ONT with a chain of fibers over passive
devices and OLTs to a provisioned OLT. -/
theorem hasValidProvisionedOltPath_iff {device : Device} (hdevice : device ∈ db.devices) :
    hasValidProvisionedOltPath db device = true ↔
      ontClass device.type = true ∧ HasOltPath db device := by
  have hcandidates : oltCandidates db device ≠ [] ↔ ∃ olt ∈ db.devices, olt.type = .olt ∧
      olt.provisioned = true ∧ olt.adminOverrideStatus ≠ some .down ∧
        ((accessGraph db device).shortestPath device.id olt.id).isSome = true := by
    rw [← List.isEmpty_eq_false_iff, List.isEmpty_eq_false_iff_exists_mem]
    unfold oltCandidates
    constructor
    · intro h
      have ⟨c, hc⟩ := h
      have ⟨rec, hrec, hcand⟩ := List.mem_filterMap.mp hc
      have ⟨olt, holt, hup, heq⟩ := mem_deviceRecords.mp hrec
      rw [heq] at hcand
      dsimp only at hcand
      rw [Database.getDevice_eq_some.mpr ⟨holt, rfl⟩] at hcand
      split at hcand
      · next hcond =>
        have ⟨path, hpath, _⟩ := Option.map_eq_some_iff.mp hcand
        exact ⟨olt, holt, hcond.1, (provisionedUpstreamAvailable_some.mp hcond.2).1, hup,
          by rw [hpath]; rfl⟩
      · cases hcand
    · intro h
      have ⟨olt, holt, htype, hprov, hup, hpath⟩ := h
      have ⟨path, hpath⟩ := Option.isSome_iff_exists.mp hpath
      refine ⟨(path, olt.id), List.mem_filterMap.mpr
        ⟨⟨olt.id, olt.type⟩, mem_deviceRecords.mpr ⟨olt, holt, hup, rfl⟩, ?_⟩⟩
      dsimp only
      rw [Database.getDevice_eq_some.mpr ⟨holt, rfl⟩,
        if_pos ⟨htype, provisionedUpstreamAvailable_some.mpr ⟨hprov, hup⟩⟩, hpath]
      rfl
  unfold hasValidProvisionedOltPath
  rw [Bool.and_eq_true, Bool.and_eq_true, decide_eq_true_eq, decide_eq_true_eq, hcandidates]
  constructor
  · intro h
    have ⟨⟨hont, _⟩, olt, holt, htype, hprov, hup, hpath⟩ := h
    have ⟨⟨hself, _⟩, hreached⟩ := Subgraph.isSome_shortestPath.mp hpath
    exact ⟨hont, olt, holt, htype, hprov, hup,
      (reached_accessGraph (contains_accessGraph.mp hself)).mp hreached⟩
  · intro h
    have ⟨hont, olt, holt, htype, hprov, hup, hreached⟩ := h
    have hne : device.id ≠ olt.id := by
      intro heq
      rw [List.inj_on_of_nodup_map db.devices_nodup hdevice holt heq, htype] at hont
      cases hont
    have hself : OnAccessPath db device device.id := by
      cases Relation.ReflTransGen.cases_head hreached with
      | inl heq => exact absurd heq hne
      | inr hstep =>
        have ⟨_, hhop, _⟩ := hstep
        exact hhop.2.1
    refine ⟨⟨hont, mem_opticalGraph_nodes.mpr (hself.imp (fun _ hp ↦ hp.1))⟩, olt, holt, htype, hprov,
      hup, Subgraph.isSome_shortestPath.mpr ⟨⟨contains_accessGraph.mpr hself, ?_⟩,
        (reached_accessGraph hself).mpr hreached⟩⟩
    apply contains_accessGraph.mpr
    exact ⟨olt, holt, rfl, hup, by rw [htype]; rfl, .inr (.inl htype)⟩

private theorem otherEnd_eq_some {device : Device} {rec : LinkRecord} {id : String} :
    otherEnd device rec = some id ↔
      Dict.Joins LinkRecord.aDeviceId LinkRecord.bDeviceId rec device.id id := by
  unfold otherEnd Dict.Joins
  by_cases ha : rec.aDeviceId = device.id
  · rw [if_pos ha]
    constructor
    · intro h
      exact .inl ⟨ha, Option.some.inj h⟩
    · intro h
      cases h with
      | inl h => rw [h.2]
      | inr h => rw [h.1, ← ha, h.2]
  · rw [if_neg ha]
    by_cases hb : rec.bDeviceId = device.id
    · rw [if_pos hb]
      constructor
      · intro h
        exact .inr ⟨hb, Option.some.inj h⟩
      · intro h
        cases h with
        | inl h => exact absurd h.1 ha
        | inr h => rw [h.2]
    · rw [if_neg hb]
      constructor
      · intro h
        cases h
      · intro h
        cases h with
        | inl h => exact absurd h.1 ha
        | inr h => exact absurd h.1 hb

/-- The loops over the links of a device look for a neighbour with a property. -/
theorem any_otherEnd {device : Device} {p : Device → Bool} :
    (linkRecords (topology db)).any (fun link ↦ ((otherEnd device link).bind db.getDevice).any p) = true ↔
      HasNeighbor db device (fun d ↦ p d = true) := by
  rw [List.any_eq_true]
  constructor
  · intro h
    have ⟨rec, hrec, hany⟩ := h
    have ⟨other, hother, hp⟩ := (Option.any_eq_true _ _).mp hany
    have ⟨id, hid, hget⟩ := Option.bind_eq_some_iff.mp hother
    have ⟨hlink, hself, hend⟩ := (exists_linkRecord (p := fun _ ↦ True)).mp
      ⟨rec, hrec, trivial, otherEnd_eq_some.mp hid⟩
    have ⟨hmem, hotherid⟩ := Database.getDevice_eq_some.mp hget
    refine ⟨id, hlink, hself, ?_⟩
    have ⟨d, hd, hdid, hup, _⟩ := hend
    have heq : d = other := List.inj_on_of_nodup_map db.devices_nodup hd hmem (hdid.trans hotherid.symm)
    exact ⟨d, hd, hdid, hup, by rw [heq]; exact hp⟩
  · intro h
    have ⟨id, hlink, hself, hend⟩ := h
    have ⟨other, hother, hid, hup, hp⟩ := hend
    have ⟨rec, hrec, _, hjoins⟩ := (exists_linkRecord (p := fun _ ↦ True)).mpr
      ⟨hlink, hself, ⟨other, hother, hid, hup, trivial⟩⟩
    refine ⟨rec, hrec, ?_⟩
    rw [otherEnd_eq_some.mpr hjoins, Option.bind_some, Database.getDevice_eq_some.mpr ⟨hother, hid⟩]
    exact hp

end Rows

/-! ### Admission -/

/-- The upstream of a switch: an anchor, or at least a router while there is no backbone gateway. -/
def HasUpstream (device : Device) : Prop :=
  (hasUpstreamL3OrAnchor (topology db) (deviceView device)).ok = true ∨
    (∀ d ∈ db.devices, d.type ≠ .backboneGateway) ∧
      ∀ reason ∈ (hasUpstreamL3OrAnchor (topology db) (deviceView device)).reasons,
        reason = .routersNoL3

/-- A parent is a device of the type that the rules expect. -/
def ParentFits (device : Device) : Prop :=
  ∀ parentId, truthy device.parentContainerId = some parentId →
    ∃ parent ∈ db.devices, parent.id = parentId ∧ parentType device.type = some parent.type

/-- What a device of each type needs from its neighbourhood. -/
structure Supported (device : Device) : Prop where
  parent : ParentFits db device
  olt : ontClass device.type = true → HasOltPath db device
  switch : device.type = .aonCpe → HasNeighbor db device (fun other ↦
    (other.type = .aonSwitch ∧ other.provisioned = true) ∧ other.adminOverrideStatus ≠ some .down)
  router : device.type = .olt → HasNeighbor db device (fun other ↦ routerClass other.type = true)

/-- A device that may be provisioned. -/
structure Admissible (device : Device) : Prop where
  type : device.type ∈ provisionableTypes
  new : device.provisioned = false
  supported : Supported db device
  upstream : device.type = .aonSwitch → HasUpstream db device

section Admission

variable {db} {device : Device}

private theorem checkParent_eq_ok : checkParent db device = .ok () ↔ ParentFits db device := by
  unfold checkParent ParentFits
  cases hparent : truthy device.parentContainerId with
  | none => simp
  | some parentId =>
    cases htype : parentType device.type with
    | none => simp
    | some expected =>
      dsimp only
      split
      · next hany =>
        have ⟨parent, hget, hp⟩ := (Option.any_eq_true _ _).mp hany
        have ⟨hmem, hid⟩ := Database.getDevice_eq_some.mp hget
        simp only [true_iff]
        intro id hid'
        cases hid'
        exact ⟨parent, hmem, hid, by rw [of_decide_eq_true hp]⟩
      · next hany =>
        simp only [reduceCtorEq, false_iff]
        intro h
        have ⟨parent, hmem, hid, hp⟩ := h parentId rfl
        apply hany
        rw [Database.getDevice_eq_some.mpr ⟨hmem, hid⟩]
        exact decide_eq_true (Option.some.inj hp).symm

private theorem hasValidProvisionedAonSwitchPath_iff :
    hasValidProvisionedAonSwitchPath db device = true ↔
    device.type = .aonCpe ∧ HasNeighbor db device (fun other ↦
      (other.type = .aonSwitch ∧ other.provisioned = true) ∧
        other.adminOverrideStatus ≠ some .down) := by
  unfold hasValidProvisionedAonSwitchPath
  rw [Bool.and_eq_true, decide_eq_true_eq, any_otherEnd]
  simp only [Bool.and_eq_true, decide_eq_true_eq, provisionedUpstreamAvailable_some, and_assoc]

private theorem enforceAccessParentDependency_eq_ok (hdevice : device ∈ db.devices) :
    enforceAccessParentDependency db device = .ok () ↔
      (ontClass device.type = true → HasOltPath db device) ∧
        (device.type = .aonCpe → HasNeighbor db device (fun other ↦
          (other.type = .aonSwitch ∧ other.provisioned = true) ∧
            other.adminOverrideStatus ≠ some .down)) := by
  have holt := hasValidProvisionedOltPath_iff hdevice
  have hswitch := @hasValidProvisionedAonSwitchPath_iff db device
  unfold enforceAccessParentDependency
  split
  · next h =>
    simp only [reduceCtorEq, false_iff]
    tauto
  · next h =>
    simp only [true_iff]
    tauto

private theorem dependencyOk_of_switch (htype : device.type = .aonSwitch) :
    dependencyOk db device = true ↔ HasUpstream db device := by
  unfold dependencyOk HasUpstream
  rw [if_neg (by rw [htype]; decide), if_neg (by rw [htype]; decide), if_neg (by rw [htype]; decide)]
  simp [htype]

private theorem failIf_eq_ok {cond : Bool} {failure : Failure} : failIf cond failure = .ok
    () ↔ cond = false := by
  cases cond <;> simp [failIf]

private theorem seq_eq_ok {x y : Except Failure Unit} :
    (x >>= fun _ ↦ y) = .ok () ↔ x = .ok () ∧ y = .ok () := by
  cases x with
  | error e => simp [bind, Except.bind]
  | ok u => simp [bind, Except.bind]

/-- What the six checks of a request let pass. -/
theorem checkProvision_eq_ok (hdevice : device ∈ db.devices) :
    checkProvision db device = .ok () ↔
      device.type ∈ provisionableTypes ∧ device.provisioned = false ∧ ParentFits db device ∧
        ((ontClass device.type = true → HasOltPath db device) ∧
          (device.type = .aonCpe → HasNeighbor db device (fun other ↦
            (other.type = .aonSwitch ∧ other.provisioned = true) ∧
              other.adminOverrideStatus ≠ some .down))) ∧
        (device.type ≠ .olt ∨ HasNeighbor db device (fun other ↦ routerClass other.type = true)) ∧
          (skipDependencyEnforcement device.type = true ∨ dependencyOk db device = true) := by
  have hrouter : structuralAdjacentToRouter db device = true ↔
      HasNeighbor db device (fun other ↦ routerClass other.type = true) := any_otherEnd
  unfold checkProvision
  rw [seq_eq_ok, seq_eq_ok, seq_eq_ok, seq_eq_ok, seq_eq_ok, failIf_eq_ok, failIf_eq_ok, failIf_eq_ok,
    failIf_eq_ok, checkParent_eq_ok, enforceAccessParentDependency_eq_ok hdevice]
  rw [decide_eq_false_iff_not, not_not, Bool.and_eq_false_iff, Bool.and_eq_false_iff,
    decide_eq_false_iff_not, Bool.not_eq_false', hrouter, Bool.not_eq_false', Bool.not_eq_false']

/-- A device that passes the checks is admissible. -/
theorem Admissible.of_ok (hdevice : device ∈ db.devices) (hok : checkProvision db device = .ok ()) :
    Admissible db device := by
  have ⟨htype, hnew, hparent, ⟨holt, hswitch⟩, hadjacent, hupstream⟩ :=
    (checkProvision_eq_ok hdevice).mp hok
  refine ⟨htype, hnew, ⟨hparent, holt, hswitch, ?_⟩, ?_⟩
  · intro htype'
    exact hadjacent.resolve_left (not_not.mpr htype')
  · intro htype'
    rw [← dependencyOk_of_switch htype']
    apply hupstream.resolve_left
    rw [htype']
    decide

/-- The checks of a request succeed exactly for an admissible device. -/
theorem checkProvision_eq_ok_iff (hdevice : device ∈ db.devices) :
    checkProvision db device = .ok () ↔ Admissible db device := by
  constructor
  · exact Admissible.of_ok hdevice
  · intro h
    rw [checkProvision_eq_ok hdevice]
    refine ⟨h.type, h.new, h.supported.parent, ⟨h.supported.olt, h.supported.switch⟩, ?_, ?_⟩
    · by_cases htype : device.type = .olt
      · exact .inr (h.supported.router htype)
      · exact .inl htype
    · by_cases htype : device.type = .aonSwitch
      · exact .inr ((dependencyOk_of_switch htype).mpr (h.upstream htype))
      · have hprovisionable := h.type
        unfold dependencyOk skipDependencyEnforcement
        revert htype hprovisionable
        cases device.type <;> simp [provisionableTypes, routerClass]

end Admission

/-- An ONT behind a splitter and an OLT that is not provisioned, and a provisioned OLT behind that. -/
def cascadedOlts : Database where
  devices := [
    { id := "ont", type := .ont },
    { id := "split", type := .splitter },
    { id := "olt", type := .olt },
    { id := "head", type := .olt, provisioned := true }]
  interfaces := [
    { id := "ont-0", deviceId := "ont", name := "0" },
    { id := "split-0", deviceId := "split", name := "0" },
    { id := "split-1", deviceId := "split", name := "1" },
    { id := "olt-0", deviceId := "olt", name := "0" },
    { id := "olt-1", deviceId := "olt", name := "1" },
    { id := "head-0", deviceId := "head", name := "0" }]
  links := [
    { id := "l1", aInterfaceId := "ont-0", bInterfaceId := "split-0" },
    { id := "l2", aInterfaceId := "olt-0", bInterfaceId := "split-1" },
    { id := "l3", aInterfaceId := "head-0", bInterfaceId := "olt-1" }]

/-- The ONT is admissible by the OLT behind the first one. -/
theorem checkProvision_eq_ok_iff_cascadedOlts : Admissible cascadedOlts { id := "ont", type := .ont } :=
  (checkProvision_eq_ok_iff (by decide)).mp (by decide +kernel)

end Unoc.Provisioning
