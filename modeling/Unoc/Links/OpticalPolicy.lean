import Unoc.Base.Frontier
import Unoc.Links.Splitter

/-!
# Optical link policy

`backend/services/link_policy_optical.py`: where an ONT may be attached, which port of an OLT a link
may take, and how many upstream links an ODF or an ONT may have.
-/

namespace Unoc.Links

open Unoc.Base
open Unoc.Model
open Unoc.Status (passiveInline ontClass matchEither)

variable (db : Database)

/-! ### Ends of links -/

/-- The ids of the devices at both ends of a link, if both interfaces exist. -/
def linkDeviceIds (l : Link) : Option (String × String) := do
  let ia ← db.getInterface l.aInterfaceId
  let ib ← db.getInterface l.bInterfaceId
  return (ia.deviceId, ib.deviceId)

/-- `_dtype`; `link_policy_optical.py:62–70`. -/
def dtype (deviceId : String) : Option DeviceType := (db.getDevice deviceId).map Device.type

/-- The devices that links admitted by `keep` join to a device. -/
def adjacent (keep : String → String → Bool) (deviceId : String) : List String :=
  (db.links.filterMap (linkDeviceIds db)).flatMap (fun (da, dev) ↦
    if keep da dev then
      (if da = deviceId then [dev] else []) ++ (if dev = deviceId then [da] else [])
    else [])

/-- A link between two types in either order, where both devices exist. -/
def joinsTypes (p q : DeviceType → Bool) (da dev : String) : Bool :=
  match dtype db da, dtype db dev with
  | some ta, some tb => matchEither p q ta tb
  | _, _ => false

/-! ### Anchoring -/

/-- `dev_adj.get`; `link_policy_optical.py:110–121`. -/
def devAdj : String → List String := adjacent db (fun _ _ ↦ true)

/-- `adj.get`: passives and the ODFs beside them; `link_policy_optical.py:92–101`. -/
def passiveAdj : String → List String :=
  adjacent db (fun da dev ↦
    joinsTypes db passiveInline passiveInline da dev || joinsTypes db passiveInline (· = .odf) da dev)

/-- `odf_with_olt`: the ODFs with a link to an OLT; `link_policy_optical.py:102–105`. -/
def odfWithOlt (deviceId : String) : Bool :=
  dtype db deviceId = some .odf && (adjacent db (joinsTypes db (· = .odf) (· = .olt)) deviceId) ≠ []

/-- The fast path: an ODF with a neighbouring OLT beside the device;
`link_policy_optical.py:122–126`. -/
def besideAnchoredOdf (deviceId : String) : Bool :=
  (devAdj db deviceId).any (fun nb ↦
    dtype db nb = some .odf && (devAdj db nb).any (fun x ↦ dtype db x = some .olt))

/-- The devices that the search for an anchor visits when none is found;
`link_policy_optical.py:129–142`. -/
def passiveSearch (deviceId : String) : List String :=
  Frontier.loop (fun _ v ↦ passiveAdj db v) (1 + 2 * db.links.length) [deviceId] [deviceId]

/-- `anchored_ok`. The search stops at an ODF with an OLT, if it visits one. -/
def anchoredOk (deviceId : String) : Bool :=
  besideAnchoredOdf db deviceId ||
    (passiveSearch db deviceId).any (fun cur ↦ dtype db cur = some .odf && odfWithOlt db cur)

/-! ### Placement of ONTs -/

/-- `out_if`: the OUT port that reaches the interface of the ONT, else the OUT port among the two
interfaces; `link_policy_optical.py:157–169`. -/
def outInterfaceFor (splitter : Device) (ontIfId aInterfaceId bInterfaceId : String) :
    Option Interface :=
  (findOutInterfaceReaching db splitter ontIfId).or
    (((db.getInterface aInterfaceId).toList ++ (db.getInterface bInterfaceId).toList).find?
      (fun cand ↦ cand.deviceId = splitter.id && "out".toList <+: lower cand.name))

/-- No ONT below the OUT port of the new link; `link_policy_optical.py:170–177`. -/
def enforceOutPortFree (splitter : Device) (ontIfId aInterfaceId bInterfaceId : String) :
    Except LinkError Unit :=
  match outInterfaceFor db splitter ontIfId aInterfaceId bInterfaceId with
  | some out => failIf (outInterfaceHasOnt db out.id) (raiseError .linkInvalidUpstream
      ("Splitter OUT '" ++ out.name ++ "' already serves an ONT; over-subscription is not allowed"))
  | none => .ok ()

/-- Fewer ONTs than ports; `link_policy_optical.py:178–185`. -/
def enforceUsage (splitter : Device) : Except LinkError Unit :=
  let usage := computeSplitterUsage db splitter
  failIf (0 < usage.portsTotal && usage.portsTotal ≤ usage.downstreamOnts)
    (raiseError .linkInvalidUpstream ("Splitter capacity exhausted: " ++
      toString usage.downstreamOnts ++ "/" ++ toString usage.portsTotal ++ " ONTs already connected"))

/-- The rules for the device at the other end of an ONT; `link_policy_optical.py:47–56,144–185`. -/
def enforcePlacementAt (other : Device) (ontIfId aInterfaceId bInterfaceId : String) :
    Except LinkError Unit :=
  if other.type = .odf then .ok ()
  else if !passiveInline other.type then
    .error (raiseError .linkInvalidUpstream
      ("ONT must connect upstream to an ODF or passive, not " ++ typeName other.type))
  else if !anchoredOk db other.id then
    .error (raiseError .linkInvalidUpstream
      ("ONT may connect to passive NVT/SPLITTER/HOP only within an ODF-" ++
        "headed path that already anchors to an OLT (not SPLITTER directly)"))
  else if other.type = .splitter then do
    enforceOutPortFree db other ontIfId aInterfaceId bInterfaceId
    enforceUsage db other
  else .ok ()

/-- `enforce_ont_placement_rules`; `link_policy_optical.py:26–185`. -/
def enforceOntPlacementRules (aDev bDev : Device) (aInterfaceId bInterfaceId : String) :
    Except LinkError Unit :=
  if ontClass aDev.type then enforcePlacementAt db bDev aInterfaceId aInterfaceId bInterfaceId
  else if ontClass bDev.type then enforcePlacementAt db aDev bInterfaceId aInterfaceId bInterfaceId
  else .ok ()

/-! ### Ports and upstream links -/

/-- `enforce_pon_role_if_declared`; `link_policy_optical.py:188–212`. -/
def enforcePonRoleIfDeclared (aDev bDev : Device) (aIf bIf : Interface) : Except LinkError Unit :=
  let accessType := fun type ↦ ontClass type || passiveInline type || type = .odf
  let oltIface := if aDev.type = .olt then aIf else bIf
  let oltDev := if aDev.type = .olt then aDev else bDev
  failIf (matchEither (· = .olt) accessType aDev.type bDev.type &&
      (interfacesOf db oltDev.id).any (fun i ↦ i.portRole = some .pon) && oltIface.portRole ≠ some .pon)
    (raiseError .invalidLinkType "PON_PORT_REQUIRED")

/-- The types whose links `_count_upstream_links` counts for a device type. -/
def upstreamType (type other : DeviceType) : Bool :=
  (type = .odf && other = .olt) || (ontClass type && passiveInline other)

/-- Whether a link counts as an upstream link of a device. -/
def isUpstreamLink (dev : Device) (l : Link) : Bool :=
  match linkDeviceIds db l with
  | none => false
  | some (da, dev') =>
    (da = dev.id || dev' = dev.id) &&
      (dtype db (if da = dev.id then dev' else da)).any (upstreamType dev.type)

/-- `_count_upstream_links`; `link_policy_optical.py:219–238`. -/
def countUpstreamLinks (dev : Device) : Nat := db.links.countP (isUpstreamLink db dev)

/-- Refuse a second upstream link of the end whose type satisfies `own`. -/
def enforceSingleUpstream (own other : DeviceType → Bool) (aDev bDev : Device) :
    Except LinkError Unit :=
  let dev := if own aDev.type then aDev else bDev
  failIf (matchEither own other aDev.type bDev.type && 1 ≤ countUpstreamLinks db dev)
    (raiseError .linkMultipleUpstreams
      (dev.id ++ " already has an upstream link. Only one upstream is allowed."))

/-- `enforce_single_upstream_rules`; `link_policy_optical.py:215–260`. -/
def enforceSingleUpstreamRules (aDev bDev : Device) : Except LinkError Unit := do
  enforceSingleUpstream db (· = .odf) (· = .olt) aDev bDev
  enforceSingleUpstream db ontClass (· = .odf) aDev bDev

/-! ### What the search for an anchor visits -/

variable {db : Database}

/-- Adjacent devices share a link that counts. -/
theorem mem_adjacent {keep : String → String → Bool} {x y : String} :
    y ∈ adjacent db keep x ↔ ∃ l ∈ db.links, ∃ da dev, linkDeviceIds db l = some (da, dev) ∧
      keep da dev = true ∧ (da = x ∧ dev = y ∨ dev = x ∧ da = y) := by
  simp only [adjacent, List.mem_flatMap, List.mem_filterMap, Prod.exists]
  constructor
  · rintro ⟨da, dev, ⟨l, hl, hends⟩, hy⟩
    refine ⟨l, hl, da, dev, hends, ?_⟩
    split at hy
    · next hkeep =>
      refine ⟨hkeep, ?_⟩
      rcases List.mem_append.mp hy with hy | hy
      · exact Or.inl (by simpa [eq_comm] using hy)
      · exact Or.inr (by simpa [eq_comm] using hy)
    · cases hy
  · rintro ⟨l, hl, da, dev, hends, hkeep, hxy⟩
    refine ⟨da, dev, ⟨l, hl, hends⟩, ?_⟩
    rw [if_pos hkeep, List.mem_append]
    rcases hxy with ⟨rfl, rfl⟩ | ⟨rfl, rfl⟩
    · exact Or.inl (by simp)
    · exact Or.inr (by simp)

/-- The ids of the devices that have a link. -/
private def linkedDeviceIds (db : Database) : List String :=
  (db.links.filterMap (linkDeviceIds db)).flatMap (fun ends ↦ [ends.1, ends.2])

private theorem mem_linkedDeviceIds {keep : String → String → Bool} {x y : String}
    (h : y ∈ adjacent db keep x) : y ∈ linkedDeviceIds db := by
  obtain ⟨l, hl, da, dev, hends, _, hxy⟩ := mem_adjacent.mp h
  refine List.mem_flatMap.mpr ⟨(da, dev), List.mem_filterMap.mpr ⟨l, hl, hends⟩, ?_⟩
  rcases hxy with ⟨_, rfl⟩ | ⟨_, rfl⟩ <;> simp

/-- The search visits what passives and ODFs lead to. -/
theorem mem_passiveSearch {start x : String} :
    x ∈ passiveSearch db start ↔ Reached (fun u v ↦ v ∈ passiveAdj db u) [start] x := by
  have hcard : (linkedDeviceIds db).toFinset.card ≤ 2 * db.links.length := by
    have hlength : (linkedDeviceIds db).length = (db.links.filterMap (linkDeviceIds db)).length * 2 := by
      simp [linkedDeviceIds, List.length_flatMap]
    have hle := List.length_filterMap_le (linkDeviceIds db) db.links
    have hfin := List.toFinset_card_le (linkedDeviceIds db)
    omega
  have hin : ∀ v w, w ∈ passiveAdj db v → w ∈ (linkedDeviceIds db).toFinset := by
    intro v w hw
    exact List.mem_toFinset.mpr (mem_linkedDeviceIds hw)
  have hnext : ∀ (_ : Nat) (v w : String), w ∈ passiveAdj db v ↔ w ∈ passiveAdj db v :=
    fun _ _ _ ↦ Iff.rfl
  refine Frontier.mem_loop_iff hnext hin ?_
  rw [List.length_singleton]
  omega

/-- A passive is anchored if it is beside, or leads over passives to, an ODF with an OLT. -/
theorem anchoredOk_iff {id : String} :
    anchoredOk db id = true ↔ besideAnchoredOdf db id = true ∨
      ∃ odf, Reached (fun u v ↦ v ∈ passiveAdj db u) [id] odf ∧ odfWithOlt db odf = true := by
  simp only [anchoredOk, Bool.or_eq_true, List.any_eq_true, mem_passiveSearch]
  refine or_congr_right (exists_congr (fun odf ↦ and_congr_right (fun _ ↦ ?_)))
  simp [odfWithOlt]

end Unoc.Links
