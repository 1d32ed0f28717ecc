import Unoc.Base.System
import Unoc.Links.Accepted

/-!
# The optical link policy over runs

What calls of `create_link_impl` keep true of the links. An ODF keeps a single OLT and no OLT is
joined to an ONT. The other two rules have gaps: the upstream links of an ONT are only counted when
it is joined to an ODF, and only the ONTs below an OUT port count against a splitter.
-/

namespace Unoc.Links

open Unoc.Base
open Unoc.Model
open Unoc.Status (passiveInline ontClass matchEither)

variable {db db' mid : Database} {p : LinkCreate} {aDev bDev : Device} {aIf bIf : Interface} {l : Link}

/-! ### The policy -/

/-- A link joins a device to a device of some types. -/
def isLinkTo (db : Database) (deviceId : String) (other : DeviceType → Bool) (l : Link) : Bool :=
  match linkDeviceIds db l with
  | none => false
  | some (da, dev) =>
    (da = deviceId && (dtype db dev).any other) || (dev = deviceId && (dtype db da).any other)

/-- The number of links that join a device to devices of some types. -/
def linkCount (db : Database) (deviceId : String) (other : DeviceType → Bool) : Nat :=
  db.links.countP (isLinkTo db deviceId other)

/-- The ONTs that a link joins to a device. -/
def directOnts (db : Database) (deviceId : String) : List String :=
  ((devAdj db deviceId).filter (fun x ↦ (dtype db x).any ontClass)).dedup

/-- The policy: one OLT for an ODF, one passive device for an ONT, none of them directly joined, and
no more ONTs than OUT ports at a splitter. -/
structure OpticalPolicy (db : Database) : Prop where
  odf : ∀ d ∈ db.devices, d.type = .odf → linkCount db d.id (· = .olt) ≤ 1
  ont : ∀ d ∈ db.devices, ontClass d.type = true → linkCount db d.id passiveInline ≤ 1
  oltOnt : ∀ l ∈ db.links, ∀ da dev, linkDeviceIds db l = some (da, dev) →
    joinsTypes db (· = .olt) ontClass da dev = false
  splitter : ∀ d ∈ db.devices, d.type = .splitter →
    (directOnts db d.id).length ≤ (outInterfaces db d.id).length

/-! ### Calls that the guards cover -/

/-- An interface id is that of an OUT port, or of a default interface that becomes one. -/
def endsAtOut (db : Database) (splitterId interfaceId : String) : Bool :=
  match db.getInterface interfaceId with
  | some i => i ∈ outInterfaces db splitterId
  | none => namedOuts db splitterId = []

/-- A device that is joined to an ONT over an interface: the ONT has no link to a passive device yet,
unless it is joined to an ODF, and a splitter is joined at an OUT port. -/
def Guarded (db : Database) (ont other : Device) (otherIf : String) : Prop :=
  ontClass ont.type = true →
    (passiveInline other.type = true → other.type ≠ .odf → countUpstreamLinks db ont = 0) ∧
      (other.type = .splitter → endsAtOut db other.id otherIf = true)

/-- Whether the guards apply is checked on the rows. -/
instance (db : Database) (ont other : Device) (otherIf : String) :
    Decidable (Guarded db ont other otherIf) :=
  inferInstanceAs (Decidable (_ → _))

/-- A request that is guarded from both ends. -/
def Covered (db : Database) (p : LinkCreate) : Prop :=
  ∀ aDev ∈ deviceFor db p.aInterfaceId, ∀ bDev ∈ deviceFor db p.bInterfaceId,
    Guarded db aDev bDev p.bInterfaceId ∧ Guarded db bDev aDev p.aInterfaceId

/-- Whether a request is covered is checked on the rows. -/
instance (db : Database) (p : LinkCreate) : Decidable (Covered db p) :=
  inferInstanceAs (Decidable (∀ aDev ∈ deviceFor db p.aInterfaceId,
    ∀ bDev ∈ deviceFor db p.bInterfaceId, _))

/-! ### Ends of a link -/

/-- The interfaces at the two ends of a link, in either order. -/
def Ends (db : Database) (l : Link) (i j : Interface) : Prop :=
  (db.getInterface l.aInterfaceId = some i ∧ db.getInterface l.bInterfaceId = some j) ∨
    (db.getInterface l.aInterfaceId = some j ∧ db.getInterface l.bInterfaceId = some i)

private theorem Ends.symm {i j : Interface} (h : Ends db l i j) : Ends db l j i := Or.symm h

private theorem Ends.linkDeviceIds_or {i j : Interface} (h : Ends db l i j) :
    linkDeviceIds db l = some (i.deviceId, j.deviceId) ∨
      linkDeviceIds db l = some (j.deviceId, i.deviceId) := by
  rcases h with ⟨ha, hb⟩ | ⟨ha, hb⟩
  · exact Or.inl (by simp [linkDeviceIds, ha, hb])
  · exact Or.inr (by simp [linkDeviceIds, ha, hb])

private theorem ends_of_linkDeviceIds {x y : String} (h : linkDeviceIds db l = some (x, y)) :
    ∃ i j, Ends db l i j ∧ i.deviceId = x ∧ j.deviceId = y := by
  simp only [linkDeviceIds, Option.bind_eq_bind, Option.bind_eq_some_iff, Option.pure_def,
    Option.some.injEq, Prod.mk.injEq] at h
  obtain ⟨i, ha, j, hb, hx, hy⟩ := h
  exact ⟨i, j, Or.inl ⟨ha, hb⟩, hx, hy⟩

private theorem Ends.unique {i j i' j' : Interface} (h : Ends db l i j) (h' : Ends db l i' j') :
    (i = i' ∧ j = j') ∨ (i = j' ∧ j = i') := by
  rcases h with ⟨hi, hj⟩ | ⟨hj, hi⟩ <;> rcases h' with ⟨hi', hj'⟩ | ⟨hj', hi'⟩
  · exact Or.inl ⟨Option.some.inj (hi.symm.trans hi'), Option.some.inj (hj.symm.trans hj')⟩
  · exact Or.inr ⟨Option.some.inj (hi.symm.trans hj'), Option.some.inj (hj.symm.trans hi')⟩
  · exact Or.inr ⟨Option.some.inj (hi.symm.trans hj'), Option.some.inj (hj.symm.trans hi')⟩
  · exact Or.inl ⟨Option.some.inj (hi.symm.trans hi'), Option.some.inj (hj.symm.trans hj')⟩

private theorem Ends.getInterface_right {i j : Interface} (h : Ends db l i j) :
    db.getInterface j.id = some j := by
  rcases h with ⟨_, hj⟩ | ⟨hj, _⟩
  · rw [(Database.getInterface_eq_some.mp hj).2, hj]
  · rw [(Database.getInterface_eq_some.mp hj).2, hj]

private theorem Ends.mem_counterparts {i j : Interface} (h : Ends db l i j) (hl : l ∈ db.links) :
    j.id ∈ counterparts db i.id := by
  rw [Links.mem_counterparts]
  refine ⟨l, hl, ?_⟩
  rcases h with ⟨hi, hj⟩ | ⟨hj, hi⟩
  · exact Or.inl ⟨(Database.getInterface_eq_some.mp hi).2.symm,
      (Database.getInterface_eq_some.mp hj).2.symm⟩
  · have ha := (Database.getInterface_eq_some.mp hj).2.symm
    have hb := (Database.getInterface_eq_some.mp hi).2.symm
    by_cases hsame : l.aInterfaceId = i.id
    · exact Or.inl ⟨hsame, by rw [hb, ← hsame, ha]⟩
    · exact Or.inr ⟨hsame, hb, ha⟩

/-- A link of which one end is known joins the device there to the one at the other end. -/
theorem Ends.isLinkTo_iff {i j : Interface} (h : Ends db l i j) {id : String}
    {other : DeviceType → Bool} :
    isLinkTo db id other l = true ↔
      (i.deviceId = id ∧ (dtype db j.deviceId).any other = true) ∨
        (j.deviceId = id ∧ (dtype db i.deviceId).any other = true) := by
  rcases h.linkDeviceIds_or with hl | hl
  · simp [isLinkTo, hl]
  · simp [isLinkTo, hl, or_comm]

/-- The links that `_count_upstream_links` counts. -/
theorem countUpstreamLinks_eq (dev : Device) :
    countUpstreamLinks db dev = linkCount db dev.id (upstreamType dev.type) := by
  refine List.countP_congr (fun l _ ↦ ?_)
  unfold isUpstreamLink isLinkTo
  cases hl : linkDeviceIds db l with
  | none => rfl
  | some ends =>
    obtain ⟨x, y⟩ := ends
    by_cases hx : x = dev.id <;> by_cases hy : y = dev.id <;> simp [hx, hy]

private theorem upstreamType_odf : upstreamType .odf = (fun type ↦ decide (type = .olt)) := by
  funext type
  simp [upstreamType, ontClass]

private theorem upstreamType_ont {type : DeviceType} (h : ontClass type = true) :
    upstreamType type = passiveInline := by
  funext other
  cases type <;> simp_all [upstreamType, ontClass]

/-! ### More interfaces -/

namespace Grows

private theorem ends (h : Grows db db') {i j : Interface} (hl : Ends db l i j) : Ends db' l i j :=
  Or.imp (fun hl ↦ ⟨h.getInterface hl.1, h.getInterface hl.2⟩)
    (fun hl ↦ ⟨h.getInterface hl.1, h.getInterface hl.2⟩) hl

/-- A link whose interfaces exist has no other ends later. -/
theorem ends_of_resolved (h : Grows db db') (hl : (linkDeviceIds db l).isSome) {i j : Interface}
    (hij : Ends db' l i j) : Ends db l i j := by
  obtain ⟨ends, hends⟩ := Option.isSome_iff_exists.mp hl
  obtain ⟨i', j', hij', _, _⟩ := ends_of_linkDeviceIds hends
  rcases hij.unique (h.ends hij') with ⟨rfl, rfl⟩ | ⟨rfl, rfl⟩
  · exact hij'
  · exact hij'.symm

/-- A link whose interfaces exist keeps its device ids. -/
theorem isLinkTo_eq (h : Grows db db') (hl : (linkDeviceIds db l).isSome) (id : String)
    (other : DeviceType → Bool) : isLinkTo db' id other l = isLinkTo db id other l := by
  obtain ⟨ends, hends⟩ := Option.isSome_iff_exists.mp hl
  simp only [isLinkTo, hends, h.linkDeviceIds_eq hends, h.dtype_eq]

private theorem namedOuts_eq (h : Grows db db') (id : String) :
    namedOuts db' id = namedOuts db id := by
  obtain ⟨new, hnew, hname⟩ := h.interfaces
  rw [namedOuts, namedOuts, interfacesOf, interfacesOf, hnew, List.filter_append,
    List.filter_append, List.append_right_eq_self]
  apply List.filter_eq_nil_iff.mpr
  intro i hi
  rw [hname i (List.mem_of_mem_filter hi)]
  decide

/-- The OUT ports stay, and further ones are added behind them. -/
theorem outInterfaces_eq (h : Grows db db') (id : String) :
    ∃ rest, outInterfaces db' id = outInterfaces db id ++ rest := by
  unfold outInterfaces
  rw [h.namedOuts_eq]
  split
  · obtain ⟨new, hnew, _⟩ := h.interfaces
    simp only [interfacesOf, hnew, List.filter_append]
    exact ⟨_, rfl⟩
  · exact ⟨[], (List.append_nil _).symm⟩

private theorem mem_outInterfaces (h : Grows db db') {id : String} {i : Interface}
    (hi : i ∈ outInterfaces db id) : i ∈ outInterfaces db' id := by
  obtain ⟨rest, hrest⟩ := h.outInterfaces_eq id
  rw [hrest]
  exact List.mem_append_left _ hi

private theorem length_outInterfaces (h : Grows db db') (id : String) :
    (outInterfaces db id).length ≤ (outInterfaces db' id).length := by
  obtain ⟨rest, hrest⟩ := h.outInterfaces_eq id
  rw [hrest, List.length_append]
  omega

/-- A new default interface is an OUT port of a splitter that names none. -/
theorem mem_outInterfaces_new (h : Grows db db') {i : Interface} (hi : i ∈ db'.interfaces)
    (hname : i.name = "if0") (hnone : namedOuts db i.deviceId = []) :
    i ∈ outInterfaces db' i.deviceId := by
  rw [outInterfaces, h.namedOuts_eq, if_pos hnone, List.mem_filter, interfacesOf,
    List.mem_filter]
  refine ⟨⟨hi, by simp⟩, ?_⟩
  rw [hname]
  decide

end Grows

/-! ### What the guards refuse -/

private theorem checkPairing_ok {d : Details} {u : Unit}
    (h : checkPairing d p aDev bDev db = .ok u) :
    matchEither (· = .olt) ontClass aDev.type bDev.type = false ∧
      enforceOntPlacementRules db aDev bDev p.aInterfaceId p.bInterfaceId = .ok () := by
  unfold checkPairing at h
  obtain ⟨_, _, h⟩ := bind_eq_ok.mp h
  obtain ⟨_, _, h⟩ := bind_eq_ok.mp h
  obtain ⟨_, _, h⟩ := bind_eq_ok.mp h
  obtain ⟨_, hdirect, h⟩ := bind_eq_ok.mp h
  obtain ⟨_, _, h⟩ := bind_eq_ok.mp h
  exact ⟨failIf_eq_ok.mp hdirect, h⟩

/-- A device that passes has no upstream link yet. -/
theorem enforceSingleUpstream_ok {own other : DeviceType → Bool} {u : Unit}
    (hdisjoint : ∀ type, own type = true → other type = false)
    (h : enforceSingleUpstream db own other aDev bDev = .ok u) :
    (own aDev.type = true → other bDev.type = true → countUpstreamLinks db aDev = 0) ∧
      (own bDev.type = true → other aDev.type = true → countUpstreamLinks db bDev = 0) := by
  simp only [enforceSingleUpstream, failIf_eq_ok] at h
  constructor
  · intro hown hother
    simpa [matchEither, hown, hother] using h
  · intro hown hother
    have hnot : own aDev.type = false := by
      cases ha : own aDev.type with
      | false => rfl
      | true => rw [hdisjoint _ ha] at hother; cases hother
    simpa [matchEither, hown, hother, hnot] using h

/-- A splitter with OUT ports has one more than the ONTs below them. -/
def HasCapacity (db : Database) (splitter : Device) : Prop :=
  outInterfaces db splitter.id ≠ [] →
    (computeSplitterUsage db splitter).downstreamOnts < (outInterfaces db splitter.id).length

private theorem enforcePlacementAt_ok {other : Device} {ontIf aId bId : String} {u : Unit}
    (htype : other.type = .splitter) (h : enforcePlacementAt db other ontIf aId bId = .ok u) :
    HasCapacity db other := by
  intro hne
  unfold enforcePlacementAt at h
  simp only [htype, reduceCtorEq, if_false] at h
  split at h
  · cases h
  · split at h
    · cases h
    · simp only [if_true] at h
      obtain ⟨_, _, husage⟩ := bind_eq_ok.mp h
      have htotal : (computeSplitterUsage db other).portsTotal =
          (outInterfaces db other.id).length := by
        simp [computeSplitterUsage, htype, hne]
      have hpos := List.length_pos_iff.mpr hne
      simp only [enforceUsage, failIf_eq_ok, htotal, Bool.and_eq_false_iff,
        decide_eq_false_iff_not] at husage
      omega

/-- A splitter that an ONT may be joined to has capacity. -/
theorem enforceOntPlacementRules_ok {aId bId : String} {u : Unit}
    (h : enforceOntPlacementRules db aDev bDev aId bId = .ok u) :
    (ontClass aDev.type = true → bDev.type = .splitter → HasCapacity db bDev) ∧
      (ontClass bDev.type = true → aDev.type = .splitter → HasCapacity db aDev) := by
  unfold enforceOntPlacementRules at h
  constructor
  · intro hont htype
    rw [if_pos hont] at h
    exact enforcePlacementAt_ok htype h
  · intro hont htype
    rw [htype, if_neg (by decide), if_pos hont] at h
    exact enforcePlacementAt_ok htype h

/-! ### One accepted call -/

/-- What holds of the links beside the policy: their interfaces exist, and a splitter is joined to an
ONT at an OUT port. -/
structure PolicyInv (db : Database) : Prop where
  policy : OpticalPolicy db
  resolved : ∀ l ∈ db.links, (linkDeviceIds db l).isSome
  outPorts : ∀ l ∈ db.links, ∀ i j, Ends db l i j → dtype db i.deviceId = some .splitter →
    (dtype db j.deviceId).any ontClass = true →
      j.deviceId ≠ "" ∧ i ∈ outInterfaces db i.deviceId

/-- The ONTs at a splitter are those that links lead to. -/
theorem mem_directOnts {id x : String} :
    x ∈ directOnts db id ↔ ∃ l ∈ db.links, ∃ i j, Ends db l i j ∧ i.deviceId = id ∧ j.deviceId = x ∧
      (dtype db x).any ontClass = true := by
  simp only [directOnts, List.mem_dedup, List.mem_filter, devAdj, mem_adjacent, true_and]
  constructor
  · rintro ⟨⟨l, hl, da, dev, hends, ⟨rfl, rfl⟩ | ⟨rfl, rfl⟩⟩, hont⟩
    · obtain ⟨i, j, hij, hi, hj⟩ := ends_of_linkDeviceIds hends
      exact ⟨l, hl, i, j, hij, hi, hj, hont⟩
    · obtain ⟨i, j, hij, hi, hj⟩ := ends_of_linkDeviceIds hends
      exact ⟨l, hl, j, i, hij.symm, hj, hi, hont⟩
  · rintro ⟨l, hl, i, j, hij, rfl, rfl, hont⟩
    refine ⟨⟨l, hl, ?_⟩, hont⟩
    rcases hij.linkDeviceIds_or with hends | hends
    · exact ⟨_, _, hends, Or.inl ⟨rfl, rfl⟩⟩
    · exact ⟨_, _, hends, Or.inr ⟨rfl, rfl⟩⟩

/-- An ONT joined to a splitter is seen from one of its OUT ports. -/
theorem PolicyInv.seen (hinv : PolicyInv db) {d : Device} (hd : d ∈ db.devices)
    (htype : d.type = .splitter) {x : String} (hx : x ∈ directOnts db d.id) :
    ∃ out ∈ outInterfaces db d.id, x ∈ ontsFrom db out.id := by
  obtain ⟨l, hl, i, j, hij, hi, rfl, hont⟩ := mem_directOnts.mp hx
  have hsplitter : dtype db i.deviceId = some .splitter := by
    rw [hi, dtype, Database.getDevice_eq_some.mpr ⟨hd, rfl⟩, Option.map_some, htype]
  obtain ⟨hne, hout⟩ := hinv.outPorts l hl i j hij hsplitter hont
  rw [hi] at hout
  have hont' : ontOf db j.id = some j.deviceId := by
    simpa [ontOf, deviceIdOf, hij.getInterface_right, hne, dtype, Option.any_map,
      Function.comp_def] using hont
  refine ⟨i, hout, mem_ontsFrom.mpr ⟨j.id, ?_, hont', .single (List.mem_filter.mpr ⟨?_, ?_⟩)⟩⟩
  · -- one interface is not both at a splitter and at an ONT
    intro hsame
    have hji : j = i := by
      have h := hij.getInterface_right
      rw [hsame, hij.symm.getInterface_right] at h
      exact (Option.some.inj h).symm
    rw [hji, hsplitter] at hont
    cases hont
  · exact hij.mem_counterparts hl
  · simp [deviceIdOf, hij.getInterface_right, hne]

private theorem PolicyInv.directOnts_le (hinv : PolicyInv db) {d : Device} (hd : d ∈ db.devices)
    (htype : d.type = .splitter) (hne : outInterfaces db d.id ≠ []) :
    (directOnts db d.id).length ≤ (computeSplitterUsage db d).downstreamOnts := by
  have hsub : directOnts db d.id ⊆
      ((outInterfaces db d.id).flatMap (fun out ↦ ontsFrom db out.id)).dedup := by
    intro x hx
    exact List.mem_dedup.mpr (List.mem_flatMap.mpr (hinv.seen hd htype hx))
  have husage : (computeSplitterUsage db d).downstreamOnts =
      ((outInterfaces db d.id).flatMap (fun out ↦ ontsFrom db out.id)).dedup.length := by
    simp [computeSplitterUsage, htype, hne]
  rw [husage]
  exact (List.subperm_of_subset (List.nodup_dedup _) hsub).length_le

namespace Accepted

variable (h : Accepted p db mid db' aDev bDev aIf bIf l)

include h

private theorem grows_mid : Grows mid db' :=
  ⟨h.devices, [], by rw [h.interfaces, List.append_nil], by simp⟩

private theorem grows_db : Grows db db' := h.grows.trans h.grows_mid

private theorem links_eq : db'.links = db.links ++ [l] := by rw [h.links, h.midLinks]

/-- The link joins the two interfaces of the request. -/
theorem ends : Ends db' l aIf bIf := by
  have ha := h.grows_mid.getInterface h.aEnd.found
  have hb := h.grows_mid.getInterface h.bEnd.found
  unfold Ends
  rw [h.aId, h.bId]
  simp only [canonicalLinkId]
  by_cases hlt : p.bInterfaceId < p.aInterfaceId
  · simp only [hlt, if_true]
    exact Or.inr ⟨hb, ha⟩
  · simp only [hlt, if_false]
    exact Or.inl ⟨ha, hb⟩

private theorem ends_cases {i j : Interface} (hij : Ends db' l i j) :
    (i = aIf ∧ j = bIf) ∨ (i = bIf ∧ j = aIf) := hij.unique h.ends

private theorem getDevice_a : db'.getDevice aIf.deviceId = some aDev := by
  rw [h.grows_db.getDevice, h.aEnd.deviceId, (deviceFor_eq_some h.aEnd.device).1]

private theorem getDevice_b : db'.getDevice bIf.deviceId = some bDev := by
  rw [h.grows_db.getDevice, h.bEnd.deviceId, (deviceFor_eq_some h.bEnd.device).1]

private theorem dtype_a : dtype db' aIf.deviceId = some aDev.type := by
  rw [dtype, h.getDevice_a, Option.map_some]

private theorem dtype_b : dtype db' bIf.deviceId = some bDev.type := by
  rw [dtype, h.getDevice_b, Option.map_some]

/-- Which devices the link joins to a device of some types. -/
theorem isLinkTo_new {d : Device} (hd : d ∈ db'.devices) {other : DeviceType → Bool} :
    isLinkTo db' d.id other l = true ↔
      (d = aDev ∧ other bDev.type = true) ∨ (d = bDev ∧ other aDev.type = true) := by
  have hget : db'.getDevice d.id = some d := Database.getDevice_eq_some.mpr ⟨hd, rfl⟩
  have ha : aIf.deviceId = d.id ↔ d = aDev := by
    constructor
    · intro heq
      rw [← heq, h.getDevice_a] at hget
      exact (Option.some.inj hget).symm
    · rintro rfl
      exact h.aEnd.deviceId
  have hb : bIf.deviceId = d.id ↔ d = bDev := by
    constructor
    · intro heq
      rw [← heq, h.getDevice_b] at hget
      exact (Option.some.inj hget).symm
    · rintro rfl
      exact h.bEnd.deviceId
  rw [h.ends.isLinkTo_iff, ha, hb, h.dtype_a, h.dtype_b]
  simp

/-- The new link is counted besides the links before it. -/
theorem linkCount_new (hinv : PolicyInv db) (id : String) (other : DeviceType → Bool) :
    linkCount db' id other =
      linkCount db id other + if isLinkTo db' id other l = true then 1 else 0 := by
  rw [linkCount, h.links_eq, List.countP_append, List.countP_singleton, linkCount]
  congr 1
  exact List.countP_congr (fun l hl ↦ by rw [h.grows_db.isLinkTo_eq (hinv.resolved l hl)])

/-- A guard that sees no upstream link counts none before the request. -/
theorem linkCount_of_guard (hinv : PolicyInv db) {d : Device}
    (hcount : countUpstreamLinks mid d = 0) : linkCount db d.id (upstreamType d.type) = 0 := by
  rw [countUpstreamLinks_eq, linkCount, h.midLinks] at hcount
  rw [linkCount, ← hcount]
  exact List.countP_congr (fun l hl ↦ by rw [h.grows.isLinkTo_eq (hinv.resolved l hl)])

private theorem linkCount_le_one (hinv : PolicyInv db) {id : String} {other : DeviceType → Bool}
    (hold : linkCount db id other ≤ 1)
    (hnew : isLinkTo db' id other l = true → linkCount db id other = 0) :
    linkCount db' id other ≤ 1 := by
  rw [h.linkCount_new hinv]
  split
  · next hl => rw [hnew hl]
  · exact hold

/-- A second OLT of an ODF is refused. -/
theorem odf (hinv : PolicyInv db) {d : Device} (hd : d ∈ db'.devices) (htype : d.type = .odf) :
    linkCount db' d.id (· = .olt) ≤ 1 := by
  have hd' : d ∈ db.devices := by rwa [h.grows_db.devices] at hd
  apply h.linkCount_le_one hinv (hinv.policy.odf d hd' htype)
  intro hl
  obtain ⟨_, hodf, _⟩ := bind_eq_ok.mp h.upstream
  obtain ⟨ha, hb⟩ := enforceSingleUpstream_ok (by simp) hodf
  rw [← upstreamType_odf, ← htype]
  apply h.linkCount_of_guard hinv
  rcases (h.isLinkTo_new hd).mp hl with ⟨rfl, holt⟩ | ⟨rfl, holt⟩
  · exact ha (by simpa using htype) holt
  · exact hb (by simpa using htype) holt

/-- A second passive device of an ONT is refused at an ODF, and left out by a guarded request. -/
theorem ont (hinv : PolicyInv db) (hcovered : Covered db p) {d : Device} (hd : d ∈ db'.devices)
    (hont : ontClass d.type = true) : linkCount db' d.id passiveInline ≤ 1 := by
  have hd' : d ∈ db.devices := by rwa [h.grows_db.devices] at hd
  apply h.linkCount_le_one hinv (hinv.policy.ont d hd' hont)
  intro hl
  obtain ⟨_, _, hrule⟩ := bind_eq_ok.mp h.upstream
  have hdisjoint : ∀ type, ontClass type = true → decide (type = .odf) = false := by
    intro type
    cases type <;> simp [ontClass]
  obtain ⟨ha, hb⟩ := enforceSingleUpstream_ok hdisjoint hrule
  obtain ⟨hguardA, hguardB⟩ := hcovered aDev h.aEnd.device bDev h.bEnd.device
  rw [← upstreamType_ont hont]
  rcases (h.isLinkTo_new hd).mp hl with ⟨rfl, hpassive⟩ | ⟨rfl, hpassive⟩
  · by_cases hodf : bDev.type = .odf
    · exact h.linkCount_of_guard hinv (ha hont (by simpa using hodf))
    · rw [← countUpstreamLinks_eq]
      exact (hguardA hont).1 hpassive hodf
  · by_cases hodf : aDev.type = .odf
    · exact h.linkCount_of_guard hinv (hb hont (by simpa using hodf))
    · rw [← countUpstreamLinks_eq]
      exact (hguardB hont).1 hpassive hodf

/-- An OLT is not joined to an ONT. -/
theorem oltOnt (hinv : PolicyInv db) {k : Link} (hk : k ∈ db'.links) {x y : String}
    (hends : linkDeviceIds db' k = some (x, y)) : joinsTypes db' (· = .olt) ontClass x y = false := by
  rw [h.links_eq, List.mem_append, List.mem_singleton] at hk
  rcases hk with hk | rfl
  · obtain ⟨ends, hold⟩ := Option.isSome_iff_exists.mp (hinv.resolved k hk)
    have hsame : ends = (x, y) :=
      Option.some.inj ((h.grows_db.linkDeviceIds_eq hold).symm.trans hends)
    rw [hsame] at hold
    have hnot := hinv.policy.oltOnt k hk x y hold
    simpa only [joinsTypes, h.grows_db.dtype_eq] using hnot
  · have hpairing := (checkPairing_ok h.pairing).1
    obtain ⟨i, j, hij, rfl, rfl⟩ := ends_of_linkDeviceIds hends
    rcases h.ends_cases hij with ⟨rfl, rfl⟩ | ⟨rfl, rfl⟩
    · simpa only [joinsTypes, h.dtype_a, h.dtype_b] using hpairing
    · simp only [joinsTypes, h.dtype_a, h.dtype_b]
      simpa [matchEither, Bool.or_comm, Bool.and_comm] using hpairing

/-- The end of a guarded link at a splitter is an OUT port. -/
theorem endsAtOut_new {interfaceId : String} {dev : Device} {i : Interface}
    (hend : End db mid interfaceId dev i) (hout : endsAtOut db dev.id interfaceId = true) :
    i ∈ outInterfaces db' i.deviceId := by
  unfold endsAtOut at hout
  rcases hend.row with hi | ⟨hnone, hname⟩
  · rw [hi] at hout
    rw [hend.deviceId]
    exact h.grows_db.mem_outInterfaces (by simpa using hout)
  · rw [hnone] at hout
    have hmem : i ∈ db'.interfaces := by
      rw [h.interfaces]
      exact (Database.getInterface_eq_some.mp hend.found).1
    apply h.grows_db.mem_outInterfaces_new hmem hname
    rw [hend.deviceId]
    simpa using hout

/-- Splitters and ONTs are joined at OUT ports. -/
theorem outPorts (hinv : PolicyInv db) (hcovered : Covered db p) {k : Link} (hk : k ∈ db'.links)
    {i j : Interface} (hij : Ends db' k i j) (hi : dtype db' i.deviceId = some .splitter)
    (hj : (dtype db' j.deviceId).any ontClass = true) :
    j.deviceId ≠ "" ∧ i ∈ outInterfaces db' i.deviceId := by
  rw [h.links_eq, List.mem_append, List.mem_singleton] at hk
  rcases hk with hk | rfl
  · have hold := h.grows_db.ends_of_resolved (hinv.resolved k hk) hij
    rw [h.grows_db.dtype_eq] at hi hj
    obtain ⟨hne, hout⟩ := hinv.outPorts k hk i j hold hi hj
    exact ⟨hne, h.grows_db.mem_outInterfaces hout⟩
  · obtain ⟨hguardA, hguardB⟩ := hcovered aDev h.aEnd.device bDev h.bEnd.device
    rcases h.ends_cases hij with ⟨rfl, rfl⟩ | ⟨rfl, rfl⟩
    · rw [h.dtype_a, Option.some.injEq] at hi
      rw [h.dtype_b, Option.any_some] at hj
      refine ⟨?_, h.endsAtOut_new h.aEnd ((hguardB hj).2 hi)⟩
      rw [h.bEnd.deviceId]
      exact (deviceFor_eq_some h.bEnd.device).2
    · rw [h.dtype_b, Option.some.injEq] at hi
      rw [h.dtype_a, Option.any_some] at hj
      refine ⟨?_, h.endsAtOut_new h.bEnd ((hguardA hj).2 hi)⟩
      rw [h.aEnd.deviceId]
      exact (deviceFor_eq_some h.aEnd.device).2

/-- An ONT at a splitter was there before, or is at the other end of the new link. -/
theorem directOnts_new (hinv : PolicyInv db) {d : Device} (hd : d ∈ db'.devices) {x : String}
    (hx : x ∈ directOnts db' d.id) : x ∈ directOnts db d.id ∨
      (d = aDev ∧ ontClass bDev.type = true ∧ x = bDev.id) ∨
        (d = bDev ∧ ontClass aDev.type = true ∧ x = aDev.id) := by
  obtain ⟨k, hk, i, j, hij, hi, rfl, hont⟩ := mem_directOnts.mp hx
  rw [h.links_eq, List.mem_append, List.mem_singleton] at hk
  rcases hk with hk | rfl
  · have hold := h.grows_db.ends_of_resolved (hinv.resolved k hk) hij
    rw [h.grows_db.dtype_eq] at hont
    exact Or.inl (mem_directOnts.mpr ⟨k, hk, i, j, hold, hi, rfl, hont⟩)
  · have hget : db'.getDevice d.id = some d := Database.getDevice_eq_some.mpr ⟨hd, rfl⟩
    right
    rcases h.ends_cases hij with ⟨rfl, rfl⟩ | ⟨rfl, rfl⟩
    · rw [← hi, h.getDevice_a, Option.some.injEq] at hget
      rw [h.dtype_b, Option.any_some] at hont
      exact Or.inl ⟨hget.symm, hont, h.bEnd.deviceId⟩
    · rw [← hi, h.getDevice_b, Option.some.injEq] at hget
      rw [h.dtype_a, Option.any_some] at hont
      exact Or.inr ⟨hget.symm, hont, h.aEnd.deviceId⟩

/-- One more ONT fits at a splitter with capacity. -/
theorem splitter_of_capacity (hinv : PolicyInv db) {d : Device} (hd : d ∈ db.devices)
    (htype : d.type = .splitter) (hcapacity : HasCapacity db d) {x : String}
    (hsub : directOnts db' d.id ⊆ x :: directOnts db d.id) (hout : outInterfaces db' d.id ≠ []) :
    (directOnts db' d.id).length ≤ (outInterfaces db' d.id).length := by
  have hlength : (directOnts db' d.id).length ≤ (directOnts db d.id).length + 1 :=
    (List.subperm_of_subset (List.nodup_dedup _) hsub).length_le
  by_cases hne : outInterfaces db d.id = []
  · have hnone : directOnts db d.id = [] := by
      rw [List.eq_nil_iff_forall_not_mem]
      intro y hy
      obtain ⟨out, hmem, _⟩ := hinv.seen hd htype hy
      rw [hne] at hmem
      cases hmem
    have hpos := List.length_pos_iff.mpr hout
    rw [hnone, List.length_nil] at hlength
    omega
  · have hle := hinv.directOnts_le hd htype hne
    have hlt := hcapacity hne
    have hmono := h.grows_db.length_outInterfaces d.id
    omega

/-- The ONTs at a splitter stay within its OUT ports. -/
theorem splitter (hinv : PolicyInv db) (hcovered : Covered db p) {d : Device}
    (hd : d ∈ db'.devices) (htype : d.type = .splitter) :
    (directOnts db' d.id).length ≤ (outInterfaces db' d.id).length := by
  have hd' : d ∈ db.devices := by rwa [h.grows_db.devices] at hd
  have hplacement := enforceOntPlacementRules_ok (checkPairing_ok h.pairing).2
  obtain ⟨hguardA, hguardB⟩ := hcovered aDev h.aEnd.device bDev h.bEnd.device
  by_cases ha : d = aDev ∧ ontClass bDev.type = true
  · obtain ⟨rfl, hont⟩ := ha
    have hout := h.endsAtOut_new h.aEnd ((hguardB hont).2 htype)
    rw [h.aEnd.deviceId] at hout
    refine h.splitter_of_capacity hinv hd' htype (hplacement.2 hont htype) (x := bDev.id) ?_
      (List.ne_nil_of_mem hout)
    intro x hx
    rcases h.directOnts_new hinv hd hx with hold | ⟨_, _, rfl⟩ | ⟨rfl, hont', _⟩
    · exact List.mem_cons_of_mem _ hold
    · exact List.mem_cons_self
    · rw [htype] at hont'
      cases hont'
  by_cases hb : d = bDev ∧ ontClass aDev.type = true
  · obtain ⟨rfl, hont⟩ := hb
    have hout := h.endsAtOut_new h.bEnd ((hguardA hont).2 htype)
    rw [h.bEnd.deviceId] at hout
    refine h.splitter_of_capacity hinv hd' htype (hplacement.1 hont htype) (x := aDev.id) ?_
      (List.ne_nil_of_mem hout)
    intro x hx
    rcases h.directOnts_new hinv hd hx with hold | ⟨rfl, hont', _⟩ | ⟨_, _, rfl⟩
    · exact List.mem_cons_of_mem _ hold
    · exact absurd ⟨rfl, hont'⟩ ha
    · exact List.mem_cons_self
  · -- the link joins no ONT to this splitter
    have hsub : directOnts db' d.id ⊆ directOnts db d.id := by
      intro x hx
      rcases h.directOnts_new hinv hd hx with hold | ⟨rfl, hont, _⟩ | ⟨rfl, hont, _⟩
      · exact hold
      · exact absurd ⟨rfl, hont⟩ ha
      · exact absurd ⟨rfl, hont⟩ hb
    calc (directOnts db' d.id).length
        ≤ (directOnts db d.id).length :=
          (List.subperm_of_subset (List.nodup_dedup _) hsub).length_le
      _ ≤ (outInterfaces db d.id).length := hinv.policy.splitter d hd' htype
      _ ≤ (outInterfaces db' d.id).length := h.grows_db.length_outInterfaces d.id

/-- An accepted request that is guarded keeps the policy. -/
theorem policyInv (hinv : PolicyInv db) (hcovered : Covered db p) : PolicyInv db' where
  policy :=
    { odf := fun _ hd htype ↦ h.odf hinv hd htype
      ont := fun _ hd hont ↦ h.ont hinv hcovered hd hont
      oltOnt := fun _ hk _ _ hends ↦ h.oltOnt hinv hk hends
      splitter := fun _ hd htype ↦ h.splitter hinv hcovered hd htype }
  resolved := by
    intro k hk
    rw [h.links_eq, List.mem_append, List.mem_singleton] at hk
    rcases hk with hk | rfl
    · obtain ⟨ends, hends⟩ := Option.isSome_iff_exists.mp (hinv.resolved k hk)
      rw [h.grows_db.linkDeviceIds_eq hends]
      rfl
    · rcases h.ends.linkDeviceIds_or with hends | hends <;> rw [hends] <;> rfl
  outPorts := fun _ hk _ _ hij hi hj ↦ h.outPorts hinv hcovered hk hij hi hj

end Accepted

/-! ### Runs -/

/-- Before the first link. -/
theorem policyInv_init (hlinks : db.links = []) : PolicyInv db where
  policy :=
    { odf := fun _ _ _ ↦ by simp [linkCount, hlinks]
      ont := fun _ _ _ ↦ by simp [linkCount, hlinks]
      oltOnt := fun _ hl ↦ by simp [hlinks] at hl
      splitter := fun d _ _ ↦ by simp [directOnts, devAdj, adjacent, hlinks] }
  resolved := fun _ hl ↦ by simp [hlinks] at hl
  outPorts := fun _ hl ↦ by simp [hlinks] at hl

/-- One accepted call. -/
def accept (env : Runtime) (store : Store) (p : LinkCreate) : Option Store :=
  (createLinkImpl env store p).toOption

/-- Accepted calls one after another, from a topology without links. -/
def creations (env : Runtime) : System Store LinkCreate :=
  System.ofAct (fun store ↦ store.db.links = []) (accept env)

/-- The guards cover the next call. -/
def coveredCall (store : Store) (p : LinkCreate) : Prop := Covered store.db p

/-- Whether a call is covered is checked on the store that it starts from. -/
instance (store : Store) : DecidablePred (coveredCall store) := fun p ↦
  inferInstanceAs (Decidable (Covered store.db p))

/-- In runs of calls that the guards cover, the policy holds in every state. -/
theorem optical_policy_of_covered (env : Runtime) {store : Store}
    (h : ((creations env).restrict coveredCall).Reachable store) : OpticalPolicy store.db := by
  refine (System.Reachable.invariant (I := fun store ↦ PolicyInv store.db) ?_ ?_ h).policy
  · exact fun store hinit ↦ policyInv_init hinit
  · rintro store p store' hinv ⟨hcovered, hstep⟩
    obtain ⟨mid, aDev, bDev, aIf, bIf, l, haccepted⟩ :=
      createLinkImpl_ok (toOption_eq_some.mp hstep)
    exact haccepted.policyInv hinv hcovered

/-- One ONT at the OUT port. -/
theorem optical_policy_of_covered_network :
    ∃ store : Store, store.db.links.length = 3 ∧ OpticalPolicy store.db := by
  have hrun : (System.run (System.guard coveredCall (accept constantRuntime)) accessNetwork
      [linkRequest "olt-if0" "odf-if0", linkRequest "odf-if0" "split-in",
        linkRequest "split-out1" "ont1-if0"]).any (fun store ↦ store.db.links.length = 3) = true := by
    decide +kernel
  obtain ⟨store, hstore, hlength⟩ := (Option.any_eq_true _ _).mp hrun
  have hinit : ((creations constantRuntime).restrict coveredCall).init accessNetwork := rfl
  have hreach : ((creations constantRuntime).restrict coveredCall).Reachable store :=
    .run _ (fun _ _ _ h ↦ System.restrict_of_guard h) _ (.init hinit) hstore
  exact ⟨store, by simpa using hlength, optical_policy_of_covered constantRuntime hreach⟩

/-- The ONT at the ODF is also accepted at the splitter; two ONTs are accepted at the IN port of a
splitter with a single OUT port. -/
theorem optical_policy_fails :
    (∃ store, (creations constantRuntime).Reachable store ∧ ¬ OpticalPolicy store.db ∧
      linkCount store.db "ont1" passiveInline = 2) ∧
    ∃ store, (creations constantRuntime).Reachable store ∧ ¬ OpticalPolicy store.db ∧
      (outInterfaces store.db "split").length = 1 ∧ (directOnts store.db "split").length = 2 := by
  have hinit : (creations constantRuntime).init accessNetwork := rfl
  constructor
  · have hrun : (System.run (accept constantRuntime) accessNetwork
        [linkRequest "olt-if0" "odf-if0", linkRequest "odf-if0" "split-in",
          linkRequest "odf-if0" "ont1-if0", linkRequest "split-out1" "ont1-if0"]).any (fun store ↦
            (store.db.getDevice "ont1").any (fun d ↦ ontClass d.type) &&
              linkCount store.db "ont1" passiveInline = 2) = true := by
      decide +kernel
    obtain ⟨store, hstore, hfacts⟩ := (Option.any_eq_true _ _).mp hrun
    obtain ⟨hdevice, hcount⟩ := (Bool.and_eq_true _ _).mp hfacts
    obtain ⟨d, hd, hont⟩ := (Option.any_eq_true _ _).mp hdevice
    obtain ⟨hmem, hid⟩ := Database.getDevice_eq_some.mp hd
    refine ⟨store, .run _ (fun _ _ _ h ↦ h) _ (.init hinit) hstore, ?_, of_decide_eq_true hcount⟩
    intro hpolicy
    have hle := hpolicy.ont d hmem hont
    rw [hid, of_decide_eq_true hcount] at hle
    omega
  · have hrun : (System.run (accept constantRuntime) accessNetwork
        [linkRequest "olt-if0" "odf-if0", linkRequest "odf-if0" "split-in",
          linkRequest "split-in" "ont1-if0", linkRequest "split-in" "ont2-if0"]).any (fun store ↦
            (store.db.getDevice "split").any (fun d ↦ d.type = .splitter) &&
              ((outInterfaces store.db "split").length = 1 ∧
                (directOnts store.db "split").length = 2)) = true := by
      decide +kernel
    obtain ⟨store, hstore, hfacts⟩ := (Option.any_eq_true _ _).mp hrun
    obtain ⟨hdevice, hcounts⟩ := (Bool.and_eq_true _ _).mp hfacts
    obtain ⟨d, hd, htype⟩ := (Option.any_eq_true _ _).mp hdevice
    obtain ⟨hmem, hid⟩ := Database.getDevice_eq_some.mp hd
    obtain ⟨houts, honts⟩ := of_decide_eq_true hcounts
    refine ⟨store, .run _ (fun _ _ _ h ↦ h) _ (.init hinit) hstore, ?_, houts, honts⟩
    intro hpolicy
    have hle := hpolicy.splitter d hmem (of_decide_eq_true htype)
    rw [hid, houts, honts] at hle
    omega

end Unoc.Links
