import Mathlib.Data.Set.Card
import Unoc.Links.Splitter

/-!
# Usage through passive devices

The module docstring of `backend/services/splitter_service.py` counts the ONTs below an OUT port with
passive inline devices transparent. The search of `compute_splitter_usage` goes on only at the
interface where a link ends, so that it sees what links reach without a device in between.
-/

namespace Unoc.Links

open Unoc.Model
open Unoc.Status (passiveInline ontClass)

variable (db : Database)

/-! ### Documented usage -/

/-- A link joins two interfaces. -/
def LinkBetween (x y : String) : Prop :=
  ∃ l ∈ db.links, (l.aInterfaceId = x ∧ l.bInterfaceId = y) ∨
    (l.bInterfaceId = x ∧ l.aInterfaceId = y)

/-- An interface of a device. -/
def OnDevice (x deviceId : String) : Prop :=
  ∃ i ∈ db.interfaces, i.id = x ∧ i.deviceId = deviceId

/-- A device whose type passes a check. -/
def HasType (p : DeviceType → Bool) (deviceId : String) : Prop :=
  ∃ d ∈ db.devices, d.id = deviceId ∧ p d.type = true

/-- A link leads from some interface of a passive inline device to another device than the
splitter. -/
def InlineHop (splitterId deviceId next : String) : Prop :=
  HasType db passiveInline deviceId ∧ next ≠ splitterId ∧
    ∃ x y, OnDevice db x deviceId ∧ LinkBetween db x y ∧ OnDevice db y next

/-- An ONT below an OUT port: a link of the port leads to it or to a passive inline device from which
others lead on, none of them back to the splitter. -/
def Downstream (splitterId outId ontId : String) : Prop :=
  HasType db ontClass ontId ∧ ∃ y first, LinkBetween db outId y ∧ OnDevice db y first ∧
    first ≠ splitterId ∧ Relation.ReflTransGen (InlineHop db splitterId) first ontId

/-- The OUT ports with an ONT below. -/
def servingOuts (splitterId : String) : Set Interface :=
  {out | out ∈ outInterfaces db splitterId ∧ ∃ d, Downstream db splitterId out.id d}

/-- The ONTs below some OUT port. -/
def downstreamOnts (splitterId : String) : Set String :=
  {d | ∃ out ∈ outInterfaces db splitterId, Downstream db splitterId out.id d}

/-! ### Usage over links alone -/

/-- A link leads to an interface of a device with an id. -/
def LinkHop (x y : String) : Prop := LinkBetween db x y ∧ ∃ d, d ≠ "" ∧ OnDevice db y d

/-- Links lead from an interface to another one, of an ONT, each starting at the interface where the
one before ends. -/
def Wired (outId ontId : String) : Prop :=
  ontId ≠ "" ∧ HasType db ontClass ontId ∧ ∃ y ≠ outId, OnDevice db y ontId ∧
    Relation.ReflTransGen (LinkHop db) outId y

/-- The OUT ports wired to an ONT. -/
def wiredOuts (splitterId : String) : Set Interface :=
  {out | out ∈ outInterfaces db splitterId ∧ ∃ d, Wired db out.id d}

/-- The ONTs wired to some OUT port. -/
def wiredOnts (splitterId : String) : Set String :=
  {d | ∃ out ∈ outInterfaces db splitterId, Wired db out.id d}

variable {db : Database}

private theorem mem_counterparts_iff {x y : String} :
    y ∈ counterparts db x ↔ LinkBetween db x y := by
  rw [mem_counterparts]
  refine exists_congr (fun l ↦ and_congr_right (fun _ ↦ ?_))
  constructor
  · rintro (⟨ha, hb⟩ | ⟨_, hb, ha⟩)
    · exact .inl ⟨ha, hb⟩
    · exact .inr ⟨hb, ha⟩
  · rintro (⟨ha, hb⟩ | ⟨hb, ha⟩)
    · exact .inl ⟨ha, hb⟩
    · by_cases hx : l.aInterfaceId = x
      · exact .inl ⟨hx, hb.trans (hx.symm.trans ha)⟩
      · exact .inr ⟨hx, hb, ha⟩

private theorem deviceIdOf_eq_some {x d : String} :
    deviceIdOf db x = some d ↔ d ≠ "" ∧ OnDevice db x d := by
  simp only [deviceIdOf, OnDevice, Option.filter_eq_some_iff, Option.map_eq_some_iff,
    Database.getInterface_eq_some, decide_eq_true_eq]
  constructor
  · rintro ⟨⟨i, ⟨hi, hx⟩, hd⟩, hne⟩
    exact ⟨hne, i, hi, hx, hd⟩
  · rintro ⟨hne, i, hi, hx, hd⟩
    exact ⟨⟨i, ⟨hi, hx⟩, hd⟩, hne⟩

private theorem any_getDevice {p : DeviceType → Bool} {d : String} :
    (db.getDevice d).any (fun d ↦ p d.type) = true ↔ HasType db p d := by
  simp only [Option.any_eq_true, HasType, Database.getDevice_eq_some, and_assoc]

private theorem mem_knownCounterparts {x y : String} :
    y ∈ knownCounterparts db x ↔ LinkHop db x y := by
  rw [knownCounterparts, List.mem_filter, mem_counterparts_iff, Option.isSome_iff_exists]
  simp only [deviceIdOf_eq_some, LinkHop]

private theorem ontOf_eq_some {x d : String} :
    ontOf db x = some d ↔ d ≠ "" ∧ HasType db ontClass d ∧ OnDevice db x d := by
  rw [ontOf, Option.filter_eq_some_iff, deviceIdOf_eq_some, any_getDevice, and_assoc,
    and_comm (a := OnDevice db x d)]

/-- A search sees the ONTs that its interface is wired to. -/
theorem mem_ontsFrom_iff_wired {start d : String} : d ∈ ontsFrom db start ↔ Wired db start d := by
  simp only [mem_ontsFrom, ontOf_eq_some, mem_knownCounterparts, Wired]
  constructor
  · rintro ⟨nb, hnb, ⟨hd, htype, hon⟩, hreach⟩
    exact ⟨hd, htype, nb, hnb, hon, hreach⟩
  · rintro ⟨hd, htype, nb, hnb, hon, hreach⟩
    exact ⟨nb, hnb, ⟨hd, htype, hon⟩, hreach⟩

/-! ### Counts -/

private theorem outInterfaces_nodup (db : Database) (splitterId : String) :
    ((outInterfaces db splitterId).map Interface.id).Nodup := by
  have hfilter : ∀ p : Interface → Bool,
      (((interfacesOf db splitterId).filter p).map Interface.id).Nodup := by
    intro p
    refine db.interfaces_nodup.sublist (List.Sublist.map _ ?_)
    exact List.filter_sublist.trans List.filter_sublist
  unfold outInterfaces
  split
  · exact hfilter _
  · exact hfilter _

/-- Rows of a list that pass a check, counted in the list and as a set. -/
theorem length_filter_eq_ncard {α : Type} {rows : List α} (h : rows.Nodup) (p : α → Bool) :
    (rows.filter p).length = {x | x ∈ rows ∧ p x = true}.ncard := by
  classical
  rw [← List.toFinset_card_of_nodup (h.filter p), ← Set.ncard_coe_finset]
  congr 1
  ext x
  simp

variable {splitter : Device}

/-- The two counts are those of the ports and ONTs that links alone connect. -/
theorem computeSplitterUsage_eq (h : splitter.type = .splitter) :
    (computeSplitterUsage db splitter).portsUsed = (wiredOuts db splitter.id).ncard ∧
      (computeSplitterUsage db splitter).downstreamOnts = (wiredOnts db splitter.id).ncard := by
  have hports : ((outInterfaces db splitter.id).filter
      (fun out ↦ ontsFrom db out.id ≠ [])).length = (wiredOuts db splitter.id).ncard := by
    rw [length_filter_eq_ncard (outInterfaces_nodup db splitter.id).of_map]
    congr 1
    ext out
    simp only [wiredOuts, Set.mem_ofPred_eq, decide_eq_true_eq, ← mem_ontsFrom_iff_wired]
    apply and_congr_right
    intro _
    constructor
    · exact List.exists_mem_of_ne_nil _
    · rintro ⟨d, hd⟩
      exact List.ne_nil_of_mem hd
  have honts : ((outInterfaces db splitter.id).flatMap
      (fun out ↦ ontsFrom db out.id)).dedup.length = (wiredOnts db splitter.id).ncard := by
    rw [← List.card_toFinset, ← Set.ncard_coe_finset]
    congr 1
    ext d
    simp only [wiredOnts, Set.mem_ofPred_eq, ← mem_ontsFrom_iff_wired, List.coe_toFinset,
      List.mem_flatMap]
  unfold computeSplitterUsage
  by_cases houts : outInterfaces db splitter.id = []
  · rw [if_pos (.inr houts), ← hports, ← honts, houts]
    exact ⟨rfl, rfl⟩
  · rw [if_neg (by simp [h, houts])]
    exact ⟨hports, honts⟩

private theorem finite_outs {splitterId : String} {ports : Set Interface}
    (h : ∀ out ∈ ports, out ∈ outInterfaces db splitterId) : ports.Finite :=
  (List.finite_toSet (outInterfaces db splitterId)).subset h

private theorem finite_of_hasType {onts : Set String} (h : ∀ d ∈ onts, HasType db ontClass d) :
    onts.Finite := by
  refine (List.finite_toSet (db.devices.map Device.id)).subset ?_
  intro d hd
  obtain ⟨dev, hdev, hid, _⟩ := h d hd
  exact List.mem_map.mpr ⟨dev, hdev, hid⟩

/-! ### Interfaces with one link -/

/-- No interface has two links. -/
def OneLinkEach (db : Database) : Prop :=
  ∀ x y z, LinkBetween db x y → LinkBetween db x z → y = z

private theorem LinkBetween.symm {x y : String} (h : LinkBetween db x y) : LinkBetween db y x := by
  obtain ⟨l, hl, ⟨ha, hb⟩ | ⟨hb, ha⟩⟩ := h
  · exact ⟨l, hl, .inr ⟨hb, ha⟩⟩
  · exact ⟨l, hl, .inl ⟨ha, hb⟩⟩

/-- Links alone lead no further than to the other end of the first. -/
theorem OneLinkEach.linkBetween_of_reflTransGen (hone : OneLinkEach db) {x y : String}
    (h : Relation.ReflTransGen (LinkHop db) x y) : y = x ∨ LinkBetween db x y := by
  induction h with
  | refl => exact .inl rfl
  | tail _ hstep ih =>
    rcases ih with rfl | hlink
    · exact .inr hstep.1
    · exact .inl (hone _ _ _ hstep.1 hlink.symm)

/-- An ONT at the other end of a link is below it. -/
theorem OneLinkEach.downstream_of_wired (hone : OneLinkEach db) (hsplitter : splitter ∈ db.devices)
    (h : splitter.type = .splitter) {out d : String} (hwired : Wired db out d) :
    Downstream db splitter.id out d := by
  obtain ⟨_, htype, y, hy, hon, hreach⟩ := hwired
  have hlink := (hone.linkBetween_of_reflTransGen hreach).resolve_left hy
  refine ⟨htype, y, d, hlink, hon, ?_, .refl⟩
  rintro rfl
  obtain ⟨dev, hdev, hid, hclass⟩ := htype
  rw [List.inj_on_of_nodup_map db.devices_nodup hdev hsplitter hid, h] at hclass
  cases hclass

/-- Without another passive inline device an ONT is below a port only over the port's own link. -/
theorem wired_of_downstream (hids : ∀ d ∈ db.devices, d.id ≠ "")
    (hdirect : ∀ d ∈ db.devices, passiveInline d.type = true → d.id = splitter.id) {out d : String}
    (hout : OnDevice db out splitter.id) (hdown : Downstream db splitter.id out d) :
    Wired db out d := by
  obtain ⟨htype, y, first, hlink, hon, hfirst, hreach⟩ := hdown
  have hfirst' : first = d := by
    cases Relation.ReflTransGen.cases_head hreach with
    | inl heq => exact heq
    | inr hhop =>
      obtain ⟨_, ⟨⟨dev, hdev, hid, hpassive⟩, _⟩, _⟩ := hhop
      exact absurd (hid.symm.trans (hdirect dev hdev hpassive)) hfirst
  subst hfirst'
  obtain ⟨dev, hdev, hid, _⟩ := htype
  have hne : first ≠ "" := hid ▸ hids dev hdev
  refine ⟨hne, ⟨dev, hdev, hid, by assumption⟩, y, ?_, hon, .single ⟨hlink, first, hne, hon⟩⟩
  -- an interface is on one device
  rintro rfl
  obtain ⟨i, hi, hix, hid⟩ := hon
  obtain ⟨j, hj, hjx, hjd⟩ := hout
  have hij : i = j := List.inj_on_of_nodup_map db.interfaces_nodup hi hj (hix.trans hjx.symm)
  exact hfirst (hid.symm.trans ((congrArg Interface.deviceId hij).trans hjd))

private theorem ncard_eq_iff_of_subset {α : Type} {s t : Set α} (hsub : s ⊆ t) (hfin : t.Finite) :
    s.ncard = t.ncard ↔ t ⊆ s := by
  constructor
  · intro h
    exact (Set.eq_of_subset_of_ncard_le hsub h.ge hfin).ge
  · intro h
    rw [Set.Subset.antisymm hsub h]

/-- If no interface has two links, the usage is the documented one exactly if every OUT port with an
ONT below, and every ONT below one, has it at the other end of its link. -/
theorem OneLinkEach.documented_iff (hone : OneLinkEach db) (hsplitter : splitter ∈ db.devices)
    (h : splitter.type = .splitter) :
    ((computeSplitterUsage db splitter).portsUsed = (servingOuts db splitter.id).ncard ∧
      (computeSplitterUsage db splitter).downstreamOnts = (downstreamOnts db splitter.id).ncard) ↔
    servingOuts db splitter.id ⊆ wiredOuts db splitter.id ∧
      downstreamOnts db splitter.id ⊆ wiredOnts db splitter.id := by
  have houts : wiredOuts db splitter.id ⊆ servingOuts db splitter.id := by
    rintro out ⟨hout, d, hwired⟩
    exact ⟨hout, d, hone.downstream_of_wired hsplitter h hwired⟩
  have honts : wiredOnts db splitter.id ⊆ downstreamOnts db splitter.id := by
    rintro d ⟨out, hout, hwired⟩
    exact ⟨out, hout, hone.downstream_of_wired hsplitter h hwired⟩
  obtain ⟨hports, hcount⟩ := @computeSplitterUsage_eq db splitter h
  rw [hports, hcount]
  apply and_congr
  · exact ncard_eq_iff_of_subset houts (finite_outs (fun _ hout ↦ hout.1))
  · apply ncard_eq_iff_of_subset honts
    apply @finite_of_hasType db
    rintro d ⟨_, _, hdownstream⟩
    exact hdownstream.1

/-- The OUT ports of a splitter are interfaces of it. -/
theorem onDevice_of_mem_outInterfaces {splitterId : String} {out : Interface}
    (h : out ∈ outInterfaces db splitterId) : OnDevice db out.id splitterId := by
  have hof : out ∈ interfacesOf db splitterId := by
    unfold outInterfaces at h
    split at h
    · exact (List.mem_filter.mp h).1
    · exact (List.mem_filter.mp h).1
  have ⟨hmem, hid⟩ := List.mem_filter.mp hof
  exact ⟨out, hmem, rfl, of_decide_eq_true hid⟩

/-- So without another passive inline device the wired ports and ONTs are the documented ones. -/
theorem OneLinkEach.wired_eq (hone : OneLinkEach db) (hsplitter : splitter ∈ db.devices)
    (h : splitter.type = .splitter) (hids : ∀ d ∈ db.devices, d.id ≠ "")
    (hdirect : ∀ d ∈ db.devices, passiveInline d.type = true → d.id = splitter.id) :
    wiredOuts db splitter.id = servingOuts db splitter.id ∧
      wiredOnts db splitter.id = downstreamOnts db splitter.id := by
  have hiff : ∀ out ∈ outInterfaces db splitter.id, ∀ d,
      Wired db out.id d ↔ Downstream db splitter.id out.id d := by
    intro out hout d
    constructor
    · exact hone.downstream_of_wired hsplitter h
    · exact wired_of_downstream hids hdirect (onDevice_of_mem_outInterfaces hout)
  constructor
  · ext out
    exact and_congr_right (fun hout ↦ exists_congr (hiff out hout))
  · ext d
    exact exists_congr (fun out ↦ and_congr_right (fun hout ↦ hiff out hout d))

/-! ### The law -/

/-- The usage is the documented one exactly if as many OUT ports are wired to an ONT without having
one below as have one below without being wired to one, and likewise for the ONTs. -/
theorem computeSplitterUsage_documented_iff (h : splitter.type = .splitter) :
    ((computeSplitterUsage db splitter).portsUsed = (servingOuts db splitter.id).ncard ∧
      (computeSplitterUsage db splitter).downstreamOnts = (downstreamOnts db splitter.id).ncard) ↔
    (wiredOuts db splitter.id \ servingOuts db splitter.id).ncard =
        (servingOuts db splitter.id \ wiredOuts db splitter.id).ncard ∧
      (wiredOnts db splitter.id \ downstreamOnts db splitter.id).ncard =
        (downstreamOnts db splitter.id \ wiredOnts db splitter.id).ncard := by
  obtain ⟨hports, honts⟩ := @computeSplitterUsage_eq db splitter h
  rw [hports, honts]
  apply and_congr
  · exact Set.ncard_eq_ncard_iff_ncard_sdiff_eq_ncard_sdiff (finite_outs (fun _ hout ↦ hout.1))
      (finite_outs (fun _ hout ↦ hout.1))
  · refine Set.ncard_eq_ncard_iff_ncard_sdiff_eq_ncard_sdiff (@finite_of_hasType db _ ?_)
      (@finite_of_hasType db _ ?_)
    · rintro d ⟨_, _, hwired⟩
      exact hwired.2.1
    · rintro d ⟨_, _, hdown⟩
      exact hdown.1

/-- Behind an ODF. -/
def behindOdf : Database where
  devices := [
    { id := "split", type := .splitter }, { id := "odf", type := .odf }, { id := "ont", type := .ont }]
  interfaces := [
    { id := "split-in", deviceId := "split", name := "in" },
    { id := "split-out1", deviceId := "split", name := "out1" },
    { id := "odf-if1", deviceId := "odf", name := "if1" },
    { id := "odf-if2", deviceId := "odf", name := "if2" },
    { id := "ont-if0", deviceId := "ont", name := "if0" }]
  links := [
    { id := "l1", aInterfaceId := "split-out1", bInterfaceId := "odf-if1" },
    { id := "l2", aInterfaceId := "odf-if2", bInterfaceId := "ont-if0" }]

/-- Behind the ODF the usage counts a port, but not the ONT. -/
theorem computeSplitterUsage_behindOdf :
    computeSplitterUsage behindOdf { id := "split", type := .splitter } = ⟨1, 0, 0⟩ ∧
      ¬ ((computeSplitterUsage behindOdf { id := "split", type := .splitter }).portsUsed =
        (servingOuts behindOdf "split").ncard ∧
          (computeSplitterUsage behindOdf { id := "split", type := .splitter }).downstreamOnts =
            (downstreamOnts behindOdf "split").ncard) := by
  have husage : computeSplitterUsage behindOdf { id := "split", type := .splitter } =
      ⟨1, 0, 0⟩ := by
    decide +kernel
  refine ⟨husage, ?_⟩
  rw [husage]
  rintro ⟨hports, _⟩
  have hhop : InlineHop behindOdf "split" "odf" "ont" := by
    refine ⟨⟨{ id := "odf", type := .odf }, by decide, rfl, rfl⟩, by decide, "odf-if2", "ont-if0",
      ?_, ?_, ?_⟩
    · exact ⟨{ id := "odf-if2", deviceId := "odf", name := "if2" }, by decide, rfl, rfl⟩
    · exact ⟨{ id := "l2", aInterfaceId := "odf-if2", bInterfaceId := "ont-if0" }, by decide,
        .inl ⟨rfl, rfl⟩⟩
    · exact ⟨{ id := "ont-if0", deviceId := "ont", name := "if0" }, by decide, rfl, rfl⟩
  have hdown : Downstream behindOdf "split" "split-out1" "ont" := by
    refine ⟨⟨{ id := "ont", type := .ont }, by decide, rfl, rfl⟩, "odf-if1", "odf", ?_, ?_, by decide,
      .single hhop⟩
    · exact ⟨{ id := "l1", aInterfaceId := "split-out1", bInterfaceId := "odf-if1" }, by decide,
        .inl ⟨rfl, rfl⟩⟩
    · exact ⟨{ id := "odf-if1", deviceId := "odf", name := "if1" }, by decide, rfl, rfl⟩
  have hserving : { id := "split-out1", deviceId := "split", name := "out1" } ∈
      servingOuts behindOdf "split" :=
    ⟨by decide +kernel, "ont", hdown⟩
  exact Set.ncard_ne_zero_of_mem hserving (finite_outs (fun _ hout ↦ hout.1)) hports.symm

/-- With a fiber of its own. -/
def besideSplitter : Database where
  devices := [{ id := "split", type := .splitter }, { id := "ont", type := .ont }]
  interfaces := [
    { id := "split-in", deviceId := "split", name := "in" },
    { id := "split-out1", deviceId := "split", name := "out1" },
    { id := "ont-if0", deviceId := "ont", name := "if0" }]
  links := [{ id := "l1", aInterfaceId := "split-out1", bInterfaceId := "ont-if0" }]

private theorem oneLinkEach_besideSplitter : OneLinkEach besideSplitter := by
  rintro x y z ⟨l, hl, hjoins⟩ ⟨l', hl', hjoins'⟩
  rw [List.mem_singleton.mp hl] at hjoins
  rw [List.mem_singleton.mp hl'] at hjoins'
  rcases hjoins with ⟨rfl, rfl⟩ | ⟨rfl, rfl⟩ <;> rcases hjoins' with ⟨hx, rfl⟩ | ⟨hx, rfl⟩
  · rfl
  · exact absurd hx (by decide)
  · exact absurd hx (by decide)
  · rfl

/-- The ONT beside the splitter is counted, the one behind the ODF is not. -/
theorem computeSplitterUsage_documented_iff_split :
    ((computeSplitterUsage besideSplitter { id := "split", type := .splitter }).portsUsed =
        (servingOuts besideSplitter "split").ncard ∧
      (computeSplitterUsage besideSplitter { id := "split", type := .splitter }).downstreamOnts =
        (downstreamOnts besideSplitter "split").ncard) ∧
    Device.type { id := "split", type := .splitter } = .splitter ∧
      (((computeSplitterUsage behindOdf { id := "split", type := .splitter }).portsUsed =
        (servingOuts behindOdf "split").ncard ∧
          (computeSplitterUsage behindOdf { id := "split", type := .splitter }).downstreamOnts =
            (downstreamOnts behindOdf "split").ncard) ↔
        (wiredOuts behindOdf "split" \ servingOuts behindOdf "split").ncard =
            (servingOuts behindOdf "split" \ wiredOuts behindOdf "split").ncard ∧
          (wiredOnts behindOdf "split" \ downstreamOnts behindOdf "split").ncard =
            (downstreamOnts behindOdf "split" \ wiredOnts behindOdf "split").ncard) := by
  have hwired := @OneLinkEach.wired_eq besideSplitter { id := "split", type := .splitter }
    oneLinkEach_besideSplitter (by decide) rfl (by decide) (by decide)
  refine ⟨?_, rfl, @computeSplitterUsage_documented_iff behindOdf
    { id := "split", type := .splitter } rfl⟩
  apply (@computeSplitterUsage_documented_iff besideSplitter
    { id := "split", type := .splitter } rfl).mpr
  rw [hwired.1, hwired.2]
  exact ⟨rfl, rfl⟩

end Unoc.Links
