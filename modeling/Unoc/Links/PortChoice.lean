import Unoc.Links.PortSelection

/-!
# The ports that are selected

What each step of the selection does to the ports of the two devices. The port of the second device is
free if it has a free one, or is preferred over the free ones; but an ODF that is linked to an OLT always
gets its `if0`.
-/

namespace Unoc.Links.PortSelection

open Unoc.Base
open Model (DeviceType PortRole)
open Realtime (ClientLink)

/-! ### The sides -/

section

variable {devStore : DevicesStore} {devId : String} {usedIfaces : List String}

private theorem if0Id_ne_empty (devId : String) : if0Id devId ≠ "" := by
  intro h
  have hchars := congrArg String.toList h
  simp [if0Id, String.toList_append] at hchars

/-- An interface is an end of one of the links. -/
def Uses (links : List ClientLink) (x : String) : Prop :=
  ∃ l ∈ links, l.aInterfaceId = x ∨ l.bInterfaceId = x

/-- The used interfaces are the ends of the links, without missing ones. -/
theorem mem_buildUsedInterfaceSet {links : List ClientLink} {x : String} :
    x ∈ buildUsedInterfaceSet links ↔ x ≠ "" ∧ Uses links x := by
  simp only [buildUsedInterfaceSet, Uses, List.mem_flatMap, List.mem_filter, List.mem_cons,
    List.not_mem_nil, or_false, decide_eq_true_eq]
  grind

/-- A candidate is an available interface of the device. -/
theorem mem_candidates {i : IfaceLite} :
    i ∈ candidates devStore devId usedIfaces ↔
      i ∈ devStore.ifaces devId ∧ i.available usedIfaces = true := List.mem_filter

/-- A candidate is not used. -/
theorem unused_of_mem_candidates {i : IfaceLite} (h : i ∈ candidates devStore devId usedIfaces) :
    i.id ∉ usedIfaces := by
  have havailable := (mem_candidates.mp h).2
  simp only [IfaceLite.available, Bool.and_eq_true, decide_eq_true_eq] at havailable
  exact havailable.2

/-- A candidate stays one among other interfaces in use if it is not among these. -/
theorem mem_candidates_of_unused {i : IfaceLite} {others : List String}
    (h : i ∈ candidates devStore devId usedIfaces) (hunused : i.id ∉ others) :
    i ∈ candidates devStore devId others := by
  obtain ⟨hi, havailable⟩ := mem_candidates.mp h
  refine mem_candidates.mpr ⟨hi, ?_⟩
  simp only [IfaceLite.available, Bool.and_eq_true, decide_eq_true_eq] at havailable ⊢
  exact ⟨havailable.1, hunused⟩

variable (devStore devId usedIfaces) in
/-- A free interface of a device, or `if0` where it has none. -/
def FreeOrIf0 (x : String) : Prop :=
  (∃ i ∈ candidates devStore devId usedIfaces, i.id = x) ∨
    candidates devStore devId usedIfaces = [] ∧ x = if0Id devId

private theorem FreeOrIf0.unused {x : String} (h : FreeOrIf0 devStore devId usedIfaces x)
    (hfree : candidates devStore devId usedIfaces ≠ []) : x ∉ usedIfaces := by
  rcases h with ⟨i, hi, rfl⟩ | ⟨hnone, _⟩
  · exact unused_of_mem_candidates hi
  · exact absurd hnone hfree

private theorem FreeOrIf0.eq_if0 {x : String} (h : FreeOrIf0 devStore devId usedIfaces x)
    (hfree : candidates devStore devId usedIfaces = []) : x = if0Id devId := by
  rcases h with ⟨i, hi, _⟩ | ⟨_, hx⟩
  · rw [hfree] at hi
    cases hi
  · exact hx

private theorem freeOrIf0_pickInterface :
    FreeOrIf0 devStore devId usedIfaces (pickInterface devStore devId usedIfaces) := by
  unfold pickInterface
  cases hleast : leastBy (rank usedIfaces) (candidates devStore devId usedIfaces) with
  | some i => exact Or.inl ⟨i, (leastBy_spec hleast).1, rfl⟩
  | none =>
    have hnone := leastBy_eq_none.mp hleast
    refine Or.inr ⟨hnone, ?_⟩
    dsimp only
    split
    · next if0 hif0 =>
      have hprop := List.find?_some hif0
      simp only [Bool.and_eq_true, decide_eq_true_eq] at hprop
      exact hprop.1.1
    · split
      · next i hi =>
        have havailable : i.available usedIfaces = true := by simpa using List.find?_some hi
        have hmem := mem_candidates.mpr ⟨List.mem_of_find?_eq_some hi, havailable⟩
        rw [hnone] at hmem
        cases hmem
      · rfl

private theorem freeOrIf0_pickWithRole {preferred : PortRole} :
    FreeOrIf0 devStore devId usedIfaces (pickWithRole devStore devId usedIfaces preferred) := by
  unfold pickWithRole
  split
  · next i hi => exact Or.inl ⟨i, List.mem_of_find?_eq_some hi, rfl⟩
  · exact freeOrIf0_pickInterface

private theorem freeOrIf0_of_mem_sameRole {sel : Option IfaceLite} {i : IfaceLite}
    (h : i ∈ sameRole devStore devId sel usedIfaces) : FreeOrIf0 devStore devId usedIfaces i.id := by
  unfold sameRole at h
  dsimp only at h
  split at h
  · exact Or.inl ⟨i, (List.mem_filter.mp h).1, rfl⟩
  · split at h
    · exact Or.inl ⟨i, (List.mem_filter.mp h).1, rfl⟩
    · split at h
      · exact Or.inl ⟨i, h, rfl⟩
      · next hnone =>
        have hprop := List.find?_some (Option.mem_toList.mp h)
        simp only [Bool.and_eq_true, decide_eq_true_eq] at hprop
        exact Or.inr ⟨not_not.mp hnone, hprop.1.1⟩

private theorem sameRole_ne_nil {sel : Option IfaceLite}
    (hfree : candidates devStore devId usedIfaces ≠ []) :
    sameRole devStore devId sel usedIfaces ≠ [] := by
  unfold sameRole
  dsimp only
  split
  · assumption
  · split
    · assumption
    · exact hfree

private theorem freeOrIf0_of_mem_withSelected {sel : Option IfaceLite} {o : PortOption}
    (hsel : ∀ i, sel = some i → i ∈ devStore.ifaces devId)
    (h : o ∈ withSelected devStore devId sel usedIfaces) :
    FreeOrIf0 devStore devId usedIfaces o.id := by
  have hmap : ∀ o ∈ (sameRole devStore devId sel usedIfaces).map toOption,
      FreeOrIf0 devStore devId usedIfaces o.id := by
    intro o ho
    obtain ⟨i, hi, rfl⟩ := List.mem_map.mp ho
    exact freeOrIf0_of_mem_sameRole hi
  cases sel with
  | none => exact hmap o h
  | some i =>
    simp only [withSelected] at h
    split at h
    · next hadd =>
      rcases List.mem_cons.mp h with rfl | h
      · rw [Bool.and_eq_true] at hadd
        exact Or.inl ⟨i, mem_candidates.mpr ⟨hsel i rfl, hadd.2⟩, rfl⟩
      · exact hmap o h
    · exact hmap o h

private theorem withSelected_ne_nil {sel : Option IfaceLite}
    (hfree : candidates devStore devId usedIfaces ≠ []) :
    withSelected devStore devId sel usedIfaces ≠ [] := by
  have hmap : (sameRole devStore devId sel usedIfaces).map toOption ≠ [] :=
    fun hnil ↦ sameRole_ne_nil hfree (List.map_eq_nil_iff.mp hnil)
  cases sel with
  | none => exact hmap
  | some i =>
    simp only [withSelected]
    split
    · exact List.cons_ne_nil _ _
    · exact hmap

/-- The options are free interfaces, or `if0` alone where there is none. -/
theorem freeOrIf0_of_mem_getOptions {selectedId : String} {o : PortOption}
    (h : o ∈ getOptions devStore devId selectedId usedIfaces) :
    FreeOrIf0 devStore devId usedIfaces o.id := by
  simp only [getOptions] at h
  split at h
  · next hnil =>
    refine Or.inr ⟨?_, by rw [List.mem_singleton.mp h]⟩
    by_contra hfree
    exact withSelected_ne_nil hfree hnil
  · exact freeOrIf0_of_mem_withSelected (fun i hi ↦ List.mem_of_find?_eq_some hi) h

variable (devStore devId) in
/-- An interface of a device, or the one that it is supposed to have. -/
def Own (x : String) : Prop := x = if0Id devId ∨ ∃ i ∈ devStore.ifaces devId, i.id = x

/-- An interface of a device has an id. -/
theorem Own.ne_empty {x : String} (h : Own devStore devId x) : x ≠ "" := by
  rcases h with rfl | ⟨i, _, rfl⟩
  · exact if0Id_ne_empty devId
  · exact i.id_ne_empty

private theorem FreeOrIf0.own {x : String} (h : FreeOrIf0 devStore devId usedIfaces x) :
    Own devStore devId x := by
  rcases h with ⟨i, hi, hx⟩ | ⟨_, hx⟩
  · exact Or.inr ⟨i, (mem_candidates.mp hi).1, hx⟩
  · exact Or.inl hx

private theorem nonIf0_spec {i : IfaceLite} (h : nonIf0 devStore devId usedIfaces = some i) :
    i ∈ devStore.ifaces devId ∧ i.id ∉ usedIfaces := by
  obtain ⟨hi, hprop⟩ := List.mem_filter.mp (List.mem_of_find?_eq_some h)
  simp only [Bool.and_eq_true, decide_eq_true_eq] at hprop
  exact ⟨hi, hprop.2⟩

private theorem isOntFamily_of_isPassive {t : Option DeviceType} (h : isPassive t = true) :
    isOntFamily t = false := by
  cases t with
  | none => rfl
  | some t => cases t <;> first | rfl | cases h

private theorem snap_of_options {P : String → Prop} {iface : String} {opts : List PortOption}
    (h : P iface) (hopts : ∀ o ∈ opts, P o.id) : P (snap iface opts) := by
  cases opts with
  | nil => exact h
  | cons o rest =>
    simp only [snap]
    split
    · exact h
    · exact hopts o List.mem_cons_self

private theorem mem_of_mem_filterPONForOLT {links : List ClientLink} {opts : List PortOption}
    {o : PortOption} (h : o ∈ filterPONForOLT devStore links devId opts) : o ∈ opts := by
  simp only [filterPONForOLT] at h
  split at h
  · exact h
  · exact (List.mem_filter.mp h).1

end

section

variable {devStore : DevicesStore} {links : List ClientLink} {aDeviceId bDeviceId : String}
  {usedIfaces : List String} {aType bType : Option DeviceType} {e : Ends} {s : Selections}

private theorem freeOrIf0_initialEnds :
    FreeOrIf0 devStore aDeviceId usedIfaces
        (initialEnds devStore aDeviceId bDeviceId usedIfaces aType bType).aIface ∧
      FreeOrIf0 devStore bDeviceId usedIfaces
        (initialEnds devStore aDeviceId bDeviceId usedIfaces aType bType).bIface := by
  have hside : ∀ (p : Prop) [Decidable p] (devId : String) (preferred : PortRole),
      FreeOrIf0 devStore devId usedIfaces (if p then pickWithRole devStore devId usedIfaces preferred
        else pickInterface devStore devId usedIfaces) := by
    intro p _ devId preferred
    split
    · exact freeOrIf0_pickWithRole
    · exact freeOrIf0_pickInterface
  simp only [initialEnds]
  split
  · exact ⟨hside _ _ _, hside _ _ _⟩
  · split
    · exact ⟨hside _ _ _, hside _ _ _⟩
    · exact ⟨freeOrIf0_pickInterface, freeOrIf0_pickInterface⟩

private theorem own_anchor_aIface (h : Own devStore aDeviceId e.aIface) : Own devStore aDeviceId
    (anchorOdfIf0ForOltPair devStore usedIfaces aType bType aDeviceId bDeviceId e).aIface := by
  simp only [anchorOdfIf0ForOltPair, Ends.assign]
  split
  · exact h
  · split
    · split
      · next heq => exact Or.inl (by rw [heq])
      · exact h
    · exact h

/-- The anchor is on the other side, unless an OLT is linked to an ODF. -/
theorem anchor_bIface (hlock : isOltOdf aType bType = false) :
    (anchorOdfIf0ForOltPair devStore usedIfaces aType bType aDeviceId bDeviceId e).bIface =
      e.bIface := by
  simp only [anchorOdfIf0ForOltPair, odfSide, hlock, Ends.assign]
  cases isOltOdf bType aType with
  | false => rfl
  | true =>
    simp only [Bool.false_eq_true, if_false, if_true]
    split <;> rfl

private theorem own_prefer_aIface (h : Own devStore aDeviceId e.aIface) : Own devStore aDeviceId
    (preferNonIf0ForOdfIfOntPassive devStore usedIfaces aType bType aDeviceId bDeviceId e).aIface := by
  simp only [preferNonIf0ForOdfIfOntPassive, Ends.assign]
  split
  · exact h
  · split
    · next i hi =>
      split
      · next heq => exact Or.inr ⟨i, heq ▸ (nonIf0_spec hi).1, rfl⟩
      · exact h
    · exact h

variable (devStore bDeviceId usedIfaces aType bType) in
/-- The interface of a passive device that is put in place of the chosen one for an ONT. -/
def preferred : Option IfaceLite :=
  if isPassive bType && isOntFamily aType then nonIf0 devStore bDeviceId usedIfaces else none

private theorem prefer_bIface (hne : aDeviceId ≠ bDeviceId) :
    (preferNonIf0ForOdfIfOntPassive devStore usedIfaces aType bType aDeviceId bDeviceId e).bIface =
      ((preferred devStore bDeviceId usedIfaces aType bType).map (·.id)).getD e.bIface := by
  simp only [preferNonIf0ForOdfIfOntPassive, preferred, Ends.assign]
  by_cases ha : (isPassive aType && isOntFamily bType) = true
  · have hb : isPassive bType = false := by
      rw [Bool.and_eq_true] at ha
      cases hp : isPassive bType with
      | false => rfl
      | true => rw [isOntFamily_of_isPassive hp] at ha; exact absurd ha.2 Bool.false_ne_true
    rw [if_pos ha, hb]
    simp only [Bool.false_and, Bool.false_eq_true, if_false, Option.map_none, Option.getD_none]
    split <;> rfl
  · rw [if_neg ha]
    cases hb : isPassive bType && isOntFamily aType with
    | false => rfl
    | true =>
      simp only [if_true, if_neg hne.symm]
      cases nonIf0 devStore bDeviceId usedIfaces <;> rfl

private theorem own_lock_aIface (h : Own devStore aDeviceId s.aIface)
    (hopts : ∀ o ∈ s.aOptions, Own devStore aDeviceId o.id) :
    Own devStore aDeviceId
        (lockOdfOptionsForOltPair aType bType aDeviceId bDeviceId s).aIface ∧
      ∀ o ∈ (lockOdfOptionsForOltPair aType bType aDeviceId bDeviceId s).aOptions,
        Own devStore aDeviceId o.id := by
  simp only [lockOdfOptionsForOltPair]
  split
  · exact ⟨h, hopts⟩
  · split
    · next heq =>
      refine ⟨Or.inl (by rw [heq]), fun o ho ↦ Or.inl ?_⟩
      rw [List.mem_singleton.mp ho, heq]
    · exact ⟨h, hopts⟩

/-- The lock takes `if0` of an ODF that is linked to an OLT, whether it is free or not. -/
theorem lock_bIface_of_isOltOdf (hne : aDeviceId ≠ bDeviceId) (h : isOltOdf aType bType = true) :
    (lockOdfOptionsForOltPair aType bType aDeviceId bDeviceId s).bIface = if0Id bDeviceId := by
  simp only [lockOdfOptionsForOltPair, odfSide, h, if_true, if_neg hne.symm]

private theorem lock_bIface (h : isOltOdf aType bType = false) :
    (lockOdfOptionsForOltPair aType bType aDeviceId bDeviceId s).bIface = s.bIface ∧
      (lockOdfOptionsForOltPair aType bType aDeviceId bDeviceId s).bOptions = s.bOptions := by
  simp only [lockOdfOptionsForOltPair, odfSide, h]
  cases isOltOdf bType aType with
  | false => exact ⟨rfl, rfl⟩
  | true =>
    simp only [Bool.false_eq_true, if_false, if_true]
    exact ⟨trivial, trivial⟩

private theorem restrictToPon_aIface {P : String → Prop} (h : P s.aIface)
    (hopts : ∀ o ∈ s.aOptions, P o.id) :
    P (restrictToPon devStore links aDeviceId bDeviceId aType bType s).aIface := by
  simp only [restrictToPon]
  split
  · by_cases ha : aType = some .olt
    · simp only [if_pos ha]
      exact snap_of_options h (fun o ho ↦ hopts o (mem_of_mem_filterPONForOLT ho))
    · simp only [if_neg ha]
      exact h
  · exact h

private theorem restrictToPon_bIface {P : String → Prop} (h : P s.bIface)
    (hopts : bType = some .olt → ∀ o ∈ s.bOptions, P o.id) :
    P (restrictToPon devStore links aDeviceId bDeviceId aType bType s).bIface := by
  simp only [restrictToPon]
  split
  · by_cases hb : bType = some .olt
    · simp only [if_pos hb]
      exact snap_of_options h (fun o ho ↦ hopts hb o (mem_of_mem_filterPONForOLT ho))
    · simp only [if_neg hb]
      exact h
  · exact h

private theorem preferredEnds_bIface (hne : aDeviceId ≠ bDeviceId)
    (hlock : isOltOdf aType bType = false) :
    (preferredEnds devStore aDeviceId bDeviceId usedIfaces aType bType).bIface =
      ((preferred devStore bDeviceId usedIfaces aType bType).map (·.id)).getD
        (initialEnds devStore aDeviceId bDeviceId usedIfaces aType bType).bIface := by
  rw [preferredEnds, prefer_bIface hne, anchor_bIface hlock]

private theorem portsWithOptions_bIface {P : String → Prop} (hlock : isOltOdf aType bType = false)
    (h : P (preferredEnds devStore aDeviceId bDeviceId usedIfaces aType bType).bIface)
    (hopts : bType = some .olt →
      ∀ x, ∀ o ∈ getOptions devStore bDeviceId x usedIfaces, P o.id) :
    P (portsWithOptions devStore links aDeviceId bDeviceId usedIfaces aType bType).bIface := by
  refine restrictToPon_bIface (P := P) ?_ ?_
  · rw [(lock_bIface hlock).1]
    exact h
  · intro hb
    rw [(lock_bIface hlock).2]
    exact hopts hb _

private theorem portsWithOptions_bIface_of_isOltOdf (hne : aDeviceId ≠ bDeviceId)
    (h : isOltOdf aType bType = true) :
    (portsWithOptions devStore links aDeviceId bDeviceId usedIfaces aType bType).bIface =
      if0Id bDeviceId := by
  refine restrictToPon_bIface (P := (· = if0Id bDeviceId)) (lock_bIface_of_isOltOdf hne h) ?_
  intro hb
  simp [isOltOdf, hb] at h

end

/-! ### What is selected -/

section

variable {devStore : DevicesStore} {links : List ClientLink} {aDeviceId bDeviceId : String}

/-- The labels of the options leave the ports alone. -/
theorem computeSelections_toEnds :
    (computeSelections devStore links aDeviceId bDeviceId).toEnds =
      (portsWithOptions devStore links aDeviceId bDeviceId (buildUsedInterfaceSet links)
        (devStore.typeOf aDeviceId) (devStore.typeOf bDeviceId)).toEnds := by
  simp only [computeSelections]
  split
  · rfl
  · split <;> rfl

/-- The port of the first device is one of its own. -/
theorem own_computeSelections_aIface :
    Own devStore aDeviceId (computeSelections devStore links aDeviceId bDeviceId).aIface := by
  rw [computeSelections_toEnds, portsWithOptions]
  have hpreferred : Own devStore aDeviceId
      (preferredEnds devStore aDeviceId bDeviceId (buildUsedInterfaceSet links)
        (devStore.typeOf aDeviceId) (devStore.typeOf bDeviceId)).aIface :=
    own_prefer_aIface (own_anchor_aIface freeOrIf0_initialEnds.1.own)
  have hoptions : ∀ o ∈ getOptions devStore aDeviceId
      (preferredEnds devStore aDeviceId bDeviceId (buildUsedInterfaceSet links)
        (devStore.typeOf aDeviceId) (devStore.typeOf bDeviceId)).aIface (buildUsedInterfaceSet links),
      Own devStore aDeviceId o.id := fun o ho ↦ (freeOrIf0_of_mem_getOptions ho).own
  refine restrictToPon_aIface (P := Own devStore aDeviceId) ?_ ?_
  · exact (own_lock_aIface hpreferred hoptions).1
  · exact (own_lock_aIface hpreferred hoptions).2

variable (devStore links aDeviceId bDeviceId) in
/-- A port of the second device is free, or a passive one has an unused port for an ONT. -/
def OffersPort : Prop :=
  candidates devStore bDeviceId (buildUsedInterfaceSet links) ≠ [] ∨
    preferred devStore bDeviceId (buildUsedInterfaceSet links) (devStore.typeOf aDeviceId)
      (devStore.typeOf bDeviceId) ≠ none

/-- Between an OLT and an ODF the second interface is the default one. -/
theorem computeSelections_bIface_of_isOltOdf (hne : aDeviceId ≠ bDeviceId)
    (h : isOltOdf (devStore.typeOf aDeviceId) (devStore.typeOf bDeviceId) = true) :
    (computeSelections devStore links aDeviceId bDeviceId).bIface = if0Id bDeviceId := by
  rw [computeSelections_toEnds]
  exact portsWithOptions_bIface_of_isOltOdf hne h

private theorem preferred_spec {usedIfaces : List String} {aType bType : Option DeviceType}
    {i : IfaceLite}
    (h : preferred devStore bDeviceId usedIfaces aType bType = some i) :
    bType ≠ some .olt ∧ i ∈ devStore.ifaces bDeviceId ∧ i.id ∉ usedIfaces := by
  unfold preferred at h
  split at h
  · next hpassive =>
    refine ⟨?_, nonIf0_spec h⟩
    rintro rfl
    cases hpassive
  · cases h

/-- The port of the second device, unless an OLT is linked to an ODF. -/
theorem computeSelections_bIface (hne : aDeviceId ≠ bDeviceId)
    (hlock : isOltOdf (devStore.typeOf aDeviceId) (devStore.typeOf bDeviceId) = false) :
    (∃ i, preferred devStore bDeviceId (buildUsedInterfaceSet links) (devStore.typeOf aDeviceId)
          (devStore.typeOf bDeviceId) = some i ∧
        (computeSelections devStore links aDeviceId bDeviceId).bIface = i.id) ∨
      preferred devStore bDeviceId (buildUsedInterfaceSet links) (devStore.typeOf aDeviceId)
          (devStore.typeOf bDeviceId) = none ∧
        FreeOrIf0 devStore bDeviceId (buildUsedInterfaceSet links)
          (computeSelections devStore links aDeviceId bDeviceId).bIface := by
  rw [computeSelections_toEnds]
  cases hpref : preferred devStore bDeviceId (buildUsedInterfaceSet links)
    (devStore.typeOf aDeviceId) (devStore.typeOf bDeviceId) with
  | some i =>
    refine Or.inl ⟨i, rfl, portsWithOptions_bIface (P := (· = i.id)) hlock ?_ ?_⟩
    · rw [preferredEnds_bIface hne hlock, hpref]
      rfl
    · intro hb
      exact absurd hb (preferred_spec hpref).1
  | none =>
    refine Or.inr ⟨rfl, portsWithOptions_bIface hlock ?_ ?_⟩
    · rw [preferredEnds_bIface hne hlock, hpref]
      exact freeOrIf0_initialEnds.2
    · exact fun _ _ _ ho ↦ freeOrIf0_of_mem_getOptions ho

/-- A device that offers a port gets an unused one, except for the lock. -/
theorem computeSelections_bIface_unused (hne : aDeviceId ≠ bDeviceId)
    (hlock : isOltOdf (devStore.typeOf aDeviceId) (devStore.typeOf bDeviceId) = false)
    (h : OffersPort devStore links aDeviceId bDeviceId) :
    (computeSelections devStore links aDeviceId bDeviceId).bIface ∉ buildUsedInterfaceSet links := by
  rcases @computeSelections_bIface _ links _ _ hne hlock with ⟨i, hpref, hi⟩ | ⟨hpref, hfree⟩
  · rw [hi]
    exact (preferred_spec hpref).2.2
  · exact hfree.unused (h.resolve_right (not_not.mpr hpref))

/-- A device that offers none gets `if0`. -/
theorem computeSelections_bIface_eq_if0 (hne : aDeviceId ≠ bDeviceId)
    (hlock : isOltOdf (devStore.typeOf aDeviceId) (devStore.typeOf bDeviceId) = false)
    (h : ¬ OffersPort devStore links aDeviceId bDeviceId) :
    (computeSelections devStore links aDeviceId bDeviceId).bIface = if0Id bDeviceId := by
  rw [OffersPort, not_or, not_not, not_not] at h
  rcases @computeSelections_bIface _ links _ _ hne hlock with ⟨i, hpref, _⟩ | ⟨_, hfree⟩
  · rw [h.2] at hpref
    cases hpref
  · exact hfree.eq_if0 h.1

/-- The port of the second device is one of its own, too. -/
theorem own_computeSelections_bIface (hne : aDeviceId ≠ bDeviceId) :
    Own devStore bDeviceId (computeSelections devStore links aDeviceId bDeviceId).bIface := by
  cases hlock : isOltOdf (devStore.typeOf aDeviceId) (devStore.typeOf bDeviceId) with
  | true => exact Or.inl (computeSelections_bIface_of_isOltOdf hne hlock)
  | false =>
    rcases @computeSelections_bIface _ links _ _ hne hlock with ⟨i, hpref, hi⟩ | ⟨_, hfree⟩
    · exact Or.inr ⟨i, (preferred_spec hpref).2.1, hi.symm⟩
    · exact hfree.own

end

end Unoc.Links.PortSelection
