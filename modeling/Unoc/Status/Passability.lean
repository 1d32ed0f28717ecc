import Unoc.Status.Locality

/-!
# Four deciders of passability

Status propagation asks `is_link_passable`, the API reports `evaluate_link_status`, the logical
graph filters its links inline and the L3 trace has a `_link_passable` of its own. In the first two
an override of the link is final; the other two look at the devices as well.
-/

namespace Unoc.Status

open Unoc.Base Unoc.Model

/-! ### The status that the API reports -/

/-- The row that `evaluate_link_status` reads: by id, else by the pair of interfaces, else the only
row; `status_link.py:20–43`. -/
def evaluatedLink (t : Topology) (link : Link) : Option Link :=
  let byId := (truthy (some link.id)).bind t.getLink
  let byPair :=
    if link.aInterfaceId ≠ "" ∧ link.bInterfaceId ≠ "" then
      (t.links.find? (fun ln ↦
        ln.aInterfaceId = link.aInterfaceId ∧ ln.bInterfaceId = link.bInterfaceId)).or
      (t.links.find? (fun ln ↦
        ln.aInterfaceId = link.bInterfaceId ∧ ln.bInterfaceId = link.aInterfaceId))
    else none
  let only := match t.links with
    | [ln] => some ln
    | _ => none
  (byId.or byPair).or only

/-- `evaluate_link_status`; `status_link.py:6–69`. -/
def evaluateLinkStatus (t : Topology) (link : Link) : Status :=
  match evaluatedLink t link with
  | none => .up
  | some ln =>
    match ln.adminOverrideStatus with
    | some override => override
    | none =>
      match linkEnds t ln with
      | none => ln.status
      | some (aDev, bDev) => if aDev.forcedDown || bDev.forcedDown then .down else ln.status

/-! ### What each decider reads -/

/-- The override of a row decides, else its status and whether an end is forced DOWN. -/
def overrideFirst (link : Link) (endDown : Bool) : Bool :=
  match link.adminOverrideStatus with
  | some override => override = .up
  | none => link.status = .up && !endDown

/-- An interface whose device, or the device of its legacy suffix, is in the logical graph. -/
def admitted (t : Topology) (interfaceId : String) : Bool :=
  (recordEnd t interfaceId).any (fun id ↦ id ∈ (deviceRecords t).map DeviceRecord.id)

variable {t : Topology} {link : Link} {a b : DeviceView}

private theorem linkEnds_eq_some :
    linkEnds t link = some (a, b) ↔
      ∃ aIf bIf, t.getInterface link.aInterfaceId = some aIf ∧
        t.getInterface link.bInterfaceId = some bIf ∧
        t.getDevice aIf.deviceId = some a ∧ t.getDevice bIf.deviceId = some b := by
  simp only [linkEnds, Option.bind_eq_bind, Option.bind_eq_some_iff, Option.pure_def,
    Option.some.injEq, Prod.mk.injEq]
  constructor
  · rintro ⟨aIf, ha, bIf, hb, d, hd, e, he, rfl, rfl⟩
    exact ⟨aIf, bIf, ha, hb, hd, he⟩
  · rintro ⟨aIf, bIf, ha, hb, hd, he⟩
    exact ⟨aIf, ha, bIf, hb, a, hd, b, he, rfl, rfl⟩

private theorem isLinkPassable_eq (h : linkEnds t link = some (a, b)) :
    isLinkPassable t link = overrideFirst link (a.forcedDown || b.forcedDown) := by
  unfold isLinkPassable overrideFirst
  rw [h]
  cases link.adminOverrideStatus with
  | some override => rfl
  | none => simp only [Bool.not_or]

/-- The row that is read for a row of the table joins the same interfaces. -/
theorem linkEnds_evaluatedLink (hl : link ∈ t.links) {ln : Link}
    (h : evaluatedLink t link = some ln) : linkEnds t ln = linkEnds t link := by
  simp only [evaluatedLink, Option.or_eq_some_iff] at h
  rcases h with (hid | ⟨_, hpair⟩) | ⟨_, honly⟩
  · obtain ⟨id, hid, hget⟩ := Option.bind_eq_some_iff.mp hid
    have hown : t.getLink link.id = some link := Topology.getLink_eq_some.mpr ⟨hl, rfl⟩
    rw [← eq_of_truthy hid, hown, Option.some.injEq] at hget
    rw [hget]
  · split at hpair
    · rcases Option.or_eq_some_iff.mp hpair with hfwd | ⟨hfwd, _⟩
      · have hsame := List.find?_some hfwd
        rw [decide_eq_true_eq] at hsame
        unfold linkEnds
        rw [hsame.1, hsame.2]
      · -- the row itself joins its interfaces in this order
        have hno := List.find?_eq_none.mp hfwd link hl
        simp at hno
    · cases hpair
  · split at honly
    · next hrows =>
      rw [Option.some.injEq] at honly
      rw [hrows, List.mem_singleton] at hl
      rw [hl, honly]
    · cases honly

/-- A row with an id is read by it. -/
theorem evaluatedLink_of_id (hl : link ∈ t.links) (hid : link.id ≠ "") :
    evaluatedLink t link = some link := by
  have hown : t.getLink link.id = some link := Topology.getLink_eq_some.mpr ⟨hl, rfl⟩
  simp [evaluatedLink, truthy_some hid, hown]

/-- The API reports UP if no row is found, or if the row that is found is passable. -/
theorem evaluateLinkStatus_eq_up_iff (hl : link ∈ t.links) (h : linkEnds t link = some (a, b)) :
    evaluateLinkStatus t link = .up ↔
      (evaluatedLink t link).all
        (fun ln ↦ overrideFirst ln (a.forcedDown || b.forcedDown)) = true := by
  unfold evaluateLinkStatus
  cases hrow : evaluatedLink t link with
  | none => simp
  | some ln =>
    have hends : linkEnds t ln = some (a, b) := by rw [linkEnds_evaluatedLink hl hrow, h]
    simp only [hends, Option.all_some, overrideFirst]
    cases ln.adminOverrideStatus with
    | some override => simp
    | none =>
      by_cases hdown : (a.forcedDown || b.forcedDown) = true
      · simp [hdown]
      · simp [hdown]

/-! ### The logical graph and the trace -/

private theorem isSome_linkRecord :
    (linkRecord t link).isSome =
      (linkUp link && admitted t link.aInterfaceId && admitted t link.bInterfaceId) := by
  unfold linkRecord admitted
  cases linkUp link with
  | false => rfl
  | true =>
    cases recordEnd t link.aInterfaceId with
    | none => rfl
    | some aDev =>
      cases recordEnd t link.bInterfaceId with
      | none => simp
      | some bDev =>
        simp only [if_true, Option.bind_eq_bind, Option.bind_some, Option.any_some, Bool.true_and]
        split
        · next hboth => simp [hboth.1, hboth.2]
        · next hboth => simpa using hboth

section Ends

variable {interfaceId : String} {i : Interface} {d : DeviceView}

private theorem interfaceDevice_eq (hi : t.getInterface interfaceId = some i)
    (hd : t.getDevice i.deviceId = some d) :
    interfaceDevice t interfaceId = if d.id = "" then none else some d := by
  obtain ⟨_, hid⟩ := Topology.getDevice_eq_some.mp hd
  simp only [interfaceDevice, getDeviceIf, hi, Option.bind_some]
  split
  · next hempty => simp [truthy, ← hid, hempty]
  · next hne => rw [truthy_some (hid ▸ hne), Option.bind_some, hd]

/-- A device with an id is in the logical graph unless it is forced DOWN. -/
theorem admitted_eq (hi : t.getInterface interfaceId = some i)
    (hd : t.getDevice i.deviceId = some d) (hne : d.id ≠ "") :
    admitted t interfaceId = !d.forcedDown := by
  obtain ⟨hmem, hid⟩ := Topology.getDevice_eq_some.mp hd
  have hend : recordEnd t interfaceId = some d.id := by
    simp [recordEnd, ifToDev, hi, ← hid, truthy_some hne]
  simp only [admitted, hend, Option.any_some]
  rw [Bool.eq_iff_iff, decide_eq_true_eq, map_id_eq_recordIds, mem_recordIds_iff_up hmem]
  simp

end Ends

private theorem traceLinkPassable_eq (h : linkEnds t link = some (a, b)) :
    traceLinkPassable t link =
      (linkUp link && !(a.id = "" || b.id = "") && !(a.forcedDown || b.forcedDown)) := by
  obtain ⟨aIf, bIf, ha, hb, hda, hdb⟩ := linkEnds_eq_some.mp h
  unfold traceLinkPassable
  rw [interfaceDevice_eq ha hda, interfaceDevice_eq hb hdb]
  by_cases hea : a.id = ""
  · simp [hea]
  · by_cases heb : b.id = ""
    · simp [hea, heb]
    · simp [hea, heb]

/-! ### Agreement -/

/-- The four deciders give one answer. -/
structure DecidersAgree (t : Topology) (link : Link) : Prop where
  api : evaluateLinkStatus t link = .up ↔ isLinkPassable t link = true
  graph : (linkRecord t link).isSome = true ↔ isLinkPassable t link = true
  trace : traceLinkPassable t link = true ↔ isLinkPassable t link = true

/-- When they do, for a link between two device rows. -/
structure OneNotion (t : Topology) (link : Link) (a b : DeviceView) : Prop where
  /-- The link is not forced UP beside a device that is forced DOWN. -/
  override : link.adminOverrideStatus = some .up → (a.forcedDown || b.forcedDown) = false
  /-- A usable link at a device with the empty id, which the logical graph and the trace take for
  missing, has a forced-DOWN end, and no record by the legacy suffix of its interfaces. -/
  named : a.id = "" ∨ b.id = "" → linkUp link = true →
    (a.forcedDown || b.forcedDown) = true ∧
      (admitted t link.aInterfaceId && admitted t link.bInterfaceId) = false
  /-- The row that is read for a link with the empty id, where there is one, decides like the
  link's own. -/
  row : link.id = "" →
    (evaluatedLink t link).all (fun ln ↦ overrideFirst ln (a.forcedDown || b.forcedDown)) =
      overrideFirst link (a.forcedDown || b.forcedDown)

/-- For rows with ids only the overrides matter. -/
theorem oneNotion_iff_of_ids (hid : link.id ≠ "") (ha : a.id ≠ "") (hb : b.id ≠ "") :
    OneNotion t link a b ↔
      (link.adminOverrideStatus = some .up → (a.forcedDown || b.forcedDown) = false) := by
  constructor
  · intro h
    exact h.override
  · intro h
    refine ⟨h, ?_, fun hempty ↦ absurd hempty hid⟩
    rintro (hempty | hempty)
    · exact absurd hempty ha
    · exact absurd hempty hb

private theorem overrideFirst_eq (link : Link) (endDown : Bool) :
    overrideFirst link endDown =
      (linkUp link && (decide (link.adminOverrideStatus = some .up) || !endDown)) := by
  unfold overrideFirst linkUp
  cases link.adminOverrideStatus with
  | none => simp
  | some override =>
    by_cases hup : override = .up
    · simp [hup]
    · simp [hup]

private theorem api_iff (hl : link ∈ t.links) (h : linkEnds t link = some (a, b)) :
    (evaluateLinkStatus t link = .up ↔ isLinkPassable t link = true) ↔
      (link.id = "" →
        (evaluatedLink t link).all (fun ln ↦ overrideFirst ln (a.forcedDown || b.forcedDown)) =
          overrideFirst link (a.forcedDown || b.forcedDown)) := by
  rw [evaluateLinkStatus_eq_up_iff hl h, isLinkPassable_eq h, ← Bool.eq_iff_iff]
  constructor
  · intro heq _
    exact heq
  · intro heq
    by_cases hid : link.id = ""
    · exact heq hid
    · rw [evaluatedLink_of_id hl hid, Option.all_some]

/-- Both ends are in the logical graph if neither is forced DOWN, given that they have ids. -/
theorem admitted_ends (h : linkEnds t link = some (a, b)) (hids : ¬ (a.id = "" ∨ b.id = "")) :
    (admitted t link.aInterfaceId && admitted t link.bInterfaceId) =
      !(a.forcedDown || b.forcedDown) := by
  obtain ⟨aIf, bIf, ha, hb, hda, hdb⟩ := linkEnds_eq_some.mp h
  rw [admitted_eq ha hda (fun he ↦ hids (Or.inl he)),
    admitted_eq hb hdb (fun he ↦ hids (Or.inr he)), Bool.not_or]

private theorem graph_trace_iff (h : linkEnds t link = some (a, b)) :
    (((linkRecord t link).isSome = true ↔ isLinkPassable t link = true) ∧
      (traceLinkPassable t link = true ↔ isLinkPassable t link = true)) ↔
    ((link.adminOverrideStatus = some .up → (a.forcedDown || b.forcedDown) = false) ∧
      (a.id = "" ∨ b.id = "" → linkUp link = true →
        (a.forcedDown || b.forcedDown) = true ∧
          (admitted t link.aInterfaceId && admitted t link.bInterfaceId) = false)) := by
  have hids := admitted_ends h
  have hforced : link.adminOverrideStatus = some .up → linkUp link = true := by
    intro hup
    simp [linkUp, hup]
  rw [isSome_linkRecord, Bool.and_assoc, traceLinkPassable_eq h, isLinkPassable_eq h,
    overrideFirst_eq]
  generalize (admitted t link.aInterfaceId && admitted t link.bInterfaceId) = inGraph at hids ⊢
  generalize (a.forcedDown || b.forcedDown) = endDown at hids ⊢
  cases hup : linkUp link with
  | false =>
    rw [hup] at hforced
    simpa using fun ho ↦ absurd (hforced ho) Bool.false_ne_true
  | true =>
    by_cases hempty : a.id = "" ∨ b.id = ""
    · -- the trace refuses the link, so everyone must
      have hrefused : (!(decide (a.id = "") || decide (b.id = ""))) = false := by
        simpa [or_iff_not_imp_left] using hempty
      rw [hrefused]
      cases endDown <;> cases inGraph <;> simp [hempty]
    · rw [hids hempty]
      cases endDown <;> simp [not_or.mp hempty]

/-- The four deciders agree on a link between two device rows exactly if it is not forced UP beside
a device that is forced DOWN, up to rows with an empty id. -/
theorem deciders_agree_iff {db : Database} {link : Link} (hl : link ∈ db.links) {a b : DeviceView}
    (h : linkEnds (topology db) link = some (a, b)) :
    DecidersAgree (topology db) link ↔ OneNotion (topology db) link a b := by
  have hmem : link ∈ (topology db).links := hl
  have hapi := api_iff hmem h
  have hrest := graph_trace_iff h
  constructor
  · rintro ⟨api, graph, trace⟩
    obtain ⟨override, named⟩ := hrest.mp ⟨graph, trace⟩
    exact ⟨override, named, hapi.mp api⟩
  · rintro ⟨override, named, row⟩
    obtain ⟨graph, trace⟩ := hrest.mpr ⟨override, named⟩
    exact ⟨hapi.mpr row, graph, trace⟩

/-- An uplink that may be forced, and its OLT, which is forced DOWN. -/
def uplink (override : Option Status) : Link where
  id := "uplink"
  aInterfaceId := "edge-p1"
  bInterfaceId := "olt-p1"
  adminOverrideStatus := override

/-- The rows of a forced-DOWN OLT with its uplink. -/
def forcedDownAccess (override : Option Status) : Database where
  devices := [{ id := "edge", type := .edgeRouter },
    { id := "olt", type := .olt, adminOverrideStatus := some .down }]
  interfaces := [{ id := "edge-p1", deviceId := "edge", name := "p1" },
    { id := "olt-p1", deviceId := "olt", name := "p1" }]
  links := [uplink override]
  links_nodup := List.nodup_singleton _

/-- A link that is forced UP beside a forced-DOWN device passes for status propagation and the API,
and is missing for the logical graph and the trace. -/
theorem forced_up_beside_forced_down :
    linkEnds (topology (forcedDownAccess (some .up))) (uplink (some .up)) =
        some ({ id := "edge", type := .edgeRouter },
          { id := "olt", type := .olt, adminOverrideStatus := some .down }) ∧
      isLinkPassable (topology (forcedDownAccess (some .up))) (uplink (some .up)) = true ∧
      evaluateLinkStatus (topology (forcedDownAccess (some .up))) (uplink (some .up)) = .up ∧
      linkRecord (topology (forcedDownAccess (some .up))) (uplink (some .up)) = none ∧
      traceLinkPassable (topology (forcedDownAccess (some .up))) (uplink (some .up)) = false ∧
      ¬ DecidersAgree (topology (forcedDownAccess (some .up))) (uplink (some .up)) := by
  have htrace :
      traceLinkPassable (topology (forcedDownAccess (some .up))) (uplink (some .up)) = false := by
    decide +kernel
  refine ⟨by decide +kernel, by decide +kernel, by decide +kernel, by decide +kernel, htrace, ?_⟩
  intro hagree
  have hpass := hagree.trace.mpr (by decide +kernel)
  rw [htrace] at hpass
  exact Bool.false_ne_true hpass

/-- Without the override of the link all four refuse it. -/
theorem deciders_agree_no_override :
    DecidersAgree (topology (forcedDownAccess none)) (uplink none) := by
  have hends : linkEnds (topology (forcedDownAccess none)) (uplink none) =
      some ({ id := "edge", type := .edgeRouter },
        { id := "olt", type := .olt, adminOverrideStatus := some .down }) := by
    decide +kernel
  rw [deciders_agree_iff (List.mem_singleton_self _) hends,
    oneNotion_iff_of_ids (by decide) (by decide) (by decide)]
  intro hforced
  cases hforced

end Unoc.Status
