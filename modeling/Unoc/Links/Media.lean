import Mathlib.Tactic.NormNum
import Mathlib.Tactic.Positivity
import Unoc.Base.System
import Unoc.Links.BatchAgreement
import Unoc.Links.Lifecycle

/-!
# Lengths and media of links

Each endpoint that writes a link checks its length and its medium in its own way: on creation against
the devices that the payload resolves to, on an update against the devices of the stored interfaces,
and not at all for a default that is derived. Over runs of requests every link keeps a length that is
not negative and a medium that its class allows.
-/

namespace Unoc.Links

open Unoc.Base
open Unoc.Model

variable {α β : Type} {env : Runtime} {db db' : Database} {store store' : Store} {s s' : Session}
  {p : LinkCreate}

/-! ### What a link has -/

/-- A link of a class may use a medium. -/
def LinkClassification.takes (cls : LinkClassification) (medium : PhysicalMedium) : Prop :=
  cls.linkClass = .accessUplink ∨ medium.code ∈ cls.linkClass.allowedMediaCodes

/-- The length, the ends and the medium of a link. -/
structure LinkFits (db : Database) (l : Link) : Prop where
  length : ∀ km, l.lengthKm = some km → 0 ≤ km
  ends : ∃ aDev bDev, deviceOfInterface db l.aInterfaceId = some aDev ∧
    deviceOfInterface db l.bInterfaceId = some bDev ∧ (classify aDev.type bDev.type).allowed = true ∧
    ∀ id, l.physicalMediumId = some id → ∃ medium, db.getPhysicalMedium id = some medium ∧
      (classify aDev.type bDev.type).takes medium

/-- Media have ranges that are not negative, and every link fits. -/
structure MediaFit (db : Database) : Prop where
  ranges : ∀ m ∈ db.physicalMedia, ∀ r, m.maxRangeKm = some r → 0 ≤ r
  links : ∀ l ∈ db.links, LinkFits db l

/-- An allowed class without codes is that of an access uplink. -/
theorem takes_of_check {a b : DeviceType} {medium : PhysicalMedium}
    (hallowed : (classify a b).allowed = true)
    (h : (decide ((classify a b).linkClass.allowedMediaCodes ≠ []) &&
      decide (medium.code ∉ (classify a b).linkClass.allowedMediaCodes)) = false) :
    (classify a b).takes medium := by
  have hclass : (classify a b).allowed = true → (classify a b).linkClass.allowedMediaCodes = [] →
      (classify a b).linkClass = .accessUplink := by
    cases a <;> cases b <;> decide
  by_cases hnil : (classify a b).linkClass.allowedMediaCodes = []
  · exact Or.inl (hclass hallowed hnil)
  · right
    simpa [hnil] using h

/-- The class does not depend on the order of the ends. -/
theorem classify_comm (a b : DeviceType) :
    (classify a b).allowed = (classify b a).allowed ∧
      (classify a b).linkClass = (classify b a).linkClass := by
  cases a <;> cases b <;> decide

/-! ### More rows -/

/-- Devices and links are kept, and interfaces and media are added. -/
structure Extends (db db' : Database) : Prop where
  devices : db'.devices = db.devices
  interfaces : db.interfaces <+: db'.interfaces
  media : db.physicalMedia <+: db'.physicalMedia

namespace Extends

private theorem refl (db : Database) : Extends db db := ⟨rfl, List.prefix_rfl, List.prefix_rfl⟩

private theorem getPhysicalMedium (h : Extends db db') {id : Int} {medium : PhysicalMedium}
    (hget : db.getPhysicalMedium id = some medium) : db'.getPhysicalMedium id = some medium := by
  have ⟨new, hnew⟩ := h.media
  rw [Database.getPhysicalMedium, ← hnew, List.find?_append]
  exact Option.or_eq_some_iff.mpr (Or.inl hget)

private theorem deviceOfInterface (h : Extends db db') {id : String} {dev : Device}
    (hdev : Links.deviceOfInterface db id = some dev) :
    Links.deviceOfInterface db' id = some dev := by
  have ⟨i, hi, hget⟩ := Option.bind_eq_some_iff.mp hdev
  apply Option.bind_eq_some_iff.mpr
  refine ⟨i, ?_, ?_⟩
  · have ⟨new, hnew⟩ := h.interfaces
    rw [Database.getInterface, ← hnew, List.find?_append]
    exact Option.or_eq_some_iff.mpr (Or.inl hi)
  · rw [Database.getDevice, h.devices]
    exact hget

end Extends

/-- A link that fits goes on to fit. -/
theorem LinkFits.mono {l : Link} (h : LinkFits db l) (hext : Extends db db') : LinkFits db' l := by
  have ⟨aDev, bDev, ha, hb, hallowed, hmedium⟩ := h.ends
  refine ⟨h.length, aDev, bDev, hext.deviceOfInterface ha, hext.deviceOfInterface hb, hallowed, ?_⟩
  intro id hid
  have ⟨medium, hget, htakes⟩ := hmedium id hid
  exact ⟨medium, hext.getPhysicalMedium hget, htakes⟩

/-- Rows are added, none of them a link. -/
theorem MediaFit.extend (h : MediaFit db) (hext : Extends db db') (hlinks : db'.links = db.links)
    (hranges : ∀ m ∈ db'.physicalMedia, ∀ r, m.maxRangeKm = some r → 0 ≤ r) : MediaFit db' := by
  constructor
  · exact hranges
  · intro l hl
    rw [hlinks] at hl
    exact (h.links l hl).mono hext

/-- Links are replaced by links that fit. -/
theorem MediaFit.setLinks (h : MediaFit db) (hdevices : db'.devices = db.devices)
    (hinterfaces : db'.interfaces = db.interfaces) (hmedia : db'.physicalMedia = db.physicalMedia)
    (hlinks : ∀ l ∈ db'.links, LinkFits db l) : MediaFit db' := by
  constructor
  · rw [hmedia]
    exact h.ranges
  · intro l hl
    exact (hlinks l hl).mono ⟨hdevices, hinterfaces ▸ List.prefix_rfl, hmedia ▸ List.prefix_rfl⟩

/-! ### Computations that keep the invariant -/

/-- A computation keeps an invariant of the rows, also when it raises. -/
def Preserves (I : Store → Prop) (x : Tx α) : Prop := ∀ s, I s.rows → I (x s).2.rows

namespace Preserves

variable {I : Store → Prop}

/-- The second computation runs where the first one has returned. -/
theorem of_bind {x : Tx α} {f : α → Tx β} (hx : I (x s).2.rows)
    (hf : ∀ a m, x s = (.ok a, m) → I m.rows → I (f a m).2.rows) : I ((x >>= f) s).2.rows := by
  rcases hrun : x s with ⟨e | a, m⟩
  · rw [hrun] at hx
    rw [Tx.bind_of_error hrun]
    exact hx
  · rw [hrun] at hx
    rw [Tx.bind_of_ok hrun]
    exact hf a m hrun hx

private theorem bind {x : Tx α} {f : α → Tx β} (hx : Preserves I x) (hf : ∀ a, Preserves I (f a)) :
    Preserves I (x >>= f) := fun s hs ↦
  of_bind (hx s hs) (fun a m _ hm ↦ hf a m hm)

private theorem pure (a : α) : Preserves I (Pure.pure a : Tx α) := fun _ hs ↦ hs

private theorem check (x : Except LinkError α) : Preserves I (Tx.check x) := fun _ hs ↦ hs

private theorem query (f : Database → Except LinkError α) : Preserves I (Tx.query f) := by
  intro s hs
  unfold Tx.query
  split
  · exact hs
  · exact hs

private theorem add {f : Store → Option Store} (hf : ∀ r r', I r → f r = some r' → I r') :
    Preserves I (Tx.add f) := by
  intro s hs
  unfold Tx.add
  cases h : f s.rows with
  | none => exact hs
  | some r => exact hf _ _ hs h

private theorem ensureDefaultInterface (hf : ∀ i r r', I r → insertInterface i r = some r' → I r')
    (id : String) : Preserves I (ensureDefaultInterface id) := by
  unfold Links.ensureDefaultInterface
  refine (query _).bind (fun found ↦ ?_)
  split
  · exact pure _
  · split
    · refine (query _).bind (fun dev ↦ ?_)
      split
      · exact (add (hf _)).bind (fun _ ↦ pure _)
      · exact pure _
    · exact pure _

private theorem openInterfaces (hf : ∀ i r r', I r → insertInterface i r = some r' → I r')
    (p : LinkCreate) (detail : String) : Preserves I (openInterfaces p detail) := by
  unfold Links.openInterfaces
  refine (ensureDefaultInterface hf _).bind (fun aIf ↦ ?_)
  refine (ensureDefaultInterface hf _).bind (fun bIf ↦ ?_)
  split
  · exact (check _).bind (fun _ ↦ pure _)
  · exact check _

end Preserves

/-- The invariant of the tables. -/
abbrev Fits (r : Store) : Prop := MediaFit r.db

private theorem fits_insertInterface (i : Interface) (r r' : Store) (hr : Fits r)
    (h : insertInterface i r = some r') : Fits r' := by
  have ⟨hdevices, hinterfaces, hlinks, hmedia, _⟩ := insertInterface_eq_some h
  refine hr.extend ⟨hdevices, ?_, ?_⟩ hlinks ?_
  · exact ⟨[i], hinterfaces.symm⟩
  · exact hmedia ▸ List.prefix_rfl
  · rw [hmedia]
    exact hr.ranges

/-- Seeding the canonical media appends rows whose ranges are not negative. -/
theorem ensurePhysicalMedia_media (r : Store) : ∃ new,
    (ensurePhysicalMedia r).db.physicalMedia = r.db.physicalMedia ++ new ∧
      ∀ m ∈ new, ∀ range, m.maxRangeKm = some range → 0 ≤ range := by
  unfold ensurePhysicalMedia
  dsimp only
  generalize r.db.physicalMedia.map PhysicalMedium.code = existing
  have hcanonical : ∀ c ∈ canonicalMedia, ∀ range, c.2.2 = some range → 0 ≤ range := by
    intro c hc range hrange
    simp only [canonicalMedia, List.mem_cons, List.not_mem_nil, or_false] at hc
    rcases hc with rfl | rfl | rfl | rfl | rfl | rfl
    all_goals
      simp at hrange
    subst hrange
    norm_num
  generalize canonicalMedia = cs at hcanonical ⊢
  induction cs using List.reverseRecOn with
  | nil => exact ⟨[], (List.append_nil _).symm, by simp⟩
  | append_singleton cs c ih =>
    have ⟨new, hnew, hranges⟩ := ih (fun c' hc' ↦ hcanonical c' (List.mem_append_left _ hc'))
    rw [List.foldl_append, List.foldl_cons, List.foldl_nil, hnew]
    split
    · exact ⟨new, rfl, hranges⟩
    · refine ⟨new ++ [⟨nextMediumId _, c.1, c.2.1, c.2.2⟩], by rw [List.append_assoc], ?_⟩
      intro m hm range hrange
      rcases List.mem_append.mp hm with hm | hm
      · exact hranges m hm range hrange
      · rw [List.mem_singleton.mp hm] at hrange
        exact hcanonical c (List.mem_append_right _ (List.mem_singleton_self _)) range hrange

private theorem fits_ensurePhysicalMedia {r : Store} (hr : Fits r) : Fits
    (ensurePhysicalMedia r) := by
  have ⟨new, hnew, hranges⟩ := ensurePhysicalMedia_media r
  refine hr.extend ⟨rfl, List.prefix_rfl, ⟨new, hnew.symm⟩⟩ rfl ?_
  intro m hm
  rw [hnew] at hm
  rcases List.mem_append.mp hm with hm | hm
  · exact hr.ranges m hm
  · exact hranges m hm

private theorem selectMedium_preserves (aDev bDev : Device) :
    Preserves Fits (selectMedium env p aDev bDev) := by
  unfold selectMedium
  split
  · refine (Preserves.query _).bind (fun _ ↦ (Preserves.add ?_).bind (fun _ ↦ .query _))
    intro r r' hr h
    rw [← Option.some.inj h]
    exact fits_ensurePhysicalMedia hr
  · exact .pure _

/-! ### Creation -/

/-- A length that is derived from a medium is not negative. -/
theorem deriveDefaultLengthKm_nonneg (hdb : MediaFit db) {id : Int} {linkId : String} {km : ℚ}
    (h : deriveDefaultLengthKm env db linkId id = some km) : 0 ≤ km := by
  have ⟨medium, hget, hkm⟩ := Option.map_eq_some_iff.mp h
  have hhashed : (0 : ℚ) ≤ (11 + (env.md5 (linkId ++ ":len") % 190 : Nat)) / 100 := by positivity
  split at hkm
  · next range hrange =>
    split at hkm
    · rw [← hkm, roundMetres]
      have hmem : medium ∈ db.physicalMedia := List.mem_of_find?_eq_some hget
      have hnonneg := hdb.ranges medium hmem range hrange
      have hfloor : 0 ≤ (range * 8 / 10 * 1000 + 1 / 2).floor := by
        apply Rat.le_floor_iff.mpr
        positivity
      have hcast : (0 : ℚ) ≤ ((range * 8 / 10 * 1000 + 1 / 2).floor : ℚ) := by exact_mod_cast hfloor
      positivity
    · rw [← hkm]
      exact hhashed
  · rw [← hkm]
    exact hhashed

private theorem derivedLength_nonneg (hdb : MediaFit db) (hlength : checkLength p = .ok ())
    {selected : Option Int} {km : ℚ} (h : derivedLength env p selected db = some km) : 0 ≤ km := by
  rcases Option.or_eq_some_iff.mp h with hkm | ⟨_, hderived⟩
  · have hcheck := failIf_eq_ok.mp hlength
    simpa [hkm] using hcheck
  · have ⟨id, _, hid⟩ := Option.bind_eq_some_iff.mp hderived
    exact deriveDefaultLengthKm_nonneg hdb hid

/-- The interface of an end belongs to its device. -/
theorem End.deviceOfInterface {mid : Database} {interfaceId : String} {dev : Device} {i : Interface}
    (h : End db mid interfaceId dev i) (hdevices : mid.devices = db.devices) :
    Links.deviceOfInterface mid interfaceId = some dev := by
  apply Option.bind_eq_some_iff.mpr
  refine ⟨i, h.found, ?_⟩
  rw [h.deviceId, Database.getDevice, hdevices]
  exact (deviceFor_eq_some h.device).1

/-- The row of a link whose checks have passed. -/
theorem linkFits_linkRow (hdb : MediaFit db) {d : Details} {aDev bDev : Device}
    {selected : Option Int} (ha : deviceOfInterface db p.aInterfaceId = some aDev)
    (hb : deviceOfInterface db p.bInterfaceId = some bDev)
    (hallowed : (classify aDev.type bDev.type).allowed = true) (hlength : checkLength p = .ok ())
    (hmedium : checkMedium d p (classify aDev.type bDev.type) selected db = .ok ()) :
    LinkFits db (linkRow p (classify aDev.type bDev.type) selected
      (derivedLength env p selected db)) := by
  have htakes : ∀ id, p.physicalMediumId.or selected = some id → ∃ medium,
      db.getPhysicalMedium id = some medium ∧ (classify aDev.type bDev.type).takes medium := by
    intro id hid
    rw [checkMedium, hid] at hmedium
    dsimp only at hmedium
    split at hmedium
    · cases hmedium
    · next medium hget =>
      exact ⟨medium, hget, takes_of_check hallowed (failIf_eq_ok.mp hmedium)⟩
  constructor
  · intro km hkm
    exact derivedLength_nonneg hdb hlength hkm
  · unfold linkRow canonicalLinkId
    dsimp only
    -- the ends are stored in the order of their ids
    split
    · refine ⟨bDev, aDev, hb, ha, (classify_comm _ _).1.trans hallowed, ?_⟩
      intro id hid
      have ⟨medium, hget, htake⟩ := htakes id hid
      refine ⟨medium, hget, ?_⟩
      unfold LinkClassification.takes at htake ⊢
      rw [(classify_comm _ _).2]
      exact htake
    · exact ⟨aDev, bDev, ha, hb, hallowed, htakes⟩

private theorem fits_insertLink {l : Link} (hl : LinkFits store.db l) (hs : Fits store)
    (h : insertLink l store = some store') : Fits store' := by
  unfold insertLink at h
  split at h
  · cases h
    refine hs.setLinks rfl rfl rfl ?_
    intro m hm
    rcases List.mem_append.mp hm with hm | hm
    · exact hs.links m hm
    · rw [List.mem_singleton.mp hm]
      exact hl
  · cases h

/-- The default medium is chosen among rows that are added. -/
theorem selectMedium_extends {aDev bDev : Device} {r : Option Int}
    (h : selectMedium env p aDev bDev s = (.ok r, s')) : Extends s.rows.db s'.rows.db := by
  unfold selectMedium at h
  split at h
  · rw [pickDefaultPhysicalMediumId_ok h]
    have ⟨new, hnew, _⟩ := ensurePhysicalMedia_media s.rows
    exact ⟨rfl, List.prefix_rfl, ⟨new, hnew.symm⟩⟩
  · have ⟨_, hs⟩ := Tx.pure_eq_ok.mp h
    exact hs ▸ .refl _

/-- The last part of a request adds a link that fits. -/
theorem finishLink_fits {d : Details} {aDev bDev : Device} {aIf bIf : Interface} (hs : Fits s.rows)
    (hends : s.lost = false → deviceOfInterface s.rows.db p.aInterfaceId = some aDev ∧
      deviceOfInterface s.rows.db p.bInterfaceId = some bDev)
    (hallowed : (classify aDev.type bDev.type).allowed = true) (hlength : checkLength p = .ok ()) :
    Fits (finishLink d env p aDev bDev aIf bIf s).2.rows := by
  refine Preserves.of_bind (Preserves.query _ s hs) (fun _ m hquery _ ↦ ?_)
  have ⟨hlost, _, hm⟩ := Tx.query_eq_ok.mp hquery
  obtain rfl := hm
  have ⟨ha, hb⟩ := hends hlost
  refine Preserves.of_bind (Preserves.query _ s hs) (fun _ m' hquery _ ↦ ?_)
  obtain rfl := Tx.query_session hquery
  refine Preserves.of_bind (selectMedium_preserves _ _ _ hs) (fun selected m hselect hm ↦ ?_)
  refine Preserves.of_bind (Preserves.query _ m hm) (fun _ m' hquery _ ↦ ?_)
  have ⟨_, hmedium, hm'⟩ := Tx.query_eq_ok.mp hquery
  obtain rfl := hm'
  refine Preserves.of_bind (Preserves.query _ m hm) (fun lengthKm m' hquery _ ↦ ?_)
  have ⟨_, hkm, hm'⟩ := Tx.query_eq_ok.mp hquery
  obtain rfl := hm'
  obtain rfl := Except.ok.inj hkm
  have hext := selectMedium_extends hselect
  -- the event and the row are the last two additions
  have hfits : LinkFits m.rows.db (linkRow p (classify aDev.type bDev.type) selected
      (derivedLength env p selected m.rows.db)) :=
    linkFits_linkRow hm (hext.deviceOfInterface ha) (hext.deviceOfInterface hb) hallowed hlength
      hmedium
  generalize linkRow p (classify aDev.type bDev.type) selected
    (derivedLength env p selected m.rows.db) = l at hfits ⊢
  let I : Store → Prop := fun r ↦ Fits r ∧ LinkFits r.db l
  have hevent : Preserves I (Tx.add (appendDomainEvent env "LINK_CREATED" l.id
      (linkCreatedPayload (classify aDev.type bDev.type) l))) := by
    refine .add (fun r r' hr h ↦ ?_)
    have hdb := appendDomainEvent_db h
    rw [show I r' ↔ MediaFit r'.db ∧ LinkFits r'.db l from Iff.rfl, hdb]
    exact hr
  have hinsert : Preserves I (Tx.add (insertLink l)) := by
    refine .add (fun r r' hr h ↦ ?_)
    have hfits' := fits_insertLink hr.2 hr.1 h
    exact ⟨hfits', hfits'.links l (by
      rw [(insertLink_eq_some h).2.2]
      exact List.mem_append_right _ (List.mem_singleton_self _))⟩
  exact ((hevent.bind (fun _ ↦ hinsert.bind (fun _ ↦ .pure l))) m ⟨hm, hfits⟩).1

private theorem checkPairing_allowed {d : Details} {aDev bDev : Device}
    (h : checkPairing d p aDev bDev db = .ok ()) : (classify aDev.type bDev.type).allowed = true := by
  have ⟨_, h⟩ := seq_eq_ok.mp h
  have ⟨hallowed, _⟩ := seq_eq_ok.mp h
  simpa using failIf_eq_ok.mp hallowed

private theorem deviceOfInterface_of_open {detail : String} {aDev bDev : Device}
    {aIf bIf : Interface}
    (h : openInterfaces p detail s = (.ok (aIf, bIf), s')) (hlost : s'.lost = false)
    (hne : p.aInterfaceId ≠ p.bInterfaceId) (ha : deviceFor s.rows.db p.aInterfaceId = some aDev)
    (hb : deviceFor s.rows.db p.bInterfaceId = some bDev) :
    deviceOfInterface s'.rows.db p.aInterfaceId = some aDev ∧
      deviceOfInterface s'.rows.db p.bInterfaceId = some bDev := by
  have ⟨hgrows, _, _, haEnd, hbEnd⟩ := openInterfaces_ok h hlost hne ha hb
  exact ⟨haEnd.deviceOfInterface hgrows.devices, hbEnd.deviceOfInterface hgrows.devices⟩

/-! ### Payloads of a batch -/

/-- The tables fit, and ids resolve to the devices of the state before. -/
structure Tracks (before : Database) (r : Store) : Prop where
  fits : Fits r
  devices : ∀ id, deviceFor r.db id = deviceFor before id

private theorem deviceFor_of_rows {id : String} (hdevices : db'.devices = db.devices)
    (hinterfaces : db'.interfaces = db.interfaces) : deviceFor db' id = deviceFor db id :=
  deviceFor_congr ⟨hdevices, [], by simp [hinterfaces], by simp⟩ (by
    rw [Database.getInterface, Database.getInterface, hinterfaces])

/-- Opening an interface keeps the rows or adds the default interface. -/
theorem ensureDefaultInterface_rows (id : String) (s : Session) :
    (ensureDefaultInterface id s).2.rows = s.rows ∨ ∃ i s',
      ensureDefaultInterface id s = (.ok (some i), s') ∧ s'.lost = false := by
  rcases hrun : ensureDefaultInterface id s with ⟨e | _ | i, s'⟩
  · left
    rcases Tx.bind_eq_error.mp hrun with hquery | ⟨found, m, hquery, hrun⟩
    · exact congrArg Session.rows (Tx.query_session hquery)
    · obtain rfl := Tx.query_session hquery
      cases found with
      | some iface => cases hrun
      | none =>
        dsimp only at hrun
        split at hrun
        · rcases Tx.bind_eq_error.mp hrun with hquery | ⟨dev, m', hquery, hrun⟩
          · exact congrArg Session.rows (Tx.query_session hquery)
          · cases dev with
            | none => cases hrun
            | some dev =>
              rcases Tx.bind_eq_error.mp hrun with hadd | ⟨_, _, _, hpure⟩
              · rw [Tx.add_eq] at hadd
                cases hadd
              · cases hpure
        · cases hrun
  · left
    have ⟨found, m, hquery, hrun⟩ := Tx.bind_eq_ok.mp hrun
    obtain rfl := Tx.query_session hquery
    cases found with
    | some iface => cases (Tx.pure_eq_ok.mp hrun).1
    | none =>
      dsimp only at hrun
      split at hrun
      · have ⟨dev, m', hquery, hrun⟩ := Tx.bind_eq_ok.mp hrun
        obtain rfl := Tx.query_session hquery
        cases dev with
        | none => exact congrArg Session.rows (Tx.pure_eq_ok.mp hrun).2.symm
        | some dev =>
          have ⟨_, _, _, hpure⟩ := Tx.bind_eq_ok.mp hrun
          cases (Tx.pure_eq_ok.mp hpure).1
      · exact congrArg Session.rows (Tx.pure_eq_ok.mp hrun).2.symm
  · cases hlost : s'.lost with
    | false => exact Or.inr ⟨i, s', rfl, hlost⟩
    | true =>
      left
      have ⟨hs, hrow⟩ := ensureDefaultInterface_ok hrun
      rcases hrow with ⟨rfl, _⟩ | ⟨_, _, dev, _, rfl, hadd⟩
      · rfl
      · -- the row that broke a constraint is not added
        unfold Tx.add at hadd
        split at hadd
        · rw [← (Prod.mk.inj hadd).2, hs] at hlost
          cases hlost
        · rw [← (Prod.mk.inj hadd).2]

private theorem ensureDefaultInterface_tracks {before : Database} (id : String) :
    Preserves (Tracks before) (ensureDefaultInterface id) := by
  intro s hs
  have hfits : Fits (ensureDefaultInterface id s).2.rows :=
    Preserves.ensureDefaultInterface fits_insertInterface id s hs.fits
  refine ⟨hfits, ?_⟩
  intro id'
  rcases ensureDefaultInterface_rows id s with hrows | ⟨i, s', hrun, hlost⟩
  · rw [hrows]
    exact hs.devices id'
  · have hopens := ensureDefaultInterface_opens hrun hlost
    rw [hrun]
    exact (hopens.deviceFor_eq id').trans (hs.devices id')

private theorem openInterfaces_tracks {before : Database} (detail : String) :
    Preserves (Tracks before) (openInterfaces p detail) := by
  unfold openInterfaces
  refine (ensureDefaultInterface_tracks _).bind (fun aIf ↦ ?_)
  refine (ensureDefaultInterface_tracks _).bind (fun bIf ↦ ?_)
  split
  · exact (Preserves.check _).bind (fun _ ↦ .pure _)
  · exact .check _

private theorem finishLink_keepsDevices (env : Runtime) (p : LinkCreate) (d : Details)
    (aDev bDev : Device)
    (aIf bIf : Interface) :
    Keeps (fun r ↦ (r.db.devices, r.db.interfaces)) (finishLink d env p aDev bDev aIf bIf) := by
  have hselect : Keeps (fun r ↦ (r.db.devices, r.db.interfaces)) (selectMedium env p aDev bDev) := by
    unfold selectMedium
    split
    · refine (Keeps.query _).bind (fun _ ↦ (Keeps.add ?_).bind (fun _ ↦ .query _))
      intro r r' h
      rw [← Option.some.inj h]
      rfl
    · exact .pure _
  refine (Keeps.query _).bind (fun _ ↦ (Keeps.query _).bind (fun _ ↦ hselect.bind (fun selected ↦ ?_)))
  refine (Keeps.query _).bind (fun _ ↦ (Keeps.query _).bind (fun lengthKm ↦ ?_))
  refine (Keeps.add ?_).bind (fun _ ↦ (Keeps.add ?_).bind (fun _ ↦ .pure _))
  · intro r r' h
    rw [appendDomainEvent_db h]
  · intro r r' h
    have ⟨hdevices, hinterfaces, _⟩ := insertLink_eq_some h
    rw [hdevices, hinterfaces]

/-- A payload that was valid before the batch, at its turn, whether its link is created or not. -/
theorem createLinkNoRecompute_tracks (env : Runtime) {before : Database} (hvalid : Valid before p) :
    Preserves (Tracks before) (createLinkNoRecompute env p) := by
  obtain ⟨_, hdiffer, aDev, bDev, ha, hb, hpairing, _, hlength⟩ := validateLinkCreation_eq_ok.mp hvalid
  have hne : p.aInterfaceId ≠ p.bInterfaceId := by simpa [checkEndpointsDiffer] using hdiffer
  intro s hs
  refine Preserves.of_bind (Preserves.query _ s hs) (fun devs m hquery _ ↦ ?_)
  obtain ⟨_, hresolve, hm⟩ := Tx.query_eq_ok.mp hquery
  obtain rfl := hm
  obtain ⟨haDev, hbDev⟩ := resolveDevices_eq_ok.mp hresolve
  rw [hs.devices] at haDev hbDev
  obtain rfl : aDev = devs.1 := Option.some.inj (ha.symm.trans haDev)
  obtain rfl : bDev = devs.2 := Option.some.inj (hb.symm.trans hbDev)
  refine Preserves.of_bind (openInterfaces_tracks _ s hs) (fun ifs m hopen hm ↦ ?_)
  refine Preserves.of_bind (Preserves.check _ m hm) (fun _ m' hcheck _ ↦ ?_)
  obtain rfl := (Tx.check_eq_ok.mp hcheck).2
  constructor
  · refine finishLink_fits hm.fits ?_ (checkPairing_allowed hpairing) hlength
    intro hlost
    rw [← hs.devices] at ha hb
    exact deviceOfInterface_of_open hopen hlost hne ha hb
  · intro id
    have hrows := Prod.mk.inj (finishLink_keepsDevices env p batchDetails devs.1 devs.2
      ifs.1 ifs.2 m)
    exact (deviceFor_of_rows hrows.1 hrows.2).trans (hm.devices id)

private theorem createAll_tracks {before : Database} (ps : List LinkCreate)
    (hvalid : ∀ p ∈ ps, Valid before p)
    (b : BatchLoop) (hb : Tracks before b.session.rows) :
    Tracks before (ps.foldl (createNext env) b).session.rows := by
  induction ps generalizing b with
  | nil => exact hb
  | cons p ps ih =>
    apply ih (fun p' hp' ↦ hvalid p' (List.mem_cons_of_mem _ hp'))
    have hnext : Tracks before (createLinkNoRecompute env p b.session).2.rows :=
      createLinkNoRecompute_tracks env (hvalid p List.mem_cons_self) b.session hb
    unfold createNext
    split
    · next hrun =>
      rw [hrun] at hnext
      exact hnext
    · next hrun =>
      rw [hrun] at hnext
      exact hnext

/-! ### Requests -/

private theorem fits_createLinkImpl (hs : Fits store)
    (h : createLinkImpl env store p = .ok store') :
    Fits store' := by
  have ⟨hvalid, l, hrun⟩ := createLinkImpl_eq_ok_iff.mp h
  have hnext := createLinkNoRecompute_tracks env hvalid ⟨store, false⟩ ⟨hs, fun _ ↦ rfl⟩
  rw [hrun] at hnext
  exact hnext.fits

private theorem fits_batchCreateLinks (hs : Fits store) (ps : List LinkCreate) :
    Fits (batchCreateLinks env store ps).2 := by
  unfold batchCreateLinks
  dsimp only
  split_ifs with hnil hlarge hinvalid hcreated hlost
  · exact hs
  · exact hs
  · exact hs
  · exact hs
  · exact hs
  · rw [not_not] at hinvalid
    exact (createAll_tracks ps (invalidLinks_eq_nil.mp hinvalid) _ ⟨hs, fun _ ↦ rfl⟩).fits

private theorem commitWith_db {name entityId : String} {payload : EventStore.Payload}
    {change : Database → Database} (h : commitWith env name entityId payload change store = .ok store') :
    store'.db = change store.db := by
  unfold commitWith at h
  split at h
  · cases h
  · next rows happend =>
    cases h
    rw [← appendDomainEvent_db happend]

/-- Assignments to a link that leave it fitting. -/
theorem mediaFit_assignLink (hdb : MediaFit db) {id : String} {f : LinkAssignment}
    (hf : ∀ l ∈ db.links, l.id = id → LinkFits db (f.set l)) : MediaFit (assignLink id f db) := by
  refine hdb.setLinks rfl rfl rfl ?_
  intro l hl
  have ⟨l', hl', heq⟩ := List.mem_map.mp hl
  rw [← heq]
  split
  · next hid => exact hf l' hl' hid
  · exact hdb.links l' hl'

private theorem fits_updateLinkImpl {id : String} {u : LinkUpdate} (hs : Fits store)
    (h : updateLinkImpl env store id u = .ok store') : Fits store' := by
  unfold updateLinkImpl at h
  split at h
  · cases h
  · next link hget =>
    have ⟨hlength, h⟩ := seq_eq_ok.mp h
    have ⟨_, h⟩ := seq_eq_ok.mp h
    have ⟨hmedium, h⟩ := seq_eq_ok.mp h
    have ⟨_, h⟩ := seq_eq_ok.mp h
    unfold Fits
    rw [commitWith_db h]
    apply mediaFit_assignLink hs
    intro l hl hid
    obtain rfl : link = l := Option.some.inj (hget.symm.trans (Database.getLink_eq_some.mpr ⟨hl, hid⟩))
    have hfits := hs.links link hl
    have ⟨aDev, bDev, ha, hb, hallowed, htakes⟩ := hfits.ends
    constructor
    · intro km hkm
      change u.lengthKm.getD link.lengthKm = some km at hkm
      have hcheck := failIf_eq_ok.mp hlength
      cases hset : u.lengthKm with
      | none =>
        rw [hset] at hkm
        exact hfits.length km hkm
      | some value =>
        rw [hset, Option.getD_some] at hkm
        simpa [hset, hkm] using hcheck
    · refine ⟨aDev, bDev, ha, hb, hallowed, ?_⟩
      intro mediumId hmediumId
      change u.physicalMediumId.getD link.physicalMediumId = some mediumId at hmediumId
      cases hset : u.physicalMediumId with
      | none =>
        rw [hset] at hmediumId
        exact htakes mediumId hmediumId
      | some value =>
        rw [hset, Option.getD_some] at hmediumId
        simp only [checkNewMedium, hset, hmediumId, Option.join_some, ha, hb] at hmedium
        have ⟨_, hmedium⟩ := seq_eq_ok.mp hmedium
        split at hmedium
        · cases hmedium
        · next medium hget =>
          exact ⟨medium, hget, takes_of_check hallowed (failIf_eq_ok.mp hmedium)⟩

private theorem fits_setLinkOverrideImpl {id : String} {value : Option String} (hs : Fits store)
    (h : setLinkOverrideImpl env store id value = .ok store') : Fits store' := by
  unfold setLinkOverrideImpl at h
  split at h
  · cases h
  · have ⟨_, h⟩ := seq_eq_ok.mp h
    unfold Fits
    rw [commitWith_db h]
    apply mediaFit_assignLink hs
    intro l hl _
    have hfits := hs.links l hl
    exact ⟨hfits.length, hfits.ends⟩

private theorem fits_deleteLinkImpl {id : String} (hs : Fits store)
    (h : deleteLinkImpl env store id = .ok store') : Fits store' := by
  unfold deleteLinkImpl at h
  split at h
  · cases h
  · unfold Fits
    rw [commitWith_db h]
    refine hs.setLinks rfl rfl rfl ?_
    intro l hl
    exact hs.links l (List.mem_filter.mp hl).1

/-! ### Runs -/

/-- A request that writes links. -/
inductive LinkCall where
  | create (p : LinkCreate)
  | createBatch (ps : List LinkCreate)
  | update (id : String) (u : LinkUpdate)
  | override (id : String) (value : Option String)
  | delete (id : String)

/-- The state after a request, if it does not raise. -/
def serve (env : Runtime) (store : Store) : LinkCall → Option Store
  | .create p => (createLinkImpl env store p).toOption
  | .createBatch ps => some (batchCreateLinks env store ps).2
  | .update id u => (updateLinkImpl env store id u).toOption
  | .override id value => (setLinkOverrideImpl env store id value).toOption
  | .delete id => (deleteLinkImpl env store id).toOption

/-- A topology without links whose media have ranges that are not negative. -/
def Unlinked (store : Store) : Prop :=
  store.db.links = [] ∧ ∀ m ∈ store.db.physicalMedia, ∀ r, m.maxRangeKm = some r → 0 ≤ r

/-- Requests one after another. -/
def linkCalls (env : Runtime) : System Store LinkCall := System.ofAct Unlinked (serve env)

/-- A request that succeeds keeps the lengths and the media. -/
theorem fits_serve {call : LinkCall} (hs : Fits store) (h : serve env store call = some store') :
    Fits store' := by
  cases call with
  | create p => exact fits_createLinkImpl hs (toOption_eq_some.mp h)
  | createBatch ps =>
    cases h
    exact fits_batchCreateLinks hs ps
  | update id u => exact fits_updateLinkImpl hs (toOption_eq_some.mp h)
  | override id value => exact fits_setLinkOverrideImpl hs (toOption_eq_some.mp h)
  | delete id => exact fits_deleteLinkImpl hs (toOption_eq_some.mp h)

/-- In every run of requests, every link joins two devices that may be linked, its length is not
negative, and its medium exists and is one that its class allows. -/
theorem links_fit_of_reachable (env : Runtime) {store : Store} (h : (linkCalls env).Reachable store)
    {l : Link} (hl : l ∈ store.db.links) : LinkFits store.db l := by
  have hfit : Fits store := by
    apply System.Reachable.invariant (I := Fits) ?_ ?_ h
    · rintro store ⟨hlinks, hranges⟩
      exact ⟨hranges, by simp [hlinks]⟩
    · intro store call store' hs hstep
      exact fits_serve hs hstep
  exact hfit.links l hl

/-- A link of the access network whose length is changed. -/
theorem links_fit_of_reachable_network : ∃ store : Store, ∃ l ∈ store.db.links,
    l.lengthKm = some 2 ∧ LinkFits store.db l := by
  have hrun : (System.run (serve constantRuntime) accessNetwork
      [.create (linkRequest "olt-if0" "odf-if0"),
        .update "olt__odf" { lengthKm := some (some 2) }]).any (fun store ↦
          store.db.links.any (fun l ↦ l.lengthKm = some 2)) = true := by
    decide +kernel
  have ⟨store, hstore, hlink⟩ := (Option.any_eq_true _ _).mp hrun
  have ⟨l, hl, hlength⟩ := List.any_eq_true.mp hlink
  have hinit : (linkCalls constantRuntime).init accessNetwork := by
    constructor
    · rfl
    · intro m hm r hr
      rw [List.mem_singleton.mp hm] at hr
      cases hr
  have hreach : (linkCalls constantRuntime).Reachable store :=
    .run _ (fun _ _ _ h ↦ h) _ (.init hinit) hstore
  exact ⟨store, l, hl, of_decide_eq_true hlength, links_fit_of_reachable constantRuntime hreach hl⟩

end Unoc.Links
