import Unoc.Realtime.DevicesStore

/-!
# The links of the client

The handlers of `link.created` and `link.deleted`;
`unoc-frontend-v2/src/stores/links/realtime.ts:10–92`. A creation of a link that is in the store already
returns before its version is recorded, so that an older deletion may still remove the link.
-/

namespace Unoc.Realtime

open Unoc.Base

/-! ### Links and events -/

/-- `Link`; `links/types.ts:9–23`. -/
structure ClientLink where
  id : String
  aInterfaceId : String
  bInterfaceId : String
  aDeviceId : String
  bDeviceId : String
  status : String
  effectiveStatus : String
  kind : String
  adminOverrideStatus : Option String
  lengthKm : Option ℚ
  physicalMediumId : Option ℚ
  deriving DecidableEq

/-- The payload of `link.created`, `Partial<Link>` with an id. -/
structure LinkPayload where
  id : String
  aInterfaceId : Option String := none
  bInterfaceId : Option String := none
  aDeviceId : Option String := none
  bDeviceId : Option String := none
  status : Option JsonValue := none
  effectiveStatus : Option JsonValue := none
  kind : Option String := none
  adminOverrideStatus : Option JsonValue := none
  lengthKm : Option JsonValue := none
  physicalMediumId : Option JsonValue := none

/-- What `link.created` reads of a device of the devices store; `interfaces` may not be loaded. -/
structure DeviceInterfaces where
  id : String
  interfaces : Option (List String)

/-- `normalizeStatus`; `links/types.ts:4–7`. -/
def normalizeStatus (s : Option JsonValue) : Option String := s.bind normalize

/-- `a || b` of texts; a missing one is falsy like an empty one. -/
def orText (a b : String) : String := if a = "" then b else a

/-- What `.` of a regular expression does not match. -/
def lineTerminators : List Char := ['\n', '\r', Char.ofNat 0x2028, Char.ofNat 0x2029]

/-- `deriveDev`: the part before a trailing `-if` and digits; `realtime.ts:25–31`. -/
def deriveDev (iid : String) : String :=
  let chars := iid.toList.reverse
  let digits := chars.takeWhile Char.isDigit
  let stem := chars.dropWhile Char.isDigit
  let dev := stem.drop 3
  if digits ≠ [] ∧ "fi-".toList <+: stem ∧ dev ≠ [] ∧ dev.all (· ∉ lineTerminators) then
    String.ofList dev.reverse
  else if "0fi-".toList <+: chars then String.ofList (chars.drop 4).reverse
  else ""

/-- `lookupDevByIface`; `realtime.ts:33–45`. -/
def lookupDevByIface (devices : List DeviceInterfaces) (iid : String) : String :=
  if iid = "" then ""
  else ((devices.find? (fun d ↦ d.interfaces.any (iid ∈ ·))).map (·.id)).getD ""

/-- The device of an end of a link; `realtime.ts:50–57`. -/
def endDevice (devices : List DeviceInterfaces) (device interface : Option String) : String :=
  let iid := interface.getD ""
  orText (device.getD "") (orText (deriveDev iid) (lookupDevByIface devices iid))

/-- `typeof x === 'number' ? x : null`. -/
def numberOf : Option JsonValue → Option ℚ
  | some (.number x) => some x
  | _ => none

/-- The link of a payload; `realtime.ts:46–65`. -/
def LinkPayload.link (devices : List DeviceInterfaces) (p : LinkPayload) : ClientLink where
  id := p.id
  aInterfaceId := p.aInterfaceId.getD ""
  bInterfaceId := p.bInterfaceId.getD ""
  aDeviceId := endDevice devices p.aDeviceId p.aInterfaceId
  bDeviceId := endDevice devices p.bDeviceId p.bInterfaceId
  status := orText ((normalizeStatus p.status).getD "") "UP"
  effectiveStatus :=
    orText ((normalizeStatus p.effectiveStatus).getD "")
      (orText ((normalizeStatus p.status).getD "") "UP")
  kind := orText (p.kind.getD "") "FIBER"
  adminOverrideStatus := normalizeStatus p.adminOverrideStatus
  lengthKm := numberOf p.lengthKm
  physicalMediumId := numberOf p.physicalMediumId

/-- Both device endpoints are known; `realtime.ts:66–73`. -/
def LinkPayload.Resolvable (devices : List DeviceInterfaces) (p : LinkPayload) : Prop :=
  (p.link devices).aDeviceId ≠ "" ∧ (p.link devices).bDeviceId ≠ ""

/-- Whether the ends of a payload resolve is a search in the devices. -/
instance (devices : List DeviceInterfaces) (p : LinkPayload) : Decidable (p.Resolvable devices) :=
  inferInstanceAs (Decidable (_ ∧ _))

/-- An envelope of the event bus. -/
inductive LinkEvent where
  | created (topo : Option ℚ) (payload : LinkPayload)
  | deleted (topo : Option ℚ) (id : String)

namespace LinkEvent

/-- The topology version of an event. -/
def topo : LinkEvent → Option ℚ
  | created v _ => v
  | deleted v _ => v

/-- The link of an event. -/
def id : LinkEvent → String
  | created _ p => p.id
  | deleted _ id => id

/-- Whether an event adds its link. -/
def isCreated : LinkEvent → Bool
  | created _ _ => true
  | deleted _ _ => false

/-- A creation has both of its device endpoints. -/
def Resolvable (devices : List DeviceInterfaces) : LinkEvent → Prop
  | created _ p => p.Resolvable devices
  | deleted _ _ => True

/-- Both events have a version, and the first one's is lower. -/
def OlderThan (e e' : LinkEvent) : Prop := ∃ v ∈ e.topo, ∃ w ∈ e'.topo, v < w

end LinkEvent

/-! ### The handlers -/

/-- The part of `useLinksStore` that the handlers use; `linksStore.ts:9–15`. -/
structure LinksStore where
  links : List ClientLink := []
  lastTopoByLink : LastTopo := {}

namespace LinksStore

/-- The handler of `link.created`; `realtime.ts:12–76`. -/
def linkCreated (devices : List DeviceInterfaces) (store : LinksStore) (topo : Option ℚ)
    (p : LinkPayload) : LinksStore :=
  if p.id = "" then store
  else if store.lastTopoByLink.IsStale p.id topo then store
  else if store.links.any (·.id = p.id) then store
  else if ¬ p.Resolvable devices then store
  else
    { links := store.links ++ [p.link devices]
      lastTopoByLink := store.lastTopoByLink.note p.id topo }

/-- The handler of `link.deleted`; `realtime.ts:79–92`. -/
def linkDeleted (store : LinksStore) (topo : Option ℚ) (id : String) : LinksStore :=
  if id = "" then store
  else if store.lastTopoByLink.IsStale id topo then store
  else
    { links := store.links.filter (·.id ≠ id)
      lastTopoByLink := store.lastTopoByLink.note id topo }

/-- The delivery of an event by the bus. -/
def deliver (devices : List DeviceInterfaces) (store : LinksStore) : LinkEvent → LinksStore
  | .created topo p => store.linkCreated devices topo p
  | .deleted topo id => store.linkDeleted topo id

/-- The deliveries of the bus, in order. -/
def deliverAll (devices : List DeviceInterfaces) (store : LinksStore) (events : List LinkEvent) :
    LinksStore :=
  events.foldl (deliver devices) store

/-- Whether a link is in the store. -/
def has (store : LinksStore) (id : String) : Bool := store.links.any (·.id = id)

/-! ### One delivery -/

section Delivery

variable {devices : List DeviceInterfaces} {store : LinksStore} {e : LinkEvent}

private theorem deliver_of_empty (h : e.id = "") : store.deliver devices e = store := by
  cases e with
  | created topo p => exact if_pos h
  | deleted topo id => exact if_pos h

private theorem deliver_of_isStale (h : store.lastTopoByLink.IsStale e.id e.topo) :
    store.deliver devices e = store := by
  cases e with
  | created topo p =>
    have hp : store.lastTopoByLink.IsStale p.id topo := h
    simp [deliver, linkCreated, hp]
  | deleted topo id =>
    have hid : store.lastTopoByLink.IsStale id topo := h
    simp [deliver, linkDeleted, hid]

/-- A creation of a link that is there already has no effect. -/
theorem deliver_of_has (h : store.has e.id) (he : e.isCreated) : store.deliver devices e = store := by
  cases e with
  | created topo p =>
    have hp : store.links.any (·.id = p.id) := h
    simp [deliver, linkCreated, hp]
  | deleted topo id => cases he

/-- Any other event that is not stale decides about the link and records its version. -/
theorem deliver_of_fresh (hempty : e.id ≠ "") (hfresh : ¬ store.lastTopoByLink.IsStale e.id e.topo)
    (hhas : e.isCreated → ¬ store.has e.id) (hres : e.Resolvable devices) :
    (store.deliver devices e).has e.id = e.isCreated ∧
      (store.deliver devices e).lastTopoByLink = store.lastTopoByLink.note e.id e.topo := by
  cases e with
  | created topo p =>
    have hempty : p.id ≠ "" := hempty
    have hfresh : ¬ store.lastTopoByLink.IsStale p.id topo := hfresh
    have hres : p.Resolvable devices := hres
    have hhas : store.links.any (·.id = p.id) = false := Bool.eq_false_iff.mpr (hhas rfl)
    simp [deliver, linkCreated, hempty, hfresh, hhas, hres, has, LinkEvent.isCreated, LinkEvent.id,
      LinkEvent.topo, LinkPayload.link]
  | deleted topo id =>
    have hempty : id ≠ "" := hempty
    have hfresh : ¬ store.lastTopoByLink.IsStale id topo := hfresh
    simp only [deliver, linkDeleted, if_neg hempty, if_neg hfresh, has, LinkEvent.isCreated,
      LinkEvent.id, LinkEvent.topo, and_true]
    rw [List.any_eq_false]
    intro l hl
    have hne : l.id ≠ id := by simpa using (List.mem_filter.mp hl).2
    exact fun h ↦ hne (of_decide_eq_true h)

/-- Where no version can be recorded, the last event decides. -/
theorem has_deliver_proto (hproto : e.id = "__proto__") (hres : e.Resolvable devices) :
    (store.deliver devices e).has "__proto__" = e.isCreated := by
  have hfresh : ¬ store.lastTopoByLink.IsStale e.id e.topo := by
    rw [hproto]
    exact LastTopo.not_isStale_proto _ _
  by_cases hhas : e.isCreated ∧ store.has e.id
  · rw [deliver_of_has hhas.2 hhas.1, ← hproto, hhas.1, hhas.2]
  · have hdecide := deliver_of_fresh (by simp [hproto]) hfresh (not_and.mp hhas) hres
    rw [← hdecide.1, hproto]

end Delivery

/-! ### Deliveries in any order -/

section Deliveries

variable {devices : List DeviceInterfaces} {id : String}

private theorem deliverAll_concat (store : LinksStore) (events : List LinkEvent) (e : LinkEvent) :
    store.deliverAll devices (events ++ [e]) = (store.deliverAll devices events).deliver devices e := by
  simp [deliverAll]

private theorem deliverAll_cons (store : LinksStore) (e : LinkEvent) (events : List LinkEvent) :
    store.deliverAll devices (e :: events) = (store.deliver devices e).deliverAll devices events :=
  rfl

private theorem deliverAll_append (store : LinksStore) (events events' : List LinkEvent) :
    store.deliverAll devices (events ++ events') =
      (store.deliverAll devices events).deliverAll devices events' := by
  simp [deliverAll]

/-- Events for one link, each creation with its device endpoints. -/
def EventsFor (devices : List DeviceInterfaces) (id : String) (events : List LinkEvent) : Prop :=
  ∀ e ∈ events, e.id = id ∧ e.Resolvable devices

/-- Events with versions, no two of them equal. -/
def DistinctVersions (events : List LinkEvent) : Prop :=
  events.Pairwise (fun e e' ↦ e.OlderThan e' ∨ e'.OlderThan e)

/-- Stale events change nothing. -/
theorem deliverAll_of_isStale {store : LinksStore} {events : List LinkEvent}
    (h : ∀ e ∈ events, store.lastTopoByLink.IsStale e.id e.topo) :
    store.deliverAll devices events = store := by
  induction events with
  | nil => rfl
  | cons e events ih =>
    rw [deliverAll_cons, deliver_of_isStale (h e List.mem_cons_self)]
    exact ih (fun e' he' ↦ h e' (List.mem_cons_of_mem e he'))

/-- Events without an id change nothing. -/
theorem deliverAll_of_empty {store : LinksStore} {events : List LinkEvent}
    (h : ∀ e ∈ events, e.id = "") : store.deliverAll devices events = store := by
  induction events with
  | nil => rfl
  | cons e events ih =>
    rw [deliverAll_cons, deliver_of_empty (h e List.mem_cons_self)]
    exact ih (fun e' he' ↦ h e' (List.mem_cons_of_mem e he'))

/-- A recorded version is that of an event that was delivered. -/
theorem read_deliverAll {store : LinksStore} (hid : id ≠ "__proto__")
    (hnone : store.lastTopoByLink.read id = none) {events : List LinkEvent}
    (hevents : EventsFor devices id events) {v : ℚ}
    (hv : (store.deliverAll devices events).lastTopoByLink.read id = some v) :
    ∃ e ∈ events, e.topo = some v := by
  induction events using List.reverseRecOn with
  | nil => cases hnone.symm.trans hv
  | append_singleton events e ih =>
    have ih := ih (fun e' he' ↦ hevents e' (List.mem_append_left _ he'))
    obtain ⟨hide, hres⟩ := hevents e (by simp)
    -- either the delivery changes nothing or it records the version of the event
    have hcases : (store.deliverAll devices (events ++ [e])).lastTopoByLink.read id =
        (store.deliverAll devices events).lastTopoByLink.read id ∨
        (store.deliverAll devices (events ++ [e])).lastTopoByLink.read id =
          e.topo.or ((store.deliverAll devices events).lastTopoByLink.read id) := by
      rw [deliverAll_concat]
      by_cases hempty : e.id = ""
      · rw [deliver_of_empty hempty]
        exact Or.inl rfl
      by_cases hstale : (store.deliverAll devices events).lastTopoByLink.IsStale e.id e.topo
      · rw [deliver_of_isStale hstale]
        exact Or.inl rfl
      by_cases hhas : e.isCreated ∧ (store.deliverAll devices events).has e.id
      · rw [deliver_of_has hhas.2 hhas.1]
        exact Or.inl rfl
      · rw [(deliver_of_fresh hempty hstale (not_and.mp hhas) hres).2, hide, LastTopo.read_note hid]
        exact Or.inr rfl
    have hold : (store.deliverAll devices events).lastTopoByLink.read id = some v →
        ∃ e' ∈ events ++ [e], e'.topo = some v := by
      intro hread
      obtain ⟨e', he', htopo⟩ := ih hread
      exact ⟨e', List.mem_append_left _ he', htopo⟩
    rcases hcases with heq | heq
    · exact hold (heq.symm.trans hv)
    · rcases Option.or_eq_some_iff.mp (heq.symm.trans hv) with htopo | ⟨_, hread⟩
      · exact ⟨e, by simp, htopo⟩
      · exact hold hread

/-- After a decision with a version that no delivered event exceeds, the link stays as it is. -/
theorem has_deliverAll_of_newest {store : LinksStore} {top : LinkEvent} {after : List LinkEvent}
    (hid : id ≠ "__proto__") (hempty : id ≠ "") (hevents : EventsFor devices id (top :: after))
    (hafter : ∀ e ∈ after, e.OlderThan top)
    (hfresh : ¬ store.lastTopoByLink.IsStale id top.topo) (hhas : top.isCreated → ¬ store.has id) :
    (store.deliverAll devices (top :: after)).has id = top.isCreated := by
  obtain ⟨rfl, hres⟩ := hevents top List.mem_cons_self
  obtain ⟨hdecided, hnote⟩ := deliver_of_fresh hempty hfresh hhas hres
  have hstale : ∀ e ∈ after,
      (store.deliver devices top).lastTopoByLink.IsStale e.id e.topo := by
    intro e he
    rw [(hevents e (List.mem_cons_of_mem top he)).1, hnote, LastTopo.isStale_note hid hfresh]
    exact Or.inr (hafter e he)
  rw [deliverAll_cons, deliverAll_of_isStale hstale, hdecided]

/-- A deletion that is not stale when it arrives and that no newer creation follows. -/
def Removes (devices : List DeviceInterfaces) (store : LinksStore) (id : String)
    (events mid : List LinkEvent) (d : LinkEvent) (rest : List LinkEvent) : Prop :=
  events = mid ++ d :: rest ∧ d.isCreated = false ∧
    ¬ (store.deliverAll devices mid).lastTopoByLink.IsStale id d.topo ∧
    ∀ c ∈ rest, c.isCreated → ¬ d.OlderThan c

/-- A link that has gone was removed by such a deletion, whose version is the recorded one. -/
theorem exists_removes {store : LinksStore} (hid : id ≠ "__proto__") (hempty : id ≠ "")
    (hhas : store.has id) {events : List LinkEvent} (hevents : EventsFor devices id events)
    (hversions : ∀ e ∈ events, e.topo.isSome)
    (hgone : (store.deliverAll devices events).has id = false) :
    ∃ mid d rest, Removes devices store id events mid d rest ∧
      (store.deliverAll devices events).lastTopoByLink.read id = d.topo := by
  induction events using List.reverseRecOn with
  | nil => cases hhas.symm.trans hgone
  | append_singleton events e ih =>
    have ih := ih (fun e' he' ↦ hevents e' (List.mem_append_left _ he'))
      (fun e' he' ↦ hversions e' (List.mem_append_left _ he'))
    obtain ⟨rfl, hres⟩ := hevents e (by simp)
    rw [deliverAll_concat] at hgone ⊢
    by_cases hstale : (store.deliverAll devices events).lastTopoByLink.IsStale e.id e.topo
    · rw [deliver_of_isStale hstale] at hgone ⊢
      obtain ⟨mid, d, rest, ⟨rfl, hd, hfresh, hrest⟩, hread⟩ := ih hgone
      refine ⟨mid, d, rest ++ [e], ⟨by simp, hd, hfresh, ?_⟩, hread⟩
      intro c hc hcreated
      rcases List.mem_append.mp hc with hc | hc
      · exact hrest c hc hcreated
      · obtain rfl := List.mem_singleton.mp hc
        rintro ⟨v, hv, w, hw, hlt⟩
        obtain ⟨w', hw', r, hr, hlt'⟩ := hstale
        obtain rfl := Option.mem_unique hw hw'
        obtain rfl := Option.mem_unique hv (hread ▸ hr)
        exact lt_asymm hlt hlt'
    by_cases hpresent : e.isCreated ∧ (store.deliverAll devices events).has e.id
    · rw [deliver_of_has hpresent.2 hpresent.1] at hgone
      cases hpresent.2.symm.trans hgone
    · obtain ⟨hdecided, hnote⟩ := deliver_of_fresh hempty hstale (not_and.mp hpresent) hres
      have hdeleted : e.isCreated = false := hdecided.symm.trans hgone
      refine ⟨events, e, [], ⟨rfl, hdeleted, hstale, by simp⟩, ?_⟩
      obtain ⟨v, hv⟩ := Option.isSome_iff_exists.mp (hversions e (by simp))
      rw [hnote, LastTopo.read_note hid, hv, Option.some_or]

/-- A link that has gone stays away while every creation is older than a recorded version. -/
theorem has_deliverAll_of_older {store : LinksStore} (hid : id ≠ "__proto__") (hempty : id ≠ "")
    {d : LinkEvent} (hgone : store.has id = false)
    (hbound : ∀ e : LinkEvent, e.OlderThan d → store.lastTopoByLink.IsStale id e.topo)
    {events : List LinkEvent} (hevents : EventsFor devices id events)
    (holder : ∀ c ∈ events, c.isCreated → c.OlderThan d) :
    (store.deliverAll devices events).has id = false := by
  induction events generalizing store with
  | nil => exact hgone
  | cons e events ih =>
    have hevents' : EventsFor devices id events := fun e' he' ↦ hevents e' (List.mem_cons_of_mem e he')
    have holder' : ∀ c ∈ events, c.isCreated → c.OlderThan d :=
      fun c hc ↦ holder c (List.mem_cons_of_mem e hc)
    obtain ⟨rfl, hres⟩ := hevents e List.mem_cons_self
    rw [deliverAll_cons]
    by_cases hstale : store.lastTopoByLink.IsStale e.id e.topo
    · rw [deliver_of_isStale hstale]
      exact ih hgone hbound hevents' holder'
    · have hdeleted : e.isCreated = false := by
        rw [Bool.eq_false_iff]
        exact fun h ↦ hstale (hbound e (holder e List.mem_cons_self h))
      obtain ⟨hdecided, hnote⟩ := deliver_of_fresh hempty hstale (by simp [hdeleted]) hres
      refine ih (hdecided.trans hdeleted) (fun e' he' ↦ ?_) hevents' holder'
      rw [hnote, LastTopo.isStale_note hid hstale]
      exact Or.inl (hbound e' he')

/-- Such a deletion removes the link for good. -/
theorem Removes.gone {store : LinksStore} (hid : id ≠ "__proto__") (hempty : id ≠ "")
    {events mid rest : List LinkEvent} {d : LinkEvent} (h : Removes devices store id events mid d rest)
    (hevents : EventsFor devices id events) (hdistinct : DistinctVersions events) :
    (store.deliverAll devices events).has id = false := by
  obtain ⟨rfl, hd, hfresh, hrest⟩ := h
  obtain ⟨rfl, hres⟩ := hevents d (by simp)
  obtain ⟨hdecided, hnote⟩ := deliver_of_fresh hempty hfresh (by simp [hd]) hres
  have hpairs := (List.pairwise_cons.mp (List.pairwise_append.mp hdistinct).2.1).1
  rw [deliverAll_append, deliverAll_cons]
  refine has_deliverAll_of_older hid hempty (d := d) (hdecided.trans hd) (fun e he ↦ ?_)
    (fun e he ↦ hevents e (by simp [he])) (fun c hc hcreated ↦ ?_)
  · rw [hnote, LastTopo.isStale_note hid hfresh]
    exact Or.inr he
  · exact (hpairs c hc).resolve_left (hrest c hc hcreated)

/-- A link that is in the store stays there through deliveries, unless one of them removes it. -/
theorem has_deliverAll_iff {store : LinksStore} (hid : id ≠ "__proto__") (hempty : id ≠ "")
    (hhas : store.has id) {events : List LinkEvent} (hevents : EventsFor devices id events)
    (hdistinct : DistinctVersions events) (hversions : ∀ e ∈ events, e.topo.isSome) :
    (store.deliverAll devices events).has id ↔
      ∀ mid d rest, ¬ Removes devices store id events mid d rest := by
  constructor
  · intro hfinal mid d rest h
    cases hfinal.symm.trans (h.gone hid hempty hevents hdistinct)
  · intro hnone
    by_contra hgone
    obtain ⟨mid, d, rest, h, _⟩ := exists_removes hid hempty hhas hevents hversions
      (Bool.eq_false_iff.mpr hgone)
    exact hnone mid d rest h

end Deliveries

/-! ### Convergence -/

/-- When the store ends up with what the newest event says. For a proper id: this event is a deletion,
or the link is not in the store when this creation arrives, or every later deletion is stale when it
arrives or followed by a newer creation. -/
def Settles (devices : List DeviceInterfaces) (store : LinksStore) (id : String)
    (before : List LinkEvent) (top : LinkEvent) (after : List LinkEvent) : Prop :=
  if id = "" then store.has id = top.isCreated
  else if id = "__proto__" then ((top :: after).getLast?).map LinkEvent.isCreated = some top.isCreated
  else top.isCreated = false ∨ (store.deliverAll devices before).has id = false ∨
    ∀ mid d rest, after = mid ++ d :: rest → d.isCreated = false →
      (store.deliverAll devices (before ++ top :: mid)).lastTopoByLink.IsStale id d.topo ∨
        ∃ c ∈ rest, c.isCreated ∧ d.OlderThan c

section Convergence

variable {devices : List DeviceInterfaces} {store : LinksStore} {id : String}
  {before after : List LinkEvent} {top : LinkEvent}

/-- The newest event is not stale when it arrives. -/
theorem not_isStale_newest (hid : id ≠ "__proto__") (hnone : store.lastTopoByLink.read id = none)
    (hevents : EventsFor devices id before) (htop : ∀ e ∈ before, e.OlderThan top) :
    ¬ (store.deliverAll devices before).lastTopoByLink.IsStale id top.topo := by
  rintro ⟨v, hv, w, hw, hlt⟩
  obtain ⟨e, he, hew⟩ := read_deliverAll hid hnone hevents hw
  obtain ⟨w', hw', v', hv', hlt'⟩ := htop e he
  obtain rfl := Option.mem_unique hv hv'
  obtain rfl := Option.mem_unique hw' hew
  exact lt_asymm hlt hlt'

/-- A creation of a link that is in the store: what matters are the deletions after it. -/
theorem has_deliverAll_of_present (hid : id ≠ "__proto__") (hempty : id ≠ "")
    (hevents : EventsFor devices id (before ++ top :: after))
    (hdistinct : DistinctVersions (before ++ top :: after))
    (htop : ∀ e ∈ after, e.OlderThan top) (hcreated : top.isCreated)
    (hhas : (store.deliverAll devices before).has id) :
    (store.deliverAll devices (before ++ top :: after)).has id ↔
      ∀ mid d rest, after = mid ++ d :: rest → d.isCreated = false →
        (store.deliverAll devices (before ++ top :: mid)).lastTopoByLink.IsStale id d.topo ∨
          ∃ c ∈ rest, c.isCreated ∧ d.OlderThan c := by
  obtain ⟨rfl, -⟩ := hevents top (by simp)
  have hskip : ∀ events, store.deliverAll devices (before ++ top :: events) =
      (store.deliverAll devices before).deliverAll devices events := by
    intro events
    rw [deliverAll_append, deliverAll_cons, deliver_of_has hhas hcreated]
  have hdistinct' : DistinctVersions after :=
    (List.pairwise_cons.mp (List.pairwise_append.mp hdistinct).2.1).2
  have hversions : ∀ e ∈ after, e.topo.isSome := by
    intro e he
    obtain ⟨v, hv, -⟩ := htop e he
    exact Option.isSome_iff_exists.mpr ⟨v, hv⟩
  simp only [hskip]
  rw [has_deliverAll_iff hid hempty hhas (fun e he ↦ hevents e (by simp [he])) hdistinct' hversions]
  refine forall_congr' fun mid ↦ forall_congr' fun d ↦ forall_congr' fun rest ↦ ?_
  rw [Removes, not_and, not_and, not_and, not_forall]
  refine imp_congr_right fun _ ↦ imp_congr_right fun _ ↦ ?_
  simp only [Classical.not_imp, not_not]
  rw [imp_iff_not_or, not_not]

/-- After all deliveries, in any order, the link is in the store if and only if the newest event is a
creation, exactly when the newest event settles it. -/
theorem deliverAll_converged_iff_settles (hnone : store.lastTopoByLink.read id = none)
    (hevents : EventsFor devices id (before ++ top :: after))
    (hdistinct : DistinctVersions (before ++ top :: after))
    (htop : ∀ e ∈ before ++ after, e.OlderThan top) :
    ((store.deliverAll devices (before ++ top :: after)).has id ↔ top.isCreated) ↔
      Settles devices store id before top after := by
  unfold Settles
  by_cases hempty : id = ""
  · rw [if_pos hempty, deliverAll_of_empty (fun e he ↦ (hevents e he).1.trans hempty)]
    exact Bool.eq_iff_iff.symm
  rw [if_neg hempty]
  by_cases hproto : id = "__proto__"
  · subst hproto
    obtain ⟨events, last, hlast⟩ :=
      (List.eq_nil_or_concat' (top :: after)).resolve_left (List.cons_ne_nil top after)
    obtain ⟨hid, hres⟩ := hevents last (by simp [hlast])
    rw [if_pos rfl, hlast, ← List.append_assoc, deliverAll_concat, has_deliver_proto hid hres]
    rw [List.getLast?_concat, Option.map_some, Option.some.injEq]
    exact Bool.eq_iff_iff.symm
  rw [if_neg hproto]
  have hbefore : EventsFor devices id before := fun e he ↦ hevents e (by simp [he])
  have hfresh := not_isStale_newest hproto hnone hbefore (fun e he ↦ htop e (by simp [he]))
  have htop' : ∀ e ∈ after, e.OlderThan top := fun e he ↦ htop e (by simp [he])
  by_cases hpresent : top.isCreated ∧ (store.deliverAll devices before).has id
  · obtain ⟨hcreated, hhas⟩ := hpresent
    rw [has_deliverAll_of_present hproto hempty hevents hdistinct htop' hcreated hhas]
    simp [hcreated, hhas]
  · have hrest : EventsFor devices id (top :: after) :=
      fun e he ↦ hevents e (List.mem_append_right _ he)
    have hfinal := has_deliverAll_of_newest hproto hempty hrest htop' hfresh (not_and.mp hpresent)
    rw [deliverAll_append, hfinal]
    have hsettled : top.isCreated = false ∨ (store.deliverAll devices before).has id = false := by
      rw [← Bool.not_eq_true, ← Bool.not_eq_true, ← not_and_or]
      exact hpresent
    refine iff_of_true Iff.rfl ?_
    rcases hsettled with h | h
    · exact Or.inl h
    · exact Or.inr (Or.inl h)

end Convergence

/-! ### A creation that is not recorded -/

/-- A creation with both device ids. -/
def creation (v : ℚ) : LinkEvent :=
  .created (some v) { id := "l1", aDeviceId := some "olt1", bDeviceId := some "ont1" }

/-- A deletion of a link. -/
def deletion (v : ℚ) : LinkEvent := .deleted (some v) "l1"

/-- A link that was loaded. -/
def loaded : LinksStore where
  links := [LinkPayload.link []
    { id := "l1", aDeviceId := some "olt1", bDeviceId := some "ont1" }]
  lastTopoByLink := ⟨∅, LastTopo.own_proto_empty⟩

/-- The link was deleted and created again; the creation overtakes the deletion. -/
theorem deletion_after_creation_not_converged :
    loaded.lastTopoByLink.read "l1" = none ∧ EventsFor [] "l1" [creation 2, deletion 1] ∧
      DistinctVersions [creation 2, deletion 1] ∧ (deletion 1).OlderThan (creation 2) ∧
      ¬ ((loaded.deliverAll [] [creation 2, deletion 1]).has "l1" ↔ (creation 2).isCreated) := by
  have holder : (deletion 1).OlderThan (creation 2) := ⟨1, rfl, 2, rfl, by decide⟩
  refine ⟨rfl, ?_, ?_, holder, by decide⟩
  · intro e he
    simp only [List.mem_cons, List.not_mem_nil, or_false] at he
    rcases he with rfl | rfl
    · exact ⟨rfl, by decide, by decide⟩
    · exact ⟨rfl, trivial⟩
  · simp [DistinctVersions, holder]

/-- In the order of the versions, the link stays. -/
theorem creation_after_deletion_converged :
    (loaded.deliverAll [] ([deletion 1] ++ [creation 2])).has "l1" ↔ (creation 2).isCreated := by
  have holder : (deletion 1).OlderThan (creation 2) := ⟨1, rfl, 2, rfl, by decide⟩
  refine (deliverAll_converged_iff_settles rfl (fun e he ↦ ?_) ?_ ?_).mpr ?_
  · simp only [List.mem_append, List.mem_cons, List.not_mem_nil, or_false] at he
    rcases he with rfl | rfl
    · exact ⟨rfl, trivial⟩
    · exact ⟨rfl, by decide, by decide⟩
  · simp [DistinctVersions, holder]
  · simp [holder]
  -- the deletion has removed the link when the creation arrives
  · exact Or.inr (Or.inl (by decide))

end LinksStore

end Unoc.Realtime
