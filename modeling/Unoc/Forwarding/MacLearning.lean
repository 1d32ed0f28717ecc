import Unoc.Forwarding.Router

/-!
# Learning switches

`process_frame` of `backend/services/l2_service.py:42–102` with its side effect: the source of a frame
is entered in the table of the bridge domain before the destination is looked up. Over any frames the
table holds the interface of the last frame from each address. SQLite leaves the foreign key of an
entry's interface unchecked.
-/

namespace Unoc.Forwarding

open Unoc.Devices.Delete (InterfaceRow MacAddressEntry BridgeDomain)

/-! ### Tables of addresses -/

/-- `str.lower`, of which the code relies on what it makes of a broadcast address. -/
structure LowerCase where
  lower : String → String
  broadcast : lower "ff:ff:ff:ff:ff:ff" = "ff:ff:ff:ff:ff:ff" ∧
    lower "FF:FF:FF:FF:FF:FF" = "ff:ff:ff:ff:ff:ff"

/-- The key of an entry. -/
def entryKey (m : MacAddressEntry) : Int × String := (m.bridgeDomainId, m.macAddress)

/-- Table `macaddressentry` with its constraints; `models_pkg/l2.py:24–35`. -/
structure MacTable where
  entries : List MacAddressEntry := []
  ids_nodup : (entries.map (·.id)).Nodup := by decide
  keys_nodup : (entries.map entryKey).Nodup := by decide

namespace MacTable

/-- The query for an entry. -/
def find (t : MacTable) (bdId : Int) (mac : String) : Option MacAddressEntry :=
  t.entries.find? (fun m ↦ m.bridgeDomainId = bdId ∧ m.macAddress = mac)

/-- The interface entered for an address. -/
def known (t : MacTable) (bdId : Int) (mac : String) : Option String :=
  (t.find bdId mac).map (·.interfaceId)

/-- The next row id. -/
def nextId (t : MacTable) : Int := ((t.entries.map (·.id)).max?.getD 0) + 1

private theorem find_eq_some {t : MacTable} {bdId : Int} {mac : String} {m : MacAddressEntry} :
    t.find bdId mac = some m ↔ m ∈ t.entries ∧ m.bridgeDomainId = bdId ∧ m.macAddress = mac := by
  have hkey := @Unoc.Model.find?_key_eq_some _ _ _ entryKey _ t.keys_nodup (bdId, mac) m
  simp only [entryKey, Prod.mk.injEq] at hkey
  exact hkey

private theorem find_eq_none {t : MacTable} {bdId : Int} {mac : String} :
    t.find bdId mac = none ↔ ∀ m ∈ t.entries, entryKey m ≠ (bdId, mac) := by
  simp [find, List.find?_eq_none, entryKey]

private theorem lt_nextId {t : MacTable} {m : MacAddressEntry} (h : m ∈ t.entries) :
    m.id < t.nextId := by
  have hmem : m.id ∈ t.entries.map (·.id) := List.mem_map_of_mem h
  have ⟨top, htop⟩ := Option.isSome_iff_exists.mp (List.isSome_max?_of_mem hmem)
  have hle : m.id ≤ top := (List.max?_eq_some_iff.mp htop).2 _ hmem
  rw [nextId, htop, Option.getD_some]
  omega

/-- Give one row another interface. -/
def setInterface (t : MacTable) (id : Int) (interfaceId : String) : MacTable where
  entries := t.entries.map (fun m ↦ if m.id = id then { m with interfaceId := interfaceId } else m)
  ids_nodup := by
    rw [List.map_map, List.map_congr_left (g := (·.id))]
    · exact t.ids_nodup
    · intro m _
      dsimp only [Function.comp_apply]
      split <;> rfl
  keys_nodup := by
    rw [List.map_map, List.map_congr_left (g := entryKey)]
    · exact t.keys_nodup
    · intro m _
      dsimp only [Function.comp_apply]
      split <;> rfl

/-- Add a row for an address without one. -/
def add (t : MacTable) (bdId : Int) (mac interfaceId : String) (h : t.find bdId mac = none) :
    MacTable where
  entries := t.entries ++ [⟨t.nextId, mac, interfaceId, bdId⟩]
  ids_nodup := by
    rw [List.map_append, List.nodup_append]
    refine ⟨t.ids_nodup, List.nodup_singleton _, ?_⟩
    intro id hid id' hid'
    have ⟨m, hm, hmid⟩ := List.mem_map.mp hid
    rw [List.mem_singleton.mp hid', ← hmid]
    exact Int.ne_of_lt (lt_nextId hm)
  keys_nodup := by
    rw [List.map_append, List.nodup_append]
    refine ⟨t.keys_nodup, List.nodup_singleton _, ?_⟩
    intro k hk k' hk'
    have ⟨m, hm, hmk⟩ := List.mem_map.mp hk
    rw [List.mem_singleton.mp hk', ← hmk]
    exact find_eq_none.mp h m hm

/-- Learn the interface of a source; `l2_service.py:64–80`. -/
def learn (t : MacTable) (bdId : Int) (src ingress : String) : MacTable :=
  match h : t.find bdId src with
  | some existing =>
    if existing.interfaceId ≠ ingress then t.setInterface existing.id ingress else t
  | none => t.add bdId src ingress h

private theorem known_eq_some {t : MacTable} {bdId : Int} {mac i : String} :
    t.known bdId mac = some i ↔
      ∃ m ∈ t.entries, entryKey m = (bdId, mac) ∧ m.interfaceId = i := by
  simp only [known, Option.map_eq_some_iff, find_eq_some, entryKey, Prod.mk.injEq, and_assoc]

private theorem known_setInterface {t : MacTable} {bdId : Int} {src ingress : String}
    {m : MacAddressEntry}
    (hm : t.find bdId src = some m) (bd : Int) (mac : String) :
    (t.setInterface m.id ingress).known bd mac =
      if bd = bdId ∧ mac = src then some ingress else t.known bd mac := by
  have ⟨hmem, hbd, hmac⟩ := find_eq_some.mp hm
  apply Option.ext
  intro i
  rw [known_eq_some]
  split
  · next hkey =>
    constructor
    · rintro ⟨x, hx, hxkey, rfl⟩
      have ⟨y, hy, hyx⟩ := List.mem_map.mp hx
      have hykey : entryKey y = entryKey m := by
        rw [← hyx] at hxkey
        rw [show entryKey m = (bd, mac) by rw [hkey.1, hkey.2, ← hbd, ← hmac]; rfl, ← hxkey]
        split <;> rfl
      obtain rfl := List.inj_on_of_nodup_map t.keys_nodup hy hmem hykey
      rw [← hyx, if_pos rfl]
    · intro hi
      cases hi
      refine ⟨_, List.mem_map.mpr ⟨m, hmem, rfl⟩, ?_, ?_⟩
      · rw [if_pos rfl, hkey.1, hkey.2, ← hbd, ← hmac]
        rfl
      · rw [if_pos rfl]
  · next hkey =>
    rw [known_eq_some]
    have hother : ∀ y ∈ t.entries, entryKey y = (bd, mac) → y.id ≠ m.id := by
      intro y hy hykey hid
      obtain rfl := List.inj_on_of_nodup_map t.ids_nodup hy hmem hid
      have hpair := Prod.mk.inj hykey
      exact hkey ⟨hpair.1.symm.trans hbd, hpair.2.symm.trans hmac⟩
    constructor
    · rintro ⟨x, hx, hxkey, rfl⟩
      have ⟨y, hy, hyx⟩ := List.mem_map.mp hx
      have hykey : entryKey y = (bd, mac) := by
        rw [← hxkey, ← hyx]
        split <;> rfl
      rw [if_neg (hother y hy hykey)] at hyx
      exact ⟨y, hy, hykey, by rw [hyx]⟩
    · rintro ⟨y, hy, hykey, rfl⟩
      have hid : y.id ≠ m.id := hother y hy hykey
      exact ⟨y, List.mem_map.mpr ⟨y, hy, if_neg hid⟩, hykey, rfl⟩

private theorem known_add {t : MacTable} {bdId : Int} {src ingress : String}
    (h : t.find bdId src = none)
    (bd : Int) (mac : String) : (t.add bdId src ingress h).known bd mac =
      if bd = bdId ∧ mac = src then some ingress else t.known bd mac := by
  have hfind : (t.add bdId src ingress h).find bd mac =
      (t.find bd mac).or (if bd = bdId ∧ mac = src then some ⟨t.nextId, src, ingress, bdId⟩ else none) := by
    unfold find add
    rw [List.find?_append]
    congr 1
    rw [List.find?_singleton]
    by_cases hkey : bd = bdId ∧ mac = src
    · rw [if_pos hkey, if_pos (decide_eq_true ⟨hkey.1.symm, hkey.2.symm⟩)]
    · rw [if_neg hkey, if_neg]
      intro hdec
      have hkey' := of_decide_eq_true hdec
      exact hkey ⟨hkey'.1.symm, hkey'.2.symm⟩
  unfold known
  rw [hfind]
  split
  · next hkey =>
    rw [hkey.1, hkey.2, h]
    rfl
  · rw [Option.or_none]

/-- Learning a source changes what is known about it, and about nothing else. -/
theorem known_learn (t : MacTable) (bdId : Int) (src ingress : String) (bd : Int) (mac : String) :
    (t.learn bdId src ingress).known bd mac =
      if bd = bdId ∧ mac = src then some ingress else t.known bd mac := by
  unfold learn
  split
  · next existing hfind =>
    split
    · exact known_setInterface hfind bd mac
    · next hsame =>
      split
      · next hkey =>
        rw [hkey.1, hkey.2, known, hfind, Option.map_some, not_not.mp hsame]
      · rfl
  · next hfind => exact known_add hfind bd mac

end MacTable

/-! ### Frames -/

/-- `Frame`; `l2_service.py:11–20`. -/
structure Frame where
  sourceMac : String
  destinationMac : String
  deriving DecidableEq, Repr

/-- A frame that comes in at an interface of a device. -/
structure Arrival where
  deviceId : String
  ingress : String
  frame : Frame
  deriving DecidableEq, Repr

variable (lc : LowerCase) (db : Tables)

/-- `_get_device_default_bd_id`; `l2_service.py:26–33`. -/
def defaultBd (deviceId : String) : Option BridgeDomain :=
  db.bridgeDomains.find? (fun b ↦ b.deviceId = deviceId ∧ b.name = "default")

/-- The tables with the entries of a table of addresses. -/
def Tables.withMacs (t : MacTable) : Tables := { db with macAddressEntries := t.entries }

/-- `process_frame`; `l2_service.py:42–102`. -/
def learnAndProcess (t : MacTable) (a : Arrival) : FrameResult × MacTable :=
  match defaultBd db a.deviceId with
  | none => (.drop "no_bridge_domain", t)
  | some bd =>
    let learned := t.learn bd.id (lc.lower a.frame.sourceMac) a.ingress
    (processFrame (db.withMacs learned) a.deviceId a.ingress (lc.lower a.frame.destinationMac), learned)

/-- The table after some frames. -/
def afterFrames (t : MacTable) (arrivals : List Arrival) : MacTable :=
  arrivals.foldl (fun t a ↦ (learnAndProcess lc db t a).2) t

/-! ### What a learning switch does -/

/-- A frame from an address comes in at a bridge domain. -/
def Arrival.from (bdId : Int) (mac : String) (a : Arrival) : Bool :=
  (defaultBd db a.deviceId).any (fun bd ↦ bd.id = bdId) && lc.lower a.frame.sourceMac = mac

/-- The interface of the last frame from an address. -/
def lastIngress (arrivals : List Arrival) (bdId : Int) (mac : String) : Option String :=
  (arrivals.reverse.find? (fun a ↦ a.from lc db bdId mac)).map Arrival.ingress

/-- The answer of a switch that knows where addresses are. -/
def answer (known : Int → String → Option String) (a : Arrival) : FrameResult :=
  match defaultBd db a.deviceId with
  | none => .drop "no_bridge_domain"
  | some bd =>
    let others := ((db.interfaces.filter (fun i ↦ i.bridgeDomainId = some bd.id)).map (·.id)).filter
      (fun i ↦ i ≠ a.ingress)
    if lc.lower a.frame.destinationMac = "ff:ff:ff:ff:ff:ff" then .flood others
    else
      match known bd.id (lc.lower a.frame.destinationMac) with
      | some i => .forward i
      | none => .flood others

variable {lc db}

private theorem learnAndProcess_answer (t : MacTable) (a : Arrival) :
    (learnAndProcess lc db t a).1 = answer lc db (learnAndProcess lc db t a).2.known a := by
  unfold learnAndProcess answer
  cases hbd : defaultBd db a.deviceId with
  | none => rfl
  | some bd =>
    dsimp only
    have hfind : (db.withMacs (t.learn bd.id (lc.lower a.frame.sourceMac) a.ingress)).bridgeDomains.find?
        (fun b ↦ b.deviceId = a.deviceId ∧ b.name = "default") = some bd := hbd
    unfold processFrame
    rw [hfind]
    dsimp only
    split
    · rfl
    · unfold MacTable.known MacTable.find Tables.withMacs
      dsimp only
      cases List.find? _ _ <;> rfl

private theorem known_learnAndProcess (t : MacTable) (a : Arrival) (bdId : Int) (mac : String) :
    (learnAndProcess lc db t a).2.known bdId mac =
      if a.from lc db bdId mac then some a.ingress else t.known bdId mac := by
  unfold learnAndProcess Arrival.from
  cases hbd : defaultBd db a.deviceId with
  | none => rfl
  | some bd =>
    dsimp only
    rw [MacTable.known_learn, Option.any_some]
    by_cases hkey : bdId = bd.id ∧ mac = lc.lower a.frame.sourceMac
    · rw [if_pos hkey, if_pos]
      rw [Bool.and_eq_true]
      exact ⟨decide_eq_true hkey.1.symm, decide_eq_true hkey.2.symm⟩
    · rw [if_neg hkey, if_neg]
      intro hand
      have ⟨hbdId, hmac⟩ := (Bool.and_eq_true _ _).mp hand
      exact hkey ⟨(of_decide_eq_true hbdId).symm, (of_decide_eq_true hmac).symm⟩

/-- After any frames, an address is known at the interface of its last frame. -/
theorem known_afterFrames (t : MacTable) (arrivals : List Arrival) (bdId : Int) (mac : String) :
    (afterFrames lc db t arrivals).known bdId mac =
      (lastIngress lc db arrivals bdId mac).or (t.known bdId mac) := by
  induction arrivals using List.reverseRecOn with
  | nil => rfl
  | append_singleton arrivals a ih =>
    unfold afterFrames at ih ⊢
    rw [List.foldl_append, List.foldl_cons, List.foldl_nil, known_learnAndProcess, ih]
    unfold lastIngress
    rw [List.reverse_append, List.reverse_singleton, List.singleton_append, List.find?_cons]
    cases a.from lc db bdId mac <;> rfl

/-- A switch answers each frame as if it looked through all frames up to and with this one: a
destination is forwarded to the interface of its last frame, and flooded if there was none and the
table did not know it. -/
theorem learnAndProcess_afterFrames (lc : LowerCase) (db : Tables) (t : MacTable)
    (arrivals : List Arrival) (a : Arrival) :
    (learnAndProcess lc db (afterFrames lc db t arrivals) a).1 =
      answer lc db (fun bdId mac ↦
        (lastIngress lc db (arrivals ++ [a]) bdId mac).or (t.known bdId mac)) a := by
  rw [learnAndProcess_answer]
  congr 1
  funext bdId mac
  rw [← known_afterFrames]
  unfold afterFrames
  rw [List.foldl_append]
  rfl

end Unoc.Forwarding
