import Mathlib.Tactic.NormNum
import Unoc.Api.Ticks

/-!
# Published snapshots

The congestion state is replaced in one locked section of a request and read in a later one, and
the tick is drawn long before the snapshot is stored. Snapshots show their own detection in runs
where no other request detects in between, and ticks do not go backwards in runs where requests
publish in the order in which they drew their ticks.
-/

namespace Unoc.Api

open Unoc.Base Unoc.Traffic

/-! ### Steps -/

/-- What each action finds and leaves behind. -/
inductive Step (s : Server) : Action → Server → Prop
  | receive (req : Option TickRequest) (randomSeed : Int) :
      Step s (.receive req) { s with
        tickCounter := s.nextTick (bindRequest req)
        requests := s.requests ++ [.started (s.nextTick (bindRequest req)) randomSeed] }
  | fail {i : Nat} {tick : Int64} {randomSeed : Int} :
      s.requests[i]? = some (.started tick randomSeed) → Step s (.fail i) (s.advance i .failed)
  | generate {i : Nat} {tick : Int64} {randomSeed : Int} {rows : Rows} {adjacency : AdjacencyOrders}
      {flows : GenerationOrders} {shapingEnabled : Bool} (cache : TopologyCache)
      (result : GenerationResult) :
      s.requests[i]? = some (.started tick randomSeed) →
        Step s (.generate i rows adjacency flows shapingEnabled)
          (s.advance i (.generated tick cache result))
  | detect {i : Nat} {o : DetectionOrders} {tick : Int64} {cache : TopologyCache}
      {result : GenerationResult} (detection : CongestionState) :
      s.requests[i]? = some (.generated tick cache result) →
        Step s (.detect i o)
          { s.advance i (.detected tick result detection) with congestionState := detection }
  | build {i : Nat} {o : DetectionOrders} {timestamp : String} {tick : Int64}
      {result : GenerationResult} {detection : CongestionState} :
      s.requests[i]? = some (.detected tick result detection) →
        Step s (.build i o timestamp) (s.advance i
          (.built (buildSnapshot o tick timestamp result s.congestionState) result detection))
  | count {i : Nat} {o : DetectionOrders} {snapshot : SnapshotResponse} {result : GenerationResult}
      {response : TickResponse} {detection : CongestionState} :
      s.requests[i]? = some (.built snapshot result detection) → response.tick = snapshot.tick →
        Step s (.count i o) (s.advance i (.counted snapshot response detection))
  | publish {i : Nat} {snapshot : SnapshotResponse} {response : TickResponse}
      {detection : CongestionState} :
      s.requests[i]? = some (.counted snapshot response detection) →
        Step s (.publish i)
          { s.advance i (.responded response) with latestSnapshot := some ⟨snapshot, detection⟩ }
  | read {publication : Publication} : s.latestSnapshot = some publication →
      Step s .read { s with observed := s.observed ++ [publication.snapshot.tick] }
  | readNothing : s.latestSnapshot = none → Step s .read s

private theorem step_of_act {s s' : Server} {a : Action} (h : s.act a = some s') : Step s a s' := by
  cases a with
  | receive req =>
    cases h
    exact .receive req _
  | fail i =>
    simp only [Server.act] at h
    split at h
    · next hi =>
      cases h
      exact .fail hi
    · cases h
  | generate i rows adjacency flows shapingEnabled =>
    simp only [Server.act] at h
    split at h
    · next hi =>
      cases h
      exact .generate _ _ hi
    · cases h
  | detect i o =>
    simp only [Server.act] at h
    split at h
    · next hi =>
      cases h
      exact .detect _ hi
    · cases h
  | build i o timestamp =>
    simp only [Server.act] at h
    split at h
    · next hi =>
      cases h
      exact .build hi
    · cases h
  | count i o =>
    simp only [Server.act] at h
    split at h
    · next hi =>
      cases h
      exact .count hi rfl
    · cases h
  | publish i =>
    simp only [Server.act] at h
    split at h
    · next hi =>
      cases h
      exact .publish hi
    · cases h
  | read =>
    simp only [Server.act] at h
    split at h
    · next hlatest =>
      cases h
      exact .read hlatest
    · next hlatest =>
      cases h
      exact .readNothing hlatest

private theorem mem_advance {s : Server} {i : Nat} {phase phase' : Phase}
    (h : phase' ∈ (s.advance i phase).requests) : phase' ∈ s.requests ∨ phase' = phase :=
  List.mem_or_eq_of_mem_set h

/-! ### Coherence -/

/-- Every device and link of a snapshot has the flag, the utilization and the capacity of a
detection, which read as false and zero where it has none. -/
structure Coherent (snapshot : SnapshotResponse) (detection : CongestionState) : Prop where
  devices : ∀ devID m, snapshot.deviceMetrics.lookup devID = some m →
    m.congested = flag detection.devices.congested devID ∧
      m.utilization = (detection.devices.utilization.lookup devID).getD 0 ∧
        m.capacityMbps = (detection.devices.capacityMbps.lookup devID).getD 0
  links : ∀ linkID m, snapshot.linkMetrics.lookup linkID = some m →
    m.congested = flag detection.links.congested linkID ∧
      m.utilization = (detection.links.utilization.lookup linkID).getD 0 ∧
        m.capacityMbps = (detection.links.capacityMbps.lookup linkID).getD 0

/-- A snapshot shows the congestion state that it was built from. -/
theorem coherent_buildSnapshot (o : DetectionOrders) (tick : Int64) (timestamp : String)
    (result : GenerationResult) (cs : CongestionState) :
    Coherent (buildSnapshot o tick timestamp result cs) cs := by
  constructor
  · intro devID m hm
    have hfill := lookup_fill result.deviceMetrics o.devices
      (fun k v ↦ some (snapshotDevice result cs k v)) devID
    obtain ⟨metrics, _, hmetrics⟩ := Option.bind_eq_some_iff.mp (hfill.symm.trans hm)
    cases hmetrics
    exact ⟨rfl, rfl, rfl⟩
  · intro linkID m hm
    have hfill := lookup_fill result.linkMetrics o.links
      (fun k v ↦ some (snapshotLink result cs k v)) linkID
    obtain ⟨metrics, _, hmetrics⟩ := Option.bind_eq_some_iff.mp (hfill.symm.trans hm)
    cases hmetrics
    exact ⟨rfl, rfl, rfl⟩

/-- A request between its detection and its snapshot. -/
def Phase.awaitsBuild : Phase → Bool
  | .detected _ _ _ => true
  | _ => false

/-- No request detects while another one stands between its detection and its snapshot. -/
def Exclusive (s : Server) : Action → Prop
  | .detect _ _ => ∀ phase ∈ s.requests, phase.awaitsBuild = false
  | _ => True

/-- Whether the condition holds is checked on the requests. -/
instance (s : Server) : DecidablePred (Exclusive s)
  | .detect _ _ => inferInstanceAs (Decidable (∀ phase ∈ s.requests, phase.awaitsBuild = false))
  | .receive _ | .fail _ | .generate .. | .build .. | .count .. | .publish _ | .read =>
    inferInstanceAs (Decidable True)

/-- What coherence needs of a request: the state is still its own until its snapshot is built. -/
def Phase.Faithful (cs : CongestionState) : Phase → Prop
  | .detected _ _ detection => cs = detection
  | .built snapshot _ detection => Coherent snapshot detection
  | .counted snapshot _ detection => Coherent snapshot detection
  | _ => True

/-- Every request reads the state of its own tick, and the latest snapshot is of one tick. -/
structure Faithful (s : Server) : Prop where
  requests : ∀ phase ∈ s.requests, phase.Faithful s.congestionState
  latest : ∀ p, s.latestSnapshot = some p → Coherent p.snapshot p.detection

private theorem Phase.Faithful.change {cs cs' : CongestionState} {phase : Phase}
    (h : phase.Faithful cs)
    (hbuild : phase.awaitsBuild = false) : phase.Faithful cs' := by
  cases phase with
  | detected tick result detection => cases hbuild
  | _ => exact h

private theorem Faithful.advance {s : Server} (h : Faithful s) (i : Nat) {phase : Phase}
    (hphase : phase.Faithful s.congestionState) : Faithful (s.advance i phase) where
  requests := by
    intro phase' hmem
    rcases mem_advance hmem with hold | rfl
    · exact h.requests phase' hold
    · exact hphase
  latest := h.latest

private theorem Faithful.step {s s' : Server} {a : Action} (h : Faithful s) (hok : Exclusive s a)
    (hstep : Step s a s') : Faithful s' := by
  cases hstep with
  | receive req randomSeed =>
    constructor
    · intro phase hmem
      rcases List.mem_append.mp hmem with hold | hnew
      · exact h.requests phase hold
      · rw [List.mem_singleton.mp hnew]
        trivial
    · exact h.latest
  | fail _ => exact h.advance _ trivial
  | generate _ _ _ => exact h.advance _ trivial
  | detect detection _ =>
    constructor
    · intro phase hmem
      rcases mem_advance hmem with hold | rfl
      · exact (h.requests phase hold).change (hok phase hold)
      · rfl
    · exact h.latest
  | build hi =>
    apply h.advance
    have hown : s.congestionState = _ := h.requests _ (List.mem_of_getElem? hi)
    rw [hown]
    exact coherent_buildSnapshot _ _ _ _ _
  | count hi _ =>
    have hbuilt := h.requests _ (List.mem_of_getElem? hi)
    exact h.advance _ hbuilt
  | publish hi =>
    constructor
    · intro phase hmem
      rcases mem_advance hmem with hold | rfl
      · exact h.requests phase hold
      · trivial
    · intro p hp
      cases hp
      exact h.requests _ (List.mem_of_getElem? hi)
  | read _ => exact ⟨h.requests, h.latest⟩
  | readNothing _ => exact h

/-- In every run where no request detects between another request's detection and snapshot, every
stored snapshot has the values of its own request's detection. -/
theorem snapshots_coherent_of_exclusive {s : Server} (h : (ticks.restrict Exclusive).Reachable s)
    {p : Publication} (hp : s.latestSnapshot = some p) : Coherent p.snapshot p.detection := by
  have hinv : Faithful s := by
    apply h.invariant
    · intro s hs
      rw [show s = {} from hs]
      constructor
      · intro phase hmem
        cases hmem
      · intro p hp
        cases hp
    · intro s a s' hs hstep
      exact hs.step hstep.1 (step_of_act hstep.2)
  exact hinv.latest p hp

/-- One subscriber behind a core router. -/
def subscriberRows : Rows where
  devices := [{ id := "core", type := .coreRouter },
    { id := "ont", type := .ont, provisioned := true, tariffId := some 1 }]
  links := [{ id := "link", aInterfaceId := "core-p1", bInterfaceId := "ont-p1" }]
  interfaces := [{ id := "core-p1", deviceId := "core", name := "p1" },
    { id := "ont-p1", deviceId := "ont", name := "p1" }]
  tariffs := [{ id := 1, maxUpMbps := 5, maxDownMbps := 20 }]

/-- The actions of a request up to its result. -/
def compute (i : Nat) (rows : Rows) : List Action :=
  [.receive none, .generate i rows ⟨.ascending, .ascending, .ascending⟩ ascendingOrders true]

/-- The locked detection of a request. -/
def detectAscending (i : Nat) : Action := .detect i ⟨.ascending, .ascending⟩

/-- The actions of a request after its detection. -/
def complete (i : Nat) : List Action :=
  [.build i ⟨.ascending, .ascending⟩ "", .count i ⟨.ascending, .ascending⟩, .publish i]

/-- The capacity of the ONT in the latest snapshot and in the detection of its request. -/
def ontCapacities (s : Server) : Option (Option ℚ × Option ℚ) :=
  s.latestSnapshot.map (fun p ↦ ((p.snapshot.deviceMetrics.lookup "ont").map
    DeviceMetrics.capacityMbps, p.detection.devices.capacityMbps.lookup "ont"))

/-- A request over an empty topology runs through between the steps of another, except between its
detection and its snapshot. -/
def nestedTicks : List Action :=
  compute 0 subscriberRows ++ compute 1 {} ++ [detectAscending 1] ++ complete 1 ++
    [detectAscending 0] ++ complete 0

/-- Two requests whose ticks overlap, the second one started after the first was built. -/
theorem snapshots_coherent_nested_ticks :
    ∃ s p, (ticks.restrict Exclusive).Reachable s ∧ s.latestSnapshot = some p ∧
      ontCapacities s = some (some 1000, some 1000) ∧ Coherent p.snapshot p.detection := by
  have hrun : (System.run (System.guard Exclusive Server.act) {} nestedTicks).bind ontCapacities =
      some (some 1000, some 1000) := by
    decide +kernel
  obtain ⟨s, hs, hcap⟩ := Option.bind_eq_some_iff.mp hrun
  obtain ⟨p, hp, _⟩ := Option.map_eq_some_iff.mp hcap
  have hreach : (ticks.restrict Exclusive).Reachable s :=
    .run _ (fun _ _ _ ↦ System.restrict_of_guard) nestedTicks (.init rfl) hs
  exact ⟨s, p, hreach, hp, hcap, snapshots_coherent_of_exclusive hreach hp⟩

/-- A request over an empty topology detects between the detection and the snapshot of another. -/
def overlappingTicks : List Action :=
  compute 0 subscriberRows ++ compute 1 {} ++ [detectAscending 0, detectAscending 1] ++ complete 0

/-- The snapshot lists the ONT with the capacity zero, which no detection of it computed. -/
theorem snapshot_incoherent_overlapping_ticks :
    ∃ s p, ticks.Reachable s ∧ s.latestSnapshot = some p ∧
      ontCapacities s = some (some 0, some 1000) ∧ ¬ Coherent p.snapshot p.detection := by
  have hrun : (System.run Server.act {} overlappingTicks).bind ontCapacities =
      some (some 0, some 1000) := by
    decide +kernel
  obtain ⟨s, hs, hcap⟩ := Option.bind_eq_some_iff.mp hrun
  obtain ⟨p, hp, hpcap⟩ := Option.map_eq_some_iff.mp hcap
  refine ⟨s, p, .run Server.act (fun _ _ _ ha ↦ ha) overlappingTicks (.init rfl) hs, hp, hcap, ?_⟩
  intro hcoherent
  rw [Prod.mk.injEq] at hpcap
  obtain ⟨m, hm, hzero⟩ := Option.map_eq_some_iff.mp hpcap.1
  have hown := (hcoherent.devices "ont" m hm).2.2
  rw [hzero, hpcap.2] at hown
  norm_num at hown

/-! ### Published ticks -/

/-- A request that leaves its tick to the counter. -/
def AutoIncrement : Action → Prop
  | .receive req => (bindRequest req).tick ≤ 0
  | _ => True

/-- The tick of a request that has not failed. -/
def Phase.tick? : Phase → Option Int64
  | .started tick _ => some tick
  | .generated tick _ _ => some tick
  | .detected tick _ _ => some tick
  | .built snapshot _ _ => some snapshot.tick
  | .counted snapshot _ _ => some snapshot.tick
  | .responded _ => none
  | .failed => none

/-- A request that has stored its snapshot. -/
def Phase.published : Phase → Bool
  | .responded _ => true
  | _ => false

/-- The counter does not overflow, and no request publishes after one that drew its tick later. -/
def InOrder (s : Server) : Action → Prop
  | .receive _ => s.tickCounter.toInt + 1 < 2 ^ 63
  | .publish i => ∀ phase ∈ s.requests.drop (i + 1), phase.published = false
  | _ => True

/-- Whether a request leaves the tick to the server is read off the request. -/
instance : DecidablePred AutoIncrement
  | .receive req => inferInstanceAs (Decidable ((bindRequest req).tick ≤ 0))
  | .fail _ | .generate .. | .detect .. | .build .. | .count .. | .publish _ | .read =>
    inferInstanceAs (Decidable True)

/-- Whether the order is kept is checked on the requests behind. -/
instance (s : Server) : DecidablePred (InOrder s)
  | .receive _ => inferInstanceAs (Decidable (s.tickCounter.toInt + 1 < 2 ^ 63))
  | .publish i =>
    inferInstanceAs (Decidable (∀ phase ∈ s.requests.drop (i + 1), phase.published = false))
  | .fail _ | .generate .. | .detect .. | .build .. | .count .. | .read =>
    inferInstanceAs (Decidable True)

/-- Requests are numbered by their ticks, the latest snapshot is that of a request that published,
and no read saw a later tick. -/
structure Numbered (s : Server) : Prop where
  counter : s.tickCounter.toInt = s.requests.length
  tick : ∀ (i : Nat) (phase : Phase) (tick : Int64), s.requests[i]? = some phase →
    phase.tick? = some tick → tick.toInt = i + 1
  latest : ∀ p, s.latestSnapshot = some p → ∃ (i : Nat) (phase : Phase),
    s.requests[i]? = some phase ∧ phase.published = true ∧ p.snapshot.tick.toInt = i + 1
  seen : ∀ tick ∈ s.observed, ∃ p, s.latestSnapshot = some p ∧ tick ≤ p.snapshot.tick
  sorted : s.observed.Pairwise (· ≤ ·)

private theorem getElem?_advance {s : Server} {i j : Nat} {phase phase' : Phase}
    (h : (s.advance i phase).requests[j]? = some phase') :
    (j = i ∧ phase' = phase) ∨ (j ≠ i ∧ s.requests[j]? = some phase') := by
  unfold Server.advance at h
  rw [List.getElem?_set] at h
  split at h
  · next hij =>
    split at h
    · cases h
      exact Or.inl ⟨hij.symm, rfl⟩
    · cases h
  · next hij => exact Or.inr ⟨Ne.symm hij, h⟩

private theorem getElem?_advance_of_ne {s : Server} {i j : Nat} {phase : Phase} (h : j ≠ i) :
    (s.advance i phase).requests[j]? = s.requests[j]? :=
  List.getElem?_set_ne (Ne.symm h)

/-- A request that has not published moves on with its tick. -/
theorem Numbered.advance {s : Server} (h : Numbered s) {i : Nat} {phase phase' : Phase}
    (hi : s.requests[i]? = some phase) (hpublished : phase.published = false)
    (htick : ∀ tick, phase'.tick? = some tick → phase.tick? = some tick) :
    Numbered (s.advance i phase') where
  counter := by
    show s.tickCounter.toInt = (s.requests.set i phase').length
    rw [List.length_set]
    exact h.counter
  tick := by
    intro j phase'' tick hj htick'
    rcases getElem?_advance hj with ⟨rfl, rfl⟩ | ⟨_, hold⟩
    · exact h.tick j phase tick hi (htick tick htick')
    · exact h.tick j phase'' tick hold htick'
  latest := by
    intro p hp
    obtain ⟨j, phase'', hj, hpub, htick'⟩ := h.latest p hp
    refine ⟨j, phase'', ?_, hpub, htick'⟩
    have hne : j ≠ i := by
      rintro rfl
      rw [hi] at hj
      cases hj
      rw [hpublished] at hpub
      cases hpub
    rw [getElem?_advance_of_ne hne]
    exact hj
  seen := h.seen
  sorted := h.sorted

private theorem toInt_add_one {c : Int64} (h : c.toInt + 1 < 2 ^ 63) :
    (c + 1).toInt = c.toInt + 1 := by
  have hlow := c.le_toInt
  have hone : (1 : Int64).toInt = 1 := by decide
  rw [Int64.toInt_add, hone]
  apply Int.bmod_eq_of_le <;> omega

private theorem Numbered.receive {s : Server} (h : Numbered s) {req : Option TickRequest}
    (hauto : (bindRequest req).tick ≤ 0) (hcounter : s.tickCounter.toInt + 1 < 2 ^ 63)
    (randomSeed : Int) :
    Numbered { s with
      tickCounter := s.nextTick (bindRequest req)
      requests := s.requests ++ [.started (s.nextTick (bindRequest req)) randomSeed] } := by
  have hnext : s.nextTick (bindRequest req) = s.tickCounter + 1 := by
    unfold Server.nextTick
    exact if_neg (Int64.not_lt.mpr hauto)
  rw [hnext]
  have hcount := h.counter
  have hlast := toInt_add_one hcounter
  constructor
  · show (s.tickCounter + 1).toInt = _
    rw [List.length_append, hlast, hcount]
    rfl
  · intro i phase tick hi htick
    rcases Nat.lt_or_ge i s.requests.length with hlt | hge
    · rw [List.getElem?_append_left hlt] at hi
      exact h.tick i phase tick hi htick
    · rw [List.getElem?_append_right hge, List.getElem?_singleton] at hi
      split at hi
      · cases hi
        cases htick
        rw [hlast, hcount]
        omega
      · cases hi
  · intro p hp
    obtain ⟨i, phase, hi, hpub, htick⟩ := h.latest p hp
    refine ⟨i, phase, ?_, hpub, htick⟩
    have hlt := (List.getElem?_eq_some_iff.mp hi).1
    rw [List.getElem?_append_left hlt]
    exact hi
  · exact h.seen
  · exact h.sorted

private theorem Numbered.publish {s : Server} (h : Numbered s) {i : Nat}
    {snapshot : SnapshotResponse}
    {response : TickResponse} {detection : CongestionState}
    (hi : s.requests[i]? = some (.counted snapshot response detection))
    (horder : ∀ phase ∈ s.requests.drop (i + 1), phase.published = false) :
    Numbered { s.advance i (.responded response) with
      latestSnapshot := some ⟨snapshot, detection⟩ } := by
  have hmoved : Numbered (s.advance i (.responded response)) :=
    h.advance hi rfl (fun tick htick ↦ by cases htick)
  have htick : snapshot.tick.toInt = i + 1 := h.tick i _ _ hi rfl
  constructor
  · exact hmoved.counter
  · exact hmoved.tick
  · intro p hp
    cases hp
    refine ⟨i, .responded response, ?_, rfl, htick⟩
    exact List.getElem?_set_self (List.getElem?_eq_some_iff.mp hi).1
  · intro tick hseen
    obtain ⟨p, hp, hle⟩ := h.seen tick hseen
    refine ⟨⟨snapshot, detection⟩, rfl, Int64.le_trans hle ?_⟩
    obtain ⟨j, phase, hj, hpub, hjtick⟩ := h.latest p hp
    -- the request of the old snapshot drew its tick before this one
    have hji : j ≤ i := by
      by_contra hlt
      have hmem : phase ∈ s.requests.drop (i + 1) := by
        apply List.mem_of_getElem? (i := j - (i + 1))
        rw [List.getElem?_drop]
        have hj' : i + 1 + (j - (i + 1)) = j := by omega
        rw [hj']
        exact hj
      rw [horder phase hmem] at hpub
      cases hpub
    rw [Int64.le_iff_toInt_le, hjtick, htick]
    omega
  · exact hmoved.sorted

private theorem Numbered.step {s s' : Server} {a : Action} (h : Numbered s)
    (hauto : AutoIncrement a)
    (hok : InOrder s a) (hstep : Step s a s') : Numbered s' := by
  cases hstep with
  | receive req randomSeed => exact h.receive hauto hok randomSeed
  | fail hi => exact h.advance hi rfl (fun tick htick ↦ by cases htick)
  | generate _ _ hi => exact h.advance hi rfl (fun _ htick ↦ htick)
  | @detect i o tick cache result detection hi =>
    have hmoved : Numbered (s.advance i (.detected tick result detection)) :=
      h.advance hi rfl (fun _ htick ↦ htick)
    exact ⟨hmoved.counter, hmoved.tick, hmoved.latest, hmoved.seen, hmoved.sorted⟩
  | build hi => exact h.advance hi rfl (fun _ htick ↦ htick)
  | count hi _ => exact h.advance hi rfl (fun _ htick ↦ htick)
  | publish hi => exact h.publish hi hok
  | read hlatest =>
    refine ⟨h.counter, h.tick, h.latest, ?_, ?_⟩
    · intro tick hmem
      rcases List.mem_append.mp hmem with hold | hnew
      · exact h.seen tick hold
      · rw [List.mem_singleton.mp hnew]
        exact ⟨_, hlatest, Int64.le_refl _⟩
    · rw [List.pairwise_append]
      refine ⟨h.sorted, List.pairwise_singleton _ _, ?_⟩
      intro tick hold tick' hnew
      obtain ⟨p, hp, hle⟩ := h.seen tick hold
      rw [hlatest] at hp
      cases hp
      rwa [List.mem_singleton.mp hnew]
  | readNothing _ => exact h

/-- In every run of auto-incrementing requests that publish in the order in which they drew their
ticks, the ticks of successive snapshot reads do not decrease. -/
theorem observed_ticks_sorted {s : Server}
    (h : (ticks.restrict (fun s a ↦ AutoIncrement a ∧ InOrder s a)).Reachable s) :
    s.observed.Pairwise (· ≤ ·) := by
  have hinv : Numbered s := by
    apply h.invariant
    · intro s hs
      rw [show s = {} from hs]
      refine ⟨rfl, ?_, ?_, ?_, List.Pairwise.nil⟩
      · intro i phase tick hi
        cases hi
      · intro p hp
        cases hp
      · intro tick hmem
        cases hmem
    · intro s a s' hs hstep
      exact hs.step hstep.1.1 hstep.1.2 (step_of_act hstep.2)
  exact hinv.sorted

/-- Two requests that overlap and publish in order, with a read after each. -/
def orderedTicks : List Action :=
  compute 0 {} ++ compute 1 {} ++ [detectAscending 1, detectAscending 0] ++ complete 0 ++ [.read] ++
    complete 1 ++ [.read]

/-- Two requests one after another are observed as ticks 1 and 2. -/
theorem observed_ticks_sorted_ordered_ticks :
    ∃ s, (ticks.restrict (fun s a ↦ AutoIncrement a ∧ InOrder s a)).Reachable s ∧
      s.observed = [1, 2] ∧ s.observed.Pairwise (· ≤ ·) := by
  have hrun : (System.run (System.guard (fun s a ↦ AutoIncrement a ∧ InOrder s a) Server.act) {}
      orderedTicks).map Server.observed = some [1, 2] := by
    decide +kernel
  obtain ⟨s, hs, hobserved⟩ := Option.map_eq_some_iff.mp hrun
  have hreach : (ticks.restrict (fun s a ↦ AutoIncrement a ∧ InOrder s a)).Reachable s :=
    .run _ (fun _ _ _ ↦ System.restrict_of_guard) orderedTicks (.init rfl) hs
  exact ⟨s, hreach, hobserved, observed_ticks_sorted hreach⟩

/-- The second request overtakes the first. -/
def overtakingTicks : List Action :=
  compute 0 {} ++ compute 1 {} ++ [detectAscending 1, detectAscending 0] ++ complete 1 ++ [.read] ++
    complete 0 ++ [.read]

/-- Of two requests the second is published first. -/
theorem observed_ticks_unsorted_overtaking_ticks :
    ∃ s, (ticks.restrict (fun _ a ↦ AutoIncrement a)).Reachable s ∧ s.observed = [2, 1] ∧
      ¬ s.observed.Pairwise (· ≤ ·) := by
  have hrun : (System.run (System.guard (fun _ a ↦ AutoIncrement a) Server.act) {}
      overtakingTicks).map Server.observed = some [2, 1] := by
    decide +kernel
  obtain ⟨s, hs, hobserved⟩ := Option.map_eq_some_iff.mp hrun
  refine ⟨s, .run _ (fun _ _ _ ↦ System.restrict_of_guard) overtakingTicks (.init rfl) hs,
    hobserved, ?_⟩
  rw [hobserved]
  decide

end Unoc.Api
