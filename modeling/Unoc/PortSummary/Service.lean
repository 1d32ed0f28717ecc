import Unoc.Base.System
import Unoc.PortSummary.Tables

/-!
# Concurrent requests to the port summary service

`GetPortSummary`, `GetBulkPortSummary` and `HealthCheck` of
`engine-go/cmd/port-summary-service/service.go`, as steps on the tables and on the `sync.RWMutex`
that guards them. A summary request reloads all tables under the write lock, releases it, and builds
its rows under a read lock; `computeOccupancy` takes a second read lock for every interface. One `Lock`
at a time has its turn: it waits for the readers to unlock and then holds the lock, and an `RLock` that
is called meanwhile is blocked. Its `Unlock` lets all blocked readers in, before the next `Lock` has
its turn.
-/

namespace Unoc.PortSummary

open Unoc.Base Unoc.Model Unoc.Traffic

/-! ### Requests -/

/-- The request. -/
inductive Kind where
  | portSummary (deviceId : String)
  | bulkPortSummary (deviceIds : List String)
  | healthCheck
  deriving DecidableEq, Repr

/-- What a request returns. -/
inductive Response where
  | error
  /-- The rows with the device that they belong to. -/
  | summaries (rows : List (String × Tables.InterfaceSummary))
  | health (cachedDevices cachedInterfaces cachedLinks : Nat)
  deriving DecidableEq, Repr

/-- The next step of `LoadInitialState`. -/
inductive LoadStage where
  | reset
  | devices
  | interfaces
  | links
  | derive
  deriving DecidableEq, Repr

/-- An interface that is still to be summarised, with its device. -/
abbrev Work := List (String × Interface)

/-- Where a request stands. -/
inductive Phase where
  /-- Before the `Lock` of `LoadInitialState`. -/
  | called
  /-- Blocked in `Lock` behind the `Lock` of another request. -/
  | queued
  /-- Blocked in `Lock` until the readers have unlocked. -/
  | locking
  | loading (stage : LoadStage)
  /-- `LoadInitialState` returns, with an error or not, and unlocks. -/
  | loadReturns (ok : Bool)
  /-- Before `RLock`. -/
  | ready
  /-- Blocked in `RLock`. -/
  | waiting
  | reading (todo : Work) (rows : List (String × Tables.InterfaceSummary))
  /-- Blocked in the `RLock` of `computeOccupancy`. -/
  | waitingInner (todo : Work) (rows : List (String × Tables.InterfaceSummary))
  /-- In `computeOccupancy`, for the first interface. -/
  | computing (todo : Work) (rows : List (String × Tables.InterfaceSummary))
  | returned (response : Response)

namespace Phase

/-- Whether the lock is held for writing. -/
def holdsWrite : Phase → Bool
  | .loading _ | .loadReturns _ => true
  | _ => false

/-- Whether the lock is held for reading. -/
def holdsRead : Phase → Bool
  | .reading _ _ | .waitingInner _ _ | .computing _ _ => true
  | _ => false

/-- Whether a `Lock` has its turn. -/
def pending : Phase → Bool
  | .locking | .loading _ | .loadReturns _ => true
  | _ => false

/-- Whether the request waits for the lock. -/
def blocked : Phase → Bool
  | .queued | .locking | .waiting | .waitingInner _ _ => true
  | _ => false

end Phase

/-- A request with its phase. -/
structure Request where
  kind : Kind
  phase : Phase

/-- The first phase: a health check loads nothing. -/
def Kind.start : Kind → Phase
  | .healthCheck => .ready
  | _ => .called

/-- The interfaces of a device, as `buildPortSummaryLocked` visits them. -/
def deviceWork (tables : Tables) (deviceId : String) : Work :=
  match tables.devices.lookup deviceId with
  | none => []
  | some _ => (tables.interfacesOf deviceId).map (fun i ↦ (deviceId, i))

/-- The interfaces that a request visits; `service.go:409–413, 495–499`. -/
def Kind.work (tables : Tables) : Kind → Work
  | .portSummary deviceId => if deviceId = "" then [] else deviceWork tables deviceId
  | .bulkPortSummary deviceIds => deviceIds.flatMap (deviceWork tables)
  | .healthCheck => []

/-- What a request returns after its loops; `service.go:211–220, 409–413, 501–504`. -/
def Kind.respond (tables : Tables) (rows : List (String × Tables.InterfaceSummary)) :
    Kind → Response
  | .portSummary deviceId => if deviceId = "" then .error else .summaries rows
  | .bulkPortSummary _ => .summaries rows
  | .healthCheck =>
    .health tables.devices.keys.length tables.interfaces.keys.length tables.links.keys.length

/-- A request when another one unlocks: a blocked `RLock` succeeds. -/
def Request.released (tables : Tables) (r : Request) : Request :=
  match r.phase with
  | .waiting => ⟨r.kind, .reading (r.kind.work tables) []⟩
  | .waitingInner todo rows => ⟨r.kind, .computing todo rows⟩
  | _ => r

/-! ### Steps -/

/-- The service and its requests. -/
structure Service where
  tables : Tables := {}
  requests : List Request := []

namespace Service

variable (s : Service)

/-- Nobody holds the lock. -/
def freeForWriting : Bool := s.requests.all (fun r ↦ !r.phase.holdsWrite && !r.phase.holdsRead)

/-- No `Lock` has its turn, so that an `RLock` succeeds. -/
def freeForReading : Bool := s.requests.all (fun r ↦ !r.phase.pending)

/-- A request moves on. -/
def move (i : Nat) (kind : Kind) (phase : Phase) : Service :=
  { s with requests := s.requests.set i ⟨kind, phase⟩ }

/-- A `Lock` has its turn. -/
def takeTurn (i : Nat) (kind : Kind) : Service :=
  s.move i kind (if s.freeForWriting then .loading .reset else .locking)

/-- `Unlock`, which lets the blocked readers in. -/
def release (i : Nat) (kind : Kind) (phase : Phase) : Service :=
  { s with requests := (s.requests.map (Request.released s.tables)).set i ⟨kind, phase⟩ }

/-- The outer `RLock` succeeds. -/
def enter (i : Nat) (kind : Kind) : Service := s.move i kind (.reading (kind.work s.tables) [])

end Service

/-- One atomic step of a request. -/
inductive Action where
  | call (kind : Kind)
  | lock (i : Nat)
  /-- A `Lock` behind others has its turn. -/
  | wakeQueued (i : Nat)
  /-- The readers have unlocked. -/
  | wakeWriter (i : Nat)
  | reset (i : Nat)
  /-- A query with the rows that were scanned, all of them or those before an error. -/
  | loadDevices (i : Nat) (rows : List Device) (ok : Bool)
  | loadInterfaces (i : Nat) (rows : List Interface) (ok : Bool)
  | loadLinks (i : Nat) (rows : List Link) (ok : Bool)
  | derive (i : Nat) (orders : Orders)
  | unlock (i : Nat)
  | rlock (i : Nat)
  | rlockInner (i : Nat)
  /-- `computeOccupancy` returns and unlocks. -/
  | compute (i : Nat)
  /-- The request returns and unlocks. -/
  | finish (i : Nat)

/-- One step, where it is enabled. -/
def Service.act (s : Service) : Action → Option Service
  | .call kind => some { s with requests := s.requests ++ [⟨kind, kind.start⟩] }
  | .lock i =>
    match s.requests[i]? with
    | some ⟨kind, .called⟩ =>
      some (if s.freeForReading then s.takeTurn i kind else s.move i kind .queued)
    | _ => none
  | .wakeQueued i =>
    match s.requests[i]? with
    | some ⟨kind, .queued⟩ => if s.freeForReading then some (s.takeTurn i kind) else none
    | _ => none
  | .wakeWriter i =>
    match s.requests[i]? with
    | some ⟨kind, .locking⟩ =>
      if s.freeForWriting then some (s.move i kind (.loading .reset)) else none
    | _ => none
  | .reset i =>
    match s.requests[i]? with
    | some ⟨kind, .loading .reset⟩ =>
      some { s.move i kind (.loading .devices) with tables := {} }
    | _ => none
  | .loadDevices i rows ok =>
    match s.requests[i]? with
    | some ⟨kind, .loading .devices⟩ =>
      some { s.move i kind (if ok then .loading .interfaces else .loadReturns false) with
        tables := s.tables.loadDevices rows }
    | _ => none
  | .loadInterfaces i rows ok =>
    match s.requests[i]? with
    | some ⟨kind, .loading .interfaces⟩ =>
      some { s.move i kind (if ok then .loading .links else .loadReturns false) with
        tables := s.tables.loadInterfaces rows }
    | _ => none
  | .loadLinks i rows ok =>
    match s.requests[i]? with
    | some ⟨kind, .loading .links⟩ =>
      some { s.move i kind (if ok then .loading .derive else .loadReturns false) with
        tables := s.tables.loadLinks rows }
    | _ => none
  | .derive i orders =>
    match s.requests[i]? with
    | some ⟨kind, .loading .derive⟩ =>
      some { s.move i kind (.loadReturns true) with tables := s.tables.derive orders }
    | _ => none
  | .unlock i =>
    match s.requests[i]? with
    | some ⟨kind, .loadReturns ok⟩ =>
      some (s.release i kind (if ok then .ready else .returned .error))
    | _ => none
  | .rlock i =>
    match s.requests[i]? with
    | some ⟨kind, .ready⟩ =>
      some (if s.freeForReading then s.enter i kind else s.move i kind .waiting)
    | _ => none
  | .rlockInner i =>
    match s.requests[i]? with
    | some ⟨kind, .reading (work :: todo) rows⟩ =>
      some (s.move i kind (if s.freeForReading then .computing (work :: todo) rows
        else .waitingInner (work :: todo) rows))
    | _ => none
  | .compute i =>
    match s.requests[i]? with
    | some ⟨kind, .computing (work :: todo) rows⟩ =>
      some (s.move i kind (.reading todo (rows ++ [(work.1, s.tables.summary work.2)])))
    | _ => none
  | .finish i =>
    match s.requests[i]? with
    | some ⟨kind, .reading [] rows⟩ =>
      some (s.move i kind (.returned (kind.respond s.tables rows)))
    | _ => none

/-- All interleavings of requests, from a service without requests. -/
def service : System Service Action := System.ofAct (fun s ↦ s.requests = []) Service.act

/-! ### What a step does -/

/-- The steps of `act`, one for each branch. -/
inductive Service.Step (s : Service) : Action → Service → Prop where
  | call (kind : Kind) :
    Step s (.call kind) { s with requests := s.requests ++ [⟨kind, kind.start⟩] }
  | lockTurn {i : Nat} {kind : Kind} (hi : s.requests[i]? = some ⟨kind, .called⟩)
    (hfree : s.freeForReading) : Step s (.lock i) (s.takeTurn i kind)
  | lockQueued {i : Nat} {kind : Kind} (hi : s.requests[i]? = some ⟨kind, .called⟩)
    (hbusy : s.freeForReading = false) : Step s (.lock i) (s.move i kind .queued)
  | wakeQueued {i : Nat} {kind : Kind} (hi : s.requests[i]? = some ⟨kind, .queued⟩)
    (hfree : s.freeForReading) : Step s (.wakeQueued i) (s.takeTurn i kind)
  | wakeWriter {i : Nat} {kind : Kind} (hi : s.requests[i]? = some ⟨kind, .locking⟩)
    (hfree : s.freeForWriting) : Step s (.wakeWriter i) (s.move i kind (.loading .reset))
  | reset {i : Nat} {kind : Kind} (hi : s.requests[i]? = some ⟨kind, .loading .reset⟩) :
    Step s (.reset i) { s.move i kind (.loading .devices) with tables := {} }
  | loadDevices {i : Nat} {kind : Kind} (rows : List Device) (ok : Bool)
    (hi : s.requests[i]? = some ⟨kind, .loading .devices⟩) :
    Step s (.loadDevices i rows ok)
      { s.move i kind (if ok then .loading .interfaces else .loadReturns false) with
        tables := s.tables.loadDevices rows }
  | loadInterfaces {i : Nat} {kind : Kind} (rows : List Interface) (ok : Bool)
    (hi : s.requests[i]? = some ⟨kind, .loading .interfaces⟩) :
    Step s (.loadInterfaces i rows ok)
      { s.move i kind (if ok then .loading .links else .loadReturns false) with
        tables := s.tables.loadInterfaces rows }
  | loadLinks {i : Nat} {kind : Kind} (rows : List Link) (ok : Bool)
    (hi : s.requests[i]? = some ⟨kind, .loading .links⟩) :
    Step s (.loadLinks i rows ok)
      { s.move i kind (if ok then .loading .derive else .loadReturns false) with
        tables := s.tables.loadLinks rows }
  | derive {i : Nat} {kind : Kind} (orders : Orders)
    (hi : s.requests[i]? = some ⟨kind, .loading .derive⟩) :
    Step s (.derive i orders)
      { s.move i kind (.loadReturns true) with tables := s.tables.derive orders }
  | unlock {i : Nat} {kind : Kind} {ok : Bool} (hi : s.requests[i]? = some ⟨kind, .loadReturns ok⟩) :
    Step s (.unlock i) (s.release i kind (if ok then .ready else .returned .error))
  | rlockFree {i : Nat} {kind : Kind} (hi : s.requests[i]? = some ⟨kind, .ready⟩)
    (hfree : s.freeForReading) : Step s (.rlock i) (s.enter i kind)
  | rlockBlocked {i : Nat} {kind : Kind} (hi : s.requests[i]? = some ⟨kind, .ready⟩)
    (hbusy : s.freeForReading = false) : Step s (.rlock i) (s.move i kind .waiting)
  | innerFree {i : Nat} {kind : Kind} {work : String × Interface} {todo : Work}
    {rows : List (String × Tables.InterfaceSummary)}
    (hi : s.requests[i]? = some ⟨kind, .reading (work :: todo) rows⟩) (hfree : s.freeForReading) :
    Step s (.rlockInner i) (s.move i kind (.computing (work :: todo) rows))
  | innerBlocked {i : Nat} {kind : Kind} {work : String × Interface} {todo : Work}
    {rows : List (String × Tables.InterfaceSummary)}
    (hi : s.requests[i]? = some ⟨kind, .reading (work :: todo) rows⟩)
    (hbusy : s.freeForReading = false) :
    Step s (.rlockInner i) (s.move i kind (.waitingInner (work :: todo) rows))
  | compute {i : Nat} {kind : Kind} {work : String × Interface} {todo : Work}
    {rows : List (String × Tables.InterfaceSummary)}
    (hi : s.requests[i]? = some ⟨kind, .computing (work :: todo) rows⟩) :
    Step s (.compute i)
      (s.move i kind (.reading todo (rows ++ [(work.1, s.tables.summary work.2)])))
  | finish {i : Nat} {kind : Kind} {rows : List (String × Tables.InterfaceSummary)}
    (hi : s.requests[i]? = some ⟨kind, .reading [] rows⟩) :
    Step s (.finish i) (s.move i kind (.returned (kind.respond s.tables rows)))

/-- An action that is taken is a step. -/
theorem Service.step_of_act {s s' : Service} {a : Action} (h : s.act a = some s') : s.Step a s' := by
  cases a with
  | call kind => cases h; exact .call kind
  | lock i =>
    simp only [act] at h
    split at h
    · next kind hi =>
      cases h
      split
      · next hfree => exact .lockTurn hi hfree
      · next hbusy => exact .lockQueued hi (by simpa using hbusy)
    · cases h
  | wakeQueued i =>
    simp only [act] at h
    split at h
    · next kind hi =>
      split at h
      · next hfree => cases h; exact .wakeQueued hi hfree
      · cases h
    · cases h
  | wakeWriter i =>
    simp only [act] at h
    split at h
    · next kind hi =>
      split at h
      · next hfree => cases h; exact .wakeWriter hi hfree
      · cases h
    · cases h
  | reset i =>
    simp only [act] at h
    split at h
    · next kind hi => cases h; exact .reset hi
    · cases h
  | loadDevices i rows ok =>
    simp only [act] at h
    split at h
    · next kind hi => cases h; exact .loadDevices rows ok hi
    · cases h
  | loadInterfaces i rows ok =>
    simp only [act] at h
    split at h
    · next kind hi => cases h; exact .loadInterfaces rows ok hi
    · cases h
  | loadLinks i rows ok =>
    simp only [act] at h
    split at h
    · next kind hi => cases h; exact .loadLinks rows ok hi
    · cases h
  | derive i orders =>
    simp only [act] at h
    split at h
    · next kind hi => cases h; exact .derive orders hi
    · cases h
  | unlock i =>
    simp only [act] at h
    split at h
    · next kind ok hi => cases h; exact .unlock hi
    · cases h
  | rlock i =>
    simp only [act] at h
    split at h
    · next kind hi =>
      cases h
      split
      · next hfree => exact .rlockFree hi hfree
      · next hbusy => exact .rlockBlocked hi (by simpa using hbusy)
    · cases h
  | rlockInner i =>
    simp only [act] at h
    split at h
    · next kind work todo rows hi =>
      cases h
      split
      · next hfree => exact .innerFree hi hfree
      · next hbusy => exact .innerBlocked hi (by simpa using hbusy)
    · cases h
  | compute i =>
    simp only [act] at h
    split at h
    · next kind work todo rows hi => cases h; exact .compute hi
    · cases h
  | finish i =>
    simp only [act] at h
    split at h
    · next kind rows hi => cases h; exact .finish hi
    · cases h

/-! ### Mutual exclusion -/

/-- The requests after a move: the one that moved, or another one as before. -/
theorem Service.mem_move {s : Service} {i j : Nat} {kind : Kind} {phase : Phase} {r : Request}
    (h : (s.move i kind phase).requests[j]? = some r) :
    (j = i ∧ r = ⟨kind, phase⟩) ∨ (j ≠ i ∧ s.requests[j]? = some r) := by
  rw [move, List.getElem?_set] at h
  split at h
  · next hij =>
    split at h
    · cases h
      exact Or.inl ⟨hij.symm, rfl⟩
    · cases h
  · next hij => exact Or.inr ⟨fun h ↦ hij h.symm, h⟩

/-- A new request comes last. -/
theorem Service.mem_call {s : Service} {j : Nat} {new r : Request}
    (h : (s.requests ++ [new])[j]? = some r) : s.requests[j]? = some r ∨ r = new := by
  rw [List.getElem?_append] at h
  split at h
  · exact Or.inl h
  · have hmem := List.mem_of_getElem? h
    exact Or.inr (List.mem_singleton.mp hmem)

/-- The requests after an unlock: the one that unlocked, or another one, let in if it was blocked. -/
theorem Service.mem_release {s : Service} {i j : Nat} {kind : Kind} {phase : Phase} {r : Request}
    (h : (s.release i kind phase).requests[j]? = some r) :
    (j = i ∧ r = ⟨kind, phase⟩) ∨
      ∃ r₀, j ≠ i ∧ s.requests[j]? = some r₀ ∧ r = r₀.released s.tables := by
  rw [release, List.getElem?_set] at h
  split at h
  · next hij =>
    split at h
    · cases h
      exact Or.inl ⟨hij.symm, rfl⟩
    · cases h
  · next hij =>
    rw [List.getElem?_map] at h
    obtain ⟨r₀, hr₀, rfl⟩ := Option.map_eq_some_iff.mp h
    exact Or.inr ⟨r₀, fun h ↦ hij h.symm, hr₀, rfl⟩

/-- A `Lock` that holds the lock has its turn. -/
theorem Phase.pending_of_holdsWrite {phase : Phase} (h : phase.holdsWrite) : phase.pending := by
  cases phase <;> first | rfl | cases h

/-- No blocked request has the turn of a `Lock` when it is let in, or loses it. -/
theorem Request.pending_released (tables : Tables) (r : Request) :
    (r.released tables).phase.pending = r.phase.pending := by
  obtain ⟨kind, phase⟩ := r
  cases phase <;> rfl

/-- At most one `Lock` has its turn, and nobody reads while it holds the lock. -/
def Service.Exclusive (s : Service) : Prop :=
  ∀ (i j : Nat) (r r' : Request), s.requests[i]? = some r → s.requests[j]? = some r' → i ≠ j →
    (r.phase.pending → r'.phase.pending = false) ∧ (r.phase.holdsWrite → r'.phase.holdsRead = false)

/-- A writer is alone. -/
theorem Service.Exclusive.alone {s : Service} (h : s.Exclusive) {i j : Nat} {r r' : Request}
    (hi : s.requests[i]? = some r) (hj : s.requests[j]? = some r') (hij : i ≠ j)
    (hwrite : r.phase.holdsWrite) : r'.phase.holdsWrite = false ∧ r'.phase.holdsRead = false := by
  constructor
  · by_contra hnot
    have hwrite' : r'.phase.holdsWrite = true := by simpa using hnot
    have hpending := Phase.pending_of_holdsWrite hwrite'
    simp [(h i j r r' hi hj hij).1 (Phase.pending_of_holdsWrite hwrite)] at hpending
  · exact (h i j r r' hi hj hij).2 hwrite

/-- With the lock free for writing, no request holds it. -/
theorem Service.holds_of_freeForWriting {s : Service} (h : s.freeForWriting) {i : Nat} {r : Request}
    (hi : s.requests[i]? = some r) : r.phase.holdsWrite = false ∧ r.phase.holdsRead = false := by
  have hr := List.all_eq_true.mp h r (List.mem_of_getElem? hi)
  simpa using hr

/-- With the lock free for reading, no `Lock` has its turn. -/
theorem Service.pending_of_freeForReading {s : Service} (h : s.freeForReading) {i : Nat}
    {r : Request} (hi : s.requests[i]? = some r) : r.phase.pending = false := by
  have hr := List.all_eq_true.mp h r (List.mem_of_getElem? hi)
  simpa using hr

/-- A turn or a lock is only taken where it is free. -/
theorem Service.Exclusive.move {s : Service} (h : s.Exclusive) {i : Nat} {kind : Kind}
    {phase phase' : Phase} (hi : s.requests[i]? = some ⟨kind, phase⟩)
    (hpending : phase'.pending → phase.pending ∨ s.freeForReading)
    (hwrite : phase'.holdsWrite → phase.holdsWrite ∨ s.freeForWriting)
    (hread : phase'.holdsRead → phase.holdsRead ∨ s.freeForReading) :
    (s.move i kind phase').Exclusive := by
  intro j k r r' hj hk hjk
  rcases mem_move hj with ⟨rfl, rfl⟩ | ⟨hji, hj'⟩
  · rcases mem_move hk with ⟨rfl, rfl⟩ | ⟨hki, hk'⟩
    · exact absurd rfl hjk
    · constructor
      · intro hr
        rcases hpending hr with hold | hfree
        · exact (h j k _ r' hi hk' hjk).1 hold
        · exact pending_of_freeForReading hfree hk'
      · intro hr
        rcases hwrite hr with hold | hfree
        · exact (h j k _ r' hi hk' hjk).2 hold
        · exact (holds_of_freeForWriting hfree hk').2
  · rcases mem_move hk with ⟨rfl, rfl⟩ | ⟨hki, hk'⟩
    · -- another request has its turn or holds the lock, so `i` neither had nor got it
      have hbefore := h j k r _ hj' hi hji
      constructor
      · intro hr
        by_contra hnot
        rcases hpending (by simpa using hnot) with hold | hfree
        · simp [hbefore.1 hr] at hold
        · simp [pending_of_freeForReading hfree hj'] at hr
      · intro hr
        by_contra hnot
        rcases hread (by simpa using hnot) with hold | hfree
        · simp [hbefore.2 hr] at hold
        · have hpending := Phase.pending_of_holdsWrite hr
          rw [pending_of_freeForReading hfree hj'] at hpending
          cases hpending
    · exact h j k r r' hj' hk' hjk

/-- After an unlock, no `Lock` has its turn. -/
theorem Service.Exclusive.pending_release {s : Service} (h : s.Exclusive) {i : Nat} {kind : Kind}
    {phase phase' : Phase} (hi : s.requests[i]? = some ⟨kind, phase⟩) (hphase : phase.pending)
    (hphase' : phase'.pending = false) {r : Request} (hr : r ∈ (s.release i kind phase').requests) :
    r.phase.pending = false := by
  obtain ⟨j, hj⟩ := List.getElem?_of_mem hr
  rcases mem_release hj with ⟨rfl, rfl⟩ | ⟨r₀, hji, hj₀, rfl⟩
  · exact hphase'
  · rw [Request.pending_released]
    exact (h i j _ r₀ hi hj₀ hji.symm).1 hphase

/-- Every step keeps writers apart from all other holders of the lock. -/
theorem Service.Exclusive.step {s s' : Service} {a : Action} (h : s.Exclusive) (hstep : s.Step a s') :
    s'.Exclusive := by
  have hturn : ∀ {i : Nat} {kind : Kind} {phase : Phase}, s.requests[i]? = some ⟨kind, phase⟩ →
      s.freeForReading → (s.takeTurn i kind).Exclusive := by
    intro i kind phase hi hfree
    unfold takeTurn
    split
    · next hwriting =>
      exact h.move hi (fun _ ↦ Or.inr hfree) (fun _ ↦ Or.inr hwriting) (fun hr ↦ by cases hr)
    · exact h.move hi (fun _ ↦ Or.inr hfree) (fun hw ↦ by cases hw) (fun hr ↦ by cases hr)
  cases hstep with
  | call kind =>
    have hstart : kind.start.pending = false ∧ kind.start.holdsRead = false := by
      cases kind <;> exact ⟨rfl, rfl⟩
    intro j k r r' hj hk hjk
    rcases mem_call hj with hj | rfl
    · rcases mem_call hk with hk | rfl
      · exact h j k r r' hj hk hjk
      · exact ⟨fun _ ↦ hstart.1, fun _ ↦ hstart.2⟩
    · constructor
      · intro hr
        rw [hstart.1] at hr
        cases hr
      · intro hr
        have hpending := Phase.pending_of_holdsWrite hr
        rw [hstart.1] at hpending
        cases hpending
  | lockTurn hi hfree => exact hturn hi hfree
  | lockQueued hi _ =>
    exact h.move hi (fun hp ↦ by cases hp) (fun hw ↦ by cases hw) (fun hr ↦ by cases hr)
  | wakeQueued hi hfree => exact hturn hi hfree
  | wakeWriter hi hfree =>
    exact h.move hi (fun _ ↦ Or.inl rfl) (fun _ ↦ Or.inr hfree) (fun hr ↦ by cases hr)
  | reset hi => exact h.move hi (fun _ ↦ Or.inl rfl) (fun _ ↦ Or.inl rfl) (fun hr ↦ by cases hr)
  | loadDevices rows ok hi =>
    exact h.move hi (fun _ ↦ Or.inl rfl) (fun _ ↦ Or.inl rfl) (fun hr ↦ by cases ok <;> cases hr)
  | loadInterfaces rows ok hi =>
    exact h.move hi (fun _ ↦ Or.inl rfl) (fun _ ↦ Or.inl rfl) (fun hr ↦ by cases ok <;> cases hr)
  | loadLinks rows ok hi =>
    exact h.move hi (fun _ ↦ Or.inl rfl) (fun _ ↦ Or.inl rfl) (fun hr ↦ by cases ok <;> cases hr)
  | derive orders hi =>
    exact h.move hi (fun _ ↦ Or.inl rfl) (fun _ ↦ Or.inl rfl) (fun hr ↦ by cases hr)
  | @unlock i kind ok hi =>
    have hnone : ∀ {j : Nat} {r : Request},
        (s.release i kind (if ok then .ready else .returned .error)).requests[j]? = some r →
          r.phase.pending = false :=
      fun hj ↦ h.pending_release hi rfl (by cases ok <;> rfl) (List.mem_of_getElem? hj)
    intro j k r r' hj hk _
    constructor
    · exact fun _ ↦ hnone hk
    · intro hr
      have hpending := Phase.pending_of_holdsWrite hr
      rw [hnone hj] at hpending
      cases hpending
  | rlockFree hi hfree =>
    exact h.move hi (fun hp ↦ by cases hp) (fun hw ↦ by cases hw) (fun _ ↦ Or.inr hfree)
  | rlockBlocked hi _ =>
    exact h.move hi (fun hp ↦ by cases hp) (fun hw ↦ by cases hw) (fun hr ↦ by cases hr)
  | innerFree hi _ | innerBlocked hi _ | compute hi =>
    exact h.move hi (fun hp ↦ by cases hp) (fun hw ↦ by cases hw) (fun _ ↦ Or.inl rfl)
  | finish hi =>
    exact h.move hi (fun hp ↦ by cases hp) (fun hw ↦ by cases hw) (fun hr ↦ by cases hr)

/-- Writers are apart from all other holders of the lock in every run. -/
theorem Service.exclusive_of_reachable {s : Service} (h : service.Reachable s) : s.Exclusive := by
  refine h.invariant ?_ ?_
  · intro s₀ hinit
    have hinit : s₀.requests = [] := hinit
    simp [Exclusive, hinit]
  · exact fun _ _ _ hexclusive hact ↦ hexclusive.step (step_of_act hact)

end Unoc.PortSummary
