import Unoc.Base.System
import Unoc.Optical.PathResolver

/-!
# The pathfinding store

`PathfindingStore` of `backend/services/pathfinding.py`, the memo of `resolve_optical_path` and the
snapshot cache of `backend/services/dependency_resolver_core.py`, with the threads that use them.
Rows are read before the lock of the store is taken, and other threads may run in between.
-/

namespace Unoc.Pathfinding

open Unoc.Base Unoc.Model Unoc.Status Unoc.Optical

/-! ### Records -/

/-- What readers hand to the store. -/
structure Records where
  devices : List DeviceRecord
  links : List LinkRecord
  deriving DecidableEq, Repr

/-- `_build_records`; `optical_path_resolver.py:55–102`. -/
def opticalRecords (db : Database) : Records :=
  ⟨PathResolver.deviceRecords db, PathResolver.linkRecords db⟩

/-- The three values that `_collect_devices_links` returns. -/
structure Collected extends Records where
  ifToDev : Dict String String

/-- `_collect_devices_links` on the rows of the database; `dependency_resolver_core.py:80–143`. -/
def collectDevicesLinks (db : Database) : Collected where
  devices := deviceRecords (topology db)
  links := linkRecords (topology db)
  ifToDev := db.interfaces.foldl (fun m i ↦ m.insert i.id i.deviceId) ∅

/-- An interface id without its suffix `-if0`; `tools.py:38–50`. -/
def trimIf0 (interfaceId : String) : String :=
  if "-if0".toList <:+ interfaceId.toList then
    String.ofList (interfaceId.toList.take (interfaceId.toList.length - 4))
  else interfaceId

/-- The records of `_shortest_logical_path`, which filters nothing; `tools.py:33–53`. -/
def toolRecords (db : Database) : Records where
  devices := db.devices.map (fun d ↦ ⟨d.id, d.type⟩)
  links := db.links.map (fun l ↦ ⟨l.id, trimIf0 l.aInterfaceId, trimIf0 l.bInterfaceId, l.kind⟩)

/-! ### Graphs -/

/-- A logical graph by its nodes and undirected edges. -/
structure LogicalGraph where
  nodes : List DeviceRecord
  edges : List (String × String)
  deriving DecidableEq, Repr

/-- The edges to the lowest core router; `pathfinding.py:292–312`. -/
def relaxedEdges (nodes : List DeviceRecord) (edges : List (String × String)) :
    List (String × String) :=
  match sortedSet (recordIds (· = .coreRouter) nodes) with
  | [] => []
  | anchor :: _ =>
    ((recordIds (fun type ↦ type = .olt ∨ type = .aonSwitch) nodes).filter (fun n ↦
      (n, anchor) ∉ edges ∧ (anchor, n) ∉ edges)).map (fun n ↦ (n, anchor))

/-- `build_logical_graph`; `pathfinding.py:168–313`. -/
def buildLogicalGraph (records : Records) (relaxed : Bool) : LogicalGraph :=
  let nodes := records.devices.filter (fun d ↦ logicalActive d.type)
  let edges := logicalEdges records.devices records.links
  ⟨nodes, if relaxed then edges ++ relaxedEdges nodes edges else edges⟩

/-! ### The store -/

/-- `PathfindingStore`; `pathfinding.py:77–90`. -/
structure PathfindingStore where
  topoVersion : Int := 0
  opticalGraph : Option PathResolver.Graph := none
  logicalGraph : Option LogicalGraph := none
  relaxedFlagForLogical : Option Bool := none

namespace PathfindingStore

variable (store : PathfindingStore)

/-- `bump_version`, on the fields of the store; `pathfinding.py:92–98`. -/
def bumpVersion : PathfindingStore where
  topoVersion := store.topoVersion + 1

/-- `get_optical_graph`; `pathfinding.py:112–118`. -/
def getOpticalGraph (records : Records) : PathfindingStore × PathResolver.Graph :=
  match store.opticalGraph with
  | some g => (store, g)
  | none =>
    let g := PathResolver.buildOpticalGraph records.devices records.links
    ({ store with opticalGraph := some g }, g)

/-- `get_logical_graph`; the version it returns is that of the store; `pathfinding.py:120–130`. -/
def getLogicalGraph (records : Records) (relaxed : Bool) : PathfindingStore × LogicalGraph :=
  match store.logicalGraph with
  | some g => if store.relaxedFlagForLogical = some relaxed then (store, g) else rebuilt
  | none => rebuilt
where
  /-- The store with the graph of the records. -/
  rebuilt : PathfindingStore × LogicalGraph :=
    let g := buildLogicalGraph records relaxed
    ({ store with logicalGraph := some g, relaxedFlagForLogical := some relaxed }, g)

end PathfindingStore

/-! ### Resolution on a graph -/

/-- A row that the resolver looks up while it works on a graph. -/
inductive Lookup where
  | edgeLoss (u v : String)
  | insertion (u v : String)
  | length (path : List String) (u v : String)
  | segment (u v : String)
  deriving DecidableEq, Repr

/-- `resolve_optical_path` after its call of the store, where each lookup sees the database as it is
at that moment; `optical_path_resolver.py:199–269`. -/
def resolveOn (nx : PathResolver.SingleSourceDijkstra) (source : Lookup → Database)
    (g : PathResolver.Graph) (ontId : String) : Option PathResolver.OpticalPathResult :=
  if ontId ∉ g.nodes then none
  else
    let weightFn := fun u v ↦ (g.edges.lookup (u, v)).map (fun _ ↦
      PathResolver.edgeLossDb (source (.edgeLoss u v)) g u v +
        PathResolver.insertionLoss (source (.insertion u v)) g v)
    let lengthKm := fun path ↦ ((path.zip path.tail).map (fun hop ↦
      ((PathResolver.edgeLink (source (.length path hop.1 hop.2)) g hop.1 hop.2).bind
        Link.lengthKm).getD 0)).sum
    let (distances, paths) := nx weightFn g.neighbors g.nodes.keys ontId
    (PathFinder.bestCandidate
      (PathFinder.candidates (PathResolver.isOlt g) lengthKm distances paths)).map (fun best ↦ {
        oltId := best.oltId
        totalAttenuationDb := best.distance
        segments := (best.path.zip best.path.tail).map (fun hop ↦
          ⟨hop.1, hop.2, g.edges.lookup hop,
            PathResolver.edgeLossDb (source (.segment hop.1 hop.2)) g hop.1 hop.2⟩) })

/-! ### Threads -/

/-- A call of `resolve_optical_path` that missed its memo; `optical_path_resolver.py:190–269`. -/
inductive Resolver where
  | called (ontId : String)
  | read (ontId : String) (records : Records)
  | resolving (ontId : String) (g : PathResolver.Graph) (source : Lookup → Database)
  | returned

/-- The data of `_LOGICAL_GRAPH_CACHE`; `dependency_resolver_core.py:160`. -/
structure Snapshot where
  collected : Collected
  logicalGraph : LogicalGraph

/-- A pass through `_get_versioned_logical_graph_snapshot`; `dependency_resolver_core.py:146–166`. -/
inductive SnapshotPhase where
  | idle
  | started (topoV : Int)
  | locked (topoV : Int)
  | collecting (topoV collectV : Int)
  | collected (topoV collectV : Int) (rows : Collected)
  | built (topoV collectV : Int) (rows : Collected) (graphV : Int) (graph : LogicalGraph)

/-- Whether `_LOGICAL_GRAPH_CACHE_LOCK` is held. -/
def SnapshotPhase.holdsLock : SnapshotPhase → Bool
  | .idle | .started _ => false
  | _ => true

/-- A session that asks for snapshots, with its `_dep_cache`; `dependency_resolver_core.py:68–78`. -/
structure SessionReader where
  phase : SnapshotPhase := .idle
  depCache : Option (Int × Collected) := none
  useCache : Bool := true

/-- A call of `_shortest_logical_path`; `tools.py:25–62`. -/
inductive Tool where
  | read (records : Records)
  | returned

/-- The database, the caches of the process and its threads. -/
structure State where
  db : Database
  /-- Writers between their commit and their bump. -/
  pending : Nat := 0
  store : PathfindingStore := {}
  /-- The `lru_cache` of `resolve_optical_path`. -/
  memo : Dict String (Option PathResolver.OpticalPathResult) := ∅
  /-- `_LOGICAL_GRAPH_CACHE`, with its version. -/
  logicalCache : Option (Int × Snapshot) := none
  resolvers : List Resolver := []
  sessions : List SessionReader := []
  tools : List Tool := []

/-- One atomic step of a thread. -/
inductive Action where
  | commit (db : Database)
  | bump
  /-- A further bump after the one that belongs to a commit. -/
  | rebump
  | resolve (ontId : String)
  | readRecords (i : Nat)
  | getOptical (i : Nat)
  | answer (i : Nat) (q : Lookup)
  | memoise (i : Nat)
  | evict (ontId : String)
  | openSession (useCache : Bool)
  | start (i : Nat)
  | acquire (i : Nat)
  | collect (i : Nat)
  | readRows (i : Nat)
  | build (i : Nat)
  | publish (i : Nat)
  | toolRead
  | toolGet (i : Nat)

namespace State

variable (s : State)

/-- The store and the memo after a bump; `pathfinding.py:92–108`. -/
def bumped : State := { s with store := s.store.bumpVersion, memo := ∅ }

/-- Move a resolver on. -/
def setResolver (i : Nat) (r : Resolver) : State := { s with resolvers := s.resolvers.set i r }

/-- Move a session on. -/
def setSession (i : Nat) (r : SessionReader) : State := { s with sessions := s.sessions.set i r }

end State

/-- One step, where it is enabled. -/
def State.act (nx : PathResolver.SingleSourceDijkstra) (s : State) : Action → Option State
  | .commit db => some { s with db := db, pending := s.pending + 1 }
  | .bump => if s.pending = 0 then none else some { s.bumped with pending := s.pending - 1 }
  | .rebump => some s.bumped
  | .resolve ontId =>
    match s.memo.lookup ontId with
    | some _ => some s
    | none => some { s with resolvers := s.resolvers ++ [.called ontId] }
  | .readRecords i =>
    match s.resolvers[i]? with
    | some (.called ontId) => some (s.setResolver i (.read ontId (opticalRecords s.db)))
    | _ => none
  | .getOptical i =>
    match s.resolvers[i]? with
    | some (.read ontId records) =>
      let got := s.store.getOpticalGraph records
      some { s.setResolver i (.resolving ontId got.2 (fun _ ↦ s.db)) with store := got.1 }
    | _ => none
  | .answer i q =>
    match s.resolvers[i]? with
    | some (.resolving ontId g source) =>
      some (s.setResolver i (.resolving ontId g (fun q' ↦ if q' = q then s.db else source q')))
    | _ => none
  | .memoise i =>
    match s.resolvers[i]? with
    | some (.resolving ontId g source) =>
      -- `lru_cache` keeps the result that another thread has stored meanwhile
      let memo := match s.memo.lookup ontId with
        | some _ => s.memo
        | none => s.memo.insert ontId (resolveOn nx source g ontId)
      some { s.setResolver i .returned with memo := memo }
    | _ => none
  | .evict ontId => some { s with memo := s.memo.erase ontId }
  | .openSession useCache => some { s with sessions := s.sessions ++ [{ useCache := useCache }] }
  | .start i =>
    match s.sessions[i]? with
    | some ⟨.idle, depCache, useCache⟩ =>
      some (s.setSession i ⟨.started s.store.topoVersion, depCache, useCache⟩)
    | _ => none
  | .acquire i =>
    match s.sessions[i]? with
    | some ⟨.started topoV, depCache, useCache⟩ =>
      if s.sessions.any (fun r ↦ r.phase.holdsLock) then none
      else if s.logicalCache.any (fun c ↦ c.1 = topoV) then
        some (s.setSession i ⟨.idle, depCache, useCache⟩)
      else some (s.setSession i ⟨.locked topoV, depCache, useCache⟩)
    | _ => none
  | .collect i =>
    match s.sessions[i]? with
    | some ⟨.locked topoV, depCache, useCache⟩ =>
      match depCache.filter (fun c ↦ useCache && c.1 = s.store.topoVersion) with
      | some c =>
        some (s.setSession i ⟨.collected topoV s.store.topoVersion c.2, depCache, useCache⟩)
      | none => some (s.setSession i ⟨.collecting topoV s.store.topoVersion, depCache, useCache⟩)
    | _ => none
  | .readRows i =>
    match s.sessions[i]? with
    | some ⟨.collecting topoV collectV, depCache, useCache⟩ =>
      let rows := collectDevicesLinks s.db
      some (s.setSession i ⟨.collected topoV collectV rows,
        if useCache then some (collectV, rows) else depCache, useCache⟩)
    | _ => none
  | .build i =>
    match s.sessions[i]? with
    | some ⟨.collected topoV collectV rows, depCache, useCache⟩ =>
      let got := s.store.getLogicalGraph rows.toRecords false
      let phase := SnapshotPhase.built topoV collectV rows s.store.topoVersion got.2
      some { s.setSession i ⟨phase, depCache, useCache⟩ with store := got.1 }
    | _ => none
  | .publish i =>
    match s.sessions[i]? with
    | some ⟨.built topoV _ rows graphV graph, depCache, useCache⟩ =>
      -- otherwise the loop of the source starts over
      let cache :=
        if graphV = topoV ∧ topoV = s.store.topoVersion then some (topoV, Snapshot.mk rows graph)
        else none
      some { s.setSession i ⟨.idle, depCache, useCache⟩ with logicalCache := cache }
    | _ => none
  | .toolRead => some { s with tools := s.tools ++ [.read (toolRecords s.db)] }
  | .toolGet i =>
    match s.tools[i]? with
    | some (.read records) =>
      some { s with
        store := (s.store.getLogicalGraph records false).1
        tools := s.tools.set i .returned }
    | _ => none

/-- All interleavings of writers, resolvers, sessions and tools, from empty caches. -/
def caches (nx : PathResolver.SingleSourceDijkstra) : System State Action :=
  System.ofAct (fun s ↦ s = { db := s.db }) (State.act nx)

end Unoc.Pathfinding
