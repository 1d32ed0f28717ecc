import Unoc.Pathfinding.Store

/-!
# The upstream cache

`_UPSTREAM_CACHE` of `backend/services/dependency_resolver_core.py` with the calls of
`has_upstream_l3_or_anchor` that use it, for devices that are not routers. A call looks its device up
under the version of its start, computes without a lock, and stores into whatever map the cache has
then. Every value carries the number of commits that the database had seen when it was read.
-/

namespace Unoc.Pathfinding.Upstream

open Unoc.Base Unoc.Model Unoc.Status

/-! ### Evaluation on a graph -/

/-- `networkx.shortest_path`, where there is one. -/
abbrev ShortestPath := LogicalGraph → String → String → Option (List String)

/-- The `reasons` of a call for a device that is no router. -/
inductive Reason where
  | deviceNotInGraph
  | noRouterPath
  | routersNoL3
  | exception
  deriving DecidableEq, Repr

/-- `UpstreamL3Result`; `dependency_resolver_core.py:36–46`. -/
structure UpstreamL3Result where
  ok : Bool
  anchor : Option String
  chain : List String
  reasons : List Reason
  deriving DecidableEq, Repr

/-- A call that finds no upstream. -/
def failed (deviceId : String) (reason : Reason) : UpstreamL3Result :=
  ⟨false, none, [deviceId], [reason]⟩

/-- `router_nodes_sorted`; `dependency_resolver_core.py:269–281`. -/
def reachableRouters (g : LogicalGraph) (deviceId : String) : List String :=
  if deviceId ∈ g.nodes.map DeviceRecord.id then
    sortedSet ((recordIds routerClass g.nodes).filter (hasPath g.edges deviceId))
  else []

/-- The chain over one router; `dependency_resolver_core.py:289–303`. -/
def candidate (shortestPath : ShortestPath) (g : LogicalGraph) (deviceId : String)
    (router : String × DependencyCheckResult) : Option (List String) :=
  if router.2.ok then (shortestPath g deviceId router.1).map (fun p ↦ p ++ router.2.chain.tail)
  else none

/-- Shorter chains first; `dependency_resolver_core.py:307`. -/
def candidateKey (chain : List String) : Nat ×ₗ List String := toLex (chain.length, chain)

/-- The result on a graph, with the L3 chains of the routers; `dependency_resolver_core.py:266–309`. -/
def evaluateOn (shortestPath : ShortestPath) (g : LogicalGraph) (deviceId : String)
    (chains : List (String × DependencyCheckResult)) : UpstreamL3Result :=
  if deviceId ∉ g.nodes.map DeviceRecord.id then failed deviceId .deviceNotInGraph
  else if reachableRouters g deviceId = [] then failed deviceId .noRouterPath
  else
    match (chains.filterMap (candidate shortestPath g deviceId)).insertionSort
        (fun a b ↦ candidateKey a ≤ candidateKey b) with
    | [] => failed deviceId .routersNoL3
    | best :: _ => ⟨true, some (best.getLast?.getD ""), best, []⟩

/-! ### Calls -/

/-- The device of a call and `topo_v`; `dependency_resolver_core.py:227`. -/
structure Call where
  deviceId : String
  version : Int
  deriving DecidableEq, Repr

/-- A computation on a graph: the routers to come, the chains so far and the commits that the oldest
of its rows had seen. -/
structure Resolution where
  graph : LogicalGraph
  todo : List String
  chains : List (String × DependencyCheckResult) := []
  since : Nat

/-- The start of a computation; `dependency_resolver_core.py:263–281`. -/
def Resolution.start (deviceId : String) (graph : LogicalGraph) (since : Nat) : Resolution where
  graph := graph
  todo := reachableRouters graph deviceId
  since := since

/-- The next router is settled, with a chain or without. -/
def Resolution.next (p : Resolution) (chain : Option (String × DependencyCheckResult))
    (since : Nat) : Resolution :=
  { p with todo := p.todo.tail, chains := p.chains ++ chain.toList, since := min p.since since }

/-- Where a session stands in a call. -/
inductive Phase where
  | idle
  /-- Before the lookup. -/
  | versioned (c : Call)
  /-- At the head of the snapshot loop. -/
  | missed (c : Call)
  | started (c : Call) (topoV : Int)
  | locked (c : Call) (topoV : Int)
  | collecting (c : Call) (topoV collectV : Int)
  | collected (c : Call) (topoV collectV : Int) (rows : Collected) (since : Nat)
  | built (c : Call) (topoV : Int) (rows : Collected) (graphV : Int) (graph : LogicalGraph)
    (since : Nat)
  | resolving (c : Call) (p : Resolution)
  /-- The row of the next router, with the version of the store when it was read. -/
  | routerRow (c : Call) (p : Resolution) (row : DeviceView) (since : Nat) (rowV : Int)
  | tracing (c : Call) (p : Resolution) (row : DeviceView) (since : Nat)
  /-- Before the store. -/
  | finished (c : Call) (result : UpstreamL3Result) (since : Option Nat)

/-- Whether `_LOGICAL_GRAPH_CACHE_LOCK` is held. -/
def Phase.holdsLock : Phase → Bool
  | .locked _ _ | .collecting _ _ _ | .collected _ _ _ _ _ | .built _ _ _ _ _ _ => true
  | _ => false

/-- The call whose computation an exception ends. -/
def Phase.computing? : Phase → Option Call
  | .missed c | .started c _ | .locked c _ | .collecting c _ _ | .collected c _ _ _ _
  | .built c _ _ _ _ _ | .resolving c _ | .routerRow c _ _ _ _ | .tracing c _ _ _ => some c
  | .idle | .versioned _ | .finished _ _ _ => none

/-- A session with its `_dep_cache` and its `_router_l3_cache`; `dependency_resolver_core.py:64–78,
169–195`. -/
structure Session where
  phase : Phase := .idle
  depCache : Option (Int × Collected × Nat) := none
  routerCache : Option (Int × Dict String (DependencyCheckResult × Nat)) := none
  useCache : Bool := true

/-- The chains that the session has noted under a version. -/
def Session.routerMap (r : Session) (version : Int) : Dict String (DependencyCheckResult × Nat) :=
  match r.routerCache with
  | some (v, map) => if v = version then map else ∅
  | none => ∅

/-- A cached result; no commits where the computation ended with an exception. -/
structure Entry where
  result : UpstreamL3Result
  since : Option Nat

/-- The database, the caches and the sessions. -/
structure State where
  db : Database
  commits : Nat := 0
  /-- The commits that each bump has seen. -/
  commitsAt : Int → Nat := fun _ ↦ 0
  store : PathfindingStore := {}
  /-- The commits that the rows of the store's logical graph had seen. -/
  graphSince : Nat := 0
  /-- `_LOGICAL_GRAPH_CACHE`, with its version. -/
  logicalCache : Option (Int × Snapshot × Nat) := none
  /-- `_UPSTREAM_CACHE["version"]`. -/
  version : Int := -1
  /-- `_UPSTREAM_CACHE["map"]`. -/
  map : Dict String Entry := ∅
  sessions : List Session := []

/-- One atomic step. -/
inductive Action where
  | commit (db : Database)
  | bump
  | openSession (useCache : Bool)
  | call (i : Nat) (deviceId : String)
  | lookup (i : Nat)
  | start (i : Nat)
  | acquire (i : Nat)
  | collect (i : Nat)
  | readRows (i : Nat)
  | build (i : Nat)
  | publish (i : Nat)
  | getRouter (i : Nat)
  | routerChain (i : Nat)
  | trace (i : Nat)
  | finish (i : Nat)
  | fail (i : Nat)
  | store (i : Nat)

/-- A session moves on. -/
def State.setSession (s : State) (i : Nat) (r : Session) : State :=
  { s with sessions := s.sessions.set i r }

/-- One step of the session `r`, the `i`-th one, where it is enabled. -/
def State.stepSession (shortestPath : ShortestPath) (s : State) (i : Nat) (r : Session) :
    Action → Option State
  | .call _ deviceId =>
    match r.phase with
    | .idle => some (s.setSession i { r with phase := .versioned ⟨deviceId, s.store.topoVersion⟩ })
    | _ => none
  | .lookup _ =>
    match r.phase with
    | .versioned c =>
      -- a map of another version, older or newer, is replaced
      let map := if s.version = c.version then s.map else ∅
      let phase := if (map.lookup c.deviceId).isSome then .idle else .missed c
      some { s.setSession i { r with phase := phase } with version := c.version, map := map }
    | _ => none
  | .start _ =>
    match r.phase with
    | .missed c => some (s.setSession i { r with phase := .started c s.store.topoVersion })
    | _ => none
  | .acquire _ =>
    match r.phase with
    | .started c topoV =>
      if s.sessions.any (fun r ↦ r.phase.holdsLock) then none
      else
        match s.logicalCache.filter (fun e ↦ e.1 = topoV) with
        | some e => some (s.setSession i
            { r with phase := .resolving c (.start c.deviceId e.2.1.logicalGraph e.2.2) })
        | none => some (s.setSession i { r with phase := .locked c topoV })
    | _ => none
  | .collect _ =>
    match r.phase with
    | .locked c topoV =>
      match r.depCache.filter (fun e ↦ r.useCache && e.1 = s.store.topoVersion) with
      | some e => some (s.setSession i
          { r with phase := .collected c topoV s.store.topoVersion e.2.1 e.2.2 })
      | none => some (s.setSession i { r with phase := .collecting c topoV s.store.topoVersion })
    | _ => none
  | .readRows _ =>
    match r.phase with
    | .collecting c topoV collectV =>
      let rows := collectDevicesLinks s.db
      some (s.setSession i { r with
        phase := .collected c topoV collectV rows s.commits
        depCache := if r.useCache then some (collectV, rows, s.commits) else r.depCache })
    | _ => none
  | .build _ =>
    match r.phase with
    | .collected c topoV _ rows since =>
      let got := s.store.getLogicalGraph rows.toRecords false
      let kept := s.store.logicalGraph.isSome && s.store.relaxedFlagForLogical = some false
      let graphSince := if kept then s.graphSince else since
      some { s.setSession i { r with
          phase := .built c topoV rows s.store.topoVersion got.2 graphSince } with
        store := got.1
        graphSince := graphSince }
    | _ => none
  | .publish _ =>
    match r.phase with
    | .built c topoV rows graphV graph since =>
      if graphV = topoV ∧ topoV = s.store.topoVersion then
        some { s.setSession i { r with phase := .resolving c (.start c.deviceId graph since) } with
          logicalCache := some (topoV, ⟨rows, graph⟩, since) }
      else some { s.setSession i { r with phase := .missed c } with logicalCache := none }
    | _ => none
  | .getRouter _ =>
    match r.phase with
    | .resolving c p =>
      match p.todo with
      | [] => none
      | id :: _ =>
        match s.db.getDevice id with
        | none => some (s.setSession i { r with phase := .resolving c (p.next none s.commits) })
        | some row => some (s.setSession i { r with
            phase := .routerRow c p (deviceView row) s.commits s.store.topoVersion })
    | _ => none
  | .routerChain _ =>
    match r.phase with
    | .routerRow c p row since _ =>
      let map := r.routerMap s.store.topoVersion
      let cache := some (s.store.topoVersion, map)
      match map.lookup row.id with
      | some (chain, n) => some (s.setSession i { r with
          phase := .resolving c (p.next (some (row.id, chain)) (min since n))
          routerCache := cache })
      | none => some (s.setSession i { r with
          phase := .tracing c p row since
          routerCache := cache })
    | _ => none
  | .trace _ =>
    match r.phase with
    | .tracing c p row since =>
      let chain := traceL3PathToAnchor (topology s.db) row
      some (s.setSession i { r with
        phase := .resolving c (p.next (some (row.id, chain)) since)
        routerCache := r.routerCache.map (fun e ↦ (e.1, e.2.insert row.id (chain, since))) })
    | _ => none
  | .finish _ =>
    match r.phase with
    | .resolving c p =>
      match p.todo with
      | [] => some (s.setSession i { r with
          phase := .finished c (evaluateOn shortestPath p.graph c.deviceId p.chains)
            (some p.since) })
      | _ :: _ => none
    | _ => none
  | .fail _ =>
    r.phase.computing?.map (fun c ↦
      s.setSession i { r with phase := .finished c (failed c.deviceId .exception) none })
  | .store _ =>
    match r.phase with
    | .finished c result since =>
      some { s.setSession i { r with phase := .idle } with
        map := s.map.insert c.deviceId ⟨result, since⟩ }
    | _ => none
  | .commit _ | .bump | .openSession _ => none

/-- The session that a step belongs to. -/
def Action.session? : Action → Option Nat
  | .commit _ | .bump | .openSession _ => none
  | .call i _ | .lookup i | .start i | .acquire i | .collect i | .readRows i | .build i | .publish i
  | .getRouter i | .routerChain i | .trace i | .finish i | .fail i | .store i => some i

/-- One step, where it is enabled. -/
def State.act (shortestPath : ShortestPath) (s : State) (a : Action) : Option State :=
  match a with
  | .commit db => some { s with db := db, commits := s.commits + 1 }
  | .bump => some { s with
      store := s.store.bumpVersion
      commitsAt := Function.update s.commitsAt (s.store.topoVersion + 1) s.commits }
  | .openSession useCache => some { s with sessions := s.sessions ++ [{ useCache := useCache }] }
  | a =>
    match a.session? with
    | none => none
    | some i =>
      match s.sessions[i]? with
      | none => none
      | some r => s.stepSession shortestPath i r a

/-- All interleavings of calls, commits and bumps, from empty caches. -/
def upstreamCache (shortestPath : ShortestPath) : System State Action :=
  System.ofAct (fun s ↦ s = { db := s.db }) (State.act shortestPath)

end Unoc.Pathfinding.Upstream
