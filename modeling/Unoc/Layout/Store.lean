import Unoc.Base.Dict
import Unoc.Base.System

/-!
# Saving the layout

The layout store of the frontend (`stores/layoutStore.ts`) and the rows behind `/layout/positions`
(`backend/services/layout_state.py`). Moved nodes are collected and sent together, throttled by a
timer; a request that fails gives its ids back. A load is called, served and answered, with any other
steps in between. Coordinates are copied only, so their type is a parameter, and the copy of the rows
in memory is left out but for its version.
-/

namespace Unoc.Layout

open Unoc.Base

/-- `LayoutPosition`; `layoutStore.ts:4–10`, `layout_state.py:20–26`. -/
structure LayoutPosition (C : Type) where
  id : String
  x : C
  y : C
  userPinned : Option Bool := none
  systemPinned : Option Bool := none
  deriving DecidableEq, Repr

/-- The rows of table `layoutpositionrecord`, by their ids. -/
abbrev Rows (C : Type) := Dict String (LayoutPosition C)

section Backend

variable {C : Type}

/-- The body of the loop of `db_patch`; `layout_state.py:92–110`. -/
def upsert (rows : Rows C) (p : LayoutPosition C) : Rows C :=
  match rows.lookup p.id with
  | none => rows.insert p.id p
  | some rec =>
    rows.insert p.id
      { rec with
        x := p.x
        y := p.y
        userPinned := p.userPinned.or rec.userPinned
        systemPinned := p.systemPinned.or rec.systemPinned }

/-- The rows, and the version of the store in memory. -/
structure Backend (C : Type) where
  rows : Rows C := ∅
  version : Nat := 0

/-- `patch_layout_positions`; `layout.py:10–31`, `layout_state.py:88–113`. -/
def Backend.patch (b : Backend C) (positions : List (LayoutPosition C)) : Backend C :=
  if positions = [] then b else { rows := positions.foldl upsert b.rows, version := b.version + 1 }

end Backend

/-- State of the layout store; `layoutStore.ts:12–19`. -/
structure LayoutStore (C : Type) where
  byId : Rows C := ∅
  dirty : List String := []
  loading : Bool := false
  timer : Bool := false
  error : Option String := none

namespace LayoutStore

variable {C : Type} (st : LayoutStore C)

/-- `this.dirty.add(id)` on a set, which keeps the order of insertion. -/
def addDirty (dirty : List String) (id : String) : List String :=
  if id ∈ dirty then dirty else dirty ++ [id]

/-- `this.dirty.add(id)` and `_schedule`; `layoutStore.ts:58–59, 68–76`. -/
def touch (id : String) (p : LayoutPosition C) : LayoutStore C :=
  { st with byId := st.byId.insert id p, dirty := addDirty st.dirty id, timer := true }

/-- `markMoved`; `layoutStore.ts:50–60`. -/
def markMoved (id : String) (x y : C) (userPinned : Option Bool) : LayoutStore C :=
  match st.byId.lookup id with
  | none => st.touch id { id := id, x := x, y := y, userPinned := userPinned }
  | some cur => st.touch id { cur with x := x, y := y, userPinned := userPinned.or cur.userPinned }

/-- `setPinned`; `layoutStore.ts:61–67`. -/
def setPinned (id : String) (pinned : Bool) : LayoutStore C :=
  match st.byId.lookup id with
  | none => st
  | some cur => st.touch id { cur with userPinned := some pinned }

/-- An element of the payload; `layoutStore.ts:84–85`. -/
def payloadItem (p : LayoutPosition C) : LayoutPosition C := { p with systemPinned := none }

/-- The payload; reading an id without a position throws; `layoutStore.ts:82–87`. -/
def payload : Option (List (LayoutPosition C)) :=
  st.dirty.mapM (fun id ↦ (st.byId.lookup id).map payloadItem)

/-- The ids of a request that failed; `layoutStore.ts:97–101`. -/
def restore (ids : List String) (message : String) : LayoutStore C :=
  { st with dirty := ids.foldl addDirty st.dirty, error := some message }

/-- `hydrate` up to the request; `layoutStore.ts:34–38`. -/
def hydrate : LayoutStore C := { st with loading := true, error := none }

/-- `hydrate` with the rows of the answer; `layoutStore.ts:40–43, 46–48`. -/
def hydrated (rows : Rows C) : LayoutStore C :=
  { st with
    byId := rows.entries.foldl (fun m e ↦ m.insert e.2.id e.2) st.byId
    loading := false }

/-- `hydrate` without an answer; `layoutStore.ts:44–48`. -/
def hydrateFailed (message : String) : LayoutStore C :=
  { st with error := some message, loading := false }

end LayoutStore

/-! ### Requests under way -/

/-- What has become of a request: it is on its way, the backend has stored it, or it was lost. -/
inductive Phase where
  | sent
  | stored
  | lost
  deriving DecidableEq, Repr

/-- A request that has not been answered. -/
structure Flight (C : Type) where
  ids : List String
  positions : List (LayoutPosition C)
  phase : Phase := .sent

/-- The browser, the backend and the requests between them, in the order of sending. A load that has
not been answered has rows once the backend has read them. -/
structure Net (C : Type) where
  client : LayoutStore C := {}
  backend : Backend C := {}
  flights : List (Flight C) := []
  loads : List (Option (Rows C)) := []

/-- The actions of the user, the timer, the network and the backend. -/
inductive Action (C : Type) where
  | markMoved (id : String) (x y : C) (userPinned : Option Bool)
  | setPinned (id : String) (pinned : Bool)
  | timer
  | flushNow
  | serve (i : Nat)
  | lose (i : Nat)
  | succeed (i : Nat)
  | fail (i : Nat) (message : String)
  | hydrate
  | serveLoad (i : Nat)
  | hydrated (i : Nat)
  | hydrateFailed (i : Nat) (message : String)

namespace Net

variable {C : Type} (s : Net C)

/-- `flushNow` up to the request; `layoutStore.ts:77–93`. -/
def flushNow : Net C :=
  if s.client.dirty = [] then s
  else
    match s.client.payload with
    | none => { s with client := { s.client with dirty := [] } }
    | some positions =>
      { s with
        client := { s.client with dirty := [] }
        flights := s.flights ++ [{ ids := s.client.dirty, positions := positions }] }

/-- The action on the request at a position, in a phase that allows it. -/
def atFlight (i : Nat) (phase : Phase → Bool) (f : Flight C → Net C) : Option (Net C) :=
  match s.flights[i]? with
  | none => none
  | some flight => if phase flight.phase then some (f flight) else none

/-- One action. -/
def act : Action C → Option (Net C)
  | .markMoved id x y userPinned => some { s with client := s.client.markMoved id x y userPinned }
  | .setPinned id pinned => some { s with client := s.client.setPinned id pinned }
  | .timer =>
    if s.client.timer then some { s with client := { s.client with timer := false } }.flushNow else none
  | .flushNow => some s.flushNow
  | .serve i =>
    s.atFlight i (· = .sent) (fun f ↦
      { s with
        backend := s.backend.patch f.positions
        flights := s.flights.set i { f with phase := .stored } })
  | .lose i =>
    s.atFlight i (· = .sent) (fun f ↦ { s with flights := s.flights.set i { f with phase := .lost } })
  | .succeed i => s.atFlight i (· = .stored) (fun _ ↦ { s with flights := s.flights.eraseIdx i })
  | .fail i message =>
    s.atFlight i (· ≠ .sent) (fun f ↦
      { s with client := s.client.restore f.ids message, flights := s.flights.eraseIdx i })
  | .hydrate => some { s with client := s.client.hydrate, loads := s.loads ++ [none] }
  | .serveLoad i =>
    match s.loads[i]? with
    | some none => some { s with loads := s.loads.set i (some s.backend.rows) }
    | _ => none
  | .hydrated i =>
    match s.loads[i]? with
    | some (some rows) =>
      some { s with client := s.client.hydrated rows, loads := s.loads.eraseIdx i }
    | _ => none
  | .hydrateFailed i message =>
    match s.loads[i]? with
    | some _ =>
      some { s with client := s.client.hydrateFailed message, loads := s.loads.eraseIdx i }
    | none => none

end Net

end Unoc.Layout
