import Mathlib.Data.Finset.Sort
import Mathlib.Data.Rat.Defs
import Mathlib.Logic.Function.Basic
import Unoc.Base.Dict
import Unoc.Base.System
import Unoc.Realtime.Outbox

/-!
# The WebSocket endpoint as tasks of an event loop

`backend/api/endpoints/ws.py:146–297`: the handlers of the clients, the dispatcher that drains the
outbox, and the heartbeat. They share one event loop and give it up only where they await; threads
that publish do not run on it and come in between any two steps. A send fails or succeeds as the
client pleases, and every reading of the clock may give any value.
-/

namespace Unoc.Realtime

open Unoc.Base

variable {β : Type}

/-- A numbered message of the outbox. -/
abbrev Numbered (β : Type) := Nat × Message β

/-- Where the handler of a connection stands. -/
inductive HandlerPc where
  | new
  | receiving
  | ended
  deriving DecidableEq, Repr

/-- Where `_dispatcher_loop` stands, with `last_active`. At `idle`, `pause` and a `sending` that has
targets left it awaits; at `top`, `burst` and a `sending` without targets it runs. -/
inductive DispatcherPc (β : Type) where
  | created
  | top (lastActive : ℚ)
  | idle (lastActive : ℚ)
  | burst (lastActive : ℚ) (n : Nat)
  | sending (lastActive : ℚ) (n : Nat) (msg : Numbered β) (targets dead : List Nat)
  | pause (lastActive : ℚ)
  | done
  deriving DecidableEq, Repr

/-- Where `_heartbeat_loop` stands. -/
inductive HeartbeatPc where
  | created
  | sleep
  | ping (targets : List Nat)
  | done
  deriving DecidableEq, Repr

/-- Program points between two awaits. -/
def DispatcherPc.runs : DispatcherPc β → Bool
  | .top _ | .burst _ _ | .sending _ _ _ [] _ => true
  | _ => false

/-- Program points between two awaits. -/
def HeartbeatPc.runs : HeartbeatPc → Bool
  | .ping [] => true
  | _ => false

/-- An `asyncio.Task`: `cancel` ends it where it awaits, the next time it would go on. -/
structure Task (P : Type) where
  pc : P
  cancelled : Bool := false
  deriving DecidableEq, Repr

/-- The tasks of one kind: the global that names the current one, and all that were created. -/
structure Tasks (P : Type) where
  current : Option Nat := none
  task : Nat → Task P
  created : Nat := 0

namespace Tasks

variable {P : Type} [DecidableEq P]

/-- A step of a coroutine. -/
def goto (ts : Tasks P) (t : Nat) (pc : P) : Tasks P :=
  { ts with task := Function.update ts.task t { ts.task t with pc := pc } }

/-- The coroutine returns, after it has set its global to `None`. -/
def exit (ts : Tasks P) (t : Nat) (done : P) : Tasks P :=
  { ts.goto t done with current := none }

/-- Create a task unless the current one is not done; `ws.py:232–237`. -/
def ensure (ts : Tasks P) (start done : P) : Tasks P :=
  if ts.current.all (fun t ↦ (ts.task t).pc = done) then
    { current := some ts.created
      task := Function.update ts.task ts.created { pc := start }
      created := ts.created + 1 }
  else ts

/-- Cancel the current task and forget it; `ws.py:275–286`. -/
def cancel (ts : Tasks P) (done : P) : Tasks P :=
  match ts.current with
  | none => ts
  | some t =>
    if (ts.task t).pc = done then { ts with current := none }
    else
      { ts with
        current := none
        task := Function.update ts.task t { ts.task t with cancelled := true } }

end Tasks

/-- `WS_OUTBOX_MAXSIZE`, `WS_HEARTBEAT_TIMEOUT_SEC` and `WS_IDLE_SHUTDOWN_SEC`; `ws.py:31–34`. -/
structure WsConfig where
  outboxMaxsize : Int := 1024
  heartbeatTimeoutSec : ℚ := 45
  idleShutdownSec : ℚ := 2
  deriving DecidableEq, Repr

/-- What the dispatcher and the handlers share. The last two fields record history: what each
connection was sent, and how many messages had left the outbox when it was registered. -/
structure Fanout (β : Type) where
  outbox : History β
  connections : Finset Nat := ∅
  handler : Nat → HandlerPc := fun _ ↦ .new
  dispatchers : Tasks (DispatcherPc β) := { task := fun _ ↦ { pc := .done } }
  sent : Nat → List (Numbered β) := fun _ ↦ []
  joinedAt : Nat → Nat := fun _ ↦ 0

/-- The globals of the module and its tasks. -/
structure WsState (β : Type) extends Fanout β where
  lastPong : Dict Nat ℚ := ∅
  heartbeats : Tasks HeartbeatPc := { task := fun _ ↦ { pc := .done } }

/-- Steps of the endpoint. Those of a task carry a reading of the clock, the order in which a set of
connections is listed, and whether a send succeeds. -/
inductive WsAction (β : Type) where
  | publish (msg : Message β)
  | connect (c : Nat) (now : ℚ)
  | pong (c : Nat) (now : ℚ)
  | disconnect (c : Nat)
  | abort (c : Nat)
  | dispatch (t : Nat) (now : ℚ) (order : List Nat) (ok : Bool)
  | beat (t : Nat) (now : ℚ) (order : List Nat) (ok : Bool)

namespace Fanout

/-- Move a dispatcher. -/
def goto (f : Fanout β) (t : Nat) (pc : DispatcherPc β) : Fanout β :=
  { f with dispatchers := f.dispatchers.goto t pc }

/-- Messages that have left the outbox. -/
def delivered (f : Fanout β) : List (Numbered β) := f.outbox.delivered

variable [DecidableEq β]

/-- A connection is registered, and finds or creates a dispatcher; `ws.py:230–234`. -/
def connect (f : Fanout β) (c : Nat) : Fanout β :=
  { f with
    connections := insert c f.connections
    handler := Function.update f.handler c .receiving
    dispatchers := f.dispatchers.ensure .created .done
    joinedAt := Function.update f.joinedAt c f.delivered.length }

/-- A handler ends without the cleanup of tasks; `ws.py:270–273`. -/
def leave (f : Fanout β) (c : Nat) : Fanout β :=
  { f with
    connections := f.connections.erase c
    handler := Function.update f.handler c .ended }

/-- A handler ends, and cancels the dispatcher if its connection was the last one; `ws.py:267–286`. -/
def disconnect (f : Fanout β) (c : Nat) : Fanout β :=
  if f.connections.erase c = ∅ then
    { f.leave c with dispatchers := f.dispatchers.cancel .done }
  else f.leave c

/-- Take a message for the connections of this moment; `ws.py:166–171,291`. -/
def fetch (f : Fanout β) (t : Nat) (lastActive : ℚ) (n : Nat) (order : List Nat) : Option (Fanout β) :=
  match f.outbox.queue.get.1 with
  | none => some (f.goto t (.pause lastActive))
  | some msg =>
    if order.Nodup ∧ order.toFinset = f.connections then
      some { f.goto t (.sending lastActive n msg order []) with outbox := f.outbox.step .get }
    else none

/-- `send_json` to the next target returns or raises; `ws.py:291–295`. -/
def send (f : Fanout β) (t : Nat) (lastActive : ℚ) (n : Nat) (msg : Numbered β) (c : Nat)
    (targets dead : List Nat) (ok : Bool) : Fanout β :=
  if ok then
    { f.goto t (.sending lastActive n msg targets dead) with
      sent := Function.update f.sent c (f.sent c ++ [msg]) }
  else f.goto t (.sending lastActive n msg targets (dead ++ [c]))

/-- The coroutine from where it stands to its next await, or to the next access of the outbox;
`ws.py:146–178,289–297`. -/
def resume (cfg : WsConfig) (f : Fanout β) (t : Nat) (now : ℚ) (order : List Nat) (ok : Bool) :
    DispatcherPc β → Option (Fanout β)
  | .created => some (f.goto t (.top now))
  | .top lastActive =>
    some (f.goto t (if f.connections = ∅ then .idle lastActive else .burst lastActive 0))
  | .idle lastActive =>
    -- The connections are not looked at again before the shutdown.
    if f.outbox.queue.dq = [] ∧ cfg.idleShutdownSec ≤ now - lastActive then
      some { f with dispatchers := f.dispatchers.exit t .done }
    else some (f.goto t (.top lastActive))
  | .burst lastActive n =>
    if n < 256 then f.fetch t lastActive n order else some (f.goto t (.pause lastActive))
  | .sending _ n _ [] dead =>
    some { f.goto t (.burst now (n + 1)) with connections := f.connections \ dead.toFinset }
  | .sending lastActive n msg (c :: targets) dead =>
    some (f.send t lastActive n msg c targets dead ok)
  | .pause lastActive => some (f.goto t (.top lastActive))
  | .done => none

/-- One step of `_dispatcher_loop`. `CancelledError` is no `Exception`, so that nothing in the loop
catches it; `ws.py:146–178`. -/
def dispatch (cfg : WsConfig) (f : Fanout β) (t : Nat) (now : ℚ) (order : List Nat) (ok : Bool) :
    Option (Fanout β) :=
  if (f.dispatchers.task t).pc = .done then none
  else if (f.dispatchers.task t).cancelled then some (f.goto t .done)
  else f.resume cfg t now order ok (f.dispatchers.task t).pc

end Fanout

namespace WsState

/-- Forget a connection; `ws.py:199–200`. -/
def discard (s : WsState β) (c : Nat) : WsState β :=
  { s with connections := s.connections.erase c, lastPong := s.lastPong.erase c }

/-- The connections whose last pong is too old; `ws.py:202–207`. -/
def stale (cfg : WsConfig) (s : WsState β) (now : ℚ) : Finset Nat :=
  s.connections.filter (fun c ↦ cfg.heartbeatTimeoutSec < now - (s.lastPong.lookup c).getD 0)

/-- Forget the stale connections, and stop without connections; `ws.py:201–217`. -/
def prune (cfg : WsConfig) (s : WsState β) (t : Nat) (now : ℚ) : WsState β :=
  let stale := s.stale cfg now
  { s with
    connections := s.connections \ stale
    lastPong := (stale.sort (· ≤ ·)).foldl (fun lastPong c ↦ lastPong.erase c) s.lastPong
    heartbeats :=
      if s.connections \ stale = ∅ then s.heartbeats.exit t .done else s.heartbeats.goto t .sleep }

/-- One step of `_heartbeat_loop`; `ws.py:181–217`. -/
def beat (cfg : WsConfig) (s : WsState β) (t : Nat) (now : ℚ) (order : List Nat) (ok : Bool) :
    Option (WsState β) :=
  if (s.heartbeats.task t).pc = .done then none
  else if (s.heartbeats.task t).cancelled then
    some { s with heartbeats := s.heartbeats.goto t .done }
  else
    match (s.heartbeats.task t).pc with
    | .created =>
      some { s with
        heartbeats := if s.connections = ∅ then s.heartbeats.exit t .done
          else s.heartbeats.goto t .sleep }
    | .sleep =>
      if s.connections = ∅ then some { s with heartbeats := s.heartbeats.exit t .done }
      else if order.Nodup ∧ order.toFinset = s.connections then
        some { s with heartbeats := s.heartbeats.goto t (.ping order) }
      else none
    | .ping [] => some (s.prune cfg t now)
    | .ping (c :: targets) =>
      let s' := { s with heartbeats := s.heartbeats.goto t (.ping targets) }
      some (if ok then s' else s'.discard c)
    | .done => none

/-- No task but the given ones is between two awaits. -/
def LoopFree (s : WsState β) (dispatcher heartbeat : Option Nat) : Prop :=
  (∀ t < s.dispatchers.created, some t ≠ dispatcher → (s.dispatchers.task t).pc.runs = false) ∧
    ∀ t < s.heartbeats.created, some t ≠ heartbeat → (s.heartbeats.task t).pc.runs = false

/-- Whether the event loop is free is checked on the tasks. -/
instance (s : WsState β) (dispatcher heartbeat : Option Nat) :
    Decidable (s.LoopFree dispatcher heartbeat) :=
  inferInstanceAs (Decidable (_ ∧ _))

/-- Whether the event loop is free for an action. Publishing does not need it. -/
def Allows (s : WsState β) : WsAction β → Prop
  | .publish _ => True
  | .connect _ _ | .pong _ _ | .disconnect _ | .abort _ => s.LoopFree none none
  | .dispatch t _ _ _ => s.LoopFree (some t) none
  | .beat t _ _ _ => s.LoopFree none (some t)

/-- Whether a step is allowed is checked on the state before it. -/
instance (s : WsState β) : DecidablePred s.Allows
  | .publish _ => inferInstanceAs (Decidable True)
  | .connect _ _ | .pong _ _ | .disconnect _ | .abort _ =>
    inferInstanceAs (Decidable (s.LoopFree none none))
  | .dispatch t _ _ _ => inferInstanceAs (Decidable (s.LoopFree (some t) none))
  | .beat t _ _ _ => inferInstanceAs (Decidable (s.LoopFree none (some t)))

variable [DecidableEq β]

/-- What an action does. -/
def perform (cfg : WsConfig) (s : WsState β) : WsAction β → Option (WsState β)
  | .publish msg => some { s with outbox := s.outbox.step (.put msg) }
  | .connect c now =>
    if s.handler c = .new then
      some { s with
        toFanout := s.toFanout.connect c
        lastPong := s.lastPong.insert c now
        heartbeats := s.heartbeats.ensure .created .done }
    else none
  | .pong c now =>
    if s.handler c = .receiving then some { s with lastPong := s.lastPong.insert c now } else none
  | .disconnect c =>
    if s.handler c = .receiving then
      some { s with
        toFanout := s.toFanout.disconnect c
        lastPong := s.lastPong.erase c
        heartbeats := if s.connections.erase c = ∅ then s.heartbeats.cancel .done else s.heartbeats }
    else none
  | .abort c =>
    if s.handler c = .receiving then
      some { s with toFanout := s.toFanout.leave c, lastPong := s.lastPong.erase c }
    else none
  | .dispatch t now order ok =>
    (s.toFanout.dispatch cfg t now order ok).map (fun f ↦ { s with toFanout := f })
  | .beat t now order ok => s.beat cfg t now order ok

/-- One action, where the event loop allows it. -/
def act (cfg : WsConfig) : WsState β → WsAction β → Option (WsState β) :=
  System.guard Allows (perform cfg)

/-- The module after its import. -/
def start (cfg : WsConfig) : WsState β where
  outbox := .run cfg.outboxMaxsize []

/-- All interleavings of publishing threads, handlers, dispatchers and heartbeats. -/
def system (cfg : WsConfig) : System (WsState β) (WsAction β) :=
  .ofAct (fun s ↦ s = start cfg) (act cfg)

end WsState

end Unoc.Realtime
