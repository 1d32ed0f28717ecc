import Mathlib.Logic.Function.Basic
import Unoc.Base.System

/-!
# The recompute coalescer as interleaved threads

`backend/services/recompute_coalescer.py:44–228`. Threads call `schedule`, `flush_now`, `stop`
and `start`; a `threading.Timer` runs `_execute_now` on a thread of its own. Every access to the
timer, the pending sets and the executing flag is inside `with _STATE.lock`, so a critical
section is one action between acquiring and releasing the lock, which is not reentrant.
`Timer.start` may fail and the recompute body may raise.
-/

namespace Unoc.Coalescer

open Unoc.Base

/-- A request thread, or the thread of one timer. -/
inductive Thread where
  | caller (n : Nat)
  | timer (n : Nat)
  deriving DecidableEq, Repr

/-- Life of a `threading.Timer`: `cancel` has no effect once the callback has begun. -/
inductive TimerState where
  | unused
  | armed
  | cancelled
  | fired
  deriving DecidableEq, Repr

/-- The pending sets one `_execute_now` takes, stamped with the number of earlier `schedule`
calls. -/
structure Batch where
  scopes : List String
  keys : List String
  takenAt : Nat
  deriving DecidableEq, Repr

/-- Where a thread stands. `…Enter`, `executeMark` and `executeFinish` wait for the lock; the state
named after each is inside its critical section. -/
inductive Pc where
  | idle
  | scheduleEnter (scope : String) (key : Option String)
  | scheduleBody (scope : String) (key : Option String)
  | flushEnter
  | flushBody
  | stopEnter
  | stopBody
  | executeEnter
  | executeTake
  | executeCheck (batch : Batch)
  | executeMark (batch : Batch)
  | executeMarking (batch : Batch)
  | executeBody (batch : Batch)
  | executeFinish
  | executeFinishing
  deriving DecidableEq, Repr

/-- The critical section a waiting thread enters when it gets the lock. -/
def Pc.critical : Pc → Option Pc
  | .scheduleEnter scope key => some (.scheduleBody scope key)
  | .flushEnter => some .flushBody
  | .stopEnter => some .stopBody
  | .executeEnter => some .executeTake
  | .executeMark batch => some (.executeMarking batch)
  | .executeFinish => some .executeFinishing
  | _ => none

/-- Program points inside a critical section. -/
def Pc.holds : Pc → Bool
  | .scheduleBody _ _ | .flushBody | .stopBody | .executeTake | .executeMarking _
  | .executeFinishing => true
  | _ => false

/-- Program points of a thread that is about to take the pending sets. -/
def Pc.aboutToExecute : Pc → Bool
  | .executeEnter | .executeTake => true
  | _ => false

/-- Program points of a thread inside a call, past the point of taking the pending sets or not on
the way to it. -/
def Pc.running : Pc → Bool
  | .idle | .executeEnter | .executeTake => false
  | _ => true

/-- The batch of an execution in progress. -/
def Pc.batch? : Pc → Option Batch
  | .executeCheck batch | .executeMark batch | .executeMarking batch | .executeBody batch =>
    some batch
  | _ => none

/-- `_State`, the threads and the timers; `recompute_coalescer.py:44–58`. The last four fields
record history only: which keys were scheduled and when, which batches were completed, and
whether `stop` ran or the coalescer was disabled. -/
structure State where
  enabled : Bool := true
  timer : Option Nat := none
  lock : Option Thread := none
  pendingScopes : List String := []
  pendingKeys : List String := []
  executing : Bool := false
  metricsScheduled : Nat := 0
  metricsCoalescedRuns : Nat := 0
  metricsExecuted : Nat := 0
  pc : Thread → Pc := fun _ ↦ .idle
  timers : Nat → TimerState := fun _ ↦ .unused
  nextTimer : Nat := 0
  clock : Nat := 0
  scheduled : List (Nat × String) := []
  completed : List Batch := []
  interrupted : Bool := false

/-- Python `set.add` guarded by the truthiness test of `schedule`. -/
def addPending (pending : List String) (item : String) : List String :=
  if item = "" ∨ item ∈ pending then pending else item :: pending

/-- Atomic actions. `startOk` is whether `Timer.start` succeeds, `raises` whether the recompute
body raises. -/
inductive Action where
  | callSchedule (t : Nat) (scope : String) (key : Option String)
  | callFlush (t : Nat)
  | callStop (t : Nat)
  | start (enabled : Bool)
  | fire (n : Nat)
  | acquire (t : Thread)
  | scheduleBody (t : Thread) (startOk : Bool)
  | flushBody (t : Thread)
  | stopBody (t : Thread)
  | executeTake (t : Thread)
  | executeCheck (t : Thread)
  | executeMarking (t : Thread)
  | executeBody (t : Thread) (raises : Bool)
  | executeFinishing (t : Thread)

namespace State

/-- Move one thread. -/
def goto (s : State) (t : Thread) (pc : Pc) : State :=
  { s with pc := Function.update s.pc t pc }

/-- Leave a critical section. -/
def release (s : State) (t : Thread) (pc : Pc) : State :=
  { s.goto t pc with lock := none }

/-- `Timer.cancel`, which stops only a timer that has not begun its callback. -/
def cancel (s : State) (n : Nat) : State :=
  if s.timers n = .armed then { s with timers := Function.update s.timers n .cancelled } else s

/-- Cancel and forget the recorded timer, if there is one. -/
def dropTimer (s : State) : State :=
  match s.timer with
  | none => s
  | some n => { s.cancel n with timer := none }

/-- The pending sets after `schedule` records its arguments; `recompute_coalescer.py:195–199`. -/
def record (s : State) (scope : String) (key : Option String) : State :=
  { s with
    pendingScopes := addPending s.pendingScopes scope
    pendingKeys := match key with
      | none => s.pendingKeys
      | some key => addPending s.pendingKeys key
    clock := s.clock + 1
    scheduled := match key with
      | none => s.scheduled
      | some key => if key = "" then s.scheduled else (s.clock, key) :: s.scheduled }

/-- Critical section of `schedule`; `recompute_coalescer.py:195–214`. When the timer cannot start,
`_execute_now` is called inline, with the lock still held. -/
def scheduleBody (s : State) (t : Thread) (scope : String) (key : Option String)
    (startOk : Bool) : State :=
  let s := s.record scope key
  match s.timer with
  | some _ => { s with metricsCoalescedRuns := s.metricsCoalescedRuns + 1 }.release t .idle
  | none =>
    if startOk then
      { s with
        timer := some s.nextTimer
        timers := Function.update s.timers s.nextTimer .armed
        nextTimer := s.nextTimer + 1 }.release t .idle
    else s.goto t .executeEnter

/-- Critical section of `flush_now`; `recompute_coalescer.py:219–227`. -/
def flushBody (s : State) (t : Thread) : State :=
  match s.timer with
  | none => s.release t .idle
  | some _ => s.dropTimer.release t .executeEnter

/-- Critical section of `stop`; `recompute_coalescer.py:80–89`. -/
def stopBody (s : State) (t : Thread) : State :=
  { s.dropTimer with pendingScopes := [], pendingKeys := [], interrupted := true }.release t .idle

/-- First critical section of `_execute_now`; `recompute_coalescer.py:95–100`. -/
def executeTake (s : State) (t : Thread) : State :=
  { s with timer := none, pendingScopes := [], pendingKeys := [] }.release t
    (.executeCheck ⟨s.pendingScopes, s.pendingKeys, s.clock⟩)

/-- One action of one thread or of a timer. -/
def act (s : State) : Action → Option State
  | .callSchedule t scope key =>
    if s.pc (.caller t) = .idle then
      some ({ s with metricsScheduled := s.metricsScheduled + 1 }.goto (.caller t)
        (.scheduleEnter scope key))
    else none
  | .callFlush t =>
    if s.pc (.caller t) = .idle then some (s.goto (.caller t) .flushEnter) else none
  | .callStop t =>
    if s.pc (.caller t) = .idle then some (s.goto (.caller t) .stopEnter) else none
  | .start enabled => some { s with enabled, interrupted := s.interrupted || !enabled }
  | .fire n =>
    if s.timers n = .armed then
      some ({ s with timers := Function.update s.timers n .fired }.goto (.timer n) .executeEnter)
    else none
  | .acquire t =>
    if s.lock = none then
      (s.pc t).critical.map (fun pc ↦ { s.goto t pc with lock := some t })
    else none
  | .scheduleBody t startOk =>
    match s.pc t with
    | .scheduleBody scope key => some (s.scheduleBody t scope key startOk)
    | _ => none
  | .flushBody t => if s.pc t = .flushBody then some (s.flushBody t) else none
  | .stopBody t => if s.pc t = .stopBody then some (s.stopBody t) else none
  | .executeTake t => if s.pc t = .executeTake then some (s.executeTake t) else none
  | .executeCheck t =>
    match s.pc t with
    | .executeCheck batch => some (s.goto t (if s.enabled then .executeMark batch else .idle))
    | _ => none
  | .executeMarking t =>
    match s.pc t with
    | .executeMarking batch => some ({ s with executing := true }.release t (.executeBody batch))
    | _ => none
  | .executeBody t raises =>
    match s.pc t with
    | .executeBody batch =>
      if raises then some (s.goto t .executeFinish)
      else some ({ s with
        metricsExecuted := s.metricsExecuted + 1
        completed := batch :: s.completed }.goto t .executeFinish)
    | _ => none
  | .executeFinishing t =>
    if s.pc t = .executeFinishing then some ({ s with executing := false }.release t .idle)
    else none

/-- A scheduled key is not lost while a timer is armed or a thread is about to take the pending
sets. -/
def Live (s : State) : Prop :=
  (∃ n, s.timers n = .armed) ∨ ∃ t, (s.pc t).aboutToExecute = true

/-- A key scheduled at time `n` is pending and will be taken, or is in the batch of an execution
in progress, or was in the batch of an execution that completed, both taken after the call. -/
def Covered (s : State) (n : Nat) (key : String) : Prop :=
  (key ∈ s.pendingKeys ∧ s.Live) ∨
  (∃ t batch, (s.pc t).batch? = some batch ∧ key ∈ batch.keys ∧ n < batch.takenAt) ∨
  (∃ batch ∈ s.completed, key ∈ batch.keys ∧ n < batch.takenAt)

/-- A thread waits for the lock that it holds itself. -/
def SelfBlocked (s : State) : Prop :=
  ∃ t, s.lock = some t ∧ (s.pc t).critical.isSome = true

/-- No scheduled key is lost while the coalescer is enabled and not stopped, and no thread blocks
on itself. -/
def Safe (s : State) : Prop :=
  (s.interrupted = false → ∀ e ∈ s.scheduled, s.Covered e.1 e.2) ∧ ¬ s.SelfBlocked

end State

/-- All interleavings, from a started coalescer with nothing pending. -/
def system : System State Action :=
  .ofAct (fun s ↦ s = {}) State.act

end Unoc.Coalescer
