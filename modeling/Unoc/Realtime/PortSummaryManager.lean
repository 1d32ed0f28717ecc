import Mathlib.Data.List.Induction
import Mathlib.Logic.Function.Basic
import Unoc.Base.Dict
import Unoc.Base.System

/-!
# The port summary manager of the client

`PortSummaryManager` of `unoc-frontend-v2/src/composables/usePortSummaryManager.ts`: reference
counts of the subscribed devices, one bulk fetch at a time, and a cache that its answer fills.
JavaScript runs every callback to its end, so a run is a sequence of calls and of fetches that
complete.
-/

namespace Unoc.Realtime.PortSummaryManager

open Unoc.Base

/-! ### State -/

/-- A request of `fetchBulk`: the step in which it is sent, and its list of ids. -/
structure Fetch where
  time : Nat
  ids : List String
  deriving DecidableEq, Repr

/-- `CacheEntry` with the fetch that it comes from; `usePortSummaryManager.ts:28–31`. -/
structure CacheEntry (Row : Type) where
  data : List Row
  source : Fetch
  deriving DecidableEq, Repr

/-- The fields of the manager, and below them what happened so far: the requests without an answer,
all requests, the step in which the subscription of a device began, and the number of steps;
`usePortSummaryManager.ts:33–39`. -/
structure Manager (Row : Type) where
  cache : Dict String (CacheEntry Row) := ∅
  subscriptions : Dict String Nat := ∅
  timer : Bool := false
  isFetching : Bool := false
  pendingFetch : Bool := false
  inFlight : List Fetch := []
  started : List Fetch := []
  began : String → Nat := fun _ ↦ 0
  now : Nat := 0

/-- How a request ends: it fails, with or without a response, or its body is no object; or the body
has entries, of which those without an array are skipped. The rows are parsed and sorted. -/
inductive Reply (Row : Type) where
  | failed
  | entries (data : List (String × Option (List Row)))

/-- Calls of the public methods, the callback of the interval, and the end of a request. -/
inductive Action (Row : Type) where
  | subscribe (deviceId : String)
  | unsubscribe (deviceId : String)
  | triggerRefresh (deviceIds : List String)
  | tick
  | complete (f : Fetch) (reply : Reply Row)

namespace Manager

variable {Row : Type} (m : Manager Row)

/-! ### Methods -/

/-- `subscribedIds`; `usePortSummaryManager.ts:44–46`. -/
def subscribedIds : List String := m.subscriptions.keys

/-- `this.subscriptions.get(deviceId) || 0`. -/
def count (deviceId : String) : Nat := (m.subscriptions.lookup deviceId).getD 0

/-- `fetchBulk` up to its `await`; `usePortSummaryManager.ts:120–132`. -/
def fetchBulk : Manager Row :=
  if m.subscribedIds = [] ∨ m.isFetching = true then m
  else
    { m with
      isFetching := true
      pendingFetch := false
      inFlight := m.inFlight ++ [⟨m.now, m.subscribedIds⟩]
      started := m.started ++ [⟨m.now, m.subscribedIds⟩] }

/-- A fetch now, or after the one that is in flight;
`usePortSummaryManager.ts:65–71,110–117`. -/
def requestFetch : Manager Row :=
  if m.isFetching then { m with pendingFetch := true } else m.fetchBulk

/-- `startPolling`, which does nothing in tests; `usePortSummaryManager.ts:190–206`. -/
def startPolling (isTest : Bool) : Manager Row := { m with timer := !isTest }

/-- `stopPolling`; `usePortSummaryManager.ts:208–213`. -/
def stopPolling : Manager Row := { m with timer := false }

/-- The count of a device goes up, and its subscription begins if there was none. -/
def addSubscription (deviceId : String) : Manager Row :=
  { m with
    subscriptions := m.subscriptions.insert deviceId (m.count deviceId + 1)
    began := if m.count deviceId = 0 then Function.update m.began deviceId m.now else m.began }

/-- Polling starts with the first device; `usePortSummaryManager.ts:58–61`. -/
def pollFirst (isTest : Bool) : Manager Row :=
  if m.subscribedIds.length = 1 ∧ m.timer = false then m.startPolling isTest else m

/-- `subscribe`; `usePortSummaryManager.ts:53–73`. -/
def subscribe (isTest : Bool) (deviceId : String) : Manager Row :=
  let added := (m.addSubscription deviceId).pollFirst isTest
  if m.count deviceId = 0 then added.requestFetch else added

/-- The count of a device goes down, and the last subscription takes its rows with it;
`usePortSummaryManager.ts:76–82`. -/
def removeSubscription (deviceId : String) : Manager Row :=
  if m.count deviceId ≤ 1 then
    { m with
      subscriptions := m.subscriptions.erase deviceId
      cache := m.cache.erase deviceId }
  else { m with subscriptions := m.subscriptions.insert deviceId (m.count deviceId - 1) }

/-- `unsubscribe`; `usePortSummaryManager.ts:75–88`. -/
def unsubscribe (deviceId : String) : Manager Row :=
  let removed := m.removeSubscription deviceId
  if removed.subscribedIds = [] then removed.stopPolling else removed

/-- `triggerRefresh`; `usePortSummaryManager.ts:102–118`. -/
def triggerRefresh (deviceIds : List String) : Manager Row :=
  if deviceIds.filter (fun id ↦ id ∈ m.subscriptions) = [] then m else m.requestFetch

/-- The body of the loop over the entries of an answer; `usePortSummaryManager.ts:145–173`. -/
def storeRows (f : Fetch) (cache : Dict String (CacheEntry Row))
    (e : String × Option (List Row)) : Dict String (CacheEntry Row) :=
  match e.2 with
  | none => cache
  | some rows => cache.insert e.1 ⟨rows, f⟩

/-- The cache with the entries of an answer; `usePortSummaryManager.ts:143–173`. -/
def fill (f : Fetch) : Reply Row → Dict String (CacheEntry Row)
  | .failed => m.cache
  | .entries data => data.foldl (storeRows f) m.cache

/-- `fetchBulk` from its answer up to the end of its fetch; `usePortSummaryManager.ts:134–180`. -/
def finish (f : Fetch) (reply : Reply Row) : Manager Row :=
  { m with cache := m.fill f reply, inFlight := m.inFlight.erase f, isFetching := false }

/-- `fetchBulk` from its answer on; `usePortSummaryManager.ts:134–187`. -/
def complete (f : Fetch) (reply : Reply Row) : Manager Row :=
  if m.pendingFetch then { m.finish f reply with pendingFetch := false }.fetchBulk
  else m.finish f reply

/-- What a step does, if it can be taken. -/
def perform (isTest : Bool) : Action Row → Option (Manager Row)
  | .subscribe deviceId => some (m.subscribe isTest deviceId)
  | .unsubscribe deviceId => some (m.unsubscribe deviceId)
  | .triggerRefresh deviceIds => some (m.triggerRefresh deviceIds)
  | .tick => if m.timer then some m.fetchBulk else none
  | .complete f reply => if f ∈ m.inFlight then some (m.complete f reply) else none

/-- One step, which is counted. -/
def act (isTest : Bool) (a : Action Row) : Option (Manager Row) :=
  (m.perform isTest a).map (fun m ↦ { m with now := m.now + 1 })

end Manager

/-- The runs of a manager that nothing has used before. -/
def runs (Row : Type) (isTest : Bool) : System (Manager Row) (Action Row) :=
  .ofAct (fun m ↦ m = {}) (fun m a ↦ m.act isTest a)

namespace Manager

variable {Row : Type} {m : Manager Row} {d : String}

/-! ### Coverage -/

/-- A request that asks for the device was sent since its subscription began. -/
def Requested (m : Manager Row) (d : String) : Prop :=
  ∃ f ∈ m.started, d ∈ f.ids ∧ m.began d ≤ f.time

/-- What also holds between the statements of a method. -/
structure Sound (m : Manager Row) : Prop where
  counts : ∀ d, d ∈ m.subscriptions → 0 < m.count d
  began_le : ∀ d, m.began d ≤ m.now
  flight : m.inFlight.length = if m.isFetching then 1 else 0

/-- A subscribed device has been asked for, or a further request will follow the one in flight. -/
structure Inv (m : Manager Row) : Prop extends Sound m where
  pending : m.pendingFetch = true → m.isFetching = true
  covered : ∀ d ∈ m.subscriptions, m.Requested d ∨ m.pendingFetch = true

private theorem mem_subscribedIds : d ∈ m.subscribedIds ↔ d ∈ m.subscriptions := AList.mem_keys.symm

/-- A device is subscribed exactly if it is counted. -/
theorem Sound.mem_iff (h : Sound m) : d ∈ m.subscriptions ↔ m.count d ≠ 0 := by
  constructor
  · intro hd
    exact (h.counts d hd).ne'
  · intro hcount
    rw [← AList.lookup_isSome]
    unfold count at hcount
    cases hlookup : m.subscriptions.lookup d with
    | none => rw [hlookup] at hcount; exact absurd rfl hcount
    | some n => rfl

/-- Nothing is requested without subscriptions or next to another request; else all devices are. -/
theorem fetchBulk_cases (m : Manager Row) :
    (m.fetchBulk = m ∧ (m.subscribedIds = [] ∨ m.isFetching = true)) ∨
      (m.isFetching = false ∧ m.fetchBulk = { m with
        isFetching := true
        pendingFetch := false
        inFlight := m.inFlight ++ [⟨m.now, m.subscribedIds⟩]
        started := m.started ++ [⟨m.now, m.subscribedIds⟩] }) := by
  unfold fetchBulk
  by_cases h : m.subscribedIds = [] ∨ m.isFetching = true
  · rw [if_pos h]
    exact .inl ⟨rfl, h⟩
  · rw [if_neg h]
    exact .inr ⟨Bool.eq_false_iff.mpr (fun hfetching ↦ h (.inr hfetching)), rfl⟩

private theorem Sound.fetchBulk (h : Sound m) : Sound m.fetchBulk := by
  rcases m.fetchBulk_cases with ⟨heq, _⟩ | ⟨hidle, heq⟩
  · rw [heq]
    exact h
  · rw [heq]
    refine ⟨h.counts, h.began_le, ?_⟩
    have hflight := h.flight
    rw [hidle] at hflight
    rw [List.length_append, hflight]
    rfl

/-- A fetch while none is in flight asks for every subscribed device. -/
theorem Sound.inv_fetchBulk (h : Sound m) (hidle : m.isFetching = false)
    (hpending : m.pendingFetch = false) : Inv m.fetchBulk := by
  refine ⟨h.fetchBulk, fun hset ↦ ?_, fun d hd ↦ .inl ?_⟩
  · rcases m.fetchBulk_cases with ⟨heq, _⟩ | ⟨_, heq⟩
    · rw [heq, hpending] at hset
      cases hset
    · rw [heq]
  · rcases m.fetchBulk_cases with ⟨heq, hnone | hfetching⟩ | ⟨_, heq⟩
    · rw [heq, ← mem_subscribedIds, hnone] at hd
      cases hd
    · rw [hidle] at hfetching
      cases hfetching
    · rw [heq] at hd ⊢
      exact ⟨_, List.mem_append_right _ (List.mem_singleton_self _), mem_subscribedIds.mpr hd,
        h.began_le d⟩

/-- Whatever was covered before, after a request for a fetch every device is. -/
theorem Sound.inv_requestFetch (h : Sound m)
    (hpending : m.pendingFetch = true → m.isFetching = true) : Inv m.requestFetch := by
  unfold requestFetch
  by_cases hfetching : m.isFetching = true
  · rw [if_pos hfetching]
    exact ⟨⟨h.counts, h.began_le, h.flight⟩, fun _ ↦ hfetching, fun _ _ ↦ .inr rfl⟩
  · rw [if_neg hfetching]
    have hidle := Bool.eq_false_iff.mpr hfetching
    exact h.inv_fetchBulk hidle (Bool.eq_false_iff.mpr (fun hset ↦ hfetching (hpending hset)))

private theorem count_addSubscription (m : Manager Row) (d e : String) :
    (m.addSubscription d).count e = if e = d then m.count d + 1 else m.count e := by
  unfold addSubscription count
  by_cases h : e = d
  · subst h
    rw [if_pos rfl, AList.lookup_insert]
    rfl
  · rw [if_neg h, AList.lookup_insert_ne h]

private theorem Sound.addSubscription (h : Sound m) (d : String) : Sound (m.addSubscription d) := by
  refine ⟨fun e he ↦ ?_, fun e ↦ ?_, h.flight⟩
  · rw [count_addSubscription]
    split
    · exact Nat.succ_pos _
    · next hne => exact h.counts e ((AList.mem_insert _).mp he |>.resolve_left hne)
  · unfold Manager.addSubscription
    by_cases hnew : m.count d = 0
    · simp only [hnew, if_true, Function.update_apply]
      split
      · exact le_rfl
      · exact h.began_le e
    · simp only [hnew, if_false]
      exact h.began_le e

/-- Polling changes the timer only. -/
theorem pollFirst_eq (m : Manager Row) (isTest : Bool) :
    ∃ timer, m.pollFirst isTest = { m with timer := timer } := by
  unfold pollFirst
  split
  · exact ⟨_, rfl⟩
  · exact ⟨m.timer, rfl⟩

private theorem Inv.subscribe (h : Inv m) (isTest : Bool) (d : String) : Inv
    (m.subscribe isTest d) := by
  have hadded := h.toSound.addSubscription d
  obtain ⟨timer, hpoll⟩ := (m.addSubscription d).pollFirst_eq isTest
  unfold Manager.subscribe
  by_cases hnew : m.count d = 0
  · simp only [hnew, if_true, hpoll]
    exact Sound.inv_requestFetch ⟨hadded.counts, hadded.began_le, hadded.flight⟩ h.pending
  · simp only [hnew, if_false, hpoll]
    refine ⟨⟨hadded.counts, hadded.began_le, hadded.flight⟩, h.pending, fun e he ↦ ?_⟩
    have hold : e ∈ m.subscriptions := by
      rcases (AList.mem_insert _).mp he with rfl | hold
      · exact h.toSound.mem_iff.mpr hnew
      · exact hold
    have hbegan : (m.addSubscription d).began = m.began := by
      simp only [Manager.addSubscription, hnew, if_false]
    simp only [Requested, hbegan]
    exact h.covered e hold

private theorem Inv.removeSubscription (h : Inv m) (d : String) : Inv (m.removeSubscription d) := by
  unfold Manager.removeSubscription
  by_cases hlast : m.count d ≤ 1
  · rw [if_pos hlast]
    have hkept : ∀ e, e ∈ m.subscriptions.erase d → e ≠ d ∧ e ∈ m.subscriptions :=
      fun e he ↦ AList.mem_erase.mp he
    refine ⟨⟨fun e he ↦ ?_, h.began_le, h.flight⟩, h.pending,
      fun e he ↦ h.covered e (hkept e he).2⟩
    have hcount := h.counts e (hkept e he).2
    unfold count at hcount ⊢
    rwa [AList.lookup_erase_ne (hkept e he).1]
  · rw [if_neg hlast]
    have hcounted : d ∈ m.subscriptions := h.toSound.mem_iff.mpr (by omega)
    have hold : ∀ e, e ∈ m.subscriptions.insert d (m.count d - 1) → e ∈ m.subscriptions := by
      intro e he
      rcases (AList.mem_insert _).mp he with rfl | hold
      · exact hcounted
      · exact hold
    refine ⟨⟨fun e he ↦ ?_, h.began_le, h.flight⟩, h.pending, fun e he ↦ h.covered e (hold e he)⟩
    by_cases heq : e = d
    · subst heq
      rw [count, AList.lookup_insert]
      show 0 < m.count e - 1
      omega
    · rw [count, AList.lookup_insert_ne heq]
      exact h.counts e (hold e he)

private theorem Inv.unsubscribe (h : Inv m) (d : String) : Inv (m.unsubscribe d) := by
  have hremoved := h.removeSubscription d
  unfold Manager.unsubscribe
  by_cases hnone : (m.removeSubscription d).subscribedIds = []
  · simp only [hnone, if_true]
    exact ⟨⟨hremoved.counts, hremoved.began_le, hremoved.flight⟩, hremoved.pending,
      hremoved.covered⟩
  · simp only [hnone, if_false]
    exact hremoved

private theorem Inv.triggerRefresh (h : Inv m) (ids : List String) : Inv
    (m.triggerRefresh ids) := by
  unfold Manager.triggerRefresh
  split
  · exact h
  · exact h.toSound.inv_requestFetch h.pending

private theorem Inv.fetchBulk (h : Inv m) : Inv m.fetchBulk := by
  by_cases hidle : m.isFetching = false
  · exact h.toSound.inv_fetchBulk hidle
      (Bool.eq_false_iff.mpr (fun hset ↦ by rw [h.pending hset] at hidle; cases hidle))
  · unfold Manager.fetchBulk
    rw [if_pos (.inr (Bool.not_eq_false _ ▸ hidle))]
    exact h

private theorem Sound.finish {f : Fetch} (h : Sound m) (hf : f ∈ m.inFlight) (reply : Reply Row) :
    Sound (m.finish f reply) := by
  refine ⟨h.counts, h.began_le, ?_⟩
  have hflight := h.flight
  have hpos := List.length_pos_of_mem hf
  show (m.inFlight.erase f).length = 0
  rw [List.length_erase_of_mem hf]
  split at hflight <;> omega

private theorem Inv.complete {f : Fetch} (h : Inv m) (hf : f ∈ m.inFlight) (reply : Reply Row) :
    Inv (m.complete f reply) := by
  have hsound := h.toSound.finish hf reply
  unfold Manager.complete
  by_cases hpending : m.pendingFetch = true
  · rw [if_pos hpending]
    exact Sound.inv_fetchBulk ⟨hsound.counts, hsound.began_le, hsound.flight⟩ rfl rfl
  · rw [if_neg hpending]
    refine ⟨hsound, fun hset ↦ absurd hset hpending, fun d hd ↦ .inl ?_⟩
    exact (h.covered d hd).resolve_right hpending

private theorem Inv.next (h : Inv m) : Inv { m with now := m.now + 1 } :=
  ⟨⟨h.counts, fun d ↦ (h.began_le d).trans (Nat.le_succ _), h.flight⟩, h.pending, h.covered⟩

private theorem Inv.step {m' : Manager Row} {isTest : Bool} {a : Action Row} (h : Inv m)
    (hstep : m.act isTest a = some m') : Inv m' := by
  obtain ⟨n, hn, rfl⟩ := Option.map_eq_some_iff.mp hstep
  apply Inv.next
  cases a with
  | subscribe d =>
    cases hn
    exact h.subscribe isTest d
  | unsubscribe d =>
    cases hn
    exact h.unsubscribe d
  | triggerRefresh ids =>
    cases hn
    exact h.triggerRefresh ids
  | tick =>
    obtain ⟨_, hn⟩ := Option.ite_none_right_eq_some.mp hn
    cases hn
    exact h.fetchBulk
  | complete f reply =>
    obtain ⟨hf, hn⟩ := Option.ite_none_right_eq_some.mp hn
    cases hn
    exact h.complete hf reply

end Manager

open Manager

variable {Row : Type} {isTest : Bool} {m : Manager Row}

private theorem inv_of_reachable (h : (runs Row isTest).Reachable m) : Inv m := by
  refine h.invariant ?_ ?_
  · intro m hm
    rw [show m = {} from hm]
    refine ⟨⟨fun d hd ↦ absurd hd (AList.notMem_empty d), fun _ ↦ le_rfl, rfl⟩, fun h ↦ h, ?_⟩
    exact fun d hd ↦ absurd hd (AList.notMem_empty d)
  · intro m a m' hinv hstep
    exact hinv.step hstep

/-- While no request is in flight, every subscribed device has been asked for since its subscription
began; two requests are never in flight. -/
theorem subscriptions_requested (h : (runs Row isTest).Reachable m) :
    (m.inFlight = [] → ∀ d ∈ m.subscriptions, m.Requested d) ∧ m.inFlight.length ≤ 1 := by
  have hinv := inv_of_reachable h
  have hflight := hinv.flight
  constructor
  · intro hnone d hd
    apply (hinv.covered d hd).resolve_right
    intro hpending
    rw [hnone, hinv.pending hpending] at hflight
    cases hflight
  · split at hflight <;> omega

/-- The second device is subscribed while the request for the first one is in flight, and fails. -/
def lateSubscriber : List (Action Nat) :=
  [.subscribe "olt", .subscribe "odf", .complete ⟨0, ["olt"]⟩ .failed,
    .complete ⟨2, ["odf", "olt"]⟩ (.entries [("odf", some [1])])]

/-- A subscriber that comes while a request is under way is asked for later. -/
theorem subscriptions_requested_lateSubscriber :
    ∃ m, (runs Nat false).Reachable m ∧ m.inFlight = [] ∧ m.Requested "odf" := by
  have hrun : (System.run (fun m ↦ Manager.act m false) {} lateSubscriber).map
      (fun m ↦ (m.inFlight, m.subscribedIds)) = some ([], ["odf", "olt"]) := by
    decide +kernel
  obtain ⟨m, hm, heq⟩ := Option.map_eq_some_iff.mp hrun
  obtain ⟨hnone, hids⟩ := Prod.ext_iff.mp heq
  have hreach : (runs Nat false).Reachable m :=
    .run _ (fun _ _ _ h ↦ h) lateSubscriber (.init rfl) hm
  refine ⟨m, hreach, hnone, (subscriptions_requested hreach).1 hnone "odf" ?_⟩
  rw [← mem_subscribedIds, show m.subscribedIds = ["odf", "olt"] from hids]
  exact List.mem_cons_self

/-! ### The cache -/

/-- The rows of a device come from a request that asked for it during its current subscription. -/
def FreshCache (m : Manager Row) : Prop :=
  ∀ d e, m.cache.lookup d = some e →
    d ∈ m.subscriptions ∧ d ∈ e.source.ids ∧ m.began d ≤ e.source.time

/-- An answer has rows only for devices that it was asked for and that have been subscribed ever
since. -/
def Current (m : Manager Row) : Action Row → Prop
  | .complete f (.entries data) =>
    ∀ e ∈ data, e.2.isSome = true → e.1 ∈ f.ids ∧ e.1 ∈ m.subscriptions ∧ m.began e.1 ≤ f.time
  | _ => True

/-- Whether a step is current is checked on the subscriptions before it. -/
instance (m : Manager Row) : DecidablePred (Current m)
  | .complete f (.entries data) => inferInstanceAs (Decidable (∀ e ∈ data, e.2.isSome = true →
      e.1 ∈ f.ids ∧ e.1 ∈ m.subscriptions ∧ m.began e.1 ≤ f.time))
  | .complete _ .failed => .isTrue trivial
  | .subscribe _ => .isTrue trivial
  | .unsubscribe _ => .isTrue trivial
  | .triggerRefresh _ => .isTrue trivial
  | .tick => .isTrue trivial

namespace Manager

/-- Requests leave the cache and the subscriptions alone. -/
theorem fetchBulk_keeps (m : Manager Row) : m.fetchBulk.cache = m.cache ∧
    m.fetchBulk.subscriptions = m.subscriptions ∧ m.fetchBulk.began = m.began := by
  rcases m.fetchBulk_cases with ⟨heq, _⟩ | ⟨_, heq⟩ <;> rw [heq] <;> exact ⟨rfl, rfl, rfl⟩

private theorem requestFetch_keeps (m : Manager Row) : m.requestFetch.cache = m.cache ∧
    m.requestFetch.subscriptions = m.subscriptions ∧ m.requestFetch.began = m.began := by
  unfold requestFetch
  split
  · exact ⟨rfl, rfl, rfl⟩
  · exact m.fetchBulk_keeps

/-- Freshness is about the cache and the subscriptions. -/
theorem freshCache_congr {n : Manager Row} (h : n.cache = m.cache ∧
    n.subscriptions = m.subscriptions ∧ n.began = m.began) : FreshCache n ↔ FreshCache m := by
  obtain ⟨hcache, hsubs, hbegan⟩ := h
  unfold FreshCache
  rw [hcache, hsubs, hbegan]

private theorem freshCache_subscribe (hsound : Sound m) (h : FreshCache m) (isTest : Bool)
    (d : String) :
    FreshCache (m.subscribe isTest d) := by
  have hadded : FreshCache (m.addSubscription d) := by
    intro e entry hentry
    obtain ⟨hsub, hids, htime⟩ := h e entry hentry
    refine ⟨(AList.mem_insert _).mpr (.inr hsub), hids, ?_⟩
    unfold addSubscription
    by_cases hnew : m.count d = 0
    · -- a device that was not subscribed has no rows
      have hne : e ≠ d := by
        rintro rfl
        exact hsound.mem_iff.mp hsub hnew
      simp only [hnew, if_true]
      rwa [Function.update_of_ne hne]
    · simp only [hnew, if_false]
      exact htime
  obtain ⟨timer, hpoll⟩ := (m.addSubscription d).pollFirst_eq isTest
  have hpolled : FreshCache ((m.addSubscription d).pollFirst isTest) := by
    rw [hpoll]
    exact hadded
  unfold Manager.subscribe
  by_cases hnew : m.count d = 0
  · simp only [hnew, if_true]
    exact (freshCache_congr (requestFetch_keeps _)).mpr hpolled
  · simp only [hnew, if_false]
    exact hpolled

private theorem freshCache_unsubscribe (h : FreshCache m) (d : String) : FreshCache
    (m.unsubscribe d) := by
  have hremoved : FreshCache (m.removeSubscription d) := by
    unfold removeSubscription
    split
    · intro e entry hentry
      have hne : e ≠ d := by
        rintro rfl
        rw [AList.lookup_erase] at hentry
        cases hentry
      rw [AList.lookup_erase_ne hne] at hentry
      obtain ⟨hsub, hrest⟩ := h e entry hentry
      exact ⟨AList.mem_erase.mpr ⟨hne, hsub⟩, hrest⟩
    · intro e entry hentry
      obtain ⟨hsub, hrest⟩ := h e entry hentry
      exact ⟨(AList.mem_insert _).mpr (.inr hsub), hrest⟩
  unfold Manager.unsubscribe
  by_cases hnone : (m.removeSubscription d).subscribedIds = []
  · simp only [hnone, if_true]
    exact hremoved
  · simp only [hnone, if_false]
    exact hremoved

/-- The cache after an answer: entries of the answer, and older ones. -/
theorem lookup_fill {f : Fetch} {data : List (String × Option (List Row))} {d : String}
    {entry : CacheEntry Row} (h : (m.fill f (.entries data)).lookup d = some entry) :
    m.cache.lookup d = some entry ∨ entry.source = f ∧ ∃ e ∈ data, e.1 = d ∧ e.2.isSome = true := by
  refine Dict.lookup_foldl_of_step
    (P := fun d entry ↦ entry.source = f ∧ ∃ e ∈ data, e.1 = d ∧ e.2.isSome = true) data ?_ h
  intro cache e he k v hv
  cases hrows : e.2 with
  | none =>
    rw [storeRows, hrows] at hv
    exact .inl hv
  | some rows =>
    simp only [storeRows, hrows] at hv
    by_cases hk : k = e.1
    · subst hk
      rw [AList.lookup_insert] at hv
      cases hv
      exact .inr ⟨rfl, e, he, rfl, by rw [hrows]; rfl⟩
    · rw [AList.lookup_insert_ne hk] at hv
      exact .inl hv

/-- Every device with rows in an answer has an entry that comes from it. -/
theorem exists_lookup_fill {f : Fetch} {data : List (String × Option (List Row))}
    {e : String × Option (List Row)} (he : e ∈ data) (hrows : e.2.isSome = true) :
    ∃ entry, (m.fill f (.entries data)).lookup e.1 = some entry ∧ entry.source = f := by
  rw [fill]
  induction data using List.reverseRecOn with
  | nil => cases he
  | append_singleton data last ih =>
    rw [List.foldl_append, List.foldl_cons, List.foldl_nil]
    cases hlast : last.2 with
    | none =>
      rw [storeRows, hlast]
      rcases List.mem_append.mp he with he | he
      · exact ih he
      · rw [List.mem_singleton.mp he, hlast] at hrows
        cases hrows
    | some rows =>
      simp only [storeRows, hlast]
      by_cases hid : e.1 = last.1
      · rw [hid]
        exact ⟨_, AList.lookup_insert _, rfl⟩
      · rw [AList.lookup_insert_ne hid]
        rcases List.mem_append.mp he with he | he
        · exact ih he
        · rw [List.mem_singleton.mp he] at hid
          exact absurd rfl hid

/-- After an answer the cache is fresh exactly if the answer is current. -/
theorem freshCache_complete (h : FreshCache m) (f : Fetch) (reply : Reply Row) :
    FreshCache (m.complete f reply) ↔ Current m (.complete f reply) := by
  have hkeeps : FreshCache (m.complete f reply) ↔ FreshCache (m.finish f reply) := by
    unfold complete
    split
    · exact freshCache_congr (fetchBulk_keeps _)
    · exact Iff.rfl
  rw [hkeeps]
  cases reply with
  | failed => exact iff_of_true h trivial
  | entries data =>
    constructor
    · intro hfresh e he hrows
      obtain ⟨entry, hentry, hsource⟩ := exists_lookup_fill (m := m) (f := f) he hrows
      obtain ⟨hsub, hids, htime⟩ := hfresh e.1 entry hentry
      rw [hsource] at hids htime
      exact ⟨hids, hsub, htime⟩
    · intro hcurrent d entry hentry
      rcases lookup_fill hentry with hold | ⟨hsource, e, he, rfl, hrows⟩
      · exact h d entry hold
      · obtain ⟨hids, hsub, htime⟩ := hcurrent e he hrows
        rw [hsource]
        exact ⟨hsub, hids, htime⟩

/-- A step keeps the cache fresh exactly if it is current. -/
theorem freshCache_step {m' : Manager Row} {isTest : Bool} {a : Action Row} (hsound : Sound m)
    (h : FreshCache m) (hstep : m.act isTest a = some m') : FreshCache m' ↔ Current m a := by
  obtain ⟨n, hn, rfl⟩ := Option.map_eq_some_iff.mp hstep
  show FreshCache n ↔ _
  cases a with
  | subscribe d =>
    cases hn
    exact iff_of_true (freshCache_subscribe hsound h isTest d) trivial
  | unsubscribe d =>
    cases hn
    exact iff_of_true (freshCache_unsubscribe h d) trivial
  | triggerRefresh ids =>
    cases hn
    refine iff_of_true ?_ trivial
    unfold triggerRefresh
    split
    · exact h
    · exact (freshCache_congr m.requestFetch_keeps).mpr h
  | tick =>
    obtain ⟨_, hn⟩ := Option.ite_none_right_eq_some.mp hn
    cases hn
    exact iff_of_true ((freshCache_congr m.fetchBulk_keeps).mpr h) trivial
  | complete f reply =>
    obtain ⟨_, hn⟩ := Option.ite_none_right_eq_some.mp hn
    cases hn
    exact freshCache_complete h f reply

end Manager

private theorem freshCache_init : FreshCache ({} : Manager Row) := by
  intro d entry hentry
  cases hentry

/-- In every run in which all answers are current, all rows in the cache are. -/
theorem freshCache_of_current_run (h : ((runs Row isTest).restrict Current).Reachable m) :
    FreshCache m := by
  have hinv : Inv m ∧ FreshCache m := by
    refine System.Reachable.invariant (I := fun m ↦ Inv m ∧ FreshCache m) ?_ ?_ h
    · intro m hm
      rw [show m = {} from hm]
      exact ⟨inv_of_reachable (.init rfl : (runs Row isTest).Reachable {}), freshCache_init⟩
    · intro m a m' hinv hstep
      exact ⟨hinv.1.step hstep.2, (freshCache_step hinv.1.toSound hinv.2 hstep.2).mpr hstep.1⟩
  exact hinv.2

/-- A device that is subscribed, answered, and subscribed again. -/
def answeredInTime : List (Action Nat) :=
  [.subscribe "olt", .complete ⟨0, ["olt"]⟩ (.entries [("olt", some [1])]), .unsubscribe "olt",
    .subscribe "olt", .complete ⟨3, ["olt"]⟩ (.entries [("olt", some [2])])]

/-- An answer in time is in the cache. -/
theorem freshCache_of_current_run_answeredInTime :
    ∃ m, ((runs Nat false).restrict Current).Reachable m ∧
      m.cache.lookup "olt" = some ⟨[2], ⟨3, ["olt"]⟩⟩ ∧ FreshCache m := by
  have hrun : (System.run (System.guard Current (fun m ↦ Manager.act m false)) {}
      answeredInTime).map (fun m ↦ m.cache.lookup "olt") = some (some ⟨[2], ⟨3, ["olt"]⟩⟩) := by
    decide +kernel
  obtain ⟨m, hm, hlookup⟩ := Option.map_eq_some_iff.mp hrun
  have hreach : ((runs Nat false).restrict Current).Reachable m :=
    .run _ (fun _ _ _ ↦ System.restrict_of_guard) answeredInTime (.init rfl) hm
  exact ⟨m, hreach, hlookup, freshCache_of_current_run hreach⟩

/-- A device is unsubscribed and subscribed again while its request is in flight. -/
def answeredLate : List (Action Nat) :=
  [.subscribe "olt", .unsubscribe "olt", .subscribe "olt",
    .complete ⟨0, ["olt"]⟩ (.entries [("olt", some [1])])]

/-- The rows of the first subscription are served to the second one. -/
theorem cache_stale_answeredLate : ¬ ∀ m, (runs Nat false).Reachable m → FreshCache m := by
  intro h
  have hrun : (System.run (fun m ↦ Manager.act m false) {} answeredLate).map
      (fun m ↦ (m.cache.lookup "olt", m.began "olt")) = some (some ⟨[1], ⟨0, ["olt"]⟩⟩, 2) := by
    decide +kernel
  obtain ⟨m, hm, heq⟩ := Option.map_eq_some_iff.mp hrun
  obtain ⟨hlookup, hbegan⟩ := Prod.ext_iff.mp heq
  have hreach : (runs Nat false).Reachable m :=
    .run _ (fun _ _ _ h ↦ h) answeredLate (.init rfl) hm
  have htime := (h m hreach "olt" _ hlookup).2.2
  rw [show m.began "olt" = 2 from hbegan] at htime
  exact absurd htime (by decide)

end Unoc.Realtime.PortSummaryManager
