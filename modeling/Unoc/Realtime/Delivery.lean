import Unoc.Realtime.Dispatcher

/-!
# What the clients of the WebSocket endpoint are sent

However threads, handlers, dispatchers and heartbeats interleave, at most one dispatcher drains the
outbox, and each client is sent the messages that leave it one after another from its registration
on. The invariant says which broadcast a client may still be waiting for; one lemma for each kind of
step keeps it.
-/

namespace Unoc.Realtime

open Unoc.Base

variable {β : Type}

namespace Tasks

variable {P : Type} {ts : Tasks P} {t : Nat}

/-- A task is at the point it goes to. -/
@[simp] theorem task_goto_self (pc : P) : (ts.goto t pc).task t = { ts.task t with pc := pc } :=
  Function.update_self t _ ts.task

/-- Other tasks stay where they are. -/
theorem task_goto_of_ne (pc : P) {t' : Nat} (h : t' ≠ t) : (ts.goto t pc).task t' = ts.task t' :=
  Function.update_of_ne h _ ts.task

end Tasks

namespace Fanout

/-! ### Kinds of steps -/

/-- A dispatcher that goes on: it has not ended and nobody has cancelled it. -/
def Live (f : Fanout β) (t : Nat) : Prop :=
  (f.dispatchers.task t).pc ≠ .done ∧ (f.dispatchers.task t).cancelled = false

/-- A dispatcher is sending a message. -/
def Sends (f : Fanout β) (t : Nat) (msg : Numbered β) (targets dead : List Nat) : Prop :=
  ∃ lastActive n, (f.dispatchers.task t).pc = .sending lastActive n msg targets dead

/-- Program points outside of a broadcast. -/
def Waits : DispatcherPc β → Prop
  | .sending _ _ _ _ _ | .done => False
  | _ => True

section Steps

variable [DecidableEq β]

/-- A dispatcher has been idle for long enough to shut down. -/
def Idles (cfg : WsConfig) (f : Fanout β) (t : Nat) (now : ℚ) : Prop :=
  ∃ lastActive, (f.dispatchers.task t).pc = .idle lastActive ∧ f.outbox.queue.dq = [] ∧
    cfg.idleShutdownSec ≤ now - lastActive

/-- What a step may do to what the handlers and the dispatcher share; `stops` says whether it may shut
down an idle dispatcher. -/
inductive Move (stops : Prop) : Fanout β → Fanout β → Prop where
  | publish (f : Fanout β) (msg : Message β) : Move stops f { f with outbox := f.outbox.step (.put msg) }
  | shrink (f : Fanout β) {kept : Finset Nat} (h : kept ⊆ f.connections) :
      Move stops f { f with connections := kept }
  | connect (f : Fanout β) (c : Nat) (h : f.handler c = .new) : Move stops f (f.connect c)
  | leave (f : Fanout β) (c : Nat) (h : f.handler c = .receiving) : Move stops f (f.leave c)
  | disconnect (f : Fanout β) (c : Nat) (h : f.handler c = .receiving) : Move stops f (f.disconnect c)
  | die (f : Fanout β) {t : Nat} (h : (f.dispatchers.task t).cancelled = true) :
      Move stops f (f.goto t .done)
  | goto (f : Fanout β) {t : Nat} (hlive : f.Live t) (h : Waits (f.dispatchers.task t).pc)
      {pc : DispatcherPc β} (hpc : Waits pc) : Move stops f (f.goto t pc)
  | exit (f : Fanout β) {t : Nat} (hlive : f.Live t) (h : Waits (f.dispatchers.task t).pc)
      (hstops : stops) :
      Move stops f { f with dispatchers := f.dispatchers.exit t .done }
  | fetch (f : Fanout β) {t : Nat} (hlive : f.Live t) (h : Waits (f.dispatchers.task t).pc)
      {msg : Numbered β} (hmsg : f.outbox.queue.get.1 = some msg) (lastActive : ℚ) (n : Nat)
      {order : List Nat} (hnodup : order.Nodup) (horder : order.toFinset = f.connections) :
      Move stops f { f.goto t (.sending lastActive n msg order []) with outbox := f.outbox.step .get }
  | send (f : Fanout β) {t : Nat} (hlive : f.Live t) {msg : Numbered β} {c : Nat}
      {targets dead : List Nat} (h : f.Sends t msg (c :: targets) dead) (lastActive : ℚ) (n : Nat)
      (ok : Bool) : Move stops f (f.send t lastActive n msg c targets dead ok)
  | finish (f : Fanout β) {t : Nat} (hlive : f.Live t) {msg : Numbered β} {dead : List Nat}
      (h : f.Sends t msg [] dead) (lastActive : ℚ) (n : Nat) :
      Move stops f { f.goto t (.burst lastActive n) with connections := f.connections \ dead.toFinset }

private theorem move_of_resume {cfg : WsConfig} {f f' : Fanout β} {t : Nat} {now : ℚ}
    {order : List Nat}
    {ok : Bool} (hlive : f.Live t) (h : f.resume cfg t now order ok (f.dispatchers.task t).pc = some f') :
    Move (f.Idles cfg t now) f f' := by
  cases hpc : (f.dispatchers.task t).pc with
  | created =>
    rw [hpc] at h
    cases h
    exact .goto f hlive (by rw [hpc]; trivial) trivial
  | top lastActive =>
    rw [hpc] at h
    cases h
    apply Move.goto f hlive (by rw [hpc]; trivial)
    split <;> trivial
  | idle lastActive =>
    rw [hpc, resume] at h
    split at h
    · next hidle =>
      cases h
      exact .exit f hlive (by rw [hpc]; trivial) ⟨lastActive, hpc, hidle⟩
    · cases h
      exact .goto f hlive (by rw [hpc]; trivial) trivial
  | burst lastActive n =>
    rw [hpc, resume] at h
    split at h
    · unfold fetch at h
      split at h
      · cases h
        exact .goto f hlive (by rw [hpc]; trivial) trivial
      · next msg hmsg =>
        split at h
        · next horder =>
          cases h
          exact .fetch f hlive (by rw [hpc]; trivial) hmsg lastActive n horder.1 horder.2
        · cases h
    · cases h
      exact .goto f hlive (by rw [hpc]; trivial) trivial
  | sending lastActive n msg targets dead =>
    rw [hpc] at h
    cases targets with
    | nil =>
      cases h
      exact .finish f hlive ⟨lastActive, n, hpc⟩ now (n + 1)
    | cons c targets =>
      cases h
      exact .send f hlive ⟨lastActive, n, hpc⟩ lastActive n ok
  | pause lastActive =>
    rw [hpc] at h
    cases h
    exact .goto f hlive (by rw [hpc]; trivial) trivial
  | done => exact absurd hpc hlive.1

private theorem move_of_dispatch {cfg : WsConfig} {f f' : Fanout β} {t : Nat} {now : ℚ}
    {order : List Nat}
    {ok : Bool} (h : f.dispatch cfg t now order ok = some f') : Move (f.Idles cfg t now) f f' := by
  unfold dispatch at h
  split at h
  · cases h
  · next hdone =>
    split at h
    · next hcancelled =>
      cases h
      exact .die f hcancelled
    · next hcancelled =>
      exact move_of_resume ⟨hdone, Bool.eq_false_of_not_eq_true hcancelled⟩ h

end Steps

/-! ### The invariant -/

/-- A connection that a broadcast has still to reach lacks the message of the broadcast only. -/
structure Broadcast (f : Fanout β) (msg : Numbered β) (targets : List Nat) : Prop where
  nodup : targets.Nodup
  behind : ∀ c ∈ targets, f.handler c ≠ .new ∧ f.sent c ++ [msg] = f.delivered.drop (f.joinedAt c)

/-- A connection is still to be reached by a broadcast, or to be dropped after it. -/
def Owed (f : Fanout β) (c : Nat) : Prop :=
  ∃ t msg targets dead, f.Live t ∧ f.Sends t msg targets dead ∧ (c ∈ targets ∨ c ∈ dead)

/-- What holds between any two steps. -/
structure Inv (f : Fanout β) : Prop where
  current : ∀ t, f.Live t → f.dispatchers.current = some t
  registered : ∀ c ∈ f.connections, f.handler c ≠ .new
  fresh : ∀ c, f.handler c = .new → f.sent c = []
  joined : ∀ c, f.joinedAt c ≤ f.delivered.length
  consecutive : ∀ c, f.handler c ≠ .new → f.sent c <+: f.delivered.drop (f.joinedAt c)
  broadcast : ∀ t msg targets dead, f.Live t → f.Sends t msg targets dead → f.Broadcast msg targets
  settled : ∀ c ∈ f.connections, f.sent c = f.delivered.drop (f.joinedAt c) ∨ f.Owed c

section Dispatchers

variable {f : Fanout β} {t t' : Nat} {msg : Numbered β} {targets dead : List Nat}

private theorem Live.of_goto {pc : DispatcherPc β} (hlive : f.Live t) (h : (f.goto t pc).Live t') :
    f.Live t' := by
  by_cases ht : t' = t
  · rw [ht]
    exact hlive
  · unfold Live goto at h
    rw [Tasks.task_goto_of_ne pc ht] at h
    exact h

private theorem Live.goto (hlive : f.Live t) {pc : DispatcherPc β} (hpc : pc ≠ .done) :
    (f.goto t pc).Live t := by
  unfold Live Fanout.goto
  rw [Tasks.task_goto_self]
  exact ⟨hpc, hlive.2⟩

/-- Who sends after a dispatcher has moved. -/
theorem Sends.of_goto {pc : DispatcherPc β} (h : (f.goto t pc).Sends t' msg targets dead) :
    (t' = t ∧ ∃ lastActive n, pc = .sending lastActive n msg targets dead) ∨
      t' ≠ t ∧ f.Sends t' msg targets dead := by
  have ⟨lastActive, n, hpc⟩ := h
  by_cases ht : t' = t
  · left
    rw [ht] at hpc
    unfold Fanout.goto at hpc
    rw [Tasks.task_goto_self] at hpc
    exact ⟨ht, lastActive, n, hpc⟩
  · right
    unfold Fanout.goto at hpc
    rw [Tasks.task_goto_of_ne pc ht] at hpc
    exact ⟨ht, lastActive, n, hpc⟩

private theorem sends_goto (f : Fanout β) (t : Nat) (lastActive : ℚ) (n : Nat) (msg : Numbered β)
    (targets dead : List Nat) :
    (f.goto t (.sending lastActive n msg targets dead)).Sends t msg targets dead := by
  refine ⟨lastActive, n, ?_⟩
  change ((f.dispatchers.goto t _).task t).pc = _
  rw [Tasks.task_goto_self]

private theorem Sends.not_waits (h : f.Sends t msg targets dead) : ¬ Waits
    (f.dispatchers.task t).pc := by
  have ⟨lastActive, n, hpc⟩ := h
  rw [hpc]
  exact fun h ↦ h

private theorem Sends.unique {targets' dead' : List Nat} {msg' : Numbered β}
    (h : f.Sends t msg targets dead)
    (h' : f.Sends t msg' targets' dead') : msg = msg' ∧ targets = targets' ∧ dead = dead' := by
  have ⟨_, _, hpc⟩ := h
  have ⟨_, _, hpc'⟩ := h'
  rw [hpc] at hpc'
  cases hpc'
  exact ⟨rfl, rfl, rfl⟩

end Dispatchers

namespace Inv

variable {f : Fanout β} (h : f.Inv) {t : Nat}
include h

private theorem eq_of_live {t' : Nat} (hlive : f.Live t) (hlive' : f.Live t') : t' = t :=
  Option.some.inj ((h.current t' hlive').symm.trans (h.current t hlive))

/-- Nothing is owed while the live dispatcher is outside of a broadcast. -/
theorem sent_of_waits (hlive : f.Live t) (hwaits : Waits (f.dispatchers.task t).pc) {c : Nat}
    (hc : c ∈ f.connections) : f.sent c = f.delivered.drop (f.joinedAt c) := by
  cases h.settled c hc with
  | inl heq => exact heq
  | inr howed =>
    have ⟨t', msg, targets, dead, hlive', hsends, _⟩ := howed
    rw [h.eq_of_live hlive hlive'] at hsends
    exact absurd hwaits hsends.not_waits

/-- The step of a live dispatcher that is outside of a broadcast before and after it. -/
theorem goto (hlive : f.Live t) (hwaits : Waits (f.dispatchers.task t).pc) {pc : DispatcherPc β}
    (hpc : Waits pc) : (f.goto t pc).Inv where
  current t' hlive' := h.current t' (hlive.of_goto hlive')
  registered := h.registered
  fresh := h.fresh
  joined := h.joined
  consecutive := h.consecutive
  broadcast t' msg targets dead hlive' hsends := by
    have ht := h.eq_of_live hlive (hlive.of_goto hlive')
    cases hsends.of_goto with
    | inl hmoved =>
      have ⟨_, lastActive, n, hsending⟩ := hmoved
      rw [hsending] at hpc
      exact absurd hpc (fun h ↦ h)
    | inr hother => exact absurd ht hother.1
  settled c hc := .inl (h.sent_of_waits hlive hwaits hc)

/-- The connections may only shrink, with the handler that ends. -/
theorem shrink {kept : Finset Nat} (hkept : kept ⊆ f.connections) {handler : Nat → HandlerPc}
    (hhandler : ∀ c, handler c = .new ↔ f.handler c = .new) :
    ({ f with connections := kept, handler := handler } : Fanout β).Inv where
  current := h.current
  registered c hc := mt (hhandler c).mp (h.registered c (hkept hc))
  fresh c hc := h.fresh c ((hhandler c).mp hc)
  joined := h.joined
  consecutive c hc := h.consecutive c (mt (hhandler c).mpr hc)
  broadcast t msg targets dead hlive hsends := by
    have hb := h.broadcast t msg targets dead hlive hsends
    exact ⟨hb.nodup, fun c hc ↦ ⟨mt (hhandler c).mp (hb.behind c hc).1, (hb.behind c hc).2⟩⟩
  settled c hc := h.settled c (hkept hc)

private theorem leave {c : Nat} (hc : f.handler c = .receiving) : (f.leave c).Inv := by
  apply h.shrink (Finset.erase_subset c f.connections)
  intro c'
  by_cases hc' : c' = c
  · rw [hc', Function.update_self, hc]
    simp
  · rw [Function.update_of_ne hc']

/-- Without connections the dispatcher may be cancelled, or may end. -/
theorem stop {dispatchers : Tasks (DispatcherPc β)}
    (hnone : ∀ t, ¬ ({ f with dispatchers := dispatchers } : Fanout β).Live t)
    (hsettled : ∀ c ∈ f.connections, f.sent c = f.delivered.drop (f.joinedAt c)) :
    ({ f with dispatchers := dispatchers } : Fanout β).Inv where
  current t ht := absurd ht (hnone t)
  registered := h.registered
  fresh := h.fresh
  joined := h.joined
  consecutive := h.consecutive
  broadcast t _ _ _ ht := absurd ht (hnone t)
  settled c hc := .inl (hsettled c hc)

private theorem not_live_cancel [DecidableEq β] (t : Nat) :
    ¬ ({ f with dispatchers := f.dispatchers.cancel .done } : Fanout β).Live t := by
  intro hlive
  unfold Live Tasks.cancel at hlive
  cases hcurrent : f.dispatchers.current with
  | none =>
    rw [hcurrent] at hlive
    have hsome := h.current t hlive
    rw [hcurrent] at hsome
    cases hsome
  | some t' =>
    simp only [hcurrent] at hlive
    split at hlive
    · next hdone =>
      have hsome := h.current t hlive
      rw [hcurrent] at hsome
      cases hsome
      exact hlive.1 hdone
    · by_cases ht : t = t'
      · rw [ht] at hlive
        simp at hlive
      · dsimp only at hlive
        rw [Function.update_of_ne ht] at hlive
        have hsome := h.current t hlive
        rw [hcurrent] at hsome
        cases hsome
        exact ht rfl

private theorem disconnect [DecidableEq β] {c : Nat} (hc : f.handler c = .receiving) :
    (f.disconnect c).Inv := by
  have hleave := h.leave hc
  unfold Fanout.disconnect
  split
  · next hempty =>
    apply hleave.stop hleave.not_live_cancel
    intro c' hc'
    change c' ∈ f.connections.erase c at hc'
    rw [hempty] at hc'
    cases hc'
  · exact hleave

private theorem exit (hlive : f.Live t) (hwaits : Waits (f.dispatchers.task t).pc) :
    ({ f with dispatchers := f.dispatchers.exit t .done } : Fanout β).Inv := by
  apply h.stop
  · intro t' hlive'
    by_cases ht : t' = t
    · rw [ht] at hlive'
      apply hlive'.1
      change ((f.dispatchers.goto t .done).task t).pc = .done
      rw [Tasks.task_goto_self]
    · change (f.goto t .done).Live t' at hlive'
      exact ht (h.eq_of_live hlive (hlive.of_goto hlive'))
  · intro c hc
    exact h.sent_of_waits hlive hwaits hc

/-- A cancelled dispatcher ends without a trace. -/
theorem die (hcancelled : (f.dispatchers.task t).cancelled = true) : (f.goto t .done).Inv := by
  have hlive : ∀ t', (f.goto t .done).Live t' ↔ f.Live t' := by
    intro t'
    unfold Live Fanout.goto
    by_cases ht : t' = t
    · rw [ht, Tasks.task_goto_self]
      simp [hcancelled]
    · rw [Tasks.task_goto_of_ne _ ht]
  have hsends : ∀ t' msg targets dead, f.Live t' →
      ((f.goto t .done).Sends t' msg targets dead ↔ f.Sends t' msg targets dead) := by
    intro t' msg targets dead hlive'
    have ht : t' ≠ t := by
      intro ht
      rw [ht] at hlive'
      rw [hlive'.2] at hcancelled
      cases hcancelled
    unfold Sends Fanout.goto
    rw [Tasks.task_goto_of_ne _ ht]
  exact {
    current := fun t' hlive' ↦ h.current t' ((hlive t').mp hlive')
    registered := h.registered
    fresh := h.fresh
    joined := h.joined
    consecutive := h.consecutive
    broadcast := by
      intro t' msg targets dead hlive' hsends'
      have hlive' := (hlive t').mp hlive'
      have hb := h.broadcast t' msg targets dead hlive'
        ((hsends t' msg targets dead hlive').mp hsends')
      exact ⟨hb.nodup, hb.behind⟩
    settled := by
      intro c hc
      cases h.settled c hc with
      | inl heq => exact .inl heq
      | inr howed =>
        have ⟨t', msg, targets, dead, hlive', hsends', hin⟩ := howed
        exact .inr ⟨t', msg, targets, dead, (hlive t').mpr hlive',
          (hsends t' msg targets dead hlive').mpr hsends', hin⟩ }

/-- A connection that registers is owed nothing, and finds a dispatcher or creates one. -/
theorem connect [DecidableEq β] {c : Nat} (hc : f.handler c = .new) : (f.connect c).Inv := by
  have hold : ∀ t', f.Live t' → (f.connect c).Live t' ∧
      ∀ msg targets dead, (f.connect c).Sends t' msg targets dead ↔ f.Sends t' msg targets dead := by
    intro t' hlive'
    have hnot : ¬ f.dispatchers.current.all (fun t ↦ (f.dispatchers.task t).pc = .done) := by
      rw [h.current t' hlive']
      simpa using hlive'.1
    unfold Live Sends Fanout.connect Tasks.ensure
    dsimp only
    rw [if_neg hnot]
    exact ⟨hlive', fun _ _ _ ↦ .rfl⟩
  have hnew : ∀ t', (f.connect c).Live t' → (f.connect c).dispatchers.current = some t' ∧
      ∀ msg targets dead, (f.connect c).Sends t' msg targets dead →
        f.Live t' ∧ f.Sends t' msg targets dead := by
    intro t' hlive'
    unfold Live Sends Fanout.connect Tasks.ensure at *
    dsimp only at *
    split at hlive'
    · next hdone =>
      rw [if_pos hdone]
      have hnone : ∀ t, ¬ f.Live t := by
        intro t hlive
        rw [h.current t hlive] at hdone
        exact hlive.1 (by simpa using hdone)
      by_cases ht : t' = f.dispatchers.created
      · rw [ht]
        refine ⟨rfl, ?_⟩
        intro msg targets dead hsends
        have ⟨_, _, hpc⟩ := hsends
        simp at hpc
      · dsimp only at hlive'
        rw [Function.update_of_ne ht] at hlive'
        exact absurd hlive' (hnone t')
    · next hdone =>
      rw [if_neg hdone]
      exact ⟨h.current t' hlive', fun _ _ _ hsends ↦ ⟨hlive', hsends⟩⟩
  have hjoined : ∀ c', c' ≠ c → (f.connect c).joinedAt c' = f.joinedAt c' ∧
      (f.connect c).handler c' = f.handler c' := by
    intro c' hc'
    exact ⟨Function.update_of_ne hc' _ _, Function.update_of_ne hc' _ _⟩
  have hself : (f.connect c).handler c = .receiving ∧
      f.sent c = f.delivered.drop ((f.connect c).joinedAt c) := by
    refine ⟨Function.update_self _ _ _, ?_⟩
    rw [h.fresh c hc]
    change _ = f.delivered.drop (Function.update f.joinedAt c f.delivered.length c)
    rw [Function.update_self, List.drop_length]
  exact {
    current := fun t' hlive' ↦ (hnew t' hlive').1
    registered := by
      intro c' hc'
      by_cases heq : c' = c
      · rw [heq, hself.1]
        simp
      · rw [(hjoined c' heq).2]
        exact h.registered c' (Finset.mem_of_mem_insert_of_ne hc' heq)
    fresh := by
      intro c' hc'
      by_cases heq : c' = c
      · rw [heq]
        exact h.fresh c hc
      · rw [(hjoined c' heq).2] at hc'
        exact h.fresh c' hc'
    joined := by
      intro c'
      by_cases heq : c' = c
      · rw [heq]
        change Function.update f.joinedAt c f.delivered.length c ≤ f.delivered.length
        rw [Function.update_self]
      · rw [(hjoined c' heq).1]
        exact h.joined c'
    consecutive := by
      intro c' hc'
      by_cases heq : c' = c
      · rw [heq]
        change f.sent c <+: f.delivered.drop ((f.connect c).joinedAt c)
        rw [← hself.2]
      · rw [(hjoined c' heq).2] at hc'
        rw [(hjoined c' heq).1]
        exact h.consecutive c' hc'
    broadcast := by
      intro t' msg targets dead hlive' hsends'
      have ⟨hlive, hsends⟩ := (hnew t' hlive').2 msg targets dead hsends'
      have hb := h.broadcast t' msg targets dead hlive hsends
      refine ⟨hb.nodup, ?_⟩
      intro c' hc'
      have ⟨hregistered, hbehind⟩ := hb.behind c' hc'
      have heq : c' ≠ c := fun heq ↦ hregistered (heq ▸ hc)
      rw [(hjoined c' heq).1, (hjoined c' heq).2]
      exact ⟨hregistered, hbehind⟩
    settled := by
      intro c' hc'
      by_cases heq : c' = c
      · rw [heq]
        exact .inl hself.2
      · rw [(hjoined c' heq).1]
        cases h.settled c' (Finset.mem_of_mem_insert_of_ne hc' heq) with
        | inl hsent => exact .inl hsent
        | inr howed =>
          have ⟨t', msg, targets, dead, hlive', hsends', hin⟩ := howed
          have ⟨hlive, hsends⟩ := hold t' hlive'
          exact .inr ⟨t', msg, targets, dead, hlive, (hsends msg targets dead).mpr hsends', hin⟩ }

private theorem publish (msg : Message β) :
    ({ f with outbox := f.outbox.step (.put msg) } : Fanout β).Inv where
  current := h.current
  registered := h.registered
  fresh := h.fresh
  joined := h.joined
  consecutive := h.consecutive
  broadcast t msg targets dead hlive hsends := by
    have hb := h.broadcast t msg targets dead hlive hsends
    exact ⟨hb.nodup, hb.behind⟩
  settled := h.settled

/-- A message that leaves the outbox is owed to the connections of that moment. -/
theorem fetch (hlive : f.Live t) (hwaits : Waits (f.dispatchers.task t).pc) {msg : Numbered β}
    (hmsg : f.outbox.queue.get.1 = some msg) (lastActive : ℚ) (n : Nat) {order : List Nat}
    (hnodup : order.Nodup) (horder : order.toFinset = f.connections) :
    ({ f.goto t (.sending lastActive n msg order []) with outbox := f.outbox.step .get } :
      Fanout β).Inv := by
  have hdelivered : (f.outbox.step .get).delivered = f.delivered ++ [msg] := by
    change f.outbox.delivered ++ f.outbox.queue.get.1.toList = _
    rw [hmsg]
    rfl
  have hdrop : ∀ c, (f.outbox.step .get).delivered.drop (f.joinedAt c) =
      f.delivered.drop (f.joinedAt c) ++ [msg] := by
    intro c
    rw [hdelivered, List.drop_append_of_le_length (h.joined c)]
  exact {
    current := fun t' hlive' ↦ h.current t' (hlive.of_goto hlive')
    registered := h.registered
    fresh := h.fresh
    joined := by
      intro c
      change f.joinedAt c ≤ (f.outbox.step .get).delivered.length
      rw [hdelivered, List.length_append]
      have hle := h.joined c
      omega
    consecutive := by
      intro c hc
      change f.sent c <+: (f.outbox.step .get).delivered.drop (f.joinedAt c)
      rw [hdrop]
      exact (h.consecutive c hc).trans (List.prefix_append _ _)
    broadcast := by
      intro t' msg' targets dead hlive' hsends
      have ht := h.eq_of_live hlive (hlive.of_goto hlive')
      cases Sends.of_goto hsends with
      | inl hmoved =>
        have ⟨_, _, _, hsending⟩ := hmoved
        cases hsending
        refine ⟨hnodup, ?_⟩
        intro c hc
        have hconnected : c ∈ f.connections := by
          rw [← horder]
          exact List.mem_toFinset.mpr hc
        refine ⟨h.registered c hconnected, ?_⟩
        change f.sent c ++ [msg] = (f.outbox.step .get).delivered.drop (f.joinedAt c)
        rw [hdrop, h.sent_of_waits hlive hwaits hconnected]
      | inr hother => exact absurd ht hother.1
    settled := by
      intro c hc
      right
      refine ⟨t, msg, order, [], hlive.goto (by simp), f.sends_goto t lastActive n msg order [], .inl ?_⟩
      rw [← List.mem_toFinset, horder]
      exact hc }

/-- What a broadcast owes to the connections after the next one. -/
theorem owed_send (hlive : f.Live t) {msg : Numbered β} {c : Nat} {targets dead : List Nat}
    (hsends : f.Sends t msg (c :: targets) dead) (lastActive : ℚ) (n : Nat) {ok : Bool} {c' : Nat}
    (howed : f.Owed c') (hne : ok = true → c' ≠ c) :
    (f.send t lastActive n msg c targets dead ok).Owed c' := by
  have ⟨t', msg', targets', dead', hlive', hsends', hin⟩ := howed
  rw [h.eq_of_live hlive hlive'] at hsends'
  have ⟨_, htargets, hdead⟩ := hsends.unique hsends'
  rw [← htargets, ← hdead, List.mem_cons] at hin
  cases ok with
  | true =>
    refine ⟨t, msg, targets, dead, hlive.goto (by simp), f.sends_goto t lastActive n msg targets dead,
      ?_⟩
    simpa [hne rfl] using hin
  | false =>
    refine ⟨t, msg, targets, dead ++ [c], hlive.goto (by simp),
      f.sends_goto t lastActive n msg targets (dead ++ [c]), ?_⟩
    rw [List.mem_append, List.mem_singleton]
    tauto

/-- The message of a broadcast reaches a connection, or the connection is to be dropped. -/
theorem send (hlive : f.Live t) {msg : Numbered β} {c : Nat} {targets dead : List Nat}
    (hsends : f.Sends t msg (c :: targets) dead) (lastActive : ℚ) (n : Nat) (ok : Bool) :
    (f.send t lastActive n msg c targets dead ok).Inv := by
  have hb := h.broadcast t msg (c :: targets) dead hlive hsends
  have hc := hb.behind c List.mem_cons_self
  have hnotin := (List.nodup_cons.mp hb.nodup).1
  cases ok with
  | true =>
    have hself : (f.send t lastActive n msg c targets dead true).sent c =
        f.delivered.drop (f.joinedAt c) :=
      (Function.update_self c _ f.sent).trans hc.2
    have hother : ∀ c', c' ≠ c →
        (f.send t lastActive n msg c targets dead true).sent c' = f.sent c' :=
      fun c' hc' ↦ Function.update_of_ne hc' _ f.sent
    exact {
      current := fun t' hlive' ↦ h.current t' (hlive.of_goto hlive')
      registered := h.registered
      fresh := by
        intro c' hc'
        have hne : c' ≠ c := fun heq ↦ hc.1 (heq ▸ hc')
        rw [hother c' hne]
        exact h.fresh c' hc'
      joined := h.joined
      consecutive := by
        intro c' hc'
        by_cases heq : c' = c
        · rw [heq, hself]
          exact List.prefix_rfl
        · rw [hother c' heq]
          exact h.consecutive c' hc'
      broadcast := by
        intro t' msg' targets' dead' hlive' hsends'
        have ht := h.eq_of_live hlive (hlive.of_goto hlive')
        cases Sends.of_goto hsends' with
        | inl hmoved =>
          have ⟨_, _, _, hsending⟩ := hmoved
          cases hsending
          refine ⟨(List.nodup_cons.mp hb.nodup).2, ?_⟩
          intro c' hc'
          have hne : c' ≠ c := fun heq ↦ hnotin (heq ▸ hc')
          rw [hother c' hne]
          exact hb.behind c' (List.mem_cons_of_mem c hc')
        | inr hne => exact absurd ht hne.1
      settled := by
        intro c' hc'
        by_cases heq : c' = c
        · rw [heq]
          exact .inl hself
        · rw [hother c' heq]
          cases h.settled c' hc' with
          | inl hsent => exact .inl hsent
          | inr howed => exact .inr (h.owed_send hlive hsends lastActive n howed (fun _ ↦ heq)) }
  | false =>
    exact {
      current := fun t' hlive' ↦ h.current t' (hlive.of_goto hlive')
      registered := h.registered
      fresh := h.fresh
      joined := h.joined
      consecutive := h.consecutive
      broadcast := by
        intro t' msg' targets' dead' hlive' hsends'
        have ht := h.eq_of_live hlive (hlive.of_goto hlive')
        cases Sends.of_goto hsends' with
        | inl hmoved =>
          have ⟨_, _, _, hsending⟩ := hmoved
          cases hsending
          exact ⟨(List.nodup_cons.mp hb.nodup).2, fun c' hc' ↦
            hb.behind c' (List.mem_cons_of_mem c hc')⟩
        | inr hne => exact absurd ht hne.1
      settled := by
        intro c' hc'
        cases h.settled c' hc' with
        | inl hsent => exact .inl hsent
        | inr howed => exact .inr (h.owed_send hlive hsends lastActive n howed (by simp)) }

/-- After a broadcast the connections that it has not reached are dropped. -/
theorem finish (hlive : f.Live t) {msg : Numbered β} {dead : List Nat} (hsends : f.Sends t msg [] dead)
    (lastActive : ℚ) (n : Nat) :
    ({ f.goto t (.burst lastActive n) with connections := f.connections \ dead.toFinset } :
      Fanout β).Inv where
  current t' hlive' := h.current t' (hlive.of_goto hlive')
  registered c hc := h.registered c (Finset.mem_sdiff.mp hc).1
  fresh := h.fresh
  joined := h.joined
  consecutive := h.consecutive
  broadcast t' msg' targets' dead' hlive' hsends' := by
    have ht := h.eq_of_live hlive (hlive.of_goto hlive')
    cases Sends.of_goto hsends' with
    | inl hmoved =>
      have ⟨_, _, _, hsending⟩ := hmoved
      cases hsending
    | inr hne => exact absurd ht hne.1
  settled c hc := by
    have ⟨hconnected, hdead⟩ := Finset.mem_sdiff.mp hc
    cases h.settled c hconnected with
    | inl hsent => exact .inl hsent
    | inr howed =>
      have ⟨t', msg', targets', dead', hlive', hsends', hin⟩ := howed
      rw [h.eq_of_live hlive hlive'] at hsends'
      have ⟨_, htargets, hdead'⟩ := hsends.unique hsends'
      rw [← htargets, ← hdead'] at hin
      cases hin with
      | inl hmem => cases hmem
      | inr hmem => exact absurd (List.mem_toFinset.mpr hmem) hdead

/-- Every kind of step keeps the invariant. -/
theorem move [DecidableEq β] {stops : Prop} {f' : Fanout β} (hmove : Move stops f f') : f'.Inv := by
  cases hmove with
  | publish msg => exact h.publish msg
  | shrink hkept => exact h.shrink hkept (fun _ ↦ .rfl)
  | connect c hc => exact h.connect hc
  | leave c hc => exact h.leave hc
  | disconnect c hc => exact h.disconnect hc
  | die hcancelled => exact h.die hcancelled
  | goto hlive hwaits hpc => exact h.goto hlive hwaits hpc
  | exit hlive hwaits _ => exact h.exit hlive hwaits
  | fetch hlive hwaits hmsg lastActive n hnodup horder =>
    exact h.fetch hlive hwaits hmsg lastActive n hnodup horder
  | send hlive hsends lastActive n ok => exact h.send hlive hsends lastActive n ok
  | finish hlive hsends lastActive n => exact h.finish hlive hsends lastActive n

end Inv

end Fanout

namespace WsState

open Fanout

variable {cfg : WsConfig}

/-- The heartbeat takes connections away, and touches nothing else that is shared. -/
theorem toFanout_beat {s s' : WsState β} {t : Nat} {now : ℚ} {order : List Nat} {ok : Bool}
    (h : s.beat cfg t now order ok = some s') :
    ∃ kept ⊆ s.connections, s'.toFanout = { s.toFanout with connections := kept } := by
  unfold beat at h
  split at h
  · cases h
  · split at h
    · cases h
      exact ⟨s.connections, subset_rfl, rfl⟩
    · split at h
      · cases h
        exact ⟨s.connections, subset_rfl, rfl⟩
      · split at h
        · cases h
          exact ⟨s.connections, subset_rfl, rfl⟩
        · split at h
          · cases h
            exact ⟨s.connections, subset_rfl, rfl⟩
          · cases h
      · cases h
        exact ⟨s.connections \ s.stale cfg now, Finset.sdiff_subset, rfl⟩
      · next c targets _ =>
        cases ok with
        | true =>
          cases h
          exact ⟨s.connections, subset_rfl, rfl⟩
        | false =>
          cases h
          exact ⟨s.connections.erase c, Finset.erase_subset c s.connections, rfl⟩
      · cases h

variable [DecidableEq β]

/-- The step shuts an idle dispatcher down. -/
def ShutsDown (cfg : WsConfig) (s : WsState β) : WsAction β → Prop
  | .dispatch t now _ _ => s.Idles cfg t now
  | _ => False

/-- Every step moves what is shared, or leaves it as it is. -/
theorem move_of_act {s s' : WsState β} {a : WsAction β} (h : s.act cfg a = some s') :
    s'.toFanout = s.toFanout ∨ Move (s.ShutsDown cfg a) s.toFanout s'.toFanout := by
  have hperform := (Option.ite_none_right_eq_some.mp h).2
  cases a with
  | publish msg =>
    cases hperform
    exact .inr (.publish s.toFanout msg)
  | connect c now =>
    have ⟨hnew, hs⟩ := Option.ite_none_right_eq_some.mp hperform
    cases hs
    exact .inr (.connect s.toFanout c hnew)
  | pong c now =>
    have ⟨_, hs⟩ := Option.ite_none_right_eq_some.mp hperform
    cases hs
    exact .inl rfl
  | disconnect c =>
    have ⟨hreceiving, hs⟩ := Option.ite_none_right_eq_some.mp hperform
    cases hs
    exact .inr (.disconnect s.toFanout c hreceiving)
  | abort c =>
    have ⟨hreceiving, hs⟩ := Option.ite_none_right_eq_some.mp hperform
    cases hs
    exact .inr (.leave s.toFanout c hreceiving)
  | dispatch t now order ok =>
    have ⟨f, hf, hs⟩ := Option.map_eq_some_iff.mp hperform
    cases hs
    exact .inr (move_of_dispatch hf)
  | beat t now order ok =>
    have ⟨kept, hkept, hs⟩ := toFanout_beat hperform
    rw [hs]
    exact .inr (.shrink s.toFanout hkept)

omit [DecidableEq β] in
private theorem inv_start (cfg : WsConfig) : (start cfg : WsState β).Inv where
  current _ hlive := absurd rfl hlive.1
  registered c hc := absurd hc (Finset.notMem_empty c)
  fresh _ _ := rfl
  joined _ := Nat.zero_le _
  consecutive _ hc := absurd rfl hc
  broadcast _ _ _ _ hlive := absurd rfl hlive.1
  settled c hc := absurd hc (Finset.notMem_empty c)

/-- Every reachable state satisfies the invariant. -/
theorem inv_of_reachable {s : WsState β} (h : (system cfg).Reachable s) : s.Inv := by
  apply System.Reachable.invariant (I := fun s : WsState β ↦ s.Inv) ?_ ?_ h
  · intro s hs
    rw [hs]
    exact inv_start cfg
  · intro s a s' hinv hstep
    cases move_of_act hstep with
    | inl hsame =>
      rw [hsame]
      exact hinv
    | inr hmove => exact hinv.move hmove

/-- The outbox of every reachable state comes from a run of puts and gets. -/
theorem outbox_of_reachable {s : WsState β} (h : (system cfg).Reachable s) :
    ∃ ops, s.outbox = .run cfg.outboxMaxsize ops := by
  apply System.Reachable.invariant
    (I := fun s : WsState β ↦ ∃ ops, s.outbox = .run cfg.outboxMaxsize ops) ?_ ?_ h
  · intro s hs
    rw [hs]
    exact ⟨[], rfl⟩
  · intro s a s' hrun hstep
    have ⟨ops, hops⟩ := hrun
    have happend : ∀ op, ∃ ops, s.outbox.step op = .run cfg.outboxMaxsize ops :=
      fun op ↦ ⟨ops ++ [op], by rw [History.run_concat, hops]⟩
    cases move_of_act hstep with
    | inl hsame => exact ⟨ops, by rw [hsame, hops]⟩
    | inr hmove =>
      generalize s'.toFanout = f' at hmove ⊢
      cases hmove with
      | publish msg => exact happend (.put msg)
      | fetch => exact happend .get
      | shrink | connect | leave | die | goto | exit | finish => exact hrun
      | disconnect c =>
        unfold Fanout.disconnect
        split <;> exact hrun
      | send _ _ _ _ ok => cases ok <;> exact hrun

end WsState

/-! ### What clients receive -/

namespace Fanout

/-- A broadcast is under way. -/
def Broadcasting (f : Fanout β) : Prop :=
  ∃ t msg targets dead, f.Live t ∧ f.Sends t msg targets dead

/-- What the endpoint promises its clients. -/
structure Delivers (f : Fanout β) : Prop where
  single : ∀ t t', f.Live t → f.Live t' → t = t'
  consecutive : ∀ c, f.handler c ≠ .new → f.sent c <+: f.delivered.drop (f.joinedAt c)
  complete : ∀ c ∈ f.connections, ¬ f.Broadcasting → f.sent c = f.delivered.drop (f.joinedAt c)

private theorem Inv.delivers {f : Fanout β} (h : f.Inv) : f.Delivers where
  single t t' hlive hlive' := h.eq_of_live hlive' hlive
  consecutive := h.consecutive
  complete c hc hquiet := by
    cases h.settled c hc with
    | inl hsent => exact hsent
    | inr howed =>
      have ⟨t, msg, targets, dead, hlive, hsends, _⟩ := howed
      exact absurd ⟨t, msg, targets, dead, hlive, hsends⟩ hquiet

end Fanout

namespace WsState

variable {cfg : WsConfig} [DecidableEq β]

/-- At most one dispatcher goes on. Every client is sent the messages that leave the outbox from its
registration on, one after another without gap or repetition, and lacks none of them while it is
registered and no broadcast is under way. -/
theorem clients_sent_consecutively {s : WsState β} (h : (system cfg).Reachable s) : s.Delivers :=
  (inv_of_reachable h).delivers

/-- The second client registers while the first message is on its way to the first one. -/
def lateClient : List (WsAction Nat) :=
  [.connect 1 0, .publish ⟨"device.status.changed", some "olt", 0⟩, .dispatch 0 0 [] true,
    .dispatch 0 0 [] true, .dispatch 0 0 [1] true, .connect 2 0,
    .publish ⟨"device.status.changed", some "olt", 1⟩, .dispatch 0 0 [] true, .dispatch 0 0 [] true,
    .dispatch 0 0 [2, 1] true, .dispatch 0 0 [] true, .dispatch 0 0 [] true, .dispatch 0 0 [] true]

/-- The state after `lateClient`, at rest. -/
structure AfterLateClient (s : WsState Nat) : Prop where
  first : (s.sent 1).map (·.2.body) = [0, 1]
  second : (s.sent 2).map (·.2.body) = [1]
  connected : 2 ∈ s.connections
  receiving : s.handler 2 = .receiving
  empty : s.outbox.queue.dq = []
  current : s.dispatchers.current = some 0
  waits : (s.dispatchers.task 0).pc = .burst 0 2
  newest : (BoundedCoalescingQueue.ofKey keyOf (some "dev:olt:status") s.outbox.puts).getLast? =
    some (1, ⟨"device.status.changed", some "olt", 1⟩)
  later : (1, ⟨"device.status.changed", some "olt", 1⟩) ∉ s.outbox.delivered.take (s.joinedAt 2)

private theorem reachable_lateClient : ∃ s, (system {}).Reachable s ∧ AfterLateClient s := by
  have hrun : (System.run (act {}) (start {}) lateClient).any (fun s ↦
      ((s.sent 1).map (·.2.body) = [0, 1] ∧ (s.sent 2).map (·.2.body) = [1] ∧ 2 ∈ s.connections ∧
        s.handler 2 = .receiving) ∧ s.outbox.queue.dq = [] ∧ s.dispatchers.current = some 0 ∧
      (s.dispatchers.task 0).pc = .burst 0 2 ∧
      (BoundedCoalescingQueue.ofKey keyOf (some "dev:olt:status") s.outbox.puts).getLast? =
        some (1, ⟨"device.status.changed", some "olt", 1⟩) ∧
      (1, ⟨"device.status.changed", some "olt", 1⟩) ∉ s.outbox.delivered.take (s.joinedAt 2)) =
        true := by
    decide +kernel
  have ⟨s, hs, hafter⟩ := (Option.any_eq_true _ _).mp hrun
  have ⟨⟨hfirst, hsecond, hconnected, hreceiving⟩, hempty, hcurrent, hwaits, hnewest, hlater⟩ :=
    of_decide_eq_true hafter
  exact ⟨s, .run _ (fun _ _ _ h ↦ h) _ (.init rfl) hs,
    ⟨hfirst, hsecond, hconnected, hreceiving, hempty, hcurrent, hwaits, hnewest, hlater⟩⟩

/-- A client that connects late is sent every message of the dispatcher from then on. -/
theorem clients_sent_consecutively_lateClient : ∃ s, AfterLateClient s ∧ s.Delivers := by
  have ⟨s, hreach, hafter⟩ := reachable_lateClient
  exact ⟨s, hafter, clients_sent_consecutively hreach⟩

/-- For each key a client sees newer messages only, and while it is registered, the outbox is empty
and no broadcast is under way, it has seen the newest one of its time, unless an overflow has pushed
that one out. -/
theorem clients_see_newest {s : WsState β} (h : (system cfg).Reachable s) :
    ∃ ops, s.outbox = .run cfg.outboxMaxsize ops ∧ ∀ c, s.handler c ≠ .new →
      (∀ k, (BoundedCoalescingQueue.ofKey keyOf k (s.sent c)).Sublist
        (BoundedCoalescingQueue.ofKey keyOf k s.outbox.puts)) ∧
      (c ∈ s.connections → s.outbox.queue.dq = [] → ¬ s.Broadcasting → ∀ k m,
        (BoundedCoalescingQueue.ofKey keyOf (some k) s.outbox.puts).getLast? = some m →
          m ∉ s.outbox.delivered.take (s.joinedAt c) →
            m ∈ s.sent c ∨ History.Evicted cfg.outboxMaxsize ops m) := by
  have ⟨ops, hops⟩ := outbox_of_reachable h
  have hdelivers := (inv_of_reachable h).delivers
  have houtbox := History.inv_run (β := β) cfg.outboxMaxsize ops
  rw [← hops] at houtbox
  refine ⟨ops, hops, ?_⟩
  intro c hc
  constructor
  · intro k
    have hsent : (s.sent c).Sublist (s.outbox.delivered ++ s.outbox.queue.dq) :=
      ((hdelivers.consecutive c hc).sublist.trans (List.drop_sublist _ _)).trans
        (List.sublist_append_left _ _)
    exact (hsent.filter _).trans (houtbox.ordered k)
  · intro hconnected hempty hquiet k m hlast hearlier
    cases houtbox.latest k m hlast with
    | inl hdelivered =>
      left
      rw [hdelivers.complete c hconnected hquiet]
      rw [← List.take_append_drop (s.joinedAt c) s.outbox.delivered, List.mem_append] at hdelivered
      exact hdelivered.resolve_left hearlier
    | inr hrest =>
      cases hrest with
      | inl hpending =>
        rw [hempty] at hpending
        cases hpending
      | inr hevicted => exact .inr hevicted

/-- A client that connects late sees the newest status. -/
theorem clients_see_newest_lateClient : ∃ s ops, AfterLateClient s ∧
    ((1, ⟨"device.status.changed", some "olt", 1⟩) ∈ s.sent 2 ∨
      History.Evicted 1024 ops (1, ⟨"device.status.changed", some "olt", 1⟩)) := by
  have ⟨s, hreach, hafter⟩ := reachable_lateClient
  have ⟨ops, _, hclients⟩ := clients_see_newest hreach
  refine ⟨s, ops, hafter, ?_⟩
  apply (hclients 2 (by rw [hafter.receiving]; simp)).2 hafter.connected hafter.empty ?_ _ _
    hafter.newest hafter.later
  intro hbroadcasting
  have ⟨t, msg, targets, dead, hlive, hsends⟩ := hbroadcasting
  have ht := (inv_of_reachable hreach).current t hlive
  rw [hafter.current] at ht
  cases ht
  apply hsends.not_waits
  rw [hafter.waits]
  trivial

end WsState

end Unoc.Realtime
