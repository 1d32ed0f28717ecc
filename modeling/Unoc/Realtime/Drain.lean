import Mathlib.Logic.Relation
import Unoc.Realtime.Delivery

/-!
# When the outbox is drained

A dispatcher that shuts down as idle does not look at the connections again, so that a client that has
connected during its last sleep is left without one. Where that does not happen, a dispatcher goes on
whenever a client is registered, and its own steps empty the outbox and bring every client up to date.
-/

namespace Unoc.Realtime

open Unoc.Base

variable {β : Type}

namespace Fanout

/-! ### Dispatchers that stay -/

/-- Where there are connections, a dispatcher goes on, and the current one is never cancelled. -/
structure Served (f : Fanout β) : Prop where
  uncancelled : ∀ t, f.dispatchers.current = some t → (f.dispatchers.task t).cancelled = false
  live : f.connections ≠ ∅ → ∃ t, f.Live t

namespace Served

variable {f : Fanout β} (h : f.Served)
include h

private theorem shrink {kept : Finset Nat} (hkept : kept ⊆ f.connections)
    (handler : Nat → HandlerPc) :
    ({ f with connections := kept, handler := handler } : Fanout β).Served where
  uncancelled := h.uncancelled
  live hne := h.live (fun hempty ↦ hne (Finset.subset_empty.mp (hempty ▸ hkept)))

private theorem disconnect [DecidableEq β] (c : Nat) : (f.disconnect c).Served := by
  have hleave : (f.leave c).Served := h.shrink (Finset.erase_subset c f.connections) _
  unfold Fanout.disconnect
  split
  · next hempty =>
    refine ⟨?_, fun hne ↦ absurd hempty hne⟩
    intro t ht
    change (f.dispatchers.cancel .done).current = some t at ht
    unfold Tasks.cancel at ht
    split at ht
    · next hnone =>
      rw [hnone] at ht
      cases ht
    · split at ht <;> cases ht
  · exact hleave

private theorem connect [DecidableEq β] (c : Nat) : (f.connect c).Served := by
  unfold Fanout.connect Tasks.ensure
  split
  · constructor
    · intro t ht
      cases ht
      change (Function.update f.dispatchers.task _ _ _).cancelled = false
      rw [Function.update_self]
    · intro _
      refine ⟨f.dispatchers.created, ?_⟩
      unfold Live
      dsimp only
      rw [Function.update_self]
      exact ⟨by simp, rfl⟩
  · next hcurrent =>
    refine ⟨h.uncancelled, fun _ ↦ ?_⟩
    cases ht : f.dispatchers.current with
    | none => simp [ht] at hcurrent
    | some t =>
      rw [ht] at hcurrent
      exact ⟨t, by simpa using hcurrent, h.uncancelled t ht⟩

/-- A dispatcher that moves on, or that was cancelled before it ends. -/
theorem goto {t : Nat} {pc : DispatcherPc β} {g : Fanout β}
    (hg : g.dispatchers = f.dispatchers.goto t pc) (hconn : g.connections ⊆ f.connections)
    (hpc : f.Live t → pc ≠ .done) : g.Served := by
  constructor
  · intro t' ht'
    rw [hg] at ht' ⊢
    have hold := h.uncancelled t' ht'
    by_cases ht : t' = t
    · rw [ht, Tasks.task_goto_self]
      exact ht ▸ hold
    · rw [Tasks.task_goto_of_ne _ ht]
      exact hold
  · intro hne
    have ⟨t', hlive⟩ := h.live (fun hempty ↦ hne (Finset.subset_empty.mp (hempty ▸ hconn)))
    refine ⟨t', ?_⟩
    unfold Live
    rw [hg]
    by_cases ht : t' = t
    · rw [ht] at hlive ⊢
      rw [Tasks.task_goto_self]
      exact ⟨hpc hlive, hlive.2⟩
    · rw [Tasks.task_goto_of_ne _ ht]
      exact hlive

/-- Steps that shut a dispatcher down only without connections keep the others served. -/
theorem move [DecidableEq β] {stops : Prop} (hstops : stops → f.connections = ∅) {f' : Fanout β}
    (hmove : Move stops f f') : f'.Served := by
  cases hmove with
  | publish msg => exact ⟨h.uncancelled, h.live⟩
  | shrink hkept => exact h.shrink hkept f.handler
  | connect c hc => exact h.connect c
  | leave c hc => exact h.shrink (Finset.erase_subset c f.connections) _
  | disconnect c hc => exact h.disconnect c
  | @die t hcancelled =>
    apply h.goto (g := f.goto t .done) rfl subset_rfl
    intro hlive
    rw [hlive.2] at hcancelled
    cases hcancelled
  | @goto t hlive hwaits pc hpc =>
    apply h.goto (g := f.goto t pc) rfl subset_rfl
    intro _ hdone
    rw [hdone] at hpc
    exact hpc
  | exit hlive hwaits hs =>
    refine ⟨?_, fun hne ↦ absurd (hstops hs) hne⟩
    intro t ht
    cases ht
  | fetch => exact Served.goto h rfl subset_rfl (fun _ ↦ by simp)
  | send _ _ _ _ ok => cases ok <;> exact Served.goto h rfl subset_rfl (fun _ ↦ by simp)
  | finish => exact Served.goto h rfl Finset.sdiff_subset (fun _ ↦ by simp)

end Served
/-! ### The steps of one dispatcher -/

/-- The connections that a broadcast has failed to reach. -/
def deadOf : DispatcherPc β → List Nat
  | .sending _ _ _ _ dead => dead
  | _ => []

/-- Steps until the next message is taken, at most. -/
def stepsToFetch : DispatcherPc β → Nat
  | .burst _ n => if n < 256 then 0 else 3
  | .top _ => 1
  | .created | .idle _ | .pause _ => 2
  | .sending _ _ _ targets _ => targets.length + 4
  | .done => 0

/-- The dispatcher has nothing left to send, or nobody to send it to. -/
def Rested (f : Fanout β) (t : Nat) : Prop :=
  Waits (f.dispatchers.task t).pc ∧ (f.outbox.queue.dq = [] ∨ f.connections = ∅)

/-- What the steps of a dispatcher whose sends succeed leave as it is. -/
structure Kept (t : Nat) (f f' : Fanout β) : Prop where
  messages : f'.delivered ++ f'.outbox.queue.dq = f.delivered ++ f.outbox.queue.dq
  connections : f'.connections \ (deadOf (f'.dispatchers.task t).pc).toFinset =
    f.connections \ (deadOf (f.dispatchers.task t).pc).toFinset
  joinedAt : f'.joinedAt = f.joinedAt

private theorem Kept.trans {t : Nat} {f f' f'' : Fanout β} (h : Kept t f f') (h' : Kept t f' f'') :
    Kept t f f'' where
  messages := h'.messages.trans h.messages
  connections := h'.connections.trans h.connections
  joinedAt := h'.joinedAt.trans h.joinedAt

/-- A step brings the dispatcher nearer to rest. -/
def Nearer (t : Nat) (f f' : Fanout β) : Prop :=
  f'.outbox.queue.dq.length < f.outbox.queue.dq.length ∨
    f'.outbox.queue.dq = f.outbox.queue.dq ∧
      stepsToFetch (f'.dispatchers.task t).pc < stepsToFetch (f.dispatchers.task t).pc

private theorem kept_goto {f : Fanout β} {t : Nat} {pc : DispatcherPc β}
    (hdead : deadOf pc = deadOf (f.dispatchers.task t).pc) : Kept t f (f.goto t pc) := by
  refine ⟨rfl, ?_, rfl⟩
  unfold goto
  rw [Tasks.task_goto_self, hdead]

private theorem nearer_goto {f : Fanout β} {t : Nat} {pc : DispatcherPc β}
    (hless : stepsToFetch pc < stepsToFetch (f.dispatchers.task t).pc) : Nearer t f (f.goto t pc) := by
  refine .inr ⟨rfl, ?_⟩
  unfold goto
  rw [Tasks.task_goto_self]
  exact hless

/-- Whatever the clock says and in whatever order the connections are listed, a step of a dispatcher
that is not at rest brings it nearer. -/
theorem resume_nearer (cfg : WsConfig) {f f' : Fanout β} {t : Nat} {now : ℚ} {order : List Nat}
    (hrest : ¬ f.Rested t)
    (h : f.resume cfg t now order true (f.dispatchers.task t).pc = some f') :
    ∃ pc, f'.dispatchers = f.dispatchers.goto t pc ∧ pc ≠ .done ∧ Kept t f f' ∧ Nearer t f f' := by
  cases hpc : (f.dispatchers.task t).pc with
  | created =>
    rw [hpc] at h
    cases h
    refine ⟨.top now, rfl, by simp, kept_goto ?_, nearer_goto ?_⟩
    · rw [hpc]; rfl
    · rw [hpc]; exact Nat.one_lt_two
  | top lastActive =>
    have hconn : f.connections ≠ ∅ := fun hempty ↦ hrest ⟨by rw [hpc]; trivial, .inr hempty⟩
    rw [hpc, resume, if_neg hconn] at h
    cases h
    refine ⟨.burst lastActive 0, rfl, by simp, kept_goto ?_, nearer_goto ?_⟩
    · rw [hpc]; rfl
    · rw [hpc]; exact Nat.one_pos
  | idle lastActive =>
    -- A shutdown needs an empty outbox.
    have hstays : ¬ (f.outbox.queue.dq = [] ∧ cfg.idleShutdownSec ≤ now - lastActive) :=
      fun hcond ↦ hrest ⟨by rw [hpc]; trivial, .inl hcond.1⟩
    rw [hpc, resume, if_neg hstays] at h
    cases h
    refine ⟨.top lastActive, rfl, by simp, kept_goto ?_, nearer_goto ?_⟩
    · rw [hpc]; rfl
    · rw [hpc]; exact Nat.one_lt_two
  | burst lastActive n =>
    rw [hpc, resume] at h
    by_cases hn : n < 256
    · cases hdq : f.outbox.queue.dq with
      | nil => exact absurd ⟨by rw [hpc]; trivial, .inl hdq⟩ hrest
      | cons msg rest =>
        have hget : f.outbox.queue.get = (some msg, { f.outbox.queue with dq := rest }) := by
          unfold BoundedCoalescingQueue.get
          rw [hdq]
        rw [if_pos hn, fetch, hget] at h
        dsimp only at h
        split at h
        · cases h
          refine ⟨.sending lastActive n msg order [], rfl, by simp, ?_, .inl ?_⟩
          · refine ⟨?_, ?_, rfl⟩
            · change (f.outbox.delivered ++ f.outbox.queue.get.1.toList) ++ f.outbox.queue.get.2.dq =
                f.outbox.delivered ++ f.outbox.queue.dq
              rw [hget, hdq]
              simp
            · change f.connections \ (deadOf ((f.dispatchers.goto t _).task t).pc).toFinset = _
              rw [Tasks.task_goto_self, hpc]
              rfl
          · change f.outbox.queue.get.2.dq.length < _
            rw [hget, hdq]
            simp
        · cases h
    · rw [if_neg hn] at h
      cases h
      refine ⟨.pause lastActive, rfl, by simp, kept_goto ?_, nearer_goto ?_⟩
      · rw [hpc]; rfl
      · rw [hpc]
        change 2 < if n < 256 then 0 else 3
        rw [if_neg hn]
        decide
  | sending lastActive n msg targets dead =>
    rw [hpc] at h
    cases targets with
    | nil =>
      cases h
      refine ⟨.burst now (n + 1), rfl, by simp, ⟨rfl, ?_, rfl⟩, .inr ⟨rfl, ?_⟩⟩
      · change (f.connections \ dead.toFinset) \
          (deadOf ((f.dispatchers.goto t (.burst now (n + 1))).task t).pc).toFinset = _
        rw [Tasks.task_goto_self, hpc]
        simp [deadOf]
      · change stepsToFetch ((f.dispatchers.goto t (.burst now (n + 1))).task t).pc < _
        rw [Tasks.task_goto_self, hpc]
        change (if n + 1 < 256 then 0 else 3) < 0 + 4
        split <;> decide
    | cons c targets =>
      cases h
      refine ⟨.sending lastActive n msg targets dead, rfl, by simp, ⟨rfl, ?_, rfl⟩, .inr ⟨rfl, ?_⟩⟩
      · change f.connections \ (deadOf
          ((f.dispatchers.goto t (.sending lastActive n msg targets dead)).task t).pc).toFinset = _
        rw [Tasks.task_goto_self, hpc]
        rfl
      · change stepsToFetch
          ((f.dispatchers.goto t (.sending lastActive n msg targets dead)).task t).pc < _
        rw [Tasks.task_goto_self, hpc]
        change targets.length + 4 < targets.length + 1 + 4
        omega
  | pause lastActive =>
    rw [hpc] at h
    cases h
    refine ⟨.top lastActive, rfl, by simp, kept_goto ?_, nearer_goto ?_⟩
    · rw [hpc]; rfl
    · rw [hpc]; exact Nat.one_lt_two
  | done =>
    rw [hpc] at h
    cases h

/-- A dispatcher that has not ended can take a step. -/
theorem exists_resume (cfg : WsConfig) (f : Fanout β) (t : Nat) {pc : DispatcherPc β}
    (hpc : pc ≠ .done) : ∃ now order f', f.resume cfg t now order true pc = some f' := by
  cases pc with
  | idle lastActive =>
    refine ⟨0, [], ?_⟩
    rw [resume]
    split
    · exact ⟨_, rfl⟩
    · exact ⟨_, rfl⟩
  | burst lastActive n =>
    refine ⟨0, f.connections.sort (· ≤ ·), ?_⟩
    have hlisted : (f.connections.sort (· ≤ ·)).Nodup ∧
        (f.connections.sort (· ≤ ·)).toFinset = f.connections :=
      ⟨Finset.sort_nodup _ _, Finset.sort_toFinset _ _⟩
    rw [resume]
    split
    · unfold fetch
      split
      · exact ⟨_, rfl⟩
      · exact ⟨_, if_pos hlisted⟩
    · exact ⟨_, rfl⟩
  | sending lastActive n msg targets dead => cases targets <;> exact ⟨0, [], _, rfl⟩
  | created | top | pause => exact ⟨0, [], _, rfl⟩
  | done => exact absurd rfl hpc

end Fanout

namespace WsState

open Fanout

variable {cfg : WsConfig} [DecidableEq β]

/-- The step shuts a dispatcher down although a connection is registered. -/
def Abandons (cfg : WsConfig) (s : WsState β) (a : WsAction β) : Prop :=
  s.connections ≠ ∅ ∧ s.ShutsDown cfg a

/-- The interleavings in which no dispatcher abandons a connection. -/
def steady (cfg : WsConfig) : System (WsState β) (WsAction β) :=
  (system cfg).restrict (fun s a ↦ ¬ s.Abandons cfg a)

/-- The only client is lost by a failed send; another one connects while the dispatcher sleeps for the
last time, and is left without one. -/
theorem client_abandoned : ∃ s : WsState Nat, (system {}).Reachable s ∧ s.connections = {2} ∧
    s.outbox.queue.dq ≠ [] ∧ ∀ t, ¬ s.Live t := by
  have hrun : (System.run (act {}) (start {})
      [.connect 1 0, .publish ⟨"link.created", none, 0⟩, .dispatch 0 0 [] true, .dispatch 0 0 [] true,
        .dispatch 0 0 [1] true, .dispatch 0 0 [] false, .dispatch 0 0 [] true, .dispatch 0 0 [] true,
        .dispatch 0 0 [] true, .dispatch 0 0 [] true, .connect 2 3, .dispatch 0 3 [] true,
        .publish ⟨"link.created", none, 1⟩]).any (fun s ↦
      s.connections = {2} ∧ s.outbox.queue.dq ≠ [] ∧ s.dispatchers.current = none) = true := by
    decide +kernel
  have ⟨s, hs, hafter⟩ := (Option.any_eq_true _ _).mp hrun
  have ⟨hconn, hpending, hcurrent⟩ := of_decide_eq_true hafter
  have hreach : (system {}).Reachable s := .run _ (fun _ _ _ h ↦ h) _ (.init rfl) hs
  refine ⟨s, hreach, hconn, hpending, ?_⟩
  intro t hlive
  have ht := (inv_of_reachable hreach).current t hlive
  rw [hcurrent] at ht
  cases ht

/-- An own step of a dispatcher that has something left to send, at any reading of the clock and for any
order of the connections. The send succeeds. -/
def Advances (cfg : WsConfig) (t : Nat) (s s' : WsState β) : Prop :=
  ¬ s.Rested t ∧ ∃ now order, s.act cfg (.dispatch t now order true) = some s'

/-- Such steps one after another. -/
def Drives (cfg : WsConfig) (t : Nat) : WsState β → WsState β → Prop :=
  Relation.ReflTransGen (Advances cfg t)

/-- Where the event loop is free for a live dispatcher, each of these steps keeps it free, and brings the
dispatcher nearer to rest. -/
theorem Advances.nearer {s s' : WsState β} {t : Nat} (hfree : s.LoopFree (some t) none)
    (hlive : s.Live t) (h : Advances cfg t s s') :
    (s'.LoopFree (some t) none ∧ s'.Live t) ∧ Kept t s.toFanout s'.toFanout ∧
      Nearer t s.toFanout s'.toFanout := by
  have ⟨hrest, now, order, hact⟩ := h
  unfold act System.guard at hact
  rw [if_pos (show s.Allows (.dispatch t now order true) from hfree)] at hact
  have ⟨f', hdispatch, hs'⟩ := Option.map_eq_some_iff.mp hact
  unfold Fanout.dispatch at hdispatch
  rw [if_neg hlive.1, if_neg (by simp [hlive.2])] at hdispatch
  have ⟨pc, hgoto, hpc, hkept, hnearer⟩ := resume_nearer cfg hrest hdispatch
  rw [← hs']
  refine ⟨⟨⟨?_, hfree.2⟩, ?_⟩, hkept, hnearer⟩
  · intro t' ht' hne
    change t' < f'.dispatchers.created at ht'
    change (f'.dispatchers.task t').pc.runs = false
    rw [hgoto] at ht' ⊢
    rw [Tasks.task_goto_of_ne pc (fun heq ↦ hne (by rw [heq]))]
    exact hfree.1 t' ht' hne
  · unfold Live
    change (f'.dispatchers.task t).pc ≠ .done ∧ (f'.dispatchers.task t).cancelled = false
    rw [hgoto, Tasks.task_goto_self]
    exact ⟨hpc, hlive.2⟩

/-- Where the event loop is free for a live dispatcher that is not at rest, it takes such a step. -/
theorem exists_advances {s : WsState β} {t : Nat} (hfree : s.LoopFree (some t) none) (hlive : s.Live t)
    (hrest : ¬ s.Rested t) : ∃ s', Advances cfg t s s' := by
  have ⟨now, order, f', hresume⟩ := exists_resume cfg s.toFanout t hlive.1
  have hdispatch : s.toFanout.dispatch cfg t now order true = some f' := by
    unfold Fanout.dispatch
    rw [if_neg hlive.1, if_neg (by simp [hlive.2]), hresume]
  refine ⟨{ s with toFanout := f' }, hrest, now, order, ?_⟩
  unfold act System.guard
  rw [if_pos (show s.Allows (.dispatch t now order true) from hfree)]
  change (s.toFanout.dispatch cfg t now order true).map _ = _
  rw [hdispatch]
  rfl

/-- These steps come to an end. The induction is on the length of the outbox, and within it on the
steps to the next message. -/
theorem acc_advances (t : Nat) (pending : Nat) : ∀ (steps : Nat) (s : WsState β),
    s.LoopFree (some t) none → s.Live t → s.outbox.queue.dq.length = pending →
      stepsToFetch (s.dispatchers.task t).pc = steps → Acc (fun s₂ s₁ ↦ Advances cfg t s₁ s₂) s := by
  induction pending using Nat.strong_induction_on with
  | _ pending ihp =>
    intro steps
    induction steps using Nat.strong_induction_on with
    | _ steps ihs =>
      intro s hfree hlive hpending hsteps
      constructor
      intro s' hadvances
      have ⟨⟨hfree', hlive'⟩, _, hnearer⟩ := hadvances.nearer hfree hlive
      cases hnearer with
      | inl hless => exact ihp _ (hpending ▸ hless) _ s' hfree' hlive' rfl rfl
      | inr hsame =>
        exact ihs _ (hsteps ▸ hsame.2) s' hfree' hlive' (by rw [hsame.1, hpending]) rfl

/-- What the steps of a dispatcher keep. -/
theorem Drives.kept {s s' : WsState β} {t : Nat} (hfree : s.LoopFree (some t) none) (hlive : s.Live t)
    (h : Drives cfg t s s') :
    (s'.LoopFree (some t) none ∧ s'.Live t) ∧ Kept t s.toFanout s'.toFanout := by
  induction h with
  | refl => exact ⟨⟨hfree, hlive⟩, rfl, rfl, rfl⟩
  | tail _ hadvances ih =>
    have ⟨⟨hfree', hlive'⟩, hkept⟩ := ih
    have ⟨hnext, hstep, _⟩ := hadvances.nearer hfree' hlive'
    exact ⟨hnext, hkept.trans hstep⟩

/-- Where steps come to an end, some state allows no other one. -/
private theorem exists_last {α : Type} {r : α → α → Prop} {a : α} (h : Acc (fun b a ↦ r a b) a) :
    ∃ b, Relation.ReflTransGen r a b ∧ ∀ c, ¬ r b c := by
  induction h with
  | intro a _ ih =>
    by_cases hnext : ∃ b, r a b
    · have ⟨b, hb⟩ := hnext
      have ⟨c, hbc, hlast⟩ := ih b hb
      exact ⟨c, .head hb hbc, hlast⟩
    · exact ⟨a, .refl, fun c hc ↦ hnext ⟨c, hc⟩⟩

private theorem reachable_of_steady {s : WsState β} (h : (steady cfg).Reachable s) :
    (system cfg).Reachable s := by
  induction h with
  | init h => exact .init h
  | step _ hs ih => exact .step ih hs.2

private theorem served_of_steady {s : WsState β} (h : (steady cfg).Reachable s) : s.Served := by
  apply System.Reachable.invariant (I := fun s : WsState β ↦ s.Served) ?_ ?_ h
  · intro s hs
    rw [hs]
    refine ⟨?_, fun hne ↦ absurd rfl hne⟩
    intro t ht
    cases ht
  · intro s a s' hserved hstep
    cases move_of_act hstep.2 with
    | inl hsame =>
      rw [hsame]
      exact hserved
    | inr hmove =>
      apply hserved.move ?_ hmove
      intro hstops
      by_contra hne
      exact hstep.1 ⟨hne, hstops⟩

private theorem inv_of_drives {t : Nat} {s s' : WsState β} (hinv : s.Inv) (h : Drives cfg t s s') :
    s'.Inv := by
  induction h with
  | refl => exact hinv
  | tail _ hstep ih =>
    have ⟨_, now, order, hact⟩ := hstep
    cases move_of_act hact with
    | inl hsame =>
      rw [hsame]
      exact ih
    | inr hmove => exact ih.move hmove

/-- What a dispatcher at rest has done since an earlier state: it has lost no client but those that the
broadcast under way had failed to reach, emptied the outbox in order, and sent each client all. -/
structure UpToDate (t : Nat) (s s' : WsState β) : Prop where
  connections : s'.connections = s.connections \ (deadOf (s.dispatchers.task t).pc).toFinset
  drained : s'.connections ≠ ∅ → s'.outbox.queue.dq = [] ∧
    s'.delivered = s.delivered ++ s.outbox.queue.dq
  sent : ∀ c ∈ s'.connections, s'.sent c = s'.delivered.drop (s.joinedAt c)

omit [DecidableEq β] in
private theorem upToDate_of_rested {s s' : WsState β} {t : Nat} (hinv : s'.Inv) (hlive : s'.Live t)
    (hrested : s'.Rested t) (hkept : Kept t s.toFanout s'.toFanout) : s.UpToDate t s' where
  connections := by
    have hdead : deadOf (s'.dispatchers.task t).pc = [] := by
      have hwaits := hrested.1
      cases hpc : (s'.dispatchers.task t).pc with
      | sending =>
        rw [hpc] at hwaits
        exact absurd hwaits (fun h ↦ h)
      | created | top | idle | burst | pause | done => rfl
    have hconnections := hkept.connections
    rw [hdead, List.toFinset_nil, Finset.sdiff_empty] at hconnections
    exact hconnections
  drained := by
    intro hne
    have hempty := hrested.2.resolve_right hne
    refine ⟨hempty, ?_⟩
    have hmessages := hkept.messages
    rw [hempty, List.append_nil] at hmessages
    exact hmessages
  sent := by
    intro c hc
    rw [hinv.sent_of_waits hlive hrested.1 hc, hkept.joinedAt]

/-- In every interleaving in which no dispatcher abandons a connection, a registered client has a
dispatcher. Where the event loop is free for it and sends succeed, any steps of its own come to an end,
and only at a state where the outbox is empty and every client up to date. -/
theorem dispatcher_drains {s : WsState β} (h : (steady cfg).Reachable s) (hconn : s.connections ≠ ∅) :
    ∃ t, s.Live t ∧ (s.LoopFree (some t) none →
      Acc (fun s₂ s₁ ↦ Advances cfg t s₁ s₂) s ∧
        ∀ s', Drives cfg t s s' → (∃ s'', Advances cfg t s' s'') ∨ s.UpToDate t s') := by
  have ⟨t, hlive⟩ := (served_of_steady h).live hconn
  refine ⟨t, hlive, ?_⟩
  intro hfree
  refine ⟨acc_advances t _ _ s hfree hlive rfl rfl, ?_⟩
  intro s' hdrives
  have ⟨⟨hfree', hlive'⟩, hkept⟩ := hdrives.kept hfree hlive
  by_cases hrested : s'.Rested t
  · have hinv := inv_of_drives (inv_of_reachable (reachable_of_steady h)) hdrives
    exact .inr (upToDate_of_rested hinv hlive' hrested hkept)
  · exact .inl (exists_advances hfree' hlive' hrested)

/-- The steps of others than the dispatchers. -/
def actOthers : WsState Nat → WsAction Nat → Option (WsState Nat)
  | _, .dispatch _ _ _ _ => none
  | s, a => s.act {} a

/-- Two clients and a message, before the dispatcher has begun. -/
theorem dispatcher_drains_twoClients : ∃ (s s' : WsState Nat) (t : Nat), s.connections = {1, 2} ∧
    Drives {} t s s' ∧ s'.outbox.queue.dq = [] ∧ s'.delivered.length = 1 := by
  have hrun : (System.run actOthers (start {})
      [.connect 1 0, .publish ⟨"link.created", none, 0⟩, .connect 2 0]).any (fun s ↦
        s.connections = {1, 2} ∧ s.LoopFree none none ∧ s.delivered = [] ∧
          s.outbox.queue.dq.length = 1 ∧ deadOf (s.dispatchers.task 0).pc = [] ∧
            s.dispatchers.current = some 0) = true := by
    decide +kernel
  have ⟨s, hs, hafter⟩ := (Option.any_eq_true _ _).mp hrun
  have ⟨hconn, hfree, hdelivered, hpending, hdead, hcurrent⟩ := of_decide_eq_true hafter
  have hreach : (steady {}).Reachable s := by
    apply System.Reachable.run actOthers ?_ _ (.init rfl) hs
    intro s a s' hact
    cases a with
    | dispatch => cases hact
    | publish | connect | pong | disconnect | abort | beat => exact ⟨fun h ↦ h.2, hact⟩
  have ⟨t, hlive, hdrains⟩ := dispatcher_drains hreach (by rw [hconn]; decide)
  have ht := (inv_of_reachable (reachable_of_steady hreach)).current t hlive
  rw [hcurrent] at ht
  cases ht
  have ⟨hacc, hends⟩ := hdrains ⟨fun t ht _ ↦ hfree.1 t ht (by simp), hfree.2⟩
  have ⟨s', hdrives, hlast⟩ := exists_last hacc
  have hdone := (hends s' hdrives).resolve_left (fun ⟨s'', hs''⟩ ↦ hlast s'' hs'')
  have hconnections := hdone.connections
  rw [hdead, hconn] at hconnections
  have ⟨hempty, hmessages⟩ := hdone.drained (by rw [hconnections]; decide)
  refine ⟨s, s', 0, hconn, hdrives, hempty, ?_⟩
  rw [hmessages, hdelivered, List.nil_append, hpending]

end WsState

end Unoc.Realtime
