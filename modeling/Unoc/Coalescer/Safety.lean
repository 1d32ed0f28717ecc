import Unoc.Coalescer.Machine

/-!
# No lost key and no self-deadlock in the coalescer

A batch leaves the pending sets before its work is done, so a body that raises loses its keys;
and the inline fallback of `schedule` runs `_execute_now` under the lock that it then waits for.
On the runs that avoid both, three invariants carry the safety property: who holds the lock,
that the recorded timer will call back, and where each scheduled key is.
-/

namespace Unoc.Coalescer

open Unoc.Base

namespace State

/-- The steps that avoid both defects: a timer that has to be started starts, and a recompute
body that holds a key does not raise. -/
def Sound (s : State) : Action → Prop
  | .scheduleBody _ startOk => startOk = true ∨ s.timer ≠ none
  | .executeBody t raises => raises = false ∨ ∀ batch, s.pc t = .executeBody batch → batch.keys = []
  | _ => True

/-- The lock is held exactly by the thread inside a critical section. -/
def LockInv (s : State) : Prop := ∀ t, (s.pc t).holds = true ↔ s.lock = some t

/-- The recorded timer is armed or its callback has not taken the pending sets yet; a timer
thread runs only after its timer fired, and timer numbers are not reused. -/
structure TimerInv (s : State) : Prop where
  live : ∀ n, s.timer = some n → s.timers n = .armed ∨ (s.pc (.timer n)).aboutToExecute = true
  idle : ∀ n, s.timers n ≠ .fired → s.pc (.timer n) = .idle
  fresh : ∀ n, s.nextTimer ≤ n → s.timers n = .unused

/-- A batch taken after time `n` holds the key, in progress or completed. -/
def Taken (s : State) (n : Nat) (key : String) : Prop :=
  (∃ t batch, (s.pc t).batch? = some batch ∧ key ∈ batch.keys ∧ n < batch.takenAt) ∨
  (∃ batch ∈ s.completed, key ∈ batch.keys ∧ n < batch.takenAt)

/-- Pending keys will be taken, and every scheduled key is pending or taken. -/
structure WorkInv (s : State) : Prop where
  pending : s.pendingKeys ≠ [] → s.timer ≠ none ∨ ∃ t, (s.pc t).aboutToExecute = true
  enabled : s.interrupted = false → s.enabled = true
  scheduled : s.interrupted = false → ∀ e ∈ s.scheduled,
    e.1 < s.clock ∧ (e.2 ∈ s.pendingKeys ∨ s.Taken e.1 e.2)

/-! ### What one step can do -/

/-- The steps by branch, each with the guard it passed. -/
inductive Move (s : State) : Action → State → Prop where
  | callSchedule {t scope key} (hp : s.pc (.caller t) = .idle) :
      Move s (.callSchedule t scope key)
        ({ s with metricsScheduled := s.metricsScheduled + 1 }.goto (.caller t)
          (.scheduleEnter scope key))
  | callFlush {t} (hp : s.pc (.caller t) = .idle) :
      Move s (.callFlush t) (s.goto (.caller t) .flushEnter)
  | callStop {t} (hp : s.pc (.caller t) = .idle) :
      Move s (.callStop t) (s.goto (.caller t) .stopEnter)
  | start {enabled} :
      Move s (.start enabled) { s with enabled, interrupted := s.interrupted || !enabled }
  | fire {n} (hp : s.timers n = .armed) :
      Move s (.fire n)
        ({ s with timers := Function.update s.timers n .fired }.goto (.timer n) .executeEnter)
  | acquire {t pc} (hl : s.lock = none) (hc : (s.pc t).critical = some pc) :
      Move s (.acquire t) { s.goto t pc with lock := some t }
  | coalesce {t scope key startOk n} (hp : s.pc t = .scheduleBody scope key)
      (ht : s.timer = some n) :
      Move s (.scheduleBody t startOk)
        ({ s.record scope key with metricsCoalescedRuns := s.metricsCoalescedRuns + 1 }.release t
          .idle)
  | arm {t scope key} (hp : s.pc t = .scheduleBody scope key) (ht : s.timer = none) :
      Move s (.scheduleBody t true)
        ({ s.record scope key with
          timer := some s.nextTimer
          timers := Function.update s.timers s.nextTimer .armed
          nextTimer := s.nextTimer + 1 }.release t .idle)
  | inline {t scope key} (hp : s.pc t = .scheduleBody scope key) (ht : s.timer = none) :
      Move s (.scheduleBody t false) ((s.record scope key).goto t .executeEnter)
  | flushNothing {t} (hp : s.pc t = .flushBody) (ht : s.timer = none) :
      Move s (.flushBody t) (s.release t .idle)
  | flush {t n} (hp : s.pc t = .flushBody) (ht : s.timer = some n) :
      Move s (.flushBody t) (s.dropTimer.release t .executeEnter)
  | stop {t} (hp : s.pc t = .stopBody) : Move s (.stopBody t) (s.stopBody t)
  | executeTake {t} (hp : s.pc t = .executeTake) : Move s (.executeTake t) (s.executeTake t)
  | executeCheck {t batch} (hp : s.pc t = .executeCheck batch) :
      Move s (.executeCheck t) (s.goto t (if s.enabled then .executeMark batch else .idle))
  | executeMarking {t batch} (hp : s.pc t = .executeMarking batch) :
      Move s (.executeMarking t) ({ s with executing := true }.release t (.executeBody batch))
  | raise {t batch} (hp : s.pc t = .executeBody batch) :
      Move s (.executeBody t true) (s.goto t .executeFinish)
  | complete {t batch} (hp : s.pc t = .executeBody batch) :
      Move s (.executeBody t false) ({ s with
        metricsExecuted := s.metricsExecuted + 1
        completed := batch :: s.completed }.goto t .executeFinish)
  | executeFinishing {t} (hp : s.pc t = .executeFinishing) :
      Move s (.executeFinishing t) ({ s with executing := false }.release t .idle)

private theorem move_scheduleBody {s : State} {t : Thread} {scope : String}
    {key : Option String} (startOk : Bool) (hp : s.pc t = .scheduleBody scope key) :
    Move s (.scheduleBody t startOk) (s.scheduleBody t scope key startOk) := by
  unfold State.scheduleBody
  dsimp only
  split
  · next n ht => exact .coalesce hp ht
  · next ht =>
    cases startOk with
    | true => exact .arm hp ht
    | false => exact .inline hp ht

private theorem move_flushBody {s : State} {t : Thread} (hp : s.pc t = .flushBody) :
    Move s (.flushBody t) (s.flushBody t) := by
  unfold State.flushBody
  split
  · next ht => exact .flushNothing hp ht
  · next n ht => exact .flush hp ht

/-- Inversion of the step function: every enabled action is one of the branches. -/
theorem move_of_act {s s' : State} {a : Action} (h : s.act a = some s') : Move s a s' := by
  cases a with
  | callSchedule t scope key =>
    obtain ⟨hp, he⟩ := Option.ite_none_right_eq_some.mp h
    cases he; exact .callSchedule hp
  | callFlush t =>
    obtain ⟨hp, he⟩ := Option.ite_none_right_eq_some.mp h
    cases he; exact .callFlush hp
  | callStop t =>
    obtain ⟨hp, he⟩ := Option.ite_none_right_eq_some.mp h
    cases he; exact .callStop hp
  | start enabled => cases h; exact .start
  | fire n =>
    obtain ⟨hp, he⟩ := Option.ite_none_right_eq_some.mp h
    cases he; exact .fire hp
  | acquire t =>
    obtain ⟨hl, he⟩ := Option.ite_none_right_eq_some.mp h
    obtain ⟨pc, hc, rfl⟩ := Option.map_eq_some_iff.mp he
    exact .acquire hl hc
  | scheduleBody t startOk =>
    simp only [act] at h
    split at h
    · next hp => cases h; exact move_scheduleBody startOk hp
    · cases h
  | flushBody t =>
    obtain ⟨hp, he⟩ := Option.ite_none_right_eq_some.mp h
    cases he; exact move_flushBody hp
  | stopBody t =>
    obtain ⟨hp, he⟩ := Option.ite_none_right_eq_some.mp h
    cases he; exact .stop hp
  | executeTake t =>
    obtain ⟨hp, he⟩ := Option.ite_none_right_eq_some.mp h
    cases he; exact .executeTake hp
  | executeCheck t =>
    simp only [act] at h
    split at h
    · next hp => cases h; exact .executeCheck hp
    · cases h
  | executeMarking t =>
    simp only [act] at h
    split at h
    · next hp => cases h; exact .executeMarking hp
    · cases h
  | executeBody t raises =>
    simp only [act] at h
    split at h
    · next hp =>
      cases raises with
      | true => cases h; exact .raise hp
      | false => cases h; exact .complete hp
    · cases h
  | executeFinishing t =>
    obtain ⟨hp, he⟩ := Option.ite_none_right_eq_some.mp h
    cases he; exact .executeFinishing hp

/-! ### Moving one thread -/

private theorem pc_goto_self (s : State) (t : Thread) (pc : Pc) : (s.goto t pc).pc t = pc :=
  Function.update_self ..

private theorem pc_goto_of_ne (s : State) {t t' : Thread} (h : t' ≠ t) (pc : Pc) :
    (s.goto t pc).pc t' = s.pc t' := Function.update_of_ne h ..

private theorem pc_goto_cases (s : State) (t t' : Thread) (pc : Pc) (P : Pc → Prop)
    (hself : t' = t → P pc) (hne : t' ≠ t → P (s.pc t')) : P ((s.goto t pc).pc t') := by
  by_cases h : t' = t
  · subst h; rw [pc_goto_self]; exact hself rfl
  · rw [pc_goto_of_ne s h]; exact hne h

private theorem critical_spec {pc pc' : Pc} (h : pc.critical = some pc') :
    pc'.holds = true ∧ pc.holds = false ∧ pc'.batch? = pc.batch? ∧
      pc'.aboutToExecute = pc.aboutToExecute := by
  cases pc <;> simp only [Pc.critical, Option.some.injEq, reduceCtorEq] at h <;> subst h <;>
    exact ⟨rfl, rfl, rfl, rfl⟩

/-- Dropping the timer touches only the recorded timer and the state of an armed one. -/
private theorem dropTimer_eq (s : State) :
    ∃ timers, s.dropTimer = { s with timer := none, timers } ∧
      ∀ n, timers n = s.timers n ∨ (s.timers n = .armed ∧ timers n = .cancelled) := by
  unfold dropTimer
  split
  · next h => exact ⟨s.timers, by rw [← h], fun _ ↦ Or.inl rfl⟩
  · next n _ =>
    unfold cancel
    split
    · next ha =>
      refine ⟨_, rfl, fun m ↦ ?_⟩
      by_cases hm : m = n
      · subst hm; exact Or.inr ⟨ha, Function.update_self ..⟩
      · exact Or.inl (Function.update_of_ne hm ..)
    · exact ⟨s.timers, rfl, fun _ ↦ Or.inl rfl⟩

/-! ### The lock -/

/-- A move between program points of the same kind keeps the lock invariant. -/
theorem lockInv_goto {s : State} (h : s.LockInv) (t : Thread) (pc : Pc)
    (hk : pc.holds = (s.pc t).holds) : (s.goto t pc).LockInv := by
  intro t'
  refine pc_goto_cases s t t' pc (fun p ↦ p.holds = true ↔ s.lock = some t') ?_ (fun _ ↦ h t')
  intro ht
  rw [hk, ht]
  exact h t

/-- Leaving the critical section frees the lock for every thread. -/
theorem lockInv_release {s : State} (h : s.LockInv) (t : Thread) (pc : Pc)
    (hold : (s.pc t).holds = true) (hk : pc.holds = false) : (s.release t pc).LockInv := by
  intro t'
  change ((s.goto t pc).pc t').holds = true ↔ none = some t'
  refine pc_goto_cases s t t' pc (fun p ↦ p.holds = true ↔ none = some t') ?_ ?_
  · intro _; simp [hk]
  · intro hne
    have hl := (h t).mp hold
    have hn : ¬ (s.pc t').holds = true := by
      rw [h t', hl]
      exact fun he ↦ hne (Option.some.inj he).symm
    simp [hn]

private theorem lockInv_acquire {s : State} (h : s.LockInv) {t : Thread} {pc : Pc}
    (hl : s.lock = none) (hc : (s.pc t).critical = some pc) :
    { s.goto t pc with lock := some t }.LockInv := by
  intro t'
  change ((s.goto t pc).pc t').holds = true ↔ some t = some t'
  refine pc_goto_cases s t t' pc (fun p ↦ p.holds = true ↔ some t = some t') ?_ ?_
  · intro ht; simp [(critical_spec hc).1, ht]
  · intro hne
    have hn : ¬ (s.pc t').holds = true := by rw [h t', hl]; simp
    simp [hn, Ne.symm hne]

/-- Every sound step keeps the lock with the thread inside a critical section. -/
theorem lockInv_move {s s' : State} {a : Action} (h : s.LockInv) (ht : s.TimerInv)
    (hok : s.Sound a) (hm : Move s a s') : s'.LockInv := by
  cases hm with
  | callSchedule hp => exact lockInv_goto (s := { s with .. }) h _ _ (by rw [hp]; rfl)
  | callFlush hp => exact lockInv_goto h _ _ (by rw [hp]; rfl)
  | callStop hp => exact lockInv_goto h _ _ (by rw [hp]; rfl)
  | start => exact h
  | fire hp =>
    have hi := ht.idle _ (by rw [hp]; decide)
    exact lockInv_goto (s := { s with .. }) h _ _ (by rw [hi]; rfl)
  | acquire hl hc => exact lockInv_acquire h hl hc
  | coalesce hp _ => exact lockInv_release (s := { s with .. }) h _ _ (by rw [hp]; rfl) rfl
  | arm hp _ => exact lockInv_release (s := { s with .. }) h _ _ (by rw [hp]; rfl) rfl
  | inline _ hn => exact absurd hn (hok.resolve_left Bool.false_ne_true)
  | flushNothing hp _ => exact lockInv_release h _ _ (by rw [hp]; rfl) rfl
  | flush hp _ =>
    obtain ⟨timers, he, _⟩ := dropTimer_eq s
    rw [he]
    exact lockInv_release (s := { s with .. }) h _ _ (by rw [hp]; rfl) rfl
  | stop hp =>
    obtain ⟨timers, he, _⟩ := dropTimer_eq s
    rw [State.stopBody, he]
    exact lockInv_release (s := { s with .. }) h _ _ (by rw [hp]; rfl) rfl
  | executeTake hp => exact lockInv_release (s := { s with .. }) h _ _ (by rw [hp]; rfl) rfl
  | executeCheck hp =>
    refine lockInv_goto h _ _ ?_
    rw [hp]
    split <;> rfl
  | executeMarking hp => exact lockInv_release (s := { s with .. }) h _ _ (by rw [hp]; rfl) rfl
  | raise hp => exact lockInv_goto h _ _ (by rw [hp]; rfl)
  | complete hp => exact lockInv_goto (s := { s with .. }) h _ _ (by rw [hp]; rfl)
  | executeFinishing hp => exact lockInv_release (s := { s with .. }) h _ _ (by rw [hp]; rfl) rfl

/-! ### The recorded timer -/

private theorem not_running_of_aboutToExecute {pc : Pc} (h : pc.aboutToExecute = true) :
    pc.running = false := by
  cases pc <;> first | rfl | cases h

/-- A thread that is not on its way into `_execute_now` may move without the timers noticing. -/
theorem timerInv_of_running {s s' : State} (h : s.TimerInv) {t : Thread} {pc : Pc}
    (hr : (s.pc t).running = true) (hpc : s'.pc = (s.goto t pc).pc)
    (he : (s'.timer, s'.timers, s'.nextTimer) = (s.timer, s.timers, s.nextTimer)) :
    s'.TimerInv := by
  obtain ⟨htimer, htimers, hnext⟩ : s'.timer = s.timer ∧ s'.timers = s.timers ∧
      s'.nextTimer = s.nextTimer := by simpa using he
  constructor
  · intro n hn
    rw [hpc, htimers]
    refine pc_goto_cases s t (.timer n) pc
      (fun p ↦ s.timers n = .armed ∨ p.aboutToExecute = true) ?_
      (fun _ ↦ h.live n (htimer ▸ hn))
    intro ht
    refine (h.live n (htimer ▸ hn)).imp_right (fun hp ↦ ?_)
    rw [ht] at hp
    rw [not_running_of_aboutToExecute hp] at hr
    cases hr
  · intro n hn
    rw [htimers] at hn
    have hidle := h.idle n hn
    rw [hpc, pc_goto_of_ne, hidle]
    rintro rfl
    rw [hidle] at hr
    cases hr
  · rw [htimers, hnext]
    exact h.fresh

/-- A request thread never carries a timer. -/
theorem timerInv_of_caller {s s' : State} (h : s.TimerInv) {t : Nat} {pc : Pc}
    (hpc : s'.pc = (s.goto (.caller t) pc).pc)
    (he : (s'.timer, s'.timers, s'.nextTimer) = (s.timer, s.timers, s.nextTimer)) :
    s'.TimerInv := by
  obtain ⟨htimer, htimers, hnext⟩ : s'.timer = s.timer ∧ s'.timers = s.timers ∧
      s'.nextTimer = s.nextTimer := by simpa using he
  have hsame (n : Nat) : s'.pc (.timer n) = s.pc (.timer n) := by
    rw [hpc, pc_goto_of_ne _ Thread.noConfusion]
  constructor
  · intro n hn
    rw [hsame, htimers]
    exact h.live n (htimer ▸ hn)
  · intro n hn
    rw [hsame]
    exact h.idle n (htimers ▸ hn)
  · rw [htimers, hnext]
    exact h.fresh

private theorem timerInv_acquire {s : State} (h : s.TimerInv) {t : Thread} {pc : Pc}
    (hc : (s.pc t).critical = some pc) : { s.goto t pc with lock := some t }.TimerInv where
  live n hn := by
    refine pc_goto_cases s t (.timer n) pc
      (fun p ↦ s.timers n = .armed ∨ p.aboutToExecute = true) ?_ (fun _ ↦ h.live n hn)
    intro ht
    rw [(critical_spec hc).2.2.2, ← ht]
    exact h.live n hn
  idle n hn := by
    have hidle := h.idle n hn
    change (s.goto t pc).pc (.timer n) = _
    rw [pc_goto_of_ne, hidle]
    rintro rfl
    rw [hidle] at hc
    cases hc
  fresh := h.fresh

private theorem lt_nextTimer {s : State} (h : s.TimerInv) {n : Nat} (hn : s.timers n = .armed) :
    n < s.nextTimer := by
  by_contra hle
  have hu := h.fresh n (Nat.not_lt.mp hle)
  rw [hn] at hu
  cases hu

private theorem timerInv_fire {s : State} (h : s.TimerInv) {n : Nat} (hn : s.timers n = .armed) :
    ({ s with timers := Function.update s.timers n .fired }.goto (.timer n)
      .executeEnter).TimerInv where
  live m hm := by
    by_cases he : m = n
    · subst he; right; rw [pc_goto_self]; rfl
    · rw [pc_goto_of_ne _ (by simpa using he)]
      exact (h.live m hm).imp_left (fun ha ↦ (Function.update_of_ne he ..).trans ha)
  idle m hm := by
    have he : m ≠ n := by
      rintro rfl
      exact hm (Function.update_self ..)
    rw [pc_goto_of_ne _ (by simpa using he)]
    exact h.idle m (fun hf ↦ hm ((Function.update_of_ne he ..).trans hf))
  fresh m hm := by
    have hlt := lt_nextTimer h hn
    have hm : s.nextTimer ≤ m := hm
    have he : m ≠ n := by omega
    exact (Function.update_of_ne he ..).trans (h.fresh m hm)

/-- Arming the next timer records a timer that will fire. -/
theorem timerInv_arm {s : State} (h : s.TimerInv) :
    { s with
      timer := some s.nextTimer
      timers := Function.update s.timers s.nextTimer .armed
      nextTimer := s.nextTimer + 1 }.TimerInv where
  live m hm := by
    cases hm
    exact Or.inl (Function.update_self ..)
  idle m hm := by
    by_cases he : m = s.nextTimer
    · subst he
      exact h.idle _ (by rw [h.fresh _ (Nat.le_refl _)]; decide)
    · exact h.idle m (fun hf ↦ hm ((Function.update_of_ne he ..).trans hf))
  fresh m hm := by
    have hm : s.nextTimer + 1 ≤ m := hm
    have he : m ≠ s.nextTimer := by omega
    exact (Function.update_of_ne he ..).trans (h.fresh m (by omega))

/-- Without a recorded timer only the timers' own life matters. -/
private theorem timerInv_dropTimer {s : State} (h : s.TimerInv) : s.dropTimer.TimerInv := by
  obtain ⟨timers, he, hsame⟩ := dropTimer_eq s
  rw [he]
  constructor
  · intro m hm
    cases hm
  · intro m hm
    refine h.idle m (fun hf ↦ ?_)
    rcases hsame m with heq | ⟨ha, _⟩
    · exact hm (heq.trans hf)
    · rw [hf] at ha; cases ha
  · intro m hm
    have hu := h.fresh m hm
    rcases hsame m with heq | ⟨ha, _⟩
    · exact heq.trans hu
    · rw [hu] at ha; cases ha

private theorem timerInv_take {s : State} (h : s.TimerInv) {t : Thread}
    (hp : s.pc t = .executeTake) : (s.executeTake t).TimerInv where
  live m hm := by cases hm
  idle m hm := by
    have hidle := h.idle m hm
    refine (pc_goto_of_ne _ ?_ _).trans hidle
    rintro rfl
    rw [hp] at hidle
    cases hidle
  fresh := h.fresh

/-- Every step keeps the recorded timer due to call back. -/
theorem timerInv_move {s s' : State} {a : Action} (h : s.TimerInv) (hm : Move s a s') :
    s'.TimerInv := by
  cases hm with
  | callSchedule _ | callFlush _ | callStop _ => exact timerInv_of_caller h rfl rfl
  | start => exact ⟨h.live, h.idle, h.fresh⟩
  | fire hp => exact timerInv_fire h hp
  | acquire _ hc => exact timerInv_acquire h hc
  | arm hp _ =>
    exact timerInv_of_running (timerInv_arm h) (by change (s.pc _).running = _; rw [hp]; rfl)
      rfl rfl
  | inline hp _ | coalesce hp _ | flushNothing hp _ | executeMarking hp | raise hp | complete hp
  | executeFinishing hp | executeCheck hp =>
    exact timerInv_of_running h (by rw [hp]; rfl) rfl rfl
  | flush hp _ | stop hp =>
    have hpc : s.dropTimer.pc = s.pc := by
      obtain ⟨timers, he, _⟩ := dropTimer_eq s
      rw [he]
    exact timerInv_of_running (timerInv_dropTimer h) (by rw [hpc, hp]; rfl) rfl rfl
  | executeTake hp => exact timerInv_take h hp

/-! ### Pending and taken keys -/

/-- A taken key stays taken when its thread keeps its batch. -/
theorem taken_goto {s s' : State} {n : Nat} {key : String} (h : s.Taken n key) {t : Thread}
    {pc : Pc} (hpc : s'.pc = (s.goto t pc).pc) (hc : s'.completed = s.completed)
    (hb : ∀ batch, (s.pc t).batch? = some batch → key ∈ batch.keys → pc.batch? = some batch) :
    s'.Taken n key := by
  rcases h with ⟨t', batch, hbatch, hk, hn⟩ | hdone
  · left
    refine ⟨t', batch, ?_, hk, hn⟩
    rw [hpc]
    exact pc_goto_cases s t t' pc (fun p ↦ p.batch? = some batch)
      (fun ht ↦ hb batch (ht ▸ hbatch) hk) (fun _ ↦ hbatch)
  · right
    rwa [hc]

private theorem about_goto {s s' : State} {t : Thread} {pc : Pc}
    (hpc : s'.pc = (s.goto t pc).pc)
    (hx : (s.pc t).aboutToExecute = true → pc.aboutToExecute = true)
    (h : ∃ t, (s.pc t).aboutToExecute = true) : ∃ t, (s'.pc t).aboutToExecute = true := by
  obtain ⟨t', ht'⟩ := h
  refine ⟨t', ?_⟩
  rw [hpc]
  exact pc_goto_cases s t t' pc (fun p ↦ p.aboutToExecute = true)
    (fun ht ↦ hx (ht ▸ ht')) (fun _ ↦ ht')

/-- A move that keeps the batch and the way into `_execute_now`, and leaves the pending sets
alone, keeps the work invariant. -/
theorem workInv_goto {s s' : State} (h : s.WorkInv) {t : Thread} {pc : Pc}
    (hpc : s'.pc = (s.goto t pc).pc)
    (hx : (s.pc t).aboutToExecute = true → pc.aboutToExecute = true)
    (hb : s.interrupted = false → ∀ batch, (s.pc t).batch? = some batch → batch.keys ≠ [] →
      pc.batch? = some batch)
    (he : (s'.pendingKeys, s'.timer, s'.enabled, s'.interrupted, s'.scheduled, s'.clock,
      s'.completed) = (s.pendingKeys, s.timer, s.enabled, s.interrupted, s.scheduled, s.clock,
      s.completed)) : s'.WorkInv := by
  simp only [Prod.mk.injEq] at he
  obtain ⟨hkeys, htimer, hen, hint, hsched, hclock, hcomp⟩ := he
  constructor
  · rw [hkeys, htimer]
    exact fun hk ↦ (h.pending hk).imp_right (about_goto hpc hx)
  · rw [hint, hen]
    exact h.enabled
  · rw [hint, hsched, hclock, hkeys]
    intro hi e hmem
    obtain ⟨hlt, hk⟩ := h.scheduled hi e hmem
    refine ⟨hlt, hk.imp_right (fun ht ↦ taken_goto ht hpc hcomp ?_)⟩
    intro batch hbatch hkey
    exact hb hi batch hbatch (List.ne_nil_of_mem hkey)

private theorem mem_addPending {pending : List String} {item key : String}
    (h : key ∈ pending) : key ∈ addPending pending item := by
  unfold addPending
  split
  · exact h
  · exact List.mem_cons_of_mem _ h

private theorem mem_addPending_self (pending : List String) {item : String} (h : item ≠ "") :
    item ∈ addPending pending item := by
  unfold addPending
  split
  · next hc => exact hc.resolve_left h
  · exact List.mem_cons_self

private theorem mem_record_pendingKeys {s : State} {scope key' : String} {key : Option String}
    (h : key' ∈ s.pendingKeys) : key' ∈ (s.record scope key).pendingKeys := by
  cases key with
  | none => exact h
  | some key => exact mem_addPending h

/-- Recording a request leaves every scheduled key pending or taken, the new one included. -/
theorem scheduled_record {s : State} (h : s.WorkInv) (scope : String) (key : Option String)
    (hi : s.interrupted = false) :
    ∀ e ∈ (s.record scope key).scheduled, e.1 < (s.record scope key).clock ∧
      (e.2 ∈ (s.record scope key).pendingKeys ∨ s.Taken e.1 e.2) := by
  intro e he
  have hold (hmem : e ∈ s.scheduled) : e.1 < s.clock + 1 ∧
      (e.2 ∈ (s.record scope key).pendingKeys ∨ s.Taken e.1 e.2) := by
    obtain ⟨hlt, hk⟩ := h.scheduled hi e hmem
    exact ⟨by omega, hk.imp_left mem_record_pendingKeys⟩
  cases key with
  | none => exact hold he
  | some key =>
    simp only [record] at he
    split at he
    · exact hold he
    · next hne =>
      rcases List.mem_cons.mp he with rfl | hmem
      · exact ⟨Nat.lt_succ_self _, Or.inl (mem_addPending_self _ hne)⟩
      · exact hold hmem

/-- A request recorded under an armed timer keeps the work invariant. -/
theorem workInv_record {s s' : State} (h : s.WorkInv) {t : Thread} {scope : String}
    {key : Option String} (hp : s.pc t = .scheduleBody scope key)
    (hpc : s'.pc = (s.goto t .idle).pc) (htimer : s'.timer ≠ none)
    (he : (s'.pendingKeys, s'.enabled, s'.interrupted, s'.scheduled, s'.clock, s'.completed) =
      ((s.record scope key).pendingKeys, s.enabled, s.interrupted, (s.record scope key).scheduled,
        (s.record scope key).clock, s.completed)) : s'.WorkInv := by
  simp only [Prod.mk.injEq] at he
  obtain ⟨hkeys, hen, hint, hsched, hclock, hcomp⟩ := he
  constructor
  · exact fun _ ↦ Or.inl htimer
  · rw [hint, hen]
    exact h.enabled
  · rw [hint, hsched, hclock, hkeys]
    intro hi e hmem
    obtain ⟨hlt, hk⟩ := scheduled_record h scope key hi e hmem
    refine ⟨hlt, hk.imp_right (fun ht ↦ taken_goto ht hpc hcomp ?_)⟩
    intro batch hbatch
    rw [hp] at hbatch
    cases hbatch

/-- Taking the pending sets moves every pending key into the batch. -/
theorem workInv_take {s : State} (h : s.WorkInv) {t : Thread} (hp : s.pc t = .executeTake) :
    (s.executeTake t).WorkInv where
  pending hk := absurd rfl hk
  enabled := h.enabled
  scheduled hi e hmem := by
    obtain ⟨hlt, hk⟩ := h.scheduled hi e hmem
    refine ⟨hlt, Or.inr ?_⟩
    rcases hk with hk | hk
    · left
      refine ⟨t, ⟨s.pendingScopes, s.pendingKeys, s.clock⟩, ?_, hk, hlt⟩
      rw [show (s.executeTake t).pc t = _ from Function.update_self ..]
      rfl
    · refine taken_goto (t := t) hk rfl rfl ?_
      intro batch hbatch
      rw [hp] at hbatch
      cases hbatch

/-- A completed batch covers the keys that it held in progress. -/
theorem workInv_complete {s : State} (h : s.WorkInv) {t : Thread} {batch : Batch}
    (hp : s.pc t = .executeBody batch) :
    ({ s with
      metricsExecuted := s.metricsExecuted + 1
      completed := batch :: s.completed }.goto t .executeFinish).WorkInv where
  pending hk := (h.pending hk).imp_right (about_goto rfl (by rw [hp]; exact Bool.noConfusion))
  enabled := h.enabled
  scheduled hi e hmem := by
    obtain ⟨hlt, hk⟩ := h.scheduled hi e hmem
    refine ⟨hlt, hk.imp_right ?_⟩
    rintro (⟨t', b, hb, hkey, hn⟩ | ⟨b, hb, hkey, hn⟩)
    · by_cases ht : t' = t
      · subst ht
        rw [hp] at hb
        cases hb
        exact Or.inr ⟨batch, List.mem_cons_self, hkey, hn⟩
      · left
        exact ⟨t', b, by rw [pc_goto_of_ne _ ht]; exact hb, hkey, hn⟩
    · exact Or.inr ⟨b, List.mem_cons_of_mem _ hb, hkey, hn⟩

/-- A thread with no batch that is not on its way into `_execute_now` may move freely. -/
theorem workInv_plain {s s' : State} (h : s.WorkInv) {t : Thread} {p pc : Pc} (hp : s.pc t = p)
    (hx : p.aboutToExecute = false) (hb : p.batch? = none) (hpc : s'.pc = (s.goto t pc).pc)
    (he : (s'.pendingKeys, s'.timer, s'.enabled, s'.interrupted, s'.scheduled, s'.clock,
      s'.completed) = (s.pendingKeys, s.timer, s.enabled, s.interrupted, s.scheduled, s.clock,
      s.completed)) : s'.WorkInv := by
  subst hp
  exact workInv_goto h hpc (by rw [hx]; exact Bool.noConfusion) (by rw [hb]; simp) he

/-- Dropping the timer is safe for a thread that goes on to execute. -/
theorem workInv_flush {s : State} (h : s.WorkInv) {t : Thread} (hp : s.pc t = .flushBody) :
    (s.dropTimer.release t .executeEnter).WorkInv := by
  obtain ⟨timers, he, _⟩ := dropTimer_eq s
  rw [he]
  refine ⟨fun _ ↦ Or.inr ⟨t, ?_⟩, h.enabled, fun hi e hmem ↦ ?_⟩
  · change ((s.goto t .executeEnter).pc t).aboutToExecute = true
    rw [pc_goto_self]
    rfl
  · obtain ⟨hlt, hk⟩ := h.scheduled hi e hmem
    refine ⟨hlt, hk.imp_right (fun ht ↦ taken_goto (t := t) ht rfl rfl ?_)⟩
    rw [hp]
    simp [Pc.batch?]

/-- Every sound step keeps the scheduled keys pending or taken. -/
theorem workInv_move {s s' : State} {a : Action} (h : s.WorkInv) (htimer : s.TimerInv)
    (hok : s.Sound a) (hm : Move s a s') : s'.WorkInv := by
  cases hm with
  | callSchedule hp | callFlush hp | callStop hp => exact workInv_plain h hp rfl rfl rfl rfl
  | @start enabled =>
    refine ⟨h.pending, ?_, ?_⟩
    · simp
    · intro hi
      exact h.scheduled (by simpa using (Bool.or_eq_false_iff.mp hi).1)
  | @fire n hp =>
    have hidle := htimer.idle n (by rw [hp]; decide)
    exact workInv_plain h hidle rfl rfl rfl rfl
  | acquire _ hc =>
    obtain ⟨_, _, hb, hx⟩ := critical_spec hc
    exact workInv_goto h rfl (by rw [hx]; exact id) (by rw [hb]; exact fun _ _ he _ ↦ he) rfl
  | coalesce hp ht =>
    exact workInv_record h hp rfl (by change s.timer ≠ none; rw [ht]; exact Option.some_ne_none _)
      rfl
  | arm hp _ => exact workInv_record h hp rfl (Option.some_ne_none s.nextTimer) rfl
  | inline _ hn => exact absurd hn (hok.resolve_left Bool.false_ne_true)
  | flushNothing hp _ => exact workInv_plain h hp rfl rfl rfl rfl
  | flush hp _ => exact workInv_flush h hp
  | stop hp => exact ⟨fun hk ↦ absurd rfl hk, Bool.noConfusion, Bool.noConfusion⟩
  | executeTake hp => exact workInv_take h hp
  | @executeCheck t batch hp =>
    refine workInv_goto h rfl (by rw [hp]; exact Bool.noConfusion) ?_ rfl
    intro hi b hb _
    rw [if_pos (h.enabled hi)]
    rw [hp] at hb
    exact hb
  | @executeMarking t batch hp =>
    exact workInv_goto h rfl (by rw [hp]; exact Bool.noConfusion)
      (by rw [hp]; exact fun _ _ he _ ↦ he) rfl
  | @raise t batch hp =>
    have hkeys : batch.keys = [] := (hok.resolve_left (by simp)) batch hp
    refine workInv_goto h rfl (by rw [hp]; exact Bool.noConfusion) ?_ rfl
    intro _ b hb hne
    rw [hp] at hb
    cases hb
    exact absurd hkeys hne
  | complete hp => exact workInv_complete h hp
  | executeFinishing hp => exact workInv_plain h hp rfl rfl rfl rfl

/-! ### Safety of sound runs -/

/-- The three invariants give the safety property. -/
theorem safe_of_invariants {s : State} (hl : s.LockInv) (ht : s.TimerInv) (hw : s.WorkInv) :
    s.Safe := by
  constructor
  · intro hi e he
    obtain ⟨_, hk | hk⟩ := hw.scheduled hi e he
    · refine Or.inl ⟨hk, ?_⟩
      rcases hw.pending (List.ne_nil_of_mem hk) with htimer | hx
      · obtain ⟨n, hn⟩ := Option.ne_none_iff_exists'.mp htimer
        exact (ht.live n hn).imp (fun ha ↦ ⟨n, ha⟩) (fun hx ↦ ⟨_, hx⟩)
      · exact Or.inr hx
    · exact Or.inr hk
  · rintro ⟨t, hlock, hc⟩
    obtain ⟨pc, hpc⟩ := Option.isSome_iff_exists.mp hc
    have hh := (hl t).mpr hlock
    rw [(critical_spec hpc).2.1] at hh
    cases hh

private theorem initial_invariants : ({} : State).LockInv ∧ ({} : State).TimerInv ∧
    ({} : State).WorkInv :=
  ⟨fun _ ↦ by simp [Pc.holds], ⟨by simp, fun _ _ ↦ rfl, fun _ _ ↦ rfl⟩,
    ⟨by simp, fun _ ↦ rfl, by simp⟩⟩

end State

/-- In every run in which each timer that has to start starts and no body with a key raises, every
state reached is safe. -/
theorem safe_of_sound_run {s : State} (h : (system.restrict State.Sound).Reachable s) : s.Safe := by
  have hinv : s.LockInv ∧ s.TimerInv ∧ s.WorkInv := by
    refine System.Reachable.invariant
      (I := fun s ↦ s.LockInv ∧ s.TimerInv ∧ s.WorkInv) ?_ ?_ h
    · intro s hs
      rw [show s = {} from hs]
      exact State.initial_invariants
    · rintro s a s' ⟨hl, ht, hw⟩ ⟨hok, hact⟩
      have hm := State.move_of_act hact
      exact ⟨State.lockInv_move hl ht hok hm, State.timerInv_move ht hm,
        State.workInv_move hw ht hok hm⟩
  exact State.safe_of_invariants hinv.1 hinv.2.1 hinv.2.2

/-- Labels of steps that avoid both defects in any state. -/
def Action.smooth : Action → Bool
  | .scheduleBody _ startOk => startOk
  | .executeBody _ raises => !raises
  | _ => true

private theorem sound_of_smooth {s : State} {a : Action} (h : a.smooth = true) : s.Sound a := by
  cases a <;> simp_all [Action.smooth, State.Sound]

/-- A `schedule` slips in between the two critical sections of a flush: its key is taken by the
flush, and its own timer later fires on empty sets. -/
def flushRaceActions : List Action :=
  [.callSchedule 0 "devices" (some "olt-1"), .acquire (.caller 0), .scheduleBody (.caller 0) true,
    .callFlush 1, .acquire (.caller 1), .flushBody (.caller 1),
    .callSchedule 0 "links" (some "link-7"), .acquire (.caller 0), .scheduleBody (.caller 0) true,
    .acquire (.caller 1), .executeTake (.caller 1), .executeCheck (.caller 1),
    .acquire (.caller 1), .executeMarking (.caller 1), .executeBody (.caller 1) false, .fire 1,
    .acquire (.timer 1), .executeTake (.timer 1)]

/-- A key that is scheduled while a batch is flushed stays scheduled. -/
theorem safe_of_sound_run_flush_race :
    ∃ s, System.run State.act {} flushRaceActions = some s ∧
      s.scheduled = [(1, "link-7"), (0, "olt-1")] ∧
      s.completed.map Batch.keys = [["link-7", "olt-1"]] ∧ s.Safe := by
  refine ⟨_, rfl, rfl, rfl, safe_of_sound_run (System.Reachable.run
    (fun s a ↦ if a.smooth then s.act a else none) ?_ flushRaceActions (.init rfl) rfl)⟩
  intro s a s' ha
  obtain ⟨hs, ha⟩ := Option.ite_none_right_eq_some.mp ha
  exact ⟨sound_of_smooth hs, ha⟩

/-- `Timer.start` fails for the first request of a window. -/
def startFailureActions : List Action :=
  [.callSchedule 0 "devices" (some "olt-1"), .acquire (.caller 0), .scheduleBody (.caller 0) false]

/-- The recompute body of a fired timer raises. -/
def raisingBodyActions : List Action :=
  [.callSchedule 0 "devices" (some "olt-1"), .acquire (.caller 0), .scheduleBody (.caller 0) true,
    .fire 0, .acquire (.timer 0), .executeTake (.timer 0), .executeCheck (.timer 0),
    .acquire (.timer 0), .executeMarking (.timer 0), .executeBody (.timer 0) true]

/-- Both defects are reached: a thread waits for the lock it holds, and a scheduled key is neither
pending nor in a batch nor done. -/
theorem unsafe_reachable :
    (∃ s, system.Reachable s ∧ s.SelfBlocked) ∧
    (∃ s, system.Reachable s ∧ s.interrupted = false ∧
      ∃ e ∈ s.scheduled, ¬ s.Covered e.1 e.2) := by
  constructor
  · exact ⟨_, .run State.act (fun _ _ _ ha ↦ ha) startFailureActions (.init rfl) rfl,
      .caller 0, rfl, rfl⟩
  · refine ⟨_, .run State.act (fun _ _ _ ha ↦ ha) raisingBodyActions (.init rfl) rfl, rfl,
      (0, "olt-1"), List.mem_cons_self, ?_⟩
    rintro (⟨hk, _⟩ | ⟨t, batch, hb, _⟩ | ⟨batch, hb, _⟩)
    · cases hk
    · -- only caller 0 and timer 0 ever moved, and neither holds a batch any more
      rcases t with (_ | n) | (_ | n) <;> cases hb
    · cases hb

end Unoc.Coalescer
