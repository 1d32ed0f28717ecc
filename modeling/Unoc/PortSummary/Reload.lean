import Unoc.PortSummary.Deadlock

/-!
# Responses and reloads

`LoadInitialState` empties the tables before it queries, so a reload that fails leaves what it has
scanned in place of the tables of the last successful one. A request that has reloaded and still
waits for its read lock then summarises those. Where no request stands at that point when a query
fails, every summary comes from one successful reload.
-/

namespace Unoc.PortSummary

open Unoc.Base Unoc.Model

/-! ### Successful reloads of a run -/

/-- The service with the tables that its successful reloads have left, latest first. -/
structure LoadLog where
  service : Service := {}
  loaded : List Tables := []

/-- What a step adds to the log. -/
def LoadLog.record (s' : Service) (loaded : List Tables) : Action → List Tables
  | .derive _ _ => s'.tables :: loaded
  | _ => loaded

/-- A step of the service, with the log. -/
def LoadLog.act (l : LoadLog) (a : Action) : Option LoadLog :=
  (l.service.act a).map (fun s' ↦ ⟨s', LoadLog.record s' l.loaded a⟩)

/-- All interleavings of requests, with the log. -/
def loadLog : System LoadLog Action :=
  System.ofAct (fun l ↦ l.service.requests = [] ∧ l.loaded = []) LoadLog.act

/-- The tables of one `LoadInitialState` without failures. -/
def Complete (t : Tables) : Prop :=
  ∃ orders devices interfaces links, t = loadInitialState orders devices interfaces links

/-- The rows of a request on one state of the tables. -/
def summariesOf (t : Tables) (work : Work) : List (String × Tables.InterfaceSummary) :=
  work.map (fun w ↦ (w.1, t.summary w.2))

/-- Whether the request reloads the tables. -/
def Kind.loads : Kind → Bool
  | .healthCheck => false
  | _ => true

/-- Between the reload and the read lock. -/
def Phase.reloaded : Phase → Bool
  | .ready | .waiting => true
  | _ => false

/-- No request stands between its reload and its read lock. -/
def Service.NoneReloaded (s : Service) : Prop :=
  ∀ r ∈ s.requests, r.kind.loads → r.phase.reloaded = false

/-- A query fails only while no request stands between its reload and its read lock. -/
def FailsAlone (l : LoadLog) : Action → Prop
  | .loadDevices _ _ ok | .loadInterfaces _ _ ok | .loadLinks _ _ ok =>
    ok = false → l.service.NoneReloaded
  | _ => True

/-! ### Invariant -/

/-- What the tables hold before a stage of the reload. -/
def LoadStage.Filled (t : Tables) : LoadStage → Prop
  | .reset => True
  | .devices => t = {}
  | .interfaces => ∃ devices, t = Tables.loadDevices {} devices
  | .links => ∃ devices interfaces, t = (Tables.loadDevices {} devices).loadInterfaces interfaces
  | .derive => ∃ devices interfaces links,
      t = ((Tables.loadDevices {} devices).loadInterfaces interfaces).loadLinks links

/-- The rows so far and the interfaces left make up the summary of tables that a reload has left. -/
def Progressed (t : Tables) (loaded : List Tables) (kind : Kind) (todo : Work)
    (rows : List (String × Tables.InterfaceSummary)) : Prop :=
  kind.loads → t ∈ loaded ∧ summariesOf t (kind.work t) = rows ++ summariesOf t todo

/-- What holds of a request while the tables are `t`. -/
def Request.Consistent (t : Tables) (loaded : List Tables) (loading : Prop) (r : Request) : Prop :=
  match r.phase with
  | .loading stage => stage.Filled t
  | .loadReturns true => t ∈ loaded
  | .ready | .waiting => r.kind.loads → loading ∨ t ∈ loaded
  | .reading todo rows | .waitingInner todo rows | .computing todo rows =>
    Progressed t loaded r.kind todo rows
  | .returned (.summaries rows) => ∃ t ∈ loaded, rows = summariesOf t (r.kind.work t)
  | _ => True

/-- Some request is in the middle of a reload. -/
def Service.Loading (s : Service) : Prop := ∃ r ∈ s.requests, ∃ stage, r.phase = .loading stage

/-- The invariant of the runs in which queries fail alone. -/
structure Snapshots (l : LoadLog) : Prop where
  exclusive : l.service.Exclusive
  complete : ∀ t ∈ l.loaded, Complete t
  consistent : ∀ r ∈ l.service.requests,
    r.Consistent l.service.tables l.loaded l.service.Loading

/-- What held of a request still holds while the tables are the same. -/
theorem Request.Consistent.mono {t : Tables} {loaded : List Tables} {loading loading' : Prop}
    {r : Request} (h : r.Consistent t loaded loading) (hloading : loading → loading') :
    r.Consistent t loaded loading' := by
  obtain ⟨kind, phase⟩ := r
  cases phase with
  | ready => exact fun hkind ↦ (h hkind).imp_left hloading
  | waiting => exact fun hkind ↦ (h hkind).imp_left hloading
  | loadReturns ok => cases ok <;> exact h
  | returned response => cases response <;> exact h
  | _ => exact h

/-- A request that does not hold the lock does not see what the tables are. -/
theorem Request.Consistent.change {t t' : Tables} {loaded loaded' : List Tables}
    {loading loading' : Prop} {r : Request} (h : r.Consistent t loaded loading)
    (hheld : r.phase.holdsWrite = false ∧ r.phase.holdsRead = false) (hloaded : loaded ⊆ loaded')
    (hready : r.kind.loads → r.phase.reloaded → loading' ∨ t' ∈ loaded') :
    r.Consistent t' loaded' loading' := by
  obtain ⟨kind, phase⟩ := r
  cases phase with
  | ready => exact fun hkind ↦ hready hkind rfl
  | waiting => exact fun hkind ↦ hready hkind rfl
  | called | queued | locking => trivial
  | loading | loadReturns => cases hheld.1
  | reading | waitingInner | computing => cases hheld.2
  | returned response =>
    cases response with
    | summaries rows =>
      obtain ⟨t₀, ht₀, hrows⟩ := h
      exact ⟨t₀, hloaded ht₀, hrows⟩
    | error | health => trivial

/-- A request in a reload is still there after another one has moved. -/
theorem Service.Loading.move {s : Service} (h : s.Loading) {i : Nat} {kind : Kind}
    {phase phase' : Phase} (hi : s.requests[i]? = some ⟨kind, phase⟩)
    (hphase : ∀ stage, phase ≠ .loading stage) : (s.move i kind phase').Loading := by
  obtain ⟨r, hr, stage, hstage⟩ := h
  obtain ⟨j, hj⟩ := List.getElem?_of_mem hr
  have hij : i ≠ j := by
    rintro rfl
    rw [hi, Option.some.injEq] at hj
    subst hj
    exact hphase stage hstage
  refine ⟨r, List.mem_of_getElem? (i := j) ?_, stage, hstage⟩
  rwa [Service.move, List.getElem?_set_ne hij]

/-- A move that leaves the tables as they are. -/
theorem Snapshots.move {l : LoadLog} (h : Snapshots l) {i : Nat} {kind : Kind}
    {phase phase' : Phase} (hi : l.service.requests[i]? = some ⟨kind, phase⟩)
    (hexclusive : (l.service.move i kind phase').Exclusive)
    (hphase : ∀ stage, phase ≠ .loading stage)
    (hnew : Request.Consistent l.service.tables l.loaded (l.service.move i kind phase').Loading
      ⟨kind, phase'⟩) : Snapshots ⟨l.service.move i kind phase', l.loaded⟩ := by
  refine ⟨hexclusive, h.complete, ?_⟩
  intro r hr
  rcases List.mem_or_eq_of_mem_set hr with hr | rfl
  · exact (h.consistent r hr).mono (fun hloading ↦ hloading.move hi hphase)
  · exact hnew

/-- A `Lock` that has its turn. -/
theorem Snapshots.takeTurn {l : LoadLog} (h : Snapshots l) {i : Nat} {kind : Kind} {phase : Phase}
    (hi : l.service.requests[i]? = some ⟨kind, phase⟩)
    (hexclusive : (l.service.takeTurn i kind).Exclusive) (hphase : ∀ stage, phase ≠ .loading stage) :
    Snapshots ⟨l.service.takeTurn i kind, l.loaded⟩ := by
  by_cases hwriting : l.service.freeForWriting
  · rw [Service.takeTurn, if_pos hwriting] at hexclusive ⊢
    exact h.move hi hexclusive hphase trivial
  · rw [Service.takeTurn, if_neg hwriting] at hexclusive ⊢
    exact h.move hi hexclusive hphase trivial

/-- A step of a reload. -/
theorem Snapshots.write {l : LoadLog} (h : Snapshots l) {i : Nat} {kind : Kind}
    {stage : LoadStage} {phase' : Phase} {t' : Tables} {loaded' : List Tables}
    (hi : l.service.requests[i]? = some ⟨kind, .loading stage⟩)
    (hexclusive : ({ l.service.move i kind phase' with tables := t' } : Service).Exclusive)
    (hloaded : l.loaded ⊆ loaded') (hcomplete : ∀ t ∈ loaded', Complete t)
    (hnew : Request.Consistent t' loaded'
      ({ l.service.move i kind phase' with tables := t' } : Service).Loading ⟨kind, phase'⟩)
    (hothers : (∃ stage', phase' = .loading stage') ∨ t' ∈ loaded' ∨ l.service.NoneReloaded) :
    Snapshots ⟨{ l.service.move i kind phase' with tables := t' }, loaded'⟩ := by
  refine ⟨hexclusive, hcomplete, ?_⟩
  intro r hr
  obtain ⟨j, hj⟩ := List.getElem?_of_mem hr
  rcases Service.mem_move hj with ⟨rfl, rfl⟩ | ⟨hji, hj⟩
  · exact hnew
  · refine (h.consistent r (List.mem_of_getElem? hj)).change
      (h.exclusive.alone hi hj hji.symm rfl) hloaded ?_
    intro hkind hreloaded
    rcases hothers with ⟨stage', rfl⟩ | hmem | hnone
    · -- the reload goes on
      refine Or.inl ⟨⟨kind, .loading stage'⟩, List.mem_of_getElem? (i := i) ?_, stage', rfl⟩
      exact List.getElem?_set_self (List.getElem?_eq_some_iff.mp hi).1
    · exact Or.inr hmem
    · simp [hnone r (List.mem_of_getElem? hj) hkind] at hreloaded

/-- The outer read lock is taken while no reload is going on. -/
theorem Snapshots.enter {l : LoadLog} (h : Snapshots l) {i : Nat} {kind : Kind} {phase : Phase}
    (hi : l.service.requests[i]? = some ⟨kind, phase⟩) (hreloaded : phase.reloaded)
    (hfree : l.service.freeForReading) (hexclusive : (l.service.enter i kind).Exclusive) :
    Snapshots ⟨l.service.enter i kind, l.loaded⟩ := by
  refine h.move hi hexclusive ?_ ?_
  · rintro stage rfl
    cases hreloaded
  · intro hkind
    have hready : l.service.Loading ∨ l.service.tables ∈ l.loaded := by
      have hconsistent := h.consistent _ (List.mem_of_getElem? hi)
      cases phase with
      | ready => exact hconsistent hkind
      | waiting => exact hconsistent hkind
      | _ => cases hreloaded
    rcases hready with ⟨r, hr, stage, hstage⟩ | hmem
    · obtain ⟨j, hj⟩ := List.getElem?_of_mem hr
      have hpending := Service.pending_of_freeForReading hfree hj
      simp [hstage, Phase.pending] at hpending
    · exact ⟨hmem, rfl⟩

/-- A reader that an unlock lets in: no reload goes on, so the tables are those of one that succeeded. -/
private theorem Request.Consistent.released {t : Tables} {loaded : List Tables}
    {loading loading' : Prop} {r : Request} (h : r.Consistent t loaded loading)
    (hnone : ¬ loading) (hnot : ∀ stage, r.phase ≠ .loading stage) :
    (r.released t).Consistent t loaded loading' := by
  obtain ⟨kind, phase⟩ := r
  cases phase with
  | waiting =>
    intro hkind
    rcases h hkind with hloading | hmem
    · exact absurd hloading hnone
    · exact ⟨hmem, rfl⟩
  | waitingInner => exact h
  | loading stage => exact absurd rfl (hnot stage)
  | _ => exact h.mono (fun hloading ↦ absurd hloading hnone)

/-- An unlock, after which no reload goes on. -/
theorem Snapshots.release {l : LoadLog} (h : Snapshots l) {i : Nat} {kind : Kind} {ok : Bool}
    {phase' : Phase} (hi : l.service.requests[i]? = some ⟨kind, .loadReturns ok⟩)
    (hexclusive : (l.service.release i kind phase').Exclusive)
    (hnew : ∀ loading, Request.Consistent l.service.tables l.loaded loading ⟨kind, phase'⟩) :
    Snapshots ⟨l.service.release i kind phase', l.loaded⟩ := by
  have hothers : ∀ (j : Nat) (r : Request), l.service.requests[j]? = some r →
      ∀ stage, r.phase ≠ .loading stage := by
    intro j r hj stage hstage
    by_cases hij : i = j
    · subst hij
      rw [hi, Option.some.injEq] at hj
      subst hj
      cases hstage
    · have hpending := (h.exclusive i j _ r hi hj hij).1 rfl
      simp [hstage, Phase.pending] at hpending
  have hnone : ¬ l.service.Loading := by
    rintro ⟨r, hr, stage, hstage⟩
    obtain ⟨j, hj⟩ := List.getElem?_of_mem hr
    exact hothers j r hj stage hstage
  refine ⟨hexclusive, h.complete, ?_⟩
  intro r hr
  obtain ⟨j, hj⟩ := List.getElem?_of_mem hr
  rcases Service.mem_release hj with ⟨rfl, rfl⟩ | ⟨r₀, _, hj₀, rfl⟩
  · exact hnew _
  · exact (h.consistent r₀ (List.mem_of_getElem? hj₀)).released hnone (hothers j r₀ hj₀)

/-- An interface is moved from those left to the rows. -/
theorem Progressed.compute {t : Tables} {loaded : List Tables} {kind : Kind}
    {work : String × Interface} {todo : Work} {rows : List (String × Tables.InterfaceSummary)}
    (h : Progressed t loaded kind (work :: todo) rows) :
    Progressed t loaded kind todo (rows ++ [(work.1, t.summary work.2)]) := by
  intro hkind
  obtain ⟨hmem, hrows⟩ := h hkind
  refine ⟨hmem, hrows.trans ?_⟩
  simp [summariesOf]

private theorem Snapshots.step {l : LoadLog} {a : Action} {s' : Service} (h : Snapshots l)
    (hok : FailsAlone l a) (hstep : l.service.Step a s') :
    Snapshots ⟨s', LoadLog.record s' l.loaded a⟩ := by
  have hexclusive := h.exclusive.step hstep
  cases hstep with
  | call kind =>
    have hstart : ∀ loading, Request.Consistent l.service.tables l.loaded loading
        ⟨kind, kind.start⟩ := by
      intro loading
      cases kind with
      | healthCheck => exact fun hkind ↦ by cases hkind
      | portSummary | bulkPortSummary => trivial
    refine ⟨hexclusive, h.complete, ?_⟩
    intro r hr
    rcases List.mem_append.mp hr with hr | hr
    · refine (h.consistent r hr).mono ?_
      rintro ⟨r', hr', hstage⟩
      exact ⟨r', List.mem_append_left _ hr', hstage⟩
    · rw [List.mem_singleton.mp hr]
      exact hstart _
  | lockTurn hi _ => exact h.takeTurn hi hexclusive (by simp)
  | lockQueued hi _ => exact h.move hi hexclusive (by simp) trivial
  | wakeQueued hi _ => exact h.takeTurn hi hexclusive (by simp)
  | wakeWriter hi _ => exact h.move hi hexclusive (by simp) trivial
  | reset hi =>
    exact h.write hi hexclusive (fun _ ht ↦ ht) h.complete rfl (Or.inl ⟨_, rfl⟩)
  | loadDevices rows ok hi =>
    have hfilled := h.consistent _ (List.mem_of_getElem? hi)
    cases ok with
    | true =>
      refine h.write hi hexclusive (fun _ ht ↦ ht) h.complete ⟨rows, ?_⟩ (Or.inl ⟨_, rfl⟩)
      rw [show l.service.tables = {} from hfilled]
    | false =>
      exact h.write hi hexclusive (fun _ ht ↦ ht) h.complete trivial (Or.inr (Or.inr (hok rfl)))
  | loadInterfaces rows ok hi =>
    have hfilled := h.consistent _ (List.mem_of_getElem? hi)
    cases ok with
    | true =>
      obtain ⟨devices, htables⟩ := hfilled
      refine h.write hi hexclusive (fun _ ht ↦ ht) h.complete ⟨devices, rows, ?_⟩ (Or.inl ⟨_, rfl⟩)
      rw [htables]
    | false =>
      exact h.write hi hexclusive (fun _ ht ↦ ht) h.complete trivial (Or.inr (Or.inr (hok rfl)))
  | loadLinks rows ok hi =>
    have hfilled := h.consistent _ (List.mem_of_getElem? hi)
    cases ok with
    | true =>
      obtain ⟨devices, interfaces, htables⟩ := hfilled
      refine h.write hi hexclusive (fun _ ht ↦ ht) h.complete ⟨devices, interfaces, rows, ?_⟩
        (Or.inl ⟨_, rfl⟩)
      rw [htables]
    | false =>
      exact h.write hi hexclusive (fun _ ht ↦ ht) h.complete trivial (Or.inr (Or.inr (hok rfl)))
  | derive orders hi =>
    obtain ⟨devices, interfaces, links, htables⟩ := h.consistent _ (List.mem_of_getElem? hi)
    refine h.write hi hexclusive (List.subset_cons_self _ _) ?_ List.mem_cons_self
      (Or.inr (Or.inl List.mem_cons_self))
    intro t ht
    rcases List.mem_cons.mp ht with rfl | ht
    · exact ⟨orders, devices, interfaces, links, by rw [htables]; rfl⟩
    · exact h.complete t ht
  | @unlock _ _ ok hi =>
    have hreturns := h.consistent _ (List.mem_of_getElem? hi)
    cases ok with
    | true => exact h.release hi hexclusive (fun _ _ ↦ Or.inr hreturns)
    | false => exact h.release hi hexclusive (fun _ ↦ trivial)
  | rlockFree hi hfree => exact h.enter hi rfl hfree hexclusive
  | rlockBlocked hi _ =>
    have hready := h.consistent _ (List.mem_of_getElem? hi)
    refine h.move hi hexclusive (by simp) ?_
    exact fun hkind ↦ (hready hkind).imp_left (fun hloading ↦ hloading.move hi (by simp))
  | innerFree hi _ =>
    exact h.move hi hexclusive (by simp) (h.consistent _ (List.mem_of_getElem? hi))
  | innerBlocked hi _ =>
    exact h.move hi hexclusive (by simp) (h.consistent _ (List.mem_of_getElem? hi))
  | compute hi =>
    have hprogressed := h.consistent _ (List.mem_of_getElem? hi)
    exact h.move hi hexclusive (by simp) (Progressed.compute hprogressed)
  | @finish _ kind rows hi =>
    have hprogressed := h.consistent _ (List.mem_of_getElem? hi)
    refine h.move hi hexclusive (by simp) ?_
    have hrows : kind.loads → ∃ t ∈ l.loaded, rows = summariesOf t (kind.work t) := by
      intro hkind
      obtain ⟨hmem, heq⟩ := hprogressed hkind
      exact ⟨_, hmem, by simpa [summariesOf] using heq.symm⟩
    cases kind with
    | portSummary deviceId =>
      rw [Kind.respond]
      split
      · trivial
      · exact hrows rfl
    | bulkPortSummary => exact hrows rfl
    | healthCheck => trivial

/-! ### Summaries -/

/-- Where queries fail alone, the rows of every response without error are those of tables that one
successful `LoadInitialState` of the run has left. -/
theorem summaries_of_one_load {l : LoadLog} (hl : (loadLog.restrict FailsAlone).Reachable l)
    {r : Request} (hr : r ∈ l.service.requests) {rows : List (String × Tables.InterfaceSummary)}
    (hreturned : r.phase = .returned (.summaries rows)) :
    ∃ t ∈ l.loaded, Complete t ∧ rows = summariesOf t (r.kind.work t) := by
  have hsnapshots : Snapshots l := by
    refine System.Reachable.invariant ?_ ?_ hl
    · rintro ⟨s, loaded⟩ ⟨hrequests, hloaded⟩
      have hrequests : s.requests = [] := hrequests
      have hloaded : loaded = [] := hloaded
      constructor <;> simp [Service.Exclusive, hrequests, hloaded]
    · rintro l₁ a l₂ h ⟨hok, hact⟩
      obtain ⟨s', hs', rfl⟩ := Option.map_eq_some_iff.mp hact
      exact h.step hok (Service.step_of_act hs')
  have hconsistent := hsnapshots.consistent r hr
  rw [Request.Consistent, hreturned] at hconsistent
  obtain ⟨t, ht, hrows⟩ := hconsistent
  exact ⟨t, ht, hsnapshots.complete t ht, hrows⟩

/-- Whether a request has reloaded is checked on the requests. -/
instance (s : Service) : Decidable s.NoneReloaded :=
  inferInstanceAs (Decidable (∀ r ∈ s.requests, r.kind.loads → r.phase.reloaded = false))

/-- Whether a failed load concerns nobody else is checked on the state. -/
instance (l : LoadLog) : DecidablePred (FailsAlone l)
  | .loadDevices _ _ ok | .loadInterfaces _ _ ok | .loadLinks _ _ ok =>
    inferInstanceAs (Decidable (ok = false → l.service.NoneReloaded))
  | .call _ | .lock _ | .wakeQueued _ | .wakeWriter _ | .reset _ | .derive _ _ | .unlock _ | .rlock _
  | .rlockInner _ | .compute _ | .finish _ => .isTrue trivial

/-- The row of the interface. -/
def accessRow : String × Tables.InterfaceSummary :=
  ("switch", { id := "port", name := "port", portRole := none, effectiveStatus := .up, occupancy := 0,
               capacity := none })

/-- A query fails after the first request has returned. -/
theorem summaries_of_one_load_then_failure :
    ∃ l, (loadLog.restrict FailsAlone).Reachable l ∧
      l.service.requests = [⟨.portSummary "switch", .returned (.summaries [accessRow])⟩,
        ⟨.portSummary "switch", .loadReturns false⟩] ∧
      ∃ t ∈ l.loaded, Complete t ∧
        [accessRow] = summariesOf t (Kind.work t (.portSummary "switch")) := by
  obtain ⟨l, hrun⟩ : ∃ l, System.run (System.guard FailsAlone LoadLog.act) {}
      (.call (.portSummary "switch") :: reload 0 ++
        [.rlock 0, .rlockInner 0, .compute 0, .finish 0, .call (.portSummary "switch"), .lock 1,
          .reset 1, .loadDevices 1 [] false]) = some l := ⟨_, rfl⟩
  have hinit : (loadLog.restrict FailsAlone).init {} := ⟨rfl, rfl⟩
  have hreach : (loadLog.restrict FailsAlone).Reachable l :=
    .run _ (fun _ _ _ h ↦ System.restrict_of_guard h) _ (.init hinit) hrun
  have hrequests : l.service.requests =
      [⟨.portSummary "switch", .returned (.summaries [accessRow])⟩,
        ⟨.portSummary "switch", .loadReturns false⟩] := by
    obtain rfl := Option.some.inj hrun
    rfl
  refine ⟨l, hreach, hrequests, ?_⟩
  exact summaries_of_one_load hreach (hrequests ▸ List.mem_cons_self) rfl

/-- The first request has reloaded; the reload of the second one fails at its first query; the first
one then returns no rows, although the only successful reload has left the interface. -/
theorem summary_of_failed_load :
    ∃ l, loadLog.Reachable l ∧
      ⟨.portSummary "switch", .returned (.summaries [])⟩ ∈ l.service.requests ∧
      ∀ t ∈ l.loaded, [] ≠ summariesOf t (Kind.work t (.portSummary "switch")) := by
  obtain ⟨l, hrun⟩ : ∃ l, System.run LoadLog.act {}
      (.call (.portSummary "switch") :: .call (.portSummary "switch") :: reload 0 ++
        [.lock 1, .reset 1, .loadDevices 1 [] false, .unlock 1, .rlock 0, .finish 0]) = some l :=
    ⟨_, rfl⟩
  have hinit : loadLog.init {} := ⟨rfl, rfl⟩
  have hreach : loadLog.Reachable l := .run _ (fun _ _ _ h ↦ h) _ (.init hinit) hrun
  obtain rfl := Option.some.inj hrun
  refine ⟨_, hreach, List.mem_cons_self, ?_⟩
  intro t ht
  obtain rfl := List.mem_singleton.mp ht
  exact List.cons_ne_nil _ _ |>.symm

end Unoc.PortSummary
