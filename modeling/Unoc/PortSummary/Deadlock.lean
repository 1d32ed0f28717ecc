import Mathlib.Data.Prod.Lex
import Mathlib.Logic.Relation
import Mathlib.Order.WellFounded
import Unoc.PortSummary.Service

/-!
# Waiting for the lock

`computeOccupancy` takes the read lock a second time. A `Lock` that has its turn in between waits for
the first read lock, and the second one waits for the `Lock`. In runs where no `Lock` has its turn while
a summary has interfaces left, every request can always be driven to its end.
-/

namespace Unoc.PortSummary

open Unoc.Base

/-- Some `RLock` of `computeOccupancy` is still to come. -/
def Phase.needsInner : Phase → Bool
  | .reading (_ :: _) _ | .waitingInner _ _ | .computing (_ :: _ :: _) _ => true
  | _ => false

/-- Whether a request has returned. -/
def Phase.done : Phase → Bool
  | .returned _ => true
  | _ => false

/-- A set of requests that wait for the lock, whatever happens from here on. -/
def WaitForever (s : Service) (waiting : List Nat) : Prop :=
  waiting ≠ [] ∧ ∀ s', Relation.ReflTransGen (fun s s' ↦ ∃ a, s.act a = some s') s s' →
    ∀ i ∈ waiting, ∃ r, s'.requests[i]? = some r ∧ r.phase.blocked

/-- No `Lock` has its turn while a summary has interfaces left. -/
def Undisturbed (s : Service) : Action → Prop
  | .lock _ | .wakeQueued _ => s.freeForReading → ∀ r ∈ s.requests, r.phase.needsInner = false
  | _ => True

/-! ### Invariant -/

/-- No request is blocked in `computeOccupancy`, none that has to go there coexists with a `Lock` that
has its turn, and blocked readers wait for such a `Lock`. -/
structure Calm (s : Service) : Prop where
  exclusive : s.Exclusive
  notInner : ∀ r ∈ s.requests, ∀ todo rows, r.phase ≠ .waitingInner todo rows
  apart : ∀ r ∈ s.requests, r.phase.pending → ∀ r' ∈ s.requests, r'.phase.needsInner = false
  computes : ∀ r ∈ s.requests, ∀ rows, r.phase ≠ .computing [] rows
  awaited : ∀ r ∈ s.requests, r.phase = .waiting → ∃ r' ∈ s.requests, r'.phase.pending

/-- Who has interfaces left finds no `Lock` in its way. -/
theorem Calm.freeForReading {s : Service} (h : Calm s) {r : Request} (hr : r ∈ s.requests)
    (hneeds : r.phase.needsInner) : s.freeForReading := by
  refine List.all_eq_true.mpr ?_
  intro r' hr'
  have hpending : r'.phase.pending = false := by
    by_contra hnot
    have := h.apart r' hr' (by simpa using hnot) r hr
    simp [this] at hneeds
  simp [hpending]

/-- Some `Lock` has its turn where an `RLock` is blocked. -/
theorem Service.exists_pending {s : Service} (h : s.freeForReading = false) :
    ∃ r ∈ s.requests, r.phase.pending := by
  by_contra hnot
  have hfree : s.freeForReading := by
    refine List.all_eq_true.mpr (fun r hr ↦ ?_)
    have hpending : r.phase.pending = false := by simpa using fun hp ↦ hnot ⟨r, hr, hp⟩
    simp [hpending]
  rw [h] at hfree
  cases hfree

/-- A move keeps the invariant if it neither blocks in `computeOccupancy` nor brings a `Lock` that has its
turn together with a request that has interfaces left, and gives up no turn. -/
theorem Calm.move {s s' : Service} (h : Calm s) {i : Nat} {kind : Kind} {phase phase' : Phase}
    (hi : s.requests[i]? = some ⟨kind, phase⟩)
    (hs' : s'.requests = s.requests.set i ⟨kind, phase'⟩) (hexclusive : s'.Exclusive)
    (hinner : ∀ todo rows, phase' ≠ .waitingInner todo rows)
    (hpending : phase'.pending → phase'.needsInner = false ∧
      ∀ r ∈ s.requests, r.phase.needsInner = false)
    (hneeds : phase'.needsInner → phase.needsInner ∨ s.freeForReading)
    (hcomputes : ∀ rows, phase' ≠ .computing [] rows) (hkeeps : phase.pending → phase'.pending)
    (hwaits : phase' = .waiting → s.freeForReading = false) : Calm s' := by
  have hstays : (∃ r ∈ s.requests, r.phase.pending) → ∃ r ∈ s'.requests, r.phase.pending := by
    rintro ⟨r, hr, hp⟩
    rw [hs']
    obtain ⟨j, hj⟩ := List.getElem?_of_mem hr
    by_cases hij : i = j
    · subst hij
      rw [hi, Option.some.injEq] at hj
      subst hj
      exact ⟨⟨kind, phase'⟩, List.mem_of_getElem?
        (List.getElem?_set_self (List.getElem?_eq_some_iff.mp hi).1), hkeeps hp⟩
    · exact ⟨r, List.mem_of_getElem? ((List.getElem?_set_ne hij).trans hj), hp⟩
  constructor
  · exact hexclusive
  · intro r hr
    rw [hs'] at hr
    rcases List.mem_or_eq_of_mem_set hr with hr | rfl
    · exact h.notInner r hr
    · exact hinner
  · intro r hr hp r' hr'
    rw [hs'] at hr hr'
    rcases List.mem_or_eq_of_mem_set hr with hr | rfl
    · rcases List.mem_or_eq_of_mem_set hr' with hr' | rfl
      · exact h.apart r hr hp r' hr'
      · by_contra hnot
        rcases hneeds (by simpa using hnot) with hold | hfree
        · simp [h.apart r hr hp _ (List.mem_of_getElem? hi)] at hold
        · obtain ⟨j, hj⟩ := List.getElem?_of_mem hr
          simp [Service.pending_of_freeForReading hfree hj] at hp
    · rcases List.mem_or_eq_of_mem_set hr' with hr' | rfl
      · exact (hpending hp).2 r' hr'
      · exact (hpending hp).1
  · intro r hr
    rw [hs'] at hr
    rcases List.mem_or_eq_of_mem_set hr with hr | rfl
    · exact h.computes r hr
    · exact hcomputes
  · intro r hr hwaiting
    apply hstays
    rw [hs'] at hr
    rcases List.mem_or_eq_of_mem_set hr with hr | rfl
    · exact h.awaited r hr hwaiting
    · exact Service.exists_pending (hwaits hwaiting)

/-- A move to a phase that has no interfaces left and no turn that it had not before. -/
theorem Calm.move_quiet {s s' : Service} (h : Calm s) {i : Nat} {kind : Kind} {phase phase' : Phase}
    (hi : s.requests[i]? = some ⟨kind, phase⟩)
    (hs' : s'.requests = s.requests.set i ⟨kind, phase'⟩) (hexclusive : s'.Exclusive)
    (hpending : phase'.pending = phase.pending) (hneeds : phase'.needsInner = false)
    (hcomputes : ∀ rows, phase' ≠ .computing [] rows)
    (hwaits : phase' = .waiting → s.freeForReading = false) : Calm s' := by
  refine h.move hi hs' hexclusive ?_ ?_ (by simp [hneeds]) hcomputes (by simp [hpending]) hwaits
  · rintro todo rows rfl
    cases hneeds
  · intro hp
    rw [hpending] at hp
    exact ⟨hneeds, h.apart _ (List.mem_of_getElem? hi) hp⟩

/-- A `Lock` that has its turn while no summary has interfaces left. -/
theorem Calm.takeTurn {s : Service} (h : Calm s) {i : Nat} {kind : Kind} {phase : Phase}
    (hi : s.requests[i]? = some ⟨kind, phase⟩) (hexclusive : (s.takeTurn i kind).Exclusive)
    (hnone : ∀ r ∈ s.requests, r.phase.needsInner = false) : Calm (s.takeTurn i kind) := by
  by_cases hwriting : s.freeForWriting
  · rw [Service.takeTurn, if_pos hwriting] at hexclusive ⊢
    exact h.move hi rfl hexclusive (by simp) (fun _ ↦ ⟨rfl, hnone⟩) (fun hn ↦ by cases hn) (by simp)
      (fun _ ↦ rfl) (by simp)
  · rw [Service.takeTurn, if_neg hwriting] at hexclusive ⊢
    exact h.move hi rfl hexclusive (by simp) (fun _ ↦ ⟨rfl, hnone⟩) (fun hn ↦ by cases hn) (by simp)
      (fun _ ↦ rfl) (by simp)

/-- An unlock gives up the only turn and leaves no reader blocked. -/
theorem Calm.release {s : Service} (h : Calm s) {i : Nat} {kind : Kind} {phase phase' : Phase}
    (hi : s.requests[i]? = some ⟨kind, phase⟩) (hphase : phase.pending)
    (hexclusive : (s.release i kind phase').Exclusive) (hpending : phase'.pending = false)
    (hinner : ∀ todo rows, phase' ≠ .waitingInner todo rows)
    (hcomputes : ∀ rows, phase' ≠ .computing [] rows) (hwaiting : phase' ≠ .waiting) :
    Calm (s.release i kind phase') := by
  have hcases : ∀ r ∈ (s.release i kind phase').requests,
      r = ⟨kind, phase'⟩ ∨ ∃ r₀ ∈ s.requests, r = r₀.released s.tables := by
    intro r hr
    obtain ⟨j, hj⟩ := List.getElem?_of_mem hr
    rcases Service.mem_release hj with ⟨_, heq⟩ | ⟨r₀, _, hj₀, heq⟩
    · exact Or.inl heq
    · exact Or.inr ⟨r₀, List.mem_of_getElem? hj₀, heq⟩
  constructor
  · exact hexclusive
  · intro r hr
    rcases hcases r hr with rfl | ⟨r₀, hr₀, rfl⟩
    · exact hinner
    · have hold := h.notInner r₀ hr₀
      obtain ⟨kind₀, phase₀⟩ := r₀
      cases phase₀ <;> simp_all [Request.released]
  · intro r hr hp
    simp [h.exclusive.pending_release hi hphase hpending hr] at hp
  · intro r hr
    rcases hcases r hr with rfl | ⟨r₀, hr₀, rfl⟩
    · exact hcomputes
    · have hold := h.computes r₀ hr₀
      have hnot := h.notInner r₀ hr₀
      obtain ⟨kind₀, phase₀⟩ := r₀
      cases phase₀ <;> simp_all [Request.released]
  · intro r hr hwaits
    rcases hcases r hr with rfl | ⟨r₀, hr₀, rfl⟩
    · exact absurd hwaits hwaiting
    · obtain ⟨kind₀, phase₀⟩ := r₀
      cases phase₀ <;> simp [Request.released] at hwaits

/-- A step that meets the condition keeps the invariant. -/
theorem Calm.step {s s' : Service} {a : Action} (h : Calm s) (hok : Undisturbed s a)
    (hstep : s.Step a s') : Calm s' := by
  have hexclusive := h.exclusive.step hstep
  cases hstep with
  | call kind =>
    have hstart : kind.start.pending = false ∧ kind.start.needsInner = false ∧
        kind.start ≠ .waiting ∧ (∀ todo rows, kind.start ≠ .waitingInner todo rows) ∧
        ∀ rows, kind.start ≠ .computing [] rows := by
      cases kind <;> simp [Kind.start, Phase.pending, Phase.needsInner]
    constructor
    · exact hexclusive
    · intro r hr
      rcases List.mem_append.mp hr with hr | hr
      · exact h.notInner r hr
      · rw [List.mem_singleton.mp hr]
        exact hstart.2.2.2.1
    · intro r hr hp r' hr'
      rcases List.mem_append.mp hr with hr | hr
      · rcases List.mem_append.mp hr' with hr' | hr'
        · exact h.apart r hr hp r' hr'
        · rw [List.mem_singleton.mp hr']
          exact hstart.2.1
      · rw [List.mem_singleton.mp hr, hstart.1] at hp
        cases hp
    · intro r hr
      rcases List.mem_append.mp hr with hr | hr
      · exact h.computes r hr
      · rw [List.mem_singleton.mp hr]
        exact hstart.2.2.2.2
    · intro r hr hwaits
      rcases List.mem_append.mp hr with hr | hr
      · obtain ⟨r', hr', hp⟩ := h.awaited r hr hwaits
        exact ⟨r', List.mem_append_left _ hr', hp⟩
      · rw [List.mem_singleton.mp hr] at hwaits
        exact absurd hwaits hstart.2.2.1
  | lockTurn hi hfree => exact h.takeTurn hi hexclusive (hok hfree)
  | lockQueued hi _ => exact h.move_quiet hi rfl hexclusive rfl rfl (by simp) (by simp)
  | wakeQueued hi hfree => exact h.takeTurn hi hexclusive (hok hfree)
  | wakeWriter hi _ => exact h.move_quiet hi rfl hexclusive rfl rfl (by simp) (by simp)
  | reset hi => exact h.move_quiet hi rfl hexclusive rfl rfl (by simp) (by simp)
  | loadDevices rows ok hi =>
    cases ok <;> exact h.move_quiet hi rfl hexclusive rfl rfl (by simp) (by simp)
  | loadInterfaces rows ok hi =>
    cases ok <;> exact h.move_quiet hi rfl hexclusive rfl rfl (by simp) (by simp)
  | loadLinks rows ok hi =>
    cases ok <;> exact h.move_quiet hi rfl hexclusive rfl rfl (by simp) (by simp)
  | derive orders hi => exact h.move_quiet hi rfl hexclusive rfl rfl (by simp) (by simp)
  | @unlock _ _ ok hi =>
    cases ok <;> exact h.release hi rfl hexclusive rfl (by simp) (by simp) (by simp)
  | rlockFree hi hfree =>
    exact h.move hi rfl hexclusive (by simp) (fun hp ↦ by cases hp) (fun _ ↦ Or.inr hfree) (by simp)
      (fun hp ↦ by cases hp) (by simp)
  | rlockBlocked hi hbusy => exact h.move_quiet hi rfl hexclusive rfl rfl (by simp) (fun _ ↦ hbusy)
  | innerFree hi hfree =>
    exact h.move hi rfl hexclusive (by simp) (fun hp ↦ by cases hp) (fun _ ↦ Or.inr hfree) (by simp)
      (fun hp ↦ by cases hp) (by simp)
  | innerBlocked hi hbusy =>
    -- the reader that has interfaces left finds no `Lock` in its way
    rw [h.freeForReading (List.mem_of_getElem? hi) rfl] at hbusy
    cases hbusy
  | @compute _ _ work todo rows hi =>
    refine h.move hi rfl hexclusive (by simp) (fun hp ↦ by cases hp) ?_ (by simp)
      (fun hp ↦ by cases hp) (by simp)
    intro hneeds
    cases todo with
    | nil => cases hneeds
    | cons next todo => exact Or.inl rfl
  | finish hi => exact h.move_quiet hi rfl hexclusive rfl rfl (by simp) (by simp)

/-! ### Progress -/

/-- Steps before the outer `RLock` succeeds. -/
def Phase.ahead : Phase → Nat
  | .called => 11
  | .queued => 10
  | .locking => 9
  | .loading .reset => 8
  | .loading .devices => 7
  | .loading .interfaces => 6
  | .loading .links => 5
  | .loading .derive => 4
  | .loadReturns _ => 3
  | .ready => 2
  | .waiting => 1
  | _ => 0

/-- Steps after the outer `RLock` has succeeded. -/
def Phase.left : Phase → Nat
  | .reading todo _ => 2 * todo.length + 1
  | .waitingInner todo _ => 2 * todo.length + 1
  | .computing todo _ => 2 * todo.length
  | _ => 0

private theorem sum_map_le {f g : Request → Nat} (h : ∀ r, f r ≤ g r) (rs : List Request) :
    (rs.map f).sum ≤ (rs.map g).sum := by
  induction rs with
  | nil => exact Nat.le_refl 0
  | cons r rs ih =>
    simp only [List.map_cons, List.sum_cons]
    exact Nat.add_le_add (h r) ih

/-- What is left to do: interfaces are counted once they are known. -/
def Service.rank (s : Service) : ℕ ×ₗ ℕ :=
  toLex ((s.requests.map (fun r ↦ r.phase.ahead)).sum, (s.requests.map (fun r ↦ r.phase.left)).sum)

private theorem sum_map_set {f : Request → Nat} {rs : List Request} {i : Nat} {old : Request}
    (hi : rs[i]? = some old) (new : Request) :
    ((rs.set i new).map f).sum + f old = (rs.map f).sum + f new := by
  induction rs generalizing i with
  | nil => cases hi
  | cons r rs ih =>
    cases i with
    | zero =>
      obtain rfl := Option.some.inj hi
      simp only [List.set_cons_zero, List.map_cons, List.sum_cons]
      omega
    | succ i =>
      have := ih (i := i) hi
      simp only [List.set_cons_succ, List.map_cons, List.sum_cons]
      omega

private theorem Service.rank_lt {s s' : Service} {i : Nat} {kind : Kind} {phase phase' : Phase}
    (hi : s.requests[i]? = some ⟨kind, phase⟩)
    (hs' : s'.requests = s.requests.set i ⟨kind, phase'⟩)
    (h : phase'.ahead < phase.ahead ∨ phase'.ahead = phase.ahead ∧ phase'.left < phase.left) :
    s'.rank < s.rank := by
  have hahead := sum_map_set (f := fun r ↦ r.phase.ahead) hi ⟨kind, phase'⟩
  have hleft := sum_map_set (f := fun r ↦ r.phase.left) hi ⟨kind, phase'⟩
  simp only at hahead hleft
  rw [rank, rank, hs', Prod.Lex.toLex_lt_toLex]
  rcases h with h | ⟨h, h'⟩
  · exact Or.inl (by omega)
  · exact Or.inr ⟨by omega, by omega⟩

/-- An unlock brings the request closer to its end, and takes no other one away from it. -/
theorem Service.rank_release_lt {s : Service} {i : Nat} {kind : Kind} {phase phase' : Phase}
    (hi : s.requests[i]? = some ⟨kind, phase⟩) (hphase : phase.pending)
    (h : phase'.ahead < phase.ahead) : (s.release i kind phase').rank < s.rank := by
  have hstays : (Request.released s.tables ⟨kind, phase⟩) = ⟨kind, phase⟩ := by
    cases phase <;> first | rfl | cases hphase
  have hi' : (s.requests.map (Request.released s.tables))[i]? = some ⟨kind, phase⟩ := by
    rw [List.getElem?_map, hi, Option.map_some, hstays]
  have hahead := sum_map_set (f := fun r ↦ r.phase.ahead) hi' ⟨kind, phase'⟩
  have hle : ((s.requests.map (Request.released s.tables)).map (fun r ↦ r.phase.ahead)).sum ≤
      (s.requests.map (fun r ↦ r.phase.ahead)).sum := by
    rw [List.map_map]
    apply sum_map_le
    intro r
    obtain ⟨kind₀, phase₀⟩ := r
    cases phase₀ <;> simp [Request.released, Phase.ahead]
  simp only at hahead
  rw [rank, rank, Prod.Lex.toLex_lt_toLex]
  exact Or.inl (by simp only [release]; omega)

/-- Some enabled step that meets the condition brings the requests closer to their end. -/
def Service.CanAdvance (s : Service) : Prop :=
  ∃ a s', s.act a = some s' ∧ Undisturbed s a ∧ s'.rank < s.rank

private theorem Service.canAdvance_of_holdsWrite {s : Service} {i : Nat} {r : Request}
    (hi : s.requests[i]? = some r) (hwrite : r.phase.holdsWrite) : s.CanAdvance := by
  obtain ⟨kind, phase⟩ := r
  cases phase with
  | loading stage =>
    cases stage with
    | reset =>
      refine ⟨.reset i, { s.move i kind (.loading .devices) with tables := {} }, ?_, trivial,
        rank_lt hi rfl (Or.inl (by decide))⟩
      simp only [act, hi]
    | devices =>
      refine ⟨.loadDevices i [] true, { s.move i kind (.loading .interfaces) with
        tables := s.tables.loadDevices [] }, ?_, trivial, rank_lt hi rfl (Or.inl (by decide))⟩
      simp only [act, hi, if_true]
    | interfaces =>
      refine ⟨.loadInterfaces i [] true, { s.move i kind (.loading .links) with
        tables := s.tables.loadInterfaces [] }, ?_, trivial, rank_lt hi rfl (Or.inl (by decide))⟩
      simp only [act, hi, if_true]
    | links =>
      refine ⟨.loadLinks i [] true, { s.move i kind (.loading .derive) with
        tables := s.tables.loadLinks [] }, ?_, trivial, rank_lt hi rfl (Or.inl (by decide))⟩
      simp only [act, hi, if_true]
    | derive =>
      refine ⟨.derive i ascendingOrders, { s.move i kind (.loadReturns true) with
        tables := s.tables.derive ascendingOrders }, ?_, trivial,
        rank_lt hi rfl (Or.inl (by decide))⟩
      simp only [act, hi]
  | loadReturns ok =>
    refine ⟨.unlock i, s.release i kind (if ok then .ready else .returned .error), ?_, trivial,
      rank_release_lt hi rfl (by cases ok <;> decide)⟩
    simp only [act, hi]
  | _ => cases hwrite

private theorem Calm.canAdvance_of_holdsRead {s : Service} (h : Calm s) {i : Nat} {r : Request}
    (hi : s.requests[i]? = some r) (hread : r.phase.holdsRead) : s.CanAdvance := by
  obtain ⟨kind, phase⟩ := r
  cases phase with
  | reading todo rows =>
    cases todo with
    | nil =>
      refine ⟨.finish i, s.move i kind (.returned (kind.respond s.tables rows)), ?_, trivial,
        Service.rank_lt hi rfl (Or.inr ⟨rfl, by simp [Phase.left]⟩)⟩
      simp only [Service.act, hi]
    | cons work todo =>
      have hfree := h.freeForReading (List.mem_of_getElem? hi) rfl
      refine ⟨.rlockInner i, s.move i kind (.computing (work :: todo) rows), ?_, trivial,
        Service.rank_lt hi rfl (Or.inr ⟨rfl, by simp [Phase.left]⟩)⟩
      simp only [Service.act, hi, hfree, if_true]
  | waitingInner todo rows => exact absurd rfl (h.notInner _ (List.mem_of_getElem? hi) todo rows)
  | computing todo rows =>
    cases todo with
    | nil => exact absurd rfl (h.computes _ (List.mem_of_getElem? hi) rows)
    | cons work todo =>
      refine ⟨.compute i,
        s.move i kind (.reading todo (rows ++ [(work.1, s.tables.summary work.2)])), ?_, trivial,
        Service.rank_lt hi rfl (Or.inr ⟨rfl, by simp [Phase.left]; omega⟩)⟩
      simp only [Service.act, hi]
  | _ => cases hread

private theorem Phase.holdsRead_of_needsInner {phase : Phase} (h : phase.needsInner) :
    phase.holdsRead := by
  cases phase <;> first | rfl | cases h

/-- With the lock free, a `Lock` may have its turn and holds the lock. -/
theorem Service.takeTurn_of_free {s : Service} (hwriting : s.freeForWriting) (i : Nat) (kind : Kind) :
    s.takeTurn i kind = s.move i kind (.loading .reset) := by
  unfold takeTurn
  rw [if_pos hwriting]

/-- With the lock free, no summary has interfaces left. -/
theorem Service.needsInner_of_free {s : Service} (hwriting : s.freeForWriting) :
    ∀ r ∈ s.requests, r.phase.needsInner = false := by
  intro r hr
  obtain ⟨j, hj⟩ := List.getElem?_of_mem hr
  by_contra hnot
  have hread := Phase.holdsRead_of_needsInner (by simpa using hnot)
  simp [(holds_of_freeForWriting hwriting hj).2] at hread

/-- With the lock free and no `Lock` waiting for it, a request that has not returned takes it. -/
theorem Calm.canAdvance_of_free {s : Service} (h : Calm s) (hwriting : s.freeForWriting)
    (hreading : s.freeForReading) {i : Nat} {r : Request} (hi : s.requests[i]? = some r)
    (hdone : r.phase.done = false) : s.CanAdvance := by
  have hheld := Service.holds_of_freeForWriting hwriting hi
  have hpending := Service.pending_of_freeForReading hreading hi
  have hturn := Service.takeTurn_of_free hwriting i
  obtain ⟨kind, phase⟩ := r
  cases phase with
  | called =>
    refine ⟨.lock i, s.move i kind (.loading .reset), ?_, fun _ ↦ Service.needsInner_of_free hwriting,
      Service.rank_lt hi rfl (Or.inl (by decide))⟩
    simp only [Service.act, hi, hreading, if_true, hturn]
  | queued =>
    refine ⟨.wakeQueued i, s.move i kind (.loading .reset), ?_,
      fun _ ↦ Service.needsInner_of_free hwriting, Service.rank_lt hi rfl (Or.inl (by decide))⟩
    simp only [Service.act, hi, hreading, if_true, hturn]
  | ready =>
    refine ⟨.rlock i, s.enter i kind, ?_, trivial,
      Service.rank_lt hi rfl (Or.inl (by simp [Phase.ahead]))⟩
    simp only [Service.act, hi, hreading, if_true]
  | waiting =>
    -- a blocked reader waits for a `Lock` that has its turn
    obtain ⟨r', hr', hp⟩ := h.awaited _ (List.mem_of_getElem? hi) rfl
    obtain ⟨j, hj⟩ := List.getElem?_of_mem hr'
    simp [Service.pending_of_freeForReading hreading hj] at hp
  | locking => cases hpending
  | loading | loadReturns => cases hheld.1
  | reading | waitingInner | computing => cases hheld.2
  | returned => cases hdone

private theorem Calm.canAdvance {s : Service} (h : Calm s) {i : Nat} {r : Request}
    (hi : s.requests[i]? = some r) (hdone : r.phase.done = false) : s.CanAdvance := by
  by_cases hwriting : s.freeForWriting
  · by_cases hpending : ∃ r ∈ s.requests, r.phase.pending
    · -- the lock is free for the writer that has its turn
      obtain ⟨⟨kind, phase⟩, hr, hp⟩ := hpending
      obtain ⟨j, hj⟩ := List.getElem?_of_mem hr
      have hheld := (Service.holds_of_freeForWriting hwriting hj).1
      obtain rfl : phase = .locking := by
        cases phase <;> simp_all [Phase.pending, Phase.holdsWrite]
      refine ⟨.wakeWriter j, s.move j kind (.loading .reset), ?_, trivial,
        Service.rank_lt hj rfl (Or.inl (by decide))⟩
      simp only [Service.act, hj, hwriting, if_true]
    · have hreading : s.freeForReading := by
        refine List.all_eq_true.mpr (fun r' hr' ↦ ?_)
        have hp : r'.phase.pending = false := by
          simpa using fun hnot ↦ hpending ⟨r', hr', hnot⟩
        simp [hp]
      exact h.canAdvance_of_free hwriting hreading hi hdone
  · -- the holder of the lock goes on
    obtain ⟨r', hr', hheld⟩ : ∃ r' ∈ s.requests, r'.phase.holdsWrite ∨ r'.phase.holdsRead := by
      by_contra hnot
      refine hwriting (List.all_eq_true.mpr (fun r' hr' ↦ ?_))
      have hheld : ¬ (r'.phase.holdsWrite ∨ r'.phase.holdsRead) := fun h ↦ hnot ⟨r', hr', h⟩
      simpa using hheld
    obtain ⟨j, hj⟩ := List.getElem?_of_mem hr'
    rcases hheld with hheld | hheld
    · exact Service.canAdvance_of_holdsWrite hj hheld
    · exact h.canAdvance_of_holdsRead hj hheld

/-- From a calm state, all requests can be driven to their end. -/
theorem Calm.exists_all_done {s : Service} (h : Calm s) :
    ∃ s', Relation.ReflTransGen (fun s s' ↦ ∃ a, s.act a = some s') s s' ∧
      ∀ r ∈ s'.requests, r.phase.done := by
  induction hrank : s.rank using WellFoundedLT.induction generalizing s with
  | ind rank ih =>
    by_cases hall : ∀ r ∈ s.requests, r.phase.done
    · exact ⟨s, .refl, hall⟩
    · obtain ⟨r, hr, hdone⟩ : ∃ r ∈ s.requests, r.phase.done = false := by simpa using hall
      obtain ⟨i, hi⟩ := List.getElem?_of_mem hr
      obtain ⟨a, s₁, ha, hok, hlt⟩ := h.canAdvance hi hdone
      obtain ⟨s', hrun, hdone'⟩ :=
        ih s₁.rank (hrank ▸ hlt) (h.step hok (Service.step_of_act ha)) rfl
      exact ⟨s', .head ⟨a, ha⟩ hrun, hdone'⟩

/-- In a run where a `Lock` only has its turn while no summary has interfaces left, no set of requests
waits forever for the lock. -/
theorem no_deadlock_of_undisturbed {s : Service}
    (hs : (service.restrict Undisturbed).Reachable s) (waiting : List Nat) :
    ¬ WaitForever s waiting := by
  have hcalm : Calm s := by
    refine System.Reachable.invariant ?_ ?_ hs
    · intro s₀ hinit
      have hinit : s₀.requests = [] := hinit
      constructor <;> simp [Service.Exclusive, hinit]
    · rintro s₁ a s₂ h ⟨hok, hact⟩
      exact h.step hok (Service.step_of_act hact)
  rintro ⟨hne, hforever⟩
  obtain ⟨i, hi⟩ := List.exists_mem_of_ne_nil waiting hne
  obtain ⟨s', hrun, hdone⟩ := hcalm.exists_all_done
  obtain ⟨r, hr, hblocked⟩ := hforever s' hrun i hi
  have hreturned := hdone r (List.mem_of_getElem? hr)
  cases hphase : r.phase <;> simp [hphase, Phase.done, Phase.blocked] at hreturned hblocked

/-- Whether a state is undisturbed is checked on its requests. -/
instance (s : Service) : DecidablePred (Undisturbed s) := by
  intro a
  cases a <;> unfold Undisturbed <;> infer_instance

/-- A device with one interface. -/
def accessSwitch : Model.Device := { id := "switch", type := .aonSwitch }

/-- Its interface. -/
def accessPort : Model.Interface := { id := "port", name := "port", deviceId := "switch" }

/-- A request reloads the tables. -/
def reload (i : Nat) : List Action :=
  [.lock i, .reset i, .loadDevices i [accessSwitch] true, .loadInterfaces i [accessPort] true,
    .loadLinks i [] true, .derive i ascendingOrders, .unlock i]

/-- The second request calls `Lock` while the first one is in `computeOccupancy`, and waits. -/
theorem no_deadlock_lock_during_compute :
    ∃ s, (service.restrict Undisturbed).Reachable s ∧ (s.requests.any (fun r ↦ r.phase.blocked)) ∧
      ∀ waiting, ¬ WaitForever s waiting := by
  obtain ⟨s, hs⟩ : ∃ s, System.run (System.guard Undisturbed Service.act) {}
      (.call (.portSummary "switch") :: reload 0 ++
        [.rlock 0, .rlockInner 0, .call (.portSummary "switch"), .lock 1]) = some s := ⟨_, rfl⟩
  have hinit : (service.restrict Undisturbed).init {} := rfl
  have hreach : (service.restrict Undisturbed).Reachable s :=
    .run _ (fun _ _ _ h ↦ System.restrict_of_guard h) _ (.init hinit) hs
  obtain rfl := Option.some.inj hs
  exact ⟨_, hreach, rfl, no_deadlock_of_undisturbed hreach⟩

/-! ### The inner read lock -/

private theorem getElem?_move_of_ne {s : Service} {i j : Nat} {kind kind' : Kind}
    {phase phase' phase'' : Phase} (hi : s.requests[i]? = some ⟨kind, phase⟩)
    (hj : s.requests[j]? = some ⟨kind', phase'⟩) (hne : phase ≠ phase') :
    (s.move j kind' phase'').requests[i]? = some ⟨kind, phase⟩ := by
  have hij : j ≠ i := by
    rintro rfl
    simp [hi, hne] at hj
  simpa [Service.move, List.getElem?_set_ne hij] using hi

private theorem stuck_step {s s' : Service} {a : Action} {i j : Nat} {kind kind' : Kind}
    {todo : Work} {rows : List (String × Tables.InterfaceSummary)} (hexclusive : s.Exclusive)
    (hi : s.requests[i]? = some ⟨kind, .waitingInner todo rows⟩)
    (hj : s.requests[j]? = some ⟨kind', .locking⟩) (hstep : s.Step a s') :
    s'.requests[i]? = some ⟨kind, .waitingInner todo rows⟩ ∧
      s'.requests[j]? = some ⟨kind', .locking⟩ := by
  have hwriting : s.freeForWriting = false := by
    by_contra hfree
    cases (Service.holds_of_freeForWriting (by simpa using hfree) hi).2
  have hreading : s.freeForReading = false := by
    by_contra hfree
    cases Service.pending_of_freeForReading (by simpa using hfree) hj
  cases hstep with
  | call kind'' =>
    exact ⟨List.getElem?_append_left (List.getElem?_eq_some_iff.mp hi).1 ▸ hi,
      List.getElem?_append_left (List.getElem?_eq_some_iff.mp hj).1 ▸ hj⟩
  | lockTurn hk hfree | wakeQueued hk hfree => simp [hreading] at hfree
  | wakeWriter hk hfree => simp [hwriting] at hfree
  | @unlock k _ _ hk =>
    -- nobody holds the lock for writing while another `Lock` has its turn
    have hkj : k ≠ j := by
      rintro rfl
      simp [hk] at hj
    cases (hexclusive k j _ _ hk hj hkj).1 rfl
  | lockQueued hk _ | reset hk | loadDevices _ _ hk | loadInterfaces _ _ hk | loadLinks _ _ hk
  | derive _ hk | rlockFree hk _ | rlockBlocked hk _ | innerFree hk _ | innerBlocked hk _
  | compute hk | finish hk =>
    exact ⟨getElem?_move_of_ne hi hk (by simp), getElem?_move_of_ne hj hk (by simp)⟩

/-- A request blocked in `computeOccupancy` and a `Lock` that has its turn wait for each other. -/
theorem waitForever_of_inner {s : Service} {i j : Nat} {kind kind' : Kind} {todo : Work}
    {rows : List (String × Tables.InterfaceSummary)} (hexclusive : s.Exclusive)
    (hi : s.requests[i]? = some ⟨kind, .waitingInner todo rows⟩)
    (hj : s.requests[j]? = some ⟨kind', .locking⟩) : WaitForever s [i, j] := by
  have hstuck : ∀ s', Relation.ReflTransGen (fun s s' ↦ ∃ a, s.act a = some s') s s' →
      s'.Exclusive ∧ s'.requests[i]? = some ⟨kind, .waitingInner todo rows⟩ ∧
        s'.requests[j]? = some ⟨kind', .locking⟩ := by
    intro s' hrun
    induction hrun with
    | refl => exact ⟨hexclusive, hi, hj⟩
    | tail _ hstep ih =>
      obtain ⟨a, ha⟩ := hstep
      have hstep := Service.step_of_act ha
      exact ⟨ih.1.step hstep, stuck_step ih.1 ih.2.1 ih.2.2 hstep⟩
  refine ⟨by simp, ?_⟩
  intro s' hrun k hk
  rcases List.mem_pair.mp hk with rfl | rfl
  · exact ⟨_, (hstuck s' hrun).2.1, rfl⟩
  · exact ⟨_, (hstuck s' hrun).2.2, rfl⟩

/-- A request that has interfaces left runs into a `Lock` that has its turn. -/
theorem waitForever_of_needsInner {s : Service} {i j : Nat} {r : Request} {kind' : Kind}
    (hexclusive : s.Exclusive) (hi : s.requests[i]? = some r) (hneeds : r.phase.needsInner)
    (hj : s.requests[j]? = some ⟨kind', .locking⟩) :
    ∃ s', Relation.ReflTransGen (fun s s' ↦ ∃ a, s.act a = some s') s s' ∧ WaitForever s' [i, j] := by
  have hinner : ∀ (s₁ : Service) kind work todo rows, s₁.Exclusive →
      s₁.requests[i]? = some ⟨kind, .reading (work :: todo) rows⟩ →
        s₁.requests[j]? = some ⟨kind', .locking⟩ →
          ∃ s', Relation.ReflTransGen (fun s s' ↦ ∃ a, s.act a = some s') s₁ s' ∧
            WaitForever s' [i, j] := by
    intro s₁ kind work todo rows hexclusive₁ hi₁ hj₁
    have hbusy : s₁.freeForReading = false := by
      by_contra hfree
      cases Service.pending_of_freeForReading (by simpa using hfree) hj₁
    have hact : s₁.act (.rlockInner i) = some (s₁.move i kind (.waitingInner (work :: todo) rows)) := by
      simp only [Service.act, hi₁, hbusy, Bool.false_eq_true, if_false]
    have hblocked : (s₁.move i kind (.waitingInner (work :: todo) rows)).requests[i]? =
        some ⟨kind, .waitingInner (work :: todo) rows⟩ :=
      List.getElem?_set_self (List.getElem?_eq_some_iff.mp hi₁).1
    exact ⟨_, .single ⟨_, hact⟩, waitForever_of_inner
      (hexclusive₁.step (Service.step_of_act hact)) hblocked
      (getElem?_move_of_ne hj₁ hi₁ (by simp))⟩
  obtain ⟨kind, phase⟩ := r
  cases phase with
  | reading todo rows =>
    cases todo with
    | nil => cases hneeds
    | cons work todo => exact hinner s kind work todo rows hexclusive hi hj
  | waitingInner todo rows => exact ⟨s, .refl, waitForever_of_inner hexclusive hi hj⟩
  | computing todo rows =>
    cases todo with
    | nil => cases hneeds
    | cons work todo =>
      cases todo with
      | nil => cases hneeds
      | cons work' todo =>
        have hact : s.act (.compute i) = some (s.move i kind
            (.reading (work' :: todo) (rows ++ [(work.1, s.tables.summary work.2)]))) := by
          simp only [Service.act, hi]
        obtain ⟨s', hrun, hforever⟩ := hinner _ kind work' todo _
          (hexclusive.step (Service.step_of_act hact))
          (List.getElem?_set_self (List.getElem?_eq_some_iff.mp hi).1)
          (getElem?_move_of_ne hj hi (by simp))
        exact ⟨s', .head ⟨_, hact⟩ hrun, hforever⟩
  | _ => cases hneeds

/-- The condition leaves out only turns that end in a deadlock. -/
theorem waitForever_of_disturbed {s s' : Service} {a : Action} (hs : service.Reachable s)
    (ha : s.act a = some s') (hdisturbs : ¬ Undisturbed s a) :
    ∃ s'' waiting, Relation.ReflTransGen (fun s s' ↦ ∃ a, s.act a = some s') s' s'' ∧
      WaitForever s'' waiting := by
  have hexclusive := Service.exclusive_of_reachable hs
  have hexclusive' := hexclusive.step (Service.step_of_act ha)
  have hturn : ∀ {i : Nat} {kind : Kind} {phase : Phase}, s.requests[i]? = some ⟨kind, phase⟩ →
      phase.needsInner = false → s' = s.takeTurn i kind →
        (∃ r ∈ s.requests, r.phase.needsInner) →
          ∃ s'' waiting, Relation.ReflTransGen (fun s s' ↦ ∃ a, s.act a = some s') s' s'' ∧
            WaitForever s'' waiting := by
    intro i kind phase hi hphase heq hneeds
    obtain ⟨r, hr, hneeds⟩ := hneeds
    obtain ⟨j, hj⟩ := List.getElem?_of_mem hr
    have hji : i ≠ j := by
      rintro rfl
      rw [hi, Option.some.injEq] at hj
      subst hj
      simp [hphase] at hneeds
    have hbusy : ¬ s.freeForWriting = true := by
      intro hfree
      simp [Service.needsInner_of_free hfree r hr] at hneeds
    have hmove : s' = s.move i kind .locking := by
      rw [heq, Service.takeTurn, if_neg hbusy]
    rw [hmove] at hexclusive' ⊢
    obtain ⟨s'', hrun, hforever⟩ := waitForever_of_needsInner hexclusive'
      ((List.getElem?_set_ne hji).trans hj) hneeds
      (List.getElem?_set_self (List.getElem?_eq_some_iff.mp hi).1)
    exact ⟨s'', _, hrun, hforever⟩
  cases Service.step_of_act ha with
  | lockTurn hi hfree | wakeQueued hi hfree =>
    refine hturn hi rfl rfl ?_
    by_contra hnot
    exact hdisturbs (fun _ r hr ↦ by simpa using fun hneeds ↦ hnot ⟨r, hr, hneeds⟩)
  | lockQueued hi hbusy =>
    exact absurd (fun hfree ↦ by simp [hbusy] at hfree) hdisturbs
  | _ => exact absurd trivial hdisturbs

/-- The first request has its read lock, the second one calls `Lock`, and the first one goes on to
`computeOccupancy`. -/
theorem deadlock_of_nested_rlock : ∃ s waiting, service.Reachable s ∧ WaitForever s waiting := by
  obtain ⟨s, hs⟩ : ∃ s, System.run Service.act {}
      (.call (.portSummary "switch") :: reload 0 ++
        [.rlock 0, .call (.portSummary "switch"), .lock 1, .rlockInner 0]) = some s := ⟨_, rfl⟩
  have hinit : service.init {} := rfl
  have hreach : service.Reachable s := .run _ (fun _ _ _ h ↦ h) _ (.init hinit) hs
  obtain rfl := Option.some.inj hs
  exact ⟨_, [0, 1], hreach,
    waitForever_of_inner (i := 0) (j := 1) (Service.exclusive_of_reachable hreach) rfl rfl⟩

end Unoc.PortSummary
