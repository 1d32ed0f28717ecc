import Mathlib.Data.List.Perm.Basic
import Unoc.Base.Rendering
import Unoc.Base.SlicedQueue
import Unoc.Base.System
import Unoc.Links.Lifecycle

/-!
# Jobs

`backend/core/jobs.py` and `backend/services/job_dispatcher.py`, with the worker loop of
`backend/main.py:151–198`. The endpoints run in threads of their own and answer 202 once their job is
enqueued; the loop takes microbatches and applies each job, swallowing what it raises.
-/

namespace Unoc.Links

open Unoc.Base
open List (Perm)
open scoped List

/-! ### Jobs -/

/-- The keys of a payload that handlers read. -/
structure JobPayload where
  linkId : Option String := none
  /-- `body.get("admin_override_status")`. -/
  override : Option String := none
  link : Option LinkCreate := none
  deriving DecidableEq, Repr

/-- `Job`; `jobs.py:7–12`. -/
structure Job where
  id : String
  kind : String
  payload : JobPayload
  deriving DecidableEq, Repr

/-- `_next_job_id` at a value of the counter; `job_dispatcher.py:19–25`. -/
def nextJobId (kind : String) (n : Nat) : String := kind ++ ":" ++ toString n

/-- One job of `handle_batch`; `job_dispatcher.py:44–64`. -/
def handleJob (env : Runtime) (store : Store) (job : Job) : Store :=
  let linkId := textOrNone job.payload.linkId
  let outcome :=
    if job.kind = "link.override" then setLinkOverrideImpl env store linkId job.payload.override
    else if job.kind = "link.create" then
      match job.payload.link with
      | some p => createLinkImpl env store p
      | none => .error (.http 422 "validation")
    else if job.kind = "link.delete" then deleteLinkImpl env store linkId
    else .ok store
  match outcome with
  | .ok store' => store'
  | .error _ => store

/-! ### Threads and the worker -/

/-- The queue and its counter, the jobs whose threads have not read the queue yet, and the rows. -/
structure JobState where
  counter : Nat := 1
  created : List Job := []
  queue : SlicedQueue Job := {}
  store : Store

/-- A step of a thread or of the worker. -/
inductive JobAct where
  | accept (kind : String) (payload : JobPayload)
  | load (i : Nat)
  | append (i : Nat)
  | work
  deriving DecidableEq, Repr

/-- One step. The statement `self._q.append(job)` reads the attribute before it appends;
`next_microbatch` slices twice and assigns; `job_dispatcher.py:28–35`, `jobs.py:34–47`. -/
def jobStep (env : Runtime) (maxItems : Nat) (s : JobState) : JobAct → Option JobState
  | .accept kind payload =>
    some { s with
      counter := s.counter + 1
      created := s.created ++ [⟨nextJobId kind s.counter, kind, payload⟩] }
  | .load i =>
    (s.created[i]?).map (fun job ↦
      { s with created := s.created.eraseIdx i, queue := s.queue.load job })
  | .append i => (s.queue.append i).map (fun queue ↦ { s with queue := queue })
  | .work =>
    (s.queue.work maxItems).map (fun queue ↦
      { s with queue := queue, store := s.queue.next.toList.foldl (handleJob env) s.store })

/-- Interleavings of any number of threads with the worker. -/
def jobs (env : Runtime) (maxItems : Nat) (store : Store) : System JobState JobAct :=
  System.ofAct (fun s ↦ s = { store := store }) (jobStep env maxItems)

/-! ### Invariant -/

variable {env : Runtime} {maxItems : Nat} {store : Store} {s s' : JobState} {act : JobAct}

/-- The jobs that were accepted. -/
def JobState.accepted (s : JobState) : List Job :=
  s.created ++ s.queue.loaded.map Prod.fst ++ s.queue.log.map Prod.fst

/-- The queue is in order, ids come from the counter, and the rows are those after the handled
jobs. -/
structure JobsInv (env : Runtime) (store : Store) (s : JobState) : Prop where
  ordered : s.queue.Ordered
  numbered : ∀ job ∈ s.accepted, ∃ kind n, n < s.counter ∧ job.id = nextJobId kind n
  ids : (s.accepted.map Job.id).Nodup
  rows : s.store = s.queue.handled.foldl (handleJob env) store

private theorem nextJobId_inj {kind kind' : String} {n n' : Nat}
    (h : nextJobId kind n = nextJobId kind' n') :
    n = n' := (append_colon_toString_inj h).2

/-- A member by its position, and the others. -/
theorem perm_of_getElem? {α : Type} {xs : List α} {i : Nat} {x : α} (h : xs[i]? = some x) :
    (x :: xs.eraseIdx i).Perm xs := by
  have ⟨hi, hx⟩ := List.getElem?_eq_some_iff.mp h
  rw [← hx]
  exact List.getElem_cons_eraseIdx_perm hi

/-- A step moves jobs between the threads and the queue, or accepts one job. -/
theorem accepted_step (h : jobStep env maxItems s act = some s') :
    (s'.counter = s.counter ∧ s'.accepted.Perm s.accepted) ∨ ∃ kind payload,
      s'.counter = s.counter + 1 ∧
        s'.accepted.Perm (⟨nextJobId kind s.counter, kind, payload⟩ :: s.accepted) := by
  cases act with
  | accept kind payload =>
    right
    refine ⟨kind, payload, ?_⟩
    cases h
    refine ⟨rfl, ?_⟩
    unfold JobState.accepted
    simp only [List.append_assoc, List.singleton_append]
    exact List.perm_middle
  | load i =>
    left
    have ⟨job, hjob, hs'⟩ := Option.map_eq_some_iff.mp h
    rw [← hs']
    refine ⟨rfl, ?_⟩
    calc s.created.eraseIdx i ++ (s.queue.loaded ++ [(job, s.queue.generation)]).map Prod.fst ++
          s.queue.log.map Prod.fst
        = s.created.eraseIdx i ++ (s.queue.loaded.map Prod.fst ++ job :: s.queue.log.map Prod.fst) := by
          simp
      _ ~ job :: (s.created.eraseIdx i ++ (s.queue.loaded.map Prod.fst ++ s.queue.log.map Prod.fst)) :=
          (List.perm_middle.append_left _).trans List.perm_middle
      _ ~ s.created ++ (s.queue.loaded.map Prod.fst ++ s.queue.log.map Prod.fst) :=
          (perm_of_getElem? hjob).append_right _
      _ = s.accepted := (List.append_assoc _ _ _).symm
  | append i =>
    left
    have ⟨queue, happend, hs'⟩ := Option.map_eq_some_iff.mp h
    have ⟨e, he, hqueue⟩ := Option.map_eq_some_iff.mp happend
    rw [← hs', ← hqueue]
    refine ⟨rfl, ?_⟩
    have hperm : (e.1 :: (s.queue.loaded.eraseIdx i).map Prod.fst).Perm
        (s.queue.loaded.map Prod.fst) := (perm_of_getElem? he).map Prod.fst
    unfold JobState.accepted
    simp only [List.map_append, List.map_cons, List.map_nil, List.append_assoc]
    apply List.Perm.append_left
    calc (s.queue.loaded.eraseIdx i).map Prod.fst ++ (s.queue.log.map Prod.fst ++ [e.1])
        ~ (e.1 :: (s.queue.loaded.eraseIdx i).map Prod.fst) ++ s.queue.log.map Prod.fst := by
          rw [← List.append_assoc]
          exact List.perm_append_singleton _ _
      _ ~ s.queue.loaded.map Prod.fst ++ s.queue.log.map Prod.fst := hperm.append_right _
  | work =>
    left
    have ⟨queue, hwork, hs'⟩ := Option.map_eq_some_iff.mp h
    rw [← hs']
    have ⟨hlog, hloaded, _, _⟩ := SlicedQueue.work_cases hwork
    refine ⟨rfl, ?_⟩
    simp only [JobState.accepted, hlog, hloaded]
    exact .refl _

private theorem jobsInv_init : JobsInv env store { store := store } :=
  ⟨SlicedQueue.ordered_empty, by simp [JobState.accepted], by simp [JobState.accepted], rfl⟩

private theorem ordered_step (h : s.queue.Ordered) (hstep : jobStep env maxItems s act = some s') :
    s'.queue.Ordered := by
  cases act with
  | accept kind payload =>
    cases hstep
    exact h
  | load i =>
    have ⟨job, _, hs'⟩ := Option.map_eq_some_iff.mp hstep
    rw [← hs']
    exact h.load job
  | append i =>
    have ⟨queue, happend, hs'⟩ := Option.map_eq_some_iff.mp hstep
    rw [← hs']
    exact h.append happend
  | work =>
    have ⟨queue, hwork, hs'⟩ := Option.map_eq_some_iff.mp hstep
    rw [← hs']
    exact h.work hwork

/-- The rows follow the jobs that are handled. -/
theorem rows_step (h : s.store = s.queue.handled.foldl (handleJob env) store)
    (hstep : jobStep env maxItems s act = some s') :
    s'.store = s'.queue.handled.foldl (handleJob env) store := by
  cases act with
  | accept kind payload =>
    cases hstep
    exact h
  | load i =>
    have ⟨job, _, hs'⟩ := Option.map_eq_some_iff.mp hstep
    rw [← hs']
    exact h
  | append i =>
    have ⟨queue, happend, hs'⟩ := Option.map_eq_some_iff.mp hstep
    have ⟨e, _, hqueue⟩ := Option.map_eq_some_iff.mp happend
    rw [← hs', ← hqueue]
    exact h
  | work =>
    have ⟨queue, hwork, hs'⟩ := Option.map_eq_some_iff.mp hstep
    have ⟨_, _, _, hhandled⟩ := SlicedQueue.work_cases hwork
    rw [← hs']
    dsimp only
    rw [hhandled, List.foldl_append, h]

private theorem JobsInv.step (h : JobsInv env store s)
    (hstep : jobStep env maxItems s act = some s') :
    JobsInv env store s' := by
  refine ⟨ordered_step h.ordered hstep, ?_, ?_, rows_step h.rows hstep⟩
  · intro job hjob
    rcases accepted_step hstep with ⟨hcounter, hperm⟩ | ⟨kind, payload, hcounter, hperm⟩
    · rw [hcounter]
      exact h.numbered job (hperm.mem_iff.mp hjob)
    · rw [hcounter]
      rcases List.mem_cons.mp (hperm.mem_iff.mp hjob) with rfl | hold
      · exact ⟨kind, s.counter, Nat.lt_succ_self _, rfl⟩
      · have ⟨kind', n, hn, hid⟩ := h.numbered job hold
        exact ⟨kind', n, Nat.lt_succ_of_lt hn, hid⟩
  · rcases accepted_step hstep with ⟨_, hperm⟩ | ⟨kind, payload, _, hperm⟩
    · exact (hperm.map Job.id).nodup_iff.mpr h.ids
    · apply (hperm.map Job.id).nodup_iff.mpr
      rw [List.map_cons, List.nodup_cons]
      refine ⟨?_, h.ids⟩
      intro hmem
      have ⟨job, hjob, hid⟩ := List.mem_map.mp hmem
      have ⟨kind', n, hn, hid'⟩ := h.numbered job hjob
      have heq := nextJobId_inj (hid'.symm.trans hid)
      omega

/-- The steps of the worker alone. -/
abbrev WorkerRuns (env : Runtime) (maxItems : Nat) : JobState → JobState → Prop :=
  Relation.ReflTransGen (fun s s' ↦ jobStep env maxItems s .work = some s')

private theorem workerRuns_of_works (env : Runtime) {queue : SlicedQueue Job}
    (h : SlicedQueue.Works maxItems s.queue queue) :
    ∃ s', WorkerRuns env maxItems s s' ∧ s'.queue = queue := by
  induction h with
  | refl => exact ⟨s, .refl, rfl⟩
  | tail _ hstep ih =>
    have ⟨m, hruns, hqueue⟩ := ih
    rw [← hqueue] at hstep
    have hwork : jobStep env maxItems m .work = some _ := congrArg (Option.map _) hstep
    exact ⟨_, hruns.tail hwork, rfl⟩

private theorem WorkerRuns.inv (h : WorkerRuns env maxItems s s') (hs : JobsInv env store s) :
    JobsInv env store s' := by
  induction h with
  | refl => exact hs
  | tail _ hstep ih => exact ih.step hstep

/-- In every interleaving the jobs are handled in the order of their appends, each at most once, and
none is skipped whose list stayed in use; the worker alone reaches the rows that result from running
these jobs one after another. -/
theorem jobs_handled_in_order (env : Runtime) {maxItems : Nat} (hmax : 0 < maxItems) (store : Store)
    {s : JobState} (h : (jobs env maxItems store).Reachable s) :
    s.queue.handled ++ s.queue.waiting = s.queue.kept ∧ (s.accepted.map Job.id).Nodup ∧
      s.store = s.queue.handled.foldl (handleJob env) store ∧
      ∃ s', WorkerRuns env maxItems s s' ∧ s'.queue.handled = s.queue.kept ∧
        s'.store = s.queue.kept.foldl (handleJob env) store := by
  have hinv : JobsInv env store s := by
    apply System.Reachable.invariant (I := JobsInv env store) ?_ ?_ h
    · rintro s rfl
      exact jobsInv_init
    · intro s act s' hs hstep
      exact hs.step hstep
  refine ⟨hinv.ordered.order, hinv.ids, hinv.rows, ?_⟩
  have ⟨queue, hworks, hhandled⟩ := SlicedQueue.exists_works_handled hinv.ordered hmax
  have ⟨s', hruns, hqueue⟩ := workerRuns_of_works env hworks
  have hrows := (WorkerRuns.inv hruns hinv).rows
  rw [hqueue, hhandled] at hrows
  exact ⟨s', hruns, by rw [hqueue, hhandled], hrows⟩

/-- A creation, and an override that is appended between the second slice and its assignment. -/
theorem jobs_handled_in_order_overtaken : ∃ s : JobState, s.accepted.length = 2 ∧
    s.queue.handled ++ s.queue.waiting = s.queue.kept ∧ s.queue.kept.length = 1 ∧
      ∃ s', WorkerRuns constantRuntime 256 s s' ∧ s'.queue.handled = s.queue.kept := by
  have hrun : (System.run (jobStep constantRuntime 256) { store := accessNetwork }
      [.accept "link.create" { link := some (linkRequest "olt-if0" "odf-if0") }, .load 0, .append 0,
        .accept "link.override" { linkId := some "olt__odf", override := some "DOWN" }, .load 0,
        .work, .work, .append 0, .work]).any
        (fun s ↦ s.accepted.length = 2 ∧ s.queue.kept.length = 1) = true := by
    decide +kernel
  have ⟨s, hs, hlengths⟩ := (Option.any_eq_true _ _).mp hrun
  have ⟨haccepted, hkept⟩ := of_decide_eq_true hlengths
  have hreach : (jobs constantRuntime 256 accessNetwork).Reachable s :=
    .run _ (fun _ _ _ h ↦ h) _ (.init rfl) hs
  have ⟨horder, _, _, s', hruns, hhandled, _⟩ :=
    jobs_handled_in_order constantRuntime (by decide) accessNetwork hreach
  exact ⟨s, haccepted, horder, hkept, s', hruns, hhandled⟩

end Unoc.Links
