import Mathlib.Data.List.Count
import Mathlib.Data.List.Perm.Basic
import Unoc.Base.Ends

/-!
# A pool of workers over two channels

A sender puts jobs on a buffered channel and closes it, workers take jobs and put results on a second
channel, which is closed when all workers are done, and a collector takes the results. Each of these
moves at any time. The work on a job may choose among several results.
-/

namespace Unoc.Base.WorkerPool

universe u v w

variable {α : Type u} {β : Type v} {Ω : Type w}

/-- What a worker does. -/
inductive Worker (α : Type u) where
  | idle
  | busy (job : α)
  | done
  deriving DecidableEq

/-- The job that a worker holds. -/
def Worker.job? : Worker α → Option α
  | .busy job => some job
  | _ => none

/-- The worker has not returned. -/
def Worker.isRunning : Worker α → Bool
  | .done => false
  | _ => true

/-- The sender's rest, both channels, the workers, and what was collected. -/
structure Pool (α : Type u) (β : Type v) where
  unsent : List α
  jobs : List α
  jobsClosed : Bool
  workers : List (Worker α)
  results : List (α × β)
  resultsClosed : Bool
  collected : List (α × β)

/-- A pool before its first step. -/
def start (β : Type v) (all : List α) (workers : Nat) : Pool α β where
  unsent := all
  jobs := []
  jobsClosed := false
  workers := List.replicate workers .idle
  results := []
  resultsClosed := false
  collected := []

/-- One move of the sender, a worker, the closer or the collector. -/
inductive Step (work : Ω → α → β) (capacity : Nat) : Pool α β → Pool α β → Prop
  | send {p : Pool α β} {job : α} {rest : List α} (hunsent : p.unsent = job :: rest)
      (hroom : p.jobs.length < capacity) :
      Step work capacity p { p with unsent := rest, jobs := p.jobs ++ [job] }
  | closeJobs {p : Pool α β} (hunsent : p.unsent = []) (hopen : p.jobsClosed = false) :
      Step work capacity p { p with jobsClosed := true }
  | receive {p : Pool α β} {before after : List (Worker α)} {job : α} {rest : List α}
      (hworkers : p.workers = before ++ .idle :: after) (hjobs : p.jobs = job :: rest) :
      Step work capacity p { p with jobs := rest, workers := before ++ .busy job :: after }
  | finish {p : Pool α β} {before after : List (Worker α)} {job : α} (choice : Ω)
      (hworkers : p.workers = before ++ .busy job :: after) (hroom : p.results.length < capacity) :
      Step work capacity p
        { p with
          workers := before ++ .idle :: after
          results := p.results ++ [(job, work choice job)] }
  | exit {p : Pool α β} {before after : List (Worker α)}
      (hworkers : p.workers = before ++ .idle :: after) (hjobs : p.jobs = [])
      (hclosed : p.jobsClosed = true) :
      Step work capacity p { p with workers := before ++ .done :: after }
  | closeResults {p : Pool α β} (hworkers : ∀ x ∈ p.workers, x = .done)
      (hopen : p.resultsClosed = false) :
      Step work capacity p { p with resultsClosed := true }
  | collect {p : Pool α β} {result : α × β} {rest : List (α × β)}
      (hresults : p.results = result :: rest) :
      Step work capacity p { p with results := rest, collected := p.collected ++ [result] }

/-- A pool whose choices are among those of another one. -/
theorem Step.mono {Ω' : Type w} {work : Ω → α → β} {work' : Ω' → α → β} {capacity : Nat}
    {p p' : Pool α β} (hwork : ∀ choice', ∃ choice, ∀ job, work' choice' job = work choice job)
    (h : Step work' capacity p p') : Step work capacity p p' := by
  cases h with
  | send hunsent hroom => exact .send hunsent hroom
  | closeJobs hunsent hopen => exact .closeJobs hunsent hopen
  | receive hworkers hjobs => exact .receive hworkers hjobs
  | finish choice' hworkers hroom =>
    obtain ⟨choice, hchoice⟩ := hwork choice'
    rw [hchoice]
    exact .finish choice hworkers hroom
  | exit hworkers hjobs hclosed => exact .exit hworkers hjobs hclosed
  | closeResults hworkers hopen => exact .closeResults hworkers hopen
  | collect hresults => exact .collect hresults

/-! ### The invariant -/

/-- Each job is in one place, results are results of the work, and channels are closed behind those
that use them. -/
structure Inv (work : Ω → α → β) (all : List α) (p : Pool α β) : Prop where
  staffed : p.workers ≠ []
  ledger : (p.collected.map Prod.fst ++ p.results.map Prod.fst ++
    p.workers.filterMap Worker.job? ++ p.jobs ++ p.unsent).Perm all
  worked : ∀ x ∈ p.collected ++ p.results, ∃ choice, x.2 = work choice x.1
  sent : p.jobsClosed = true → p.unsent = []
  exited : .done ∈ p.workers → p.jobs = [] ∧ p.jobsClosed = true
  finished : p.resultsClosed = true → ∀ x ∈ p.workers, x = .done

section Invariant

variable {work : Ω → α → β} {all : List α} {capacity : Nat} {p p' : Pool α β}

private theorem filterMap_replicate_idle (n : Nat) :
    (List.replicate n (Worker.idle : Worker α)).filterMap Worker.job? = [] := by
  induction n with
  | zero => rfl
  | succ n ih => rw [List.replicate_succ, List.filterMap_cons_none rfl, ih]

/-- The pool starts with its workers and all work. -/
theorem inv_start {workers : Nat} (h : 0 < workers) : Inv work all (start β all workers) where
  staffed := by
    obtain ⟨n, rfl⟩ := Nat.exists_eq_succ_of_ne_zero (Nat.ne_of_gt h)
    exact List.cons_ne_nil _ _
  ledger := by
    simp only [start, filterMap_replicate_idle, List.map_nil, List.nil_append]
    exact .refl _
  worked x hx := by cases hx
  sent hclosed := by cases hclosed
  exited hdone := by cases (List.mem_replicate.mp hdone).2
  finished hclosed := by cases hclosed

/-- A step moves jobs between places. -/
theorem Step.ledger_perm (hstep : Step work capacity p p') :
    (p'.collected.map Prod.fst ++ p'.results.map Prod.fst ++ p'.workers.filterMap Worker.job? ++
      p'.jobs ++ p'.unsent).Perm
    (p.collected.map Prod.fst ++ p.results.map Prod.fst ++ p.workers.filterMap Worker.job? ++
      p.jobs ++ p.unsent) := by
  classical
  rw [List.perm_iff_count]
  intro a
  cases hstep with
  | send hunsent _ => simp [hunsent]
  | closeJobs _ _ => rfl
  | receive hworkers hjobs =>
    simp [hworkers, hjobs, List.filterMap_append, List.filterMap_cons, Worker.job?, List.count_cons]
    omega
  | finish _ hworkers _ =>
    simp [hworkers, List.filterMap_append, List.filterMap_cons, Worker.job?, List.count_cons]
    omega
  | exit hworkers _ _ =>
    simp [hworkers, List.filterMap_append, List.filterMap_cons, Worker.job?]
  | closeResults _ _ => rfl
  | collect hresults => simp [hresults]

/-- A step keeps the invariant of the pool. -/
theorem Inv.step (h : Inv work all p) (hstep : Step work capacity p p') : Inv work all p' := by
  obtain ⟨hstaffed, hledger, hworked, hsent, hexited, hfinished⟩ := h
  have hledger' := hstep.ledger_perm.trans hledger
  cases hstep with
  | @send job rest hunsent hroom =>
    have hopen : p.jobsClosed = false := by
      by_contra hclosed
      rw [hsent (by simpa using hclosed)] at hunsent
      cases hunsent
    refine ⟨hstaffed, hledger', hworked, ?_, ?_, hfinished⟩
    · intro hclosed
      rw [hopen] at hclosed
      cases hclosed
    · intro hdone
      have hclosed := (hexited hdone).2
      rw [hopen] at hclosed
      cases hclosed
  | closeJobs hunsent hopen =>
    exact ⟨hstaffed, hledger', hworked, fun _ ↦ hunsent, fun hdone ↦ ⟨(hexited hdone).1, rfl⟩,
      hfinished⟩
  | @receive before after job rest hworkers hjobs =>
    have hbusy : .done ∉ p.workers := by
      intro hdone
      rw [(hexited hdone).1] at hjobs
      cases hjobs
    refine ⟨by simp, hledger', hworked, hsent, ?_, ?_⟩
    · intro hdone
      rw [hworkers] at hbusy
      simp at hbusy hdone
      tauto
    · intro hclosed
      have hidle := hfinished hclosed .idle (by rw [hworkers]; simp)
      cases hidle
  | @finish before after job choice hworkers hroom =>
    refine ⟨by simp, hledger', ?_, hsent, ?_, ?_⟩
    · intro x hx
      rw [← List.append_assoc] at hx
      rcases List.mem_append.mp hx with hx | hx
      · exact hworked x hx
      · rw [List.mem_singleton.mp hx]
        exact ⟨choice, rfl⟩
    · intro hdone
      apply hexited
      rw [hworkers]
      simpa using hdone
    · intro hclosed
      have hjob := hfinished hclosed (.busy job) (by rw [hworkers]; simp)
      cases hjob
  | @exit before after hworkers hjobs hclosed =>
    refine ⟨by simp, hledger', hworked, hsent, fun _ ↦ ⟨hjobs, hclosed⟩, ?_⟩
    intro hresults
    have hidle := hfinished hresults .idle (by rw [hworkers]; simp)
    cases hidle
  | closeResults hworkers hopen =>
    exact ⟨hstaffed, hledger', hworked, hsent, hexited, fun _ ↦ hworkers⟩
  | @collect result rest hresults =>
    refine ⟨hstaffed, hledger', ?_, hsent, hexited, hfinished⟩
    rw [hresults] at hworked
    simpa using hworked

/-! ### Progress -/

/-- A pool without a step is finished: both channels are empty and closed. -/
theorem Inv.finished_of_stuck (h : Inv work all p) (hcapacity : capacity = all.length) [Nonempty Ω]
    (hstuck : ∀ t, ¬ Step work capacity p t) : p.results = [] ∧ p.resultsClosed = true := by
  have hlength := h.ledger.length_eq
  simp only [List.length_append, List.length_map] at hlength
  have hunsent : p.unsent = [] := by
    cases hu : p.unsent with
    | nil => rfl
    | cons job rest =>
      rw [hu, List.length_cons] at hlength
      exact absurd (.send hu (by omega)) (hstuck _)
  have hclosed : p.jobsClosed = true := by
    by_contra hopen
    exact hstuck _ (.closeJobs hunsent (by simpa using hopen))
  have hdone : ∀ x ∈ p.workers, x = .done := by
    intro x hx
    obtain ⟨before, after, hworkers⟩ := List.append_of_mem hx
    cases x with
    | idle =>
      cases hj : p.jobs with
      | nil => exact absurd (.exit hworkers hj hclosed) (hstuck _)
      | cons job rest => exact absurd (.receive hworkers hj) (hstuck _)
    | busy job =>
      have hroom : p.results.length < capacity := by
        rw [hworkers] at hlength
        simp [List.filterMap_append, Worker.job?] at hlength
        omega
      exact absurd (.finish (Classical.arbitrary Ω) hworkers hroom) (hstuck _)
    | done => rfl
  have hresults : p.resultsClosed = true := by
    by_contra hopen
    exact hstuck _ (.closeResults hdone (by simpa using hopen))
  refine ⟨?_, hresults⟩
  cases hr : p.results with
  | nil => rfl
  | cons result rest => exact absurd (.collect hr) (hstuck _)

/-- A finished pool takes no step. -/
theorem Inv.stuck_of_finished (h : Inv work all p) (hresults : p.results = [])
    (hclosed : p.resultsClosed = true) (p' : Pool α β) : ¬ Step work capacity p p' := by
  have hdone := h.finished hclosed
  obtain ⟨x, hx⟩ := List.exists_mem_of_ne_nil _ h.staffed
  obtain ⟨hjobs, hjobsClosed⟩ := h.exited (hdone x hx ▸ hx)
  have hunsent := h.sent hjobsClosed
  intro hstep
  cases hstep with
  | send hmore _ => rw [hunsent] at hmore; cases hmore
  | closeJobs _ hopen => rw [hjobsClosed] at hopen; cases hopen
  | receive hworkers _ => cases hdone .idle (by rw [hworkers]; simp)
  | @finish _ _ job _ hworkers _ => cases hdone (.busy job) (by rw [hworkers]; simp)
  | exit hworkers _ _ => cases hdone .idle (by rw [hworkers]; simp)
  | closeResults _ hopen => rw [hclosed] at hopen; cases hopen
  | collect hmore => rw [hresults] at hmore; cases hmore

/-- When the pool is finished, each job was collected as often as it was given. -/
theorem Inv.collected_perm (h : Inv work all p) (hresults : p.results = [])
    (hclosed : p.resultsClosed = true) : (p.collected.map Prod.fst).Perm all := by
  have hdone := h.finished hclosed
  obtain ⟨x, hx⟩ := List.exists_mem_of_ne_nil _ h.staffed
  obtain ⟨hjobs, hjobsClosed⟩ := h.exited (hdone x hx ▸ hx)
  have hbusy : p.workers.filterMap Worker.job? = [] := by
    rw [List.filterMap_eq_nil_iff]
    intro y hy
    rw [hdone y hy]
    rfl
  have hledger := h.ledger
  rw [hresults, hbusy, hjobs, h.sent hjobsClosed] at hledger
  simpa using hledger

/-- Moves left. -/
def remaining (p : Pool α β) : Nat :=
  4 * p.unsent.length + 3 * p.jobs.length + 2 * (p.workers.filterMap Worker.job?).length +
    p.results.length + p.workers.countP Worker.isRunning +
      (if p.jobsClosed then 0 else 1) + (if p.resultsClosed then 0 else 1)

private theorem remaining_lt (hstep : Step work capacity p p') : remaining p' < remaining p := by
  cases hstep with
  | send hunsent _ => simp [remaining, hunsent]; omega
  | closeJobs _ hopen => simp [remaining, hopen]
  | receive hworkers hjobs =>
    simp [remaining, hworkers, hjobs, List.filterMap_append, List.filterMap_cons, Worker.job?,
      Worker.isRunning, List.countP_append, List.countP_cons]
    omega
  | finish _ hworkers _ =>
    simp [remaining, hworkers, List.filterMap_append, List.filterMap_cons, Worker.job?,
      Worker.isRunning, List.countP_append, List.countP_cons]
    omega
  | exit hworkers _ _ =>
    simp [remaining, hworkers, List.filterMap_append, List.filterMap_cons, Worker.job?,
      Worker.isRunning, List.countP_append, List.countP_cons]
  | closeResults _ hopen => simp [remaining, hopen]
  | collect hresults => simp [remaining, hresults]

/-- Every run of a pool ends with a result for each job. -/
theorem ends_start [Nonempty Ω] {workers : Nat} (h : 0 < workers) :
    Ends (Step work all.length) (fun p ↦ (p.results = [] ∧ p.resultsClosed = true) ∧
      (p.collected.map Prod.fst).Perm all ∧ ∀ x ∈ p.collected, ∃ choice, x.2 = work choice x.1)
      (start β all workers) := by
  apply Ends.of_measure (I := Inv work all) remaining _ _ (inv_start h)
  · intro p p' hinv hstep
    exact ⟨hinv.step hstep, remaining_lt hstep⟩
  · intro p hinv hstuck
    obtain ⟨hresults, hclosed⟩ := hinv.finished_of_stuck rfl hstuck
    exact ⟨⟨hresults, hclosed⟩, hinv.collected_perm hresults hclosed,
      fun x hx ↦ hinv.worked x (List.mem_append_left _ hx)⟩

end Invariant

end Unoc.Base.WorkerPool
