import Mathlib.Data.List.Induction
import Mathlib.Data.List.Perm.Subperm
import Unoc.Base.WorkerPool
import Unoc.Optical.Resolver

/-!
# Resolution of many ONTs

`engine-go/internal/optical/parallel.go` resolves a list of ONTs by a pool of workers, batch by batch,
or one after the other. A pool reports an error if all resolutions of its list failed, the plain loop
never does. The context is not cancelled here, so that its checks are left out.
-/

namespace Unoc.Optical.Parallel

open Unoc.Base
open Unoc.Base.Dijkstra (PriorityQueue)
open Unoc.Base.WorkerPool (Pool)
open Unoc.Optical.PathFinder (Graph MapOrder)
open Unoc.Optical.Resolver (resolveOpticalPath reversedOrder plainNode graphOf)

/-- `map[string]*OpticalPathResult`. -/
abbrev Results := Dict String PathFinder.OpticalPathResult

/-- What `ResolveOpticalPath` returns. -/
abbrev Resolved := Except String (Option PathFinder.OpticalPathResult)

/-! ### One after the other -/

section Sequential

variable {Ω : Type} (resolve : Graph → Ω → String → Resolved)

/-- `results[ontID] = result`, if there is one; `parallel.go:185–192`. -/
def addResult (results : Results) (ontId : String) : Resolved → Results
  | .error _ => results
  | .ok none => results
  | .ok (some result) => results.insert ontId result

/-- `ResolveOpticalPathsSequential`, where each call takes its choice of map orders;
`parallel.go:165–196`. -/
def resolveOpticalPathsSequential (choices : Nat → Ω) (g : Option Graph) (ontIds : List String) :
    Except String Results :=
  match g with
  | none => .error "graph is nil"
  | some g => .ok (ontIds.zipIdx.foldl
      (fun results x ↦ addResult results x.1 (resolve g (choices x.2) x.1)) ∅)

end Sequential

/-! ### By a pool -/

/-- `results` and `errors`; `parallel.go:133–134`. -/
structure Aggregate where
  results : Results := ∅
  errors : Dict String String := ∅

/-- One iteration over the result channel; `parallel.go:136–143`. -/
def Aggregate.add (agg : Aggregate) (res : String × Resolved) : Aggregate :=
  match res.2 with
  | .error message => { agg with errors := agg.errors.insert res.1 message }
  | resolved => { agg with results := addResult agg.results res.1 resolved }

/-- What a call returns for the results it received; `parallel.go:132–159`. -/
def aggregateOutcome (n : Nat) (collected : List (String × Resolved)) : Except String Results :=
  let agg := collected.foldl Aggregate.add {}
  let failed := agg.errors.keys.length
  if failed = n ∧ failed > 0 then
    .error ("all " ++ toString failed ++ " ONT path resolutions failed")
  else .ok agg.results

/-- `workers` within its bounds; `parallel.go:72–78`. -/
def workerCount (workers : Int) (n : Nat) : Nat :=
  let workers := if workers ≤ 0 then 10 else workers
  (if workers > n then (n : Int) else workers).toNat

/-- A call of `ResolveOpticalPathsParallel` on a number of ONTs. -/
inductive Call where
  | running (g : Graph) (n : Nat) (pool : Pool String Resolved)
  | returned (outcome : Except String Results)

/-- `ResolveOpticalPathsParallel` up to the start of its goroutines; `parallel.go:64–86`. -/
def resolveOpticalPathsParallel (g : Option Graph) (ontIds : List String) (workers : Int) : Call :=
  match g with
  | none => .returned (.error "graph is nil")
  | some g =>
    if ontIds.length = 0 then .returned (.ok ∅)
    else .running g ontIds.length
      (WorkerPool.start Resolved ontIds (workerCount workers ontIds.length))

/-- The goroutines move, with channels of one place for each ONT, and the call returns when the result
channel is empty and closed; `parallel.go:80–159`. -/
inductive Call.Step {Ω : Type} (resolve : Graph → Ω → String → Resolved) : Call → Call → Prop
  | move {g : Graph} {n : Nat} {pool pool' : Pool String Resolved}
      (hmove : WorkerPool.Step (resolve g) n pool pool') :
      Step resolve (.running g n pool) (.running g n pool')
  | finish {g : Graph} {n : Nat} {pool : Pool String Resolved} (hresults : pool.results = [])
      (hclosed : pool.resultsClosed = true) :
      Step resolve (.running g n pool) (.returned (aggregateOutcome n pool.collected))

/-! ### In batches -/

/-- `ParallelConfig`; `parallel.go:199–206`. -/
structure ParallelConfig where
  maxWorkers : Int
  batchSize : Int

/-- A call of `ResolveOpticalPathsBatched`: at the head of its loop, in the call for a batch, returned
or panicked. -/
inductive Batched where
  | loop (i : Int) (allResults : Results)
  | batch (i stop : Int) (allResults : Results) (call : Call)
  | returned (outcome : Except String Results)
  | panicked

/-- `ResolveOpticalPathsBatched` up to its loop; `parallel.go:230–239`. -/
def resolveOpticalPathsBatched (g : Option Graph) (ontIds : List String) : Batched :=
  match g with
  | none => .returned (.error "graph is nil")
  | some _ => if ontIds.length = 0 then .returned (.ok ∅) else .loop 0 ∅

/-- `end`; `parallel.go:250–253`. -/
def batchEnd (ontIds : List String) (config : ParallelConfig) (i : Int) : Int :=
  if i + config.batchSize > ontIds.length then ontIds.length else i + config.batchSize

/-- `ontIDs[i:end]`, with `none` for a panic. -/
def slice (ontIds : List String) (i stop : Int) : Option (List String) :=
  if 0 ≤ i ∧ i ≤ stop ∧ stop ≤ ontIds.length then
    some ((ontIds.take stop.toNat).drop i.toNat)
  else none

/-- One step of the loop or of the call for a batch; `parallel.go:241–271`. -/
inductive Batched.Step {Ω : Type} (resolve : Graph → Ω → String → Resolved) (g : Option Graph)
    (ontIds : List String) (config : ParallelConfig) : Batched → Batched → Prop
  | exit {i : Int} {allResults : Results} (hi : ¬ i < ontIds.length) :
      Step resolve g ontIds config (.loop i allResults) (.returned (.ok allResults))
  | enter {i : Int} {allResults : Results} {batch : List String} (hi : i < ontIds.length)
      (hslice : slice ontIds i (batchEnd ontIds config i) = some batch) :
      Step resolve g ontIds config (.loop i allResults)
        (.batch i (batchEnd ontIds config i) allResults
          (resolveOpticalPathsParallel g batch config.maxWorkers))
  | panic {i : Int} {allResults : Results} (hi : i < ontIds.length)
      (hslice : slice ontIds i (batchEnd ontIds config i) = none) :
      Step resolve g ontIds config (.loop i allResults) .panicked
  | call {i stop : Int} {allResults : Results} {c c' : Call} (hcall : c.Step resolve c') :
      Step resolve g ontIds config (.batch i stop allResults c) (.batch i stop allResults c')
  | merge {i stop : Int} {allResults batchResults : Results} :
      Step resolve g ontIds config (.batch i stop allResults (.returned (.ok batchResults)))
        (.loop (i + config.batchSize) (batchResults ∪ allResults))
  | fail {i stop : Int} {allResults : Results} {message : String} :
      Step resolve g ontIds config (.batch i stop allResults (.returned (.error message)))
        (.returned (.error
          ("batch " ++ toString i ++ "-" ++ toString stop ++ " failed: " ++ message)))

/-! ### Agreement -/

/-- The same map, or errors of both. -/
def SameOutcome : Except String Results → Except String Results → Prop
  | .ok results, .ok results' => ∀ id, results.lookup id = results'.lookup id
  | .error _, .error _ => True
  | _, _ => False

/-- `ResolveOpticalPath` under an order of the maps. -/
def resolveWith (q : PriorityQueue String ℚ) (g : Graph) (order : MapOrder) (ontId : String) :
    Resolved := resolveOpticalPath q order g ontId

/-- In every interleaving the parallel call ends with what the plain loop returns. -/
def ParallelAgrees (q : PriorityQueue String ℚ) (g : Option Graph) (ontIds : List String)
    (workers : Int) : Prop :=
  ∀ choices : Nat → MapOrder, Ends (Call.Step (resolveWith q))
    (fun c ↦ ∃ outcome, c = .returned outcome ∧
      SameOutcome outcome (resolveOpticalPathsSequential (resolveWith q) choices g ontIds))
    (resolveOpticalPathsParallel g ontIds workers)

/-- In every interleaving the batched call ends with what the plain loop returns. -/
def BatchedAgrees (q : PriorityQueue String ℚ) (g : Option Graph) (ontIds : List String)
    (config : ParallelConfig) : Prop :=
  ∀ choices : Nat → MapOrder, Ends (Batched.Step (resolveWith q) g ontIds config)
    (fun s ↦ ∃ outcome, s = .returned outcome ∧
      SameOutcome outcome (resolveOpticalPathsSequential (resolveWith q) choices g ontIds))
    (resolveOpticalPathsBatched g ontIds)

/-- The result of an ONT does not depend on the order of the maps. -/
def OrderFree (q : PriorityQueue String ℚ) (g : Graph) (ontId : String) : Prop :=
  ∀ order order', resolveOpticalPath q order g ontId = resolveOpticalPath q order' g ontId

/-- A list of unknown ids without duplicates. -/
def AllUnknown (g : Graph) (ontIds : List String) : Prop :=
  ontIds ≠ [] ∧ ontIds.Nodup ∧ ∀ id ∈ ontIds, id ∉ g.nodes

/-- The ids of a batch. -/
def batchOf (ontIds : List String) (config : ParallelConfig) (k : Nat) : List String :=
  (ontIds.drop (k * config.batchSize.toNat)).take config.batchSize.toNat

/-! ### Results that do not depend on the order -/

/-- The resolution failed. -/
def Fails (resolved : Resolved) : Prop := ∃ message, resolved = .error message

/-- The path of a resolution, if it found one. -/
def found : Resolved → Option PathFinder.OpticalPathResult
  | .error _ => none
  | .ok result => result

/-- The map holds the paths of a list of ids. -/
def Complete (res : String → Resolved) (ids : List String) (results : Results) : Prop :=
  ∀ id, results.lookup id = if id ∈ ids then found (res id) else none

/-- All ids of a list fail, without duplicates. -/
def AllFail (res : String → Resolved) (ids : List String) : Prop :=
  ids ≠ [] ∧ ids.Nodup ∧ ∀ id ∈ ids, Fails (res id)

/-- What a pool returns: an error if all ids fail, and otherwise the paths of the list. -/
def PoolOutcome (res : String → Resolved) (ids : List String) : Except String Results → Prop
  | .error _ => AllFail res ids
  | .ok results => ¬ AllFail res ids ∧ Complete res ids results

section Folds

variable {res : String → Resolved}

private theorem complete_nil : Complete res [] ∅ := fun id ↦ by simp

private theorem Complete.of_perm {ids ids' : List String} {results : Results}
    (h : Complete res ids results)
    (hperm : ids.Perm ids') : Complete res ids' results := by
  intro id
  rw [h id]
  simp only [hperm.mem_iff]

private theorem lookup_addResult (results : Results) (ontId id : String) (resolved : Resolved) :
    (addResult results ontId resolved).lookup id =
      if id = ontId then (found resolved).or (results.lookup id) else results.lookup id := by
  cases resolved with
  | error message => simp [addResult, found]
  | ok result =>
    cases result with
    | none => simp [addResult, found]
    | some path =>
      by_cases hid : id = ontId
      · subst hid
        simp [addResult, found]
      · simp [addResult, hid, AList.lookup_insert_ne hid]

private theorem Complete.addResult {ids : List String} {results : Results}
    (h : Complete res ids results)
    (ontId : String) : Complete res (ids ++ [ontId]) (addResult results ontId (res ontId)) := by
  intro id
  rw [lookup_addResult, h id]
  by_cases hid : id = ontId
  · subst hid
    by_cases hmem : id ∈ ids <;> simp [hmem]
  · simp [hid]

/-- A loop over resolutions collects the paths of its ids. -/
theorem complete_foldl_addResult (xs : List (String × Resolved)) (h : ∀ x ∈ xs, x.2 = res x.1) :
    Complete res (xs.map Prod.fst)
      (xs.foldl (fun results x ↦ Parallel.addResult results x.1 x.2) ∅) := by
  induction xs using List.reverseRecOn with
  | nil => exact complete_nil
  | append_singleton xs x ih =>
    have hx : x.2 = res x.1 := h x (by simp)
    have hxs := ih (fun y hy ↦ h y (List.mem_append_left _ hy))
    rw [List.map_append, List.foldl_append, List.map_singleton, List.foldl_cons, List.foldl_nil, hx]
    exact hxs.addResult x.1

private theorem results_foldl_add (xs : List (String × Resolved)) (agg : Aggregate) :
    (xs.foldl Aggregate.add agg).results =
      xs.foldl (fun results x ↦ Parallel.addResult results x.1 x.2) agg.results := by
  induction xs generalizing agg with
  | nil => rfl
  | cons x xs ih =>
    rw [List.foldl_cons, List.foldl_cons, ih, Aggregate.add]
    cases x.2 <;> rfl

private theorem mem_errors_foldl_add (xs : List (String × Resolved)) (id : String) :
    id ∈ (xs.foldl Aggregate.add {}).errors ↔ ∃ x ∈ xs, x.1 = id ∧ Fails x.2 := by
  induction xs using List.reverseRecOn with
  | nil => simp
  | append_singleton xs x ih =>
    obtain ⟨ontId, resolved⟩ := x
    rw [List.foldl_append, List.foldl_cons, List.foldl_nil, Aggregate.add]
    cases resolved with
    | error message =>
      dsimp only
      rw [AList.mem_insert, ih]
      simp [or_and_right, exists_or, Fails, or_comm, eq_comm]
    | ok result =>
      dsimp only
      rw [ih]
      simp [or_and_right, exists_or, Fails]

/-- The failures are as many as the ids exactly if all ids fail, without duplicates. -/
theorem errors_length_iff {xs : List (String × Resolved)} {ids : List String}
    (hperm : (xs.map Prod.fst).Perm ids) (h : ∀ x ∈ xs, x.2 = res x.1) :
    (xs.foldl Aggregate.add {}).errors.keys.length = ids.length ↔
      ids.Nodup ∧ ∀ id ∈ ids, Fails (res id) := by
  have hmem : ∀ id, id ∈ (xs.foldl Aggregate.add {}).errors.keys ↔ id ∈ ids ∧ Fails (res id) := by
    intro id
    rw [← AList.mem_keys, mem_errors_foldl_add, ← hperm.mem_iff, List.mem_map]
    constructor
    · rintro ⟨x, hx, rfl, hfails⟩
      exact ⟨⟨x, hx, rfl⟩, h x hx ▸ hfails⟩
    · rintro ⟨⟨x, hx, rfl⟩, hfails⟩
      exact ⟨x, hx, rfl, (h x hx).symm ▸ hfails⟩
  have hnodup := (xs.foldl Aggregate.add {}).errors.keys_nodup
  constructor
  · intro hlength
    have hsub := List.subperm_of_subset hnodup (fun id hid ↦ ((hmem id).mp hid).1)
    have hall := hsub.perm_of_length_le hlength.ge
    exact ⟨hall.nodup_iff.mp hnodup, fun id hid ↦ ((hmem id).mp (hall.mem_iff.mpr hid)).2⟩
  · rintro ⟨hids, hfails⟩
    apply List.Perm.length_eq
    rw [List.perm_ext_iff_of_nodup hnodup hids]
    intro id
    rw [hmem id]
    exact ⟨fun hid ↦ hid.1, fun hid ↦ ⟨hid, hfails id hid⟩⟩

/-- The outcome of what a pool has collected. -/
theorem poolOutcome_aggregateOutcome {xs : List (String × Resolved)} {ids : List String}
    (hids : ids ≠ []) (hperm : (xs.map Prod.fst).Perm ids) (h : ∀ x ∈ xs, x.2 = res x.1) :
    PoolOutcome res ids (aggregateOutcome ids.length xs) := by
  have hcount := errors_length_iff hperm h
  have hpos : 0 < ids.length := List.length_pos_iff.mpr hids
  unfold aggregateOutcome
  dsimp only
  split
  · next hfailed => exact ⟨hids, hcount.mp hfailed.1⟩
  · next hfailed =>
    refine ⟨?_, ?_⟩
    · rintro ⟨_, hall⟩
      have hlength := hcount.mpr hall
      exact hfailed ⟨hlength, hlength ▸ hpos⟩
    · rw [results_foldl_add]
      exact (complete_foldl_addResult xs h).of_perm hperm

end Folds

section Runs

variable {Ω : Type} {resolve : Graph → Ω → String → Resolved} {g : Graph} {res : String → Resolved}
  {ids : List String}

private theorem sequential_complete (hres : ∀ choice, ∀ id ∈ ids, resolve g choice id = res id)
    (choices : Nat → Ω) : ∃ results,
      resolveOpticalPathsSequential resolve choices (some g) ids = .ok results ∧
        Complete res ids results := by
  refine ⟨_, rfl, ?_⟩
  have hall : ∀ x ∈ ids.zipIdx.map (fun x ↦ (x.1, resolve g (choices x.2) x.1)), x.2 = res x.1 := by
    intro x hx
    obtain ⟨y, hy, rfl⟩ := List.mem_map.mp hx
    exact hres (choices y.2) y.1 (List.fst_mem_of_mem_zipIdx hy)
  have hcomplete := complete_foldl_addResult _ hall
  rw [List.foldl_map, List.map_map] at hcomplete
  apply hcomplete.of_perm
  have hfst : (Prod.fst ∘ fun x : String × Nat ↦ (x.1, resolve g (choices x.2) x.1)) = Prod.fst := rfl
  rw [hfst, List.zipIdx_map_fst]

private theorem workerCount_pos {workers : Int} {n : Nat} (h : 0 < n) :
    0 < workerCount workers n := by
  unfold workerCount
  dsimp only
  split <;> split <;> omega

private theorem Call.not_step_returned {outcome : Except String Results} {c : Call} :
    ¬ Call.Step resolve (.returned outcome) c := by
  rintro ⟨⟩

/-- Every run of a parallel call ends with the outcome of its pool. -/
theorem parallel_ends [Nonempty Ω] (hres : ∀ choice, ∀ id ∈ ids, resolve g choice id = res id)
    (workers : Int) : Ends (Call.Step resolve)
      (fun c ↦ ∃ outcome, c = .returned outcome ∧ PoolOutcome res ids outcome)
      (resolveOpticalPathsParallel (some g) ids workers) := by
  unfold resolveOpticalPathsParallel
  dsimp only
  split
  · next hlength =>
    rw [List.length_eq_zero_iff.mp hlength]
    exact .of_stuck (fun _ ↦ Call.not_step_returned)
      ⟨.ok ∅, rfl, fun hall ↦ hall.1 rfl, complete_nil⟩
  · next hlength =>
    have hids : ids ≠ [] := fun h ↦ hlength (List.length_eq_zero_iff.mpr h)
    have hcount : 0 < workerCount workers ids.length :=
      workerCount_pos (List.length_pos_iff.mpr hids)
    have hpool : Ends (WorkerPool.Step (resolve g) ids.length) _
        (WorkerPool.start Resolved ids (workerCount workers ids.length)) :=
      WorkerPool.ends_start hcount
    refine hpool.embed (f := fun pool ↦ Call.running g ids.length pool)
      (WorkerPool.inv_start hcount) (fun _ _ hinv hmove ↦ hinv.step hmove) ?_ ?_ ?_
    · intro pool pool' hmove
      exact .move hmove
    · rintro pool c hinv ⟨pool', hmove⟩ hstep
      cases hstep with
      | move hmove => exact ⟨_, rfl, hmove⟩
      | finish hresults hclosed => exact absurd hmove (hinv.stuck_of_finished hresults hclosed pool')
    · rintro pool _ hstuck ⟨⟨hresults, hclosed⟩, hperm, hchoice⟩
      refine .of_next (.finish hresults hclosed) ?_
      intro c hstep
      cases hstep with
      | move hmove => exact absurd hmove (hstuck _)
      | finish _ _ =>
        refine .of_stuck (fun _ ↦ Call.not_step_returned) ⟨_, rfl, ?_⟩
        apply poolOutcome_aggregateOutcome hids hperm
        intro x hx
        obtain ⟨choice, hx'⟩ := hchoice x hx
        rw [hx']
        exact hres choice x.1 (hperm.mem_iff.mp (List.mem_map_of_mem hx))

private theorem Complete.union {ids ids' : List String} {results results' : Results}
    (h : Complete res ids results) (h' : Complete res ids' results') :
    Complete res (ids ++ ids') (results' ∪ results) := by
  intro id
  by_cases hmem : id ∈ results'
  · rw [AList.lookup_union_left hmem, h' id]
    have hid' : id ∈ ids' := by
      by_contra hno
      have hlookup := h' id
      rw [if_neg hno, AList.lookup_eq_none] at hlookup
      exact hlookup hmem
    simp [hid']
  · rw [AList.lookup_union_right hmem, h id]
    have hlookup := h' id
    rw [AList.lookup_eq_none.mpr hmem] at hlookup
    by_cases hid : id ∈ ids <;> by_cases hid' : id ∈ ids' <;> simp_all

variable {config : ParallelConfig}

/-- What the batches return: an error if all ids of some batch fail, and otherwise the paths of the
list. -/
def BatchesOutcome (res : String → Resolved) (ids : List String) (config : ParallelConfig) :
    Except String Results → Prop
  | .error _ => ∃ k, AllFail res (batchOf ids config k)
  | .ok results => (∀ k, ¬ AllFail res (batchOf ids config k)) ∧ Complete res ids results

private theorem Batched.not_step_returned {g : Option Graph} {outcome : Except String Results}
    {s : Batched} :
    ¬ Batched.Step resolve g ids config (.returned outcome) s := by
  rintro ⟨⟩

private theorem batchOf_eq_nil {k : Nat} (h : ids.length ≤ k * config.batchSize.toNat) :
    batchOf ids config k = [] := by
  rw [batchOf, List.drop_of_length_le h, List.take_nil]

/-- The slice of an iteration is its batch. -/
theorem slice_eq_batchOf {k : Nat} (hsize : 0 < config.batchSize)
    (hk : k * config.batchSize.toNat < ids.length) :
    slice ids (k * config.batchSize.toNat : Nat)
      (batchEnd ids config (k * config.batchSize.toNat : Nat)) = some (batchOf ids config k) := by
  obtain ⟨b, hb⟩ := Int.eq_ofNat_of_zero_le hsize.le
  unfold slice batchEnd batchOf
  rw [hb, Int.toNat_natCast] at hk ⊢
  split
  · next hlast =>
    rw [if_pos (by omega), Int.toNat_natCast, Int.toNat_natCast, List.take_length,
      List.take_of_length_le]
    rw [List.length_drop]
    omega
  · next hfits =>
    rw [if_pos (by omega), ← Int.natCast_add, Int.toNat_natCast, Int.toNat_natCast, List.drop_take,
      Nat.add_sub_cancel_left]

private theorem take_append_batchOf (k : Nat) :
    ids.take (k * config.batchSize.toNat) ++ batchOf ids config k =
      ids.take ((k + 1) * config.batchSize.toNat) := by
  rw [batchOf, Nat.succ_mul, List.take_add]

/-- Every run of the call for a batch ends in its error, or goes on with the paths of the batch. -/
theorem batch_ends [Nonempty Ω] {batch : List String} {i stop : Int} {allResults : Results}
    {Q : Batched → Prop} (hbatch : ∀ choice, ∀ id ∈ batch, resolve g choice id = res id)
    (hfail : AllFail res batch → ∀ message, Q (.returned (.error message)))
    (hmerge : ∀ batchResults, ¬ AllFail res batch → Complete res batch batchResults →
      Ends (Batched.Step resolve (some g) ids config) Q
        (.loop (i + config.batchSize) (batchResults ∪ allResults))) :
    Ends (Batched.Step resolve (some g) ids config) Q
      (.batch i stop allResults (resolveOpticalPathsParallel (some g) batch config.maxWorkers)) := by
  refine (parallel_ends hbatch config.maxWorkers).embed (I := fun _ ↦ True)
    (f := fun c ↦ Batched.batch i stop allResults c) trivial (fun _ _ _ _ ↦ trivial) ?_ ?_ ?_
  · intro c c' hcall
    exact .call hcall
  · rintro c s _ ⟨c', hcall⟩ hstep
    cases hstep with
    | call hcall' => exact ⟨_, rfl, hcall'⟩
    | merge => exact absurd hcall Call.not_step_returned
    | fail => exact absurd hcall Call.not_step_returned
  · rintro c _ _ ⟨outcome, rfl, houtcome⟩
    cases outcome with
    | error message =>
      apply Ends.of_next .fail
      intro s hstep
      cases hstep with
      | call hcall => exact absurd hcall Call.not_step_returned
      | fail => exact .of_stuck (fun _ ↦ Batched.not_step_returned) (hfail houtcome _)
    | ok batchResults =>
      obtain ⟨hsome, hcomplete⟩ := houtcome
      apply Ends.of_next .merge
      intro s hstep
      cases hstep with
      | call hcall => exact absurd hcall Call.not_step_returned
      | merge => exact hmerge batchResults hsome hcomplete

/-- From the head of the loop every run ends with the outcome of the batches. -/
theorem loop_ends [Nonempty Ω] (hres : ∀ choice, ∀ id ∈ ids, resolve g choice id = res id)
    (hsize : 0 < config.batchSize) (k : Nat) (allResults : Results)
    (hall : Complete res (ids.take (k * config.batchSize.toNat)) allResults)
    (hbefore : ∀ k' < k, ¬ AllFail res (batchOf ids config k')) :
    Ends (Batched.Step resolve (some g) ids config)
      (fun s ↦ ∃ outcome, s = .returned outcome ∧ BatchesOutcome res ids config outcome)
      (.loop (k * config.batchSize.toNat : Nat) allResults) := by
  induction hleft : ids.length - k * config.batchSize.toNat using Nat.strongRecOn
    generalizing k allResults with
  | ind left ih =>
    by_cases hk : k * config.batchSize.toNat < ids.length
    · have hslice := slice_eq_batchOf hsize hk
      have hi : ((k * config.batchSize.toNat : Nat) : Int) < ids.length := by exact_mod_cast hk
      -- the next iteration is at the next multiple of the batch size
      have hnext : ((k * config.batchSize.toNat : Nat) : Int) + config.batchSize =
          ((k + 1) * config.batchSize.toNat : Nat) := by
        rw [Nat.succ_mul, Int.natCast_add, Int.toNat_of_nonneg hsize.le]
      apply Ends.of_next (.enter hi hslice)
      intro s hstep
      cases hstep with
      | exit hi' => exact absurd hi hi'
      | panic _ hslice' => rw [hslice] at hslice'; cases hslice'
      | enter _ hslice' =>
        rw [hslice, Option.some.injEq] at hslice'
        subst hslice'
        apply batch_ends
        · intro choice id hid
          exact hres choice id (List.mem_of_mem_drop (List.mem_of_mem_take hid))
        · intro hfail message
          exact ⟨_, rfl, k, hfail⟩
        · intro batchResults hsome hcomplete
          rw [hnext]
          refine ih _ ?_ (k + 1) _ ?_ ?_ rfl
          · rw [Nat.succ_mul]
            omega
          · rw [← take_append_batchOf]
            exact hall.union hcomplete
          · intro k' hk'
            rcases Nat.lt_succ_iff_lt_or_eq.mp hk' with hlt | rfl
            · exact hbefore k' hlt
            · exact hsome
    · have hi : ¬ ((k * config.batchSize.toNat : Nat) : Int) < ids.length := by exact_mod_cast hk
      apply Ends.of_next (.exit hi)
      intro s hstep
      cases hstep with
      | enter hi' _ => exact absurd hi' hi
      | panic hi' _ => exact absurd hi' hi
      | exit _ =>
        refine .of_stuck (fun _ ↦ Batched.not_step_returned) ⟨_, rfl, ?_, ?_⟩
        · intro k'
          by_cases hlt : k' < k
          · exact hbefore k' hlt
          · rw [batchOf_eq_nil]
            · exact fun hfail ↦ hfail.1 rfl
            · exact (Nat.not_lt.mp hk).trans (Nat.mul_le_mul_right _ (Nat.not_lt.mp hlt))
        · rwa [List.take_of_length_le (Nat.not_lt.mp hk)] at hall

/-- Every run of a batched call with a positive batch size ends with the outcome of its batches. -/
theorem batched_ends [Nonempty Ω] (hres : ∀ choice, ∀ id ∈ ids, resolve g choice id = res id)
    (hsize : 0 < config.batchSize) : Ends (Batched.Step resolve (some g) ids config)
      (fun s ↦ ∃ outcome, s = .returned outcome ∧ BatchesOutcome res ids config outcome)
      (resolveOpticalPathsBatched (some g) ids) := by
  unfold resolveOpticalPathsBatched
  dsimp only
  split
  · next hlength =>
    rw [List.length_eq_zero_iff.mp hlength]
    refine .of_stuck (fun _ ↦ Batched.not_step_returned) ⟨.ok ∅, rfl, ?_, complete_nil⟩
    intro k hfail
    exact hfail.1 (batchOf_eq_nil (Nat.zero_le _))
  · have hloop := loop_ends hres hsize 0 ∅ (by simpa using complete_nil)
      (fun k' hk' ↦ absurd hk' (Nat.not_lt_zero k'))
    simpa using hloop

end Runs

/-! ### When the calls agree -/

section Agreement

variable {q : PriorityQueue String ℚ} {g : Graph} {ids : List String}

/-- A resolution fails exactly for an unknown id. -/
theorem fails_iff {order : MapOrder} {id : String} :
    Fails (resolveWith q g order id) ↔ id ∉ g.nodes := by
  unfold Fails resolveWith resolveOpticalPath Resolver.dijkstra
  by_cases hid : id ∈ g.nodes <;> simp [hid]

private theorem allFail_iff {order : MapOrder} {xs : List String} :
    AllFail (resolveWith q g order) xs ↔ AllUnknown g xs := by
  simp only [AllFail, AllUnknown, fails_iff]

/-- Resolutions with the same path are the same. -/
theorem resolveWith_eq_of_found {order order' : MapOrder} {id : String}
    (h : found (resolveWith q g order id) = found (resolveWith q g order' id)) :
    resolveWith q g order id = resolveWith q g order' id := by
  by_cases hid : id ∈ g.nodes
  · have hok : ∀ o : MapOrder, ∃ path, resolveWith q g o id = .ok path := by
      intro o
      cases hr : resolveWith q g o id with
      | error message => exact absurd hid (fails_iff.mp ⟨message, hr⟩)
      | ok path => exact ⟨path, rfl⟩
    obtain ⟨path, hpath⟩ := hok order
    obtain ⟨path', hpath'⟩ := hok order'
    rw [hpath, hpath'] at h ⊢
    exact congrArg Except.ok h
  · unfold resolveWith resolveOpticalPath
    rw [if_pos hid, if_pos hid]

/-- The resolutions under one order. -/
def underOrder (q : PriorityQueue String ℚ) (order : MapOrder) (g : Graph) (_ : Unit)
    (ontId : String) : Resolved := resolveWith q g order ontId

private theorem sequential_underOrder (order : MapOrder) : ∃ results,
    resolveOpticalPathsSequential (resolveWith q) (fun _ ↦ order) (some g) ids = .ok results ∧
      Complete (resolveWith q g order) ids results := by
  have hcomplete : ∃ results,
      resolveOpticalPathsSequential (underOrder q order) (fun _ ↦ ()) (some g) ids = .ok results ∧
        Complete (resolveWith q g order) ids results := sequential_complete (fun _ _ _ ↦ rfl) _
  exact hcomplete

private theorem Call.Step.of_underOrder {order : MapOrder} {c c' : Call}
    (h : c.Step (underOrder q order) c') : c.Step (resolveWith q) c' := by
  cases h with
  | move hmove => exact .move (hmove.mono (fun _ ↦ ⟨order, fun _ ↦ rfl⟩))
  | finish hresults hclosed => exact .finish hresults hclosed

private theorem Batched.Step.of_underOrder {order : MapOrder} {config : ParallelConfig}
    {s s' : Batched}
    (h : s.Step (underOrder q order) (some g) ids config s') :
    s.Step (resolveWith q) (some g) ids config s' := by
  cases h with
  | exit hi => exact .exit hi
  | enter hi hslice => exact .enter hi hslice
  | panic hi hslice => exact .panic hi hslice
  | call hcall => exact .call hcall.of_underOrder
  | merge => exact .merge
  | fail => exact .fail

/-- Maps of the same paths are the outcome of both. -/
theorem sameOutcome_of_complete {results : Results} {res : String → Resolved} {choices : Nat → MapOrder}
    (hres : ∀ order, ∀ id ∈ ids, resolveWith q g order id = res id)
    (h : Complete res ids results) : SameOutcome (.ok results)
      (resolveOpticalPathsSequential (resolveWith q) choices (some g) ids) := by
  obtain ⟨results', hresults', hcomplete⟩ := sequential_complete hres choices
  rw [hresults']
  intro id
  rw [h id, hcomplete id]

/-- Where the paths under one order are those under another, they are the same. -/
theorem resolveWith_eq_of_sameOutcome {order order' : MapOrder} {results : Results}
    (h : Complete (resolveWith q g order) ids results)
    (hsame : SameOutcome (.ok results)
      (resolveOpticalPathsSequential (resolveWith q) (fun _ ↦ order') (some g) ids)) :
    ∀ id ∈ ids, resolveWith q g order id = resolveWith q g order' id := by
  obtain ⟨results', hresults', hcomplete⟩ := sequential_underOrder order'
  rw [hresults'] at hsame
  intro id hid
  have hlookup := hsame id
  rw [h id, hcomplete id, if_pos hid, if_pos hid] at hlookup
  exact resolveWith_eq_of_found hlookup

/-- A list without order-dependent ids has results of its own. -/
theorem resolveWith_of_orderFree (h : ∀ id ∈ ids, OrderFree q g id) :
    ∀ order, ∀ id ∈ ids, resolveWith q g order id = resolveWith q g reversedOrder id :=
  fun order id hid ↦ h id hid order reversedOrder

/-- Neighbours can be listed in the order of their edges. -/
instance : Nonempty MapOrder := ⟨reversedOrder⟩

private theorem not_sameOutcome_error {message : String} {choices : Nat → MapOrder} :
    ¬ SameOutcome (.error message)
      (resolveOpticalPathsSequential (resolveWith q) choices (some g) ids) := id

private theorem parallelAgrees_iff (workers : Int) : ParallelAgrees q (some g) ids workers ↔
    (∀ id ∈ ids, OrderFree q g id) ∧ ¬ AllUnknown g ids := by
  constructor
  · intro hagrees
    have hcommon : ∀ order order', ∃ results, ¬ AllUnknown g ids ∧
        Complete (resolveWith q g order) ids results ∧ SameOutcome (.ok results)
          (resolveOpticalPathsSequential (resolveWith q) (fun _ ↦ order') (some g) ids) := by
      intro order order'
      have hends : Ends (Call.Step (underOrder q order)) (fun c ↦ ∃ outcome, c = .returned outcome ∧
          PoolOutcome (resolveWith q g order) ids outcome)
          (resolveOpticalPathsParallel (some g) ids workers) :=
        parallel_ends (fun _ _ _ ↦ rfl) workers
      obtain ⟨c, ⟨outcome, rfl, hsame⟩, outcome', heq, hpool⟩ :=
        (hagrees (fun _ ↦ order')).exists_common hends (fun _ _ ↦ .of_underOrder) (by
          rintro c ⟨outcome, rfl, _⟩ c'
          exact Call.not_step_returned)
      cases heq
      cases outcome with
      | error message => exact absurd hsame not_sameOutcome_error
      | ok results => exact ⟨results, fun hall ↦ hpool.1 (allFail_iff.mpr hall), hpool.2, hsame⟩
    refine ⟨?_, (hcommon reversedOrder reversedOrder).choose_spec.1⟩
    intro id hid order order'
    obtain ⟨results, _, hcomplete, hsame⟩ := hcommon order order'
    exact resolveWith_eq_of_sameOutcome hcomplete hsame id hid
  · rintro ⟨hfree, hsome⟩ choices
    have hres := resolveWith_of_orderFree hfree
    refine (parallel_ends hres workers).mono ?_
    rintro c ⟨outcome, rfl, hpool⟩
    refine ⟨outcome, rfl, ?_⟩
    cases outcome with
    | error message => exact absurd (allFail_iff.mp hpool) hsome
    | ok results => exact sameOutcome_of_complete hres hpool.2

/-- With a batch size of zero the loop stays where it is, with a negative one it panics. -/
theorem batchSize_pos_of_agrees {config : ParallelConfig} (hids : ids ≠ [])
    (hagrees : BatchedAgrees q (some g) ids config) : 0 < config.batchSize := by
  by_contra hsize
  have hlength : ids.length ≠ 0 := fun h ↦ hids (List.length_eq_zero_iff.mp h)
  have hends := hagrees (fun _ ↦ reversedOrder)
  have hi : (0 : Int) < ids.length := by omega
  simp only [resolveOpticalPathsBatched, if_neg hlength] at hends
  rcases (not_lt.mp hsize).lt_or_eq with hneg | hzero
  · have hslice : slice ids 0 (batchEnd ids config 0) = none := by
      unfold slice batchEnd
      rw [if_neg (by omega : ¬ (0 + config.batchSize > (ids.length : Int))), if_neg (by omega)]
    obtain ⟨_, houtcome, _⟩ := hends.last (.single (.panic hi hslice)) (by rintro _ ⟨⟩)
    cases houtcome
  · have hend : batchEnd ids config 0 = 0 := by
      unfold batchEnd
      rw [hzero, if_neg (by omega)]
      rfl
    have hslice : slice ids 0 (batchEnd ids config 0) = some [] := by
      rw [hend]
      unfold slice
      rw [if_pos (by omega)]
      rfl
    apply hends.not_cycle
    have hmerge : Batched.Step (resolveWith q) (some g) ids config
        (.batch 0 (batchEnd ids config 0) ∅ (.returned (.ok ∅)))
        (.loop (0 + config.batchSize) (∅ ∪ ∅)) := .merge
    rw [hzero] at hmerge
    exact .tail (.single (.enter hi hslice)) hmerge

private theorem batchedAgrees_iff (config : ParallelConfig) : BatchedAgrees q (some g) ids config ↔
    ids = [] ∨ 0 < config.batchSize ∧ (∀ id ∈ ids, OrderFree q g id) ∧
      ∀ k, ¬ AllUnknown g (batchOf ids config k) := by
  constructor
  · intro hagrees
    by_cases hids : ids = []
    · exact Or.inl hids
    · right
      have hsize := batchSize_pos_of_agrees hids hagrees
      have hcommon : ∀ order order', ∃ results,
          (∀ k, ¬ AllUnknown g (batchOf ids config k)) ∧
            Complete (resolveWith q g order) ids results ∧ SameOutcome (.ok results)
              (resolveOpticalPathsSequential (resolveWith q) (fun _ ↦ order') (some g) ids) := by
        intro order order'
        have hends : Ends (Batched.Step (underOrder q order) (some g) ids config)
            (fun s ↦ ∃ outcome, s = .returned outcome ∧
              BatchesOutcome (resolveWith q g order) ids config outcome)
            (resolveOpticalPathsBatched (some g) ids) :=
          batched_ends (fun _ _ _ ↦ rfl) hsize
        obtain ⟨s, ⟨outcome, rfl, hsame⟩, outcome', heq, hbatches⟩ :=
          (hagrees (fun _ ↦ order')).exists_common hends (fun _ _ ↦ .of_underOrder) (by
            rintro s ⟨outcome, rfl, _⟩ s'
            exact Batched.not_step_returned)
        cases heq
        cases outcome with
        | error message => exact absurd hsame not_sameOutcome_error
        | ok results =>
          exact ⟨results, fun k hall ↦ hbatches.1 k (allFail_iff.mpr hall), hbatches.2, hsame⟩
      refine ⟨hsize, ?_, (hcommon reversedOrder reversedOrder).choose_spec.1⟩
      intro id hid order order'
      obtain ⟨results, _, hcomplete, hsame⟩ := hcommon order order'
      exact resolveWith_eq_of_sameOutcome hcomplete hsame id hid
  · rintro (rfl | ⟨hsize, hfree, hsome⟩) choices
    · exact .of_stuck (fun _ ↦ Batched.not_step_returned) ⟨.ok ∅, rfl, fun _ ↦ rfl⟩
    · have hres := resolveWith_of_orderFree hfree
      refine (batched_ends hres hsize).mono ?_
      rintro s ⟨outcome, rfl, hbatches⟩
      refine ⟨outcome, rfl, ?_⟩
      cases outcome with
      | error message =>
        obtain ⟨k, hall⟩ := hbatches
        exact absurd (allFail_iff.mp hall) (hsome k)
      | ok results => exact sameOutcome_of_complete hres hbatches.2

/-- The parallel call agrees with the plain loop exactly if no result depends on the order of the maps
and the list does not consist of distinct unknown ids. The batched call agrees exactly if, besides, its
batch size is positive and no batch consists of distinct unknown ids. -/
theorem parallel_agrees_iff (q : PriorityQueue String ℚ) (g : Graph) (ontIds : List String)
    (workers : Int) (config : ParallelConfig) :
    (ParallelAgrees q (some g) ontIds workers ↔
      (∀ id ∈ ontIds, OrderFree q g id) ∧ ¬ AllUnknown g ontIds) ∧
    (BatchedAgrees q (some g) ontIds config ↔
      ontIds = [] ∨ 0 < config.batchSize ∧ (∀ id ∈ ontIds, OrderFree q g id) ∧
        ∀ k, ¬ AllUnknown g (batchOf ontIds config k)) :=
  ⟨parallelAgrees_iff workers, batchedAgrees_iff config⟩

end Agreement

/-- Without a graph all three calls return the same error. -/
theorem agrees_of_nil (q : PriorityQueue String ℚ) (ontIds : List String) (workers : Int)
    (config : ParallelConfig) :
    ParallelAgrees q none ontIds workers ∧ BatchedAgrees q none ontIds config :=
  ⟨fun _ ↦ .of_stuck (fun _ ↦ Call.not_step_returned) ⟨_, rfl, trivial⟩,
    fun _ ↦ .of_stuck (fun _ ↦ Batched.not_step_returned) ⟨_, rfl, trivial⟩⟩

/-! ### A batch of an unknown id -/

/-- With batches of one, an id without a node fails the call that resolves the other one. -/
theorem batched_fails_for_unknown :
    let g := graphOf [plainNode "ont" .ont] []
    ¬ BatchedAgrees (Dijkstra.listQueue String ℚ) (some g.toGraph) ["ont", "gone"] ⟨10, 1⟩ := by
  intro g hagrees
  rcases (batchedAgrees_iff _).mp hagrees with hnil | ⟨_, _, hsome⟩
  · cases hnil
  · exact hsome 1 ⟨by decide, by decide, by decide +kernel⟩

end Unoc.Optical.Parallel
