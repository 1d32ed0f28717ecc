import Unoc.Links.Bulk

/-!
# Dry runs of bulk creation

`BatchCreateLinks` and `validateLinksOnly` of `engine-go/internal/batch/create.go`: a dry run checks
the set of interface ids of a request, the real run its specifications one after the other. The
duration in the answer, the log and the metrics are left out.
-/

namespace Unoc.Links.Bulk

open Unoc.Base
open Unoc.Traffic (RangeOrder)

/-! ### Requests -/

/-- `BatchCreateLinksRequest`; `proto/batch/batch.proto:30–44`. -/
structure BatchCreateLinksRequest where
  links : List LinkCreateSpec
  dryRun : Bool := false
  requestId : String := ""

/-- `BatchCreateLinksResponse`; `proto/batch/batch.proto:69–87`. -/
structure BatchCreateLinksResponse where
  createdLinkIds : List String := []
  failedLinks : List LinkCreationFailure := []
  totalRequested : Int32
  totalCreated : Int32
  requestId : String
  deriving DecidableEq, Repr

/-- A loop over ids that returns an error for the first it visits. -/
def rejectFirst (problem : String) : List String → Except String Unit
  | [] => .ok ()
  | id :: _ => .error ("interface ID " ++ id ++ problem)

/-- `validateLinksOnly`; `create.go:388–427`. -/
def validateLinksOnly (drv : Driver) (order : RangeOrder String) (db : Tables)
    (specs : List LinkCreateSpec) : Except String Unit := do
  failWith "failed to start transaction: " drv.beginTx
  let existing ← (validateInterfacesExist drv db (interfaceIDs specs)).mapError
    ("failed to validate interfaces: " ++ ·)
  rejectFirst " does not exist"
    ((order.keys (interfaceIDs specs)).filter (fun id ↦ id ∉ existing))
  let linked ← (getLinkedInterfaces drv db (interfaceIDs specs)).mapError
    ("failed to check linked interfaces: " ++ ·)
  rejectFirst " is already linked" (order.keys linked.toFinset)

/-- The dry run of a request; `create.go:54–66`. -/
def dryRun (drv : Driver) (order : RangeOrder String) (db : Tables)
    (req : BatchCreateLinksRequest) : Except String BatchCreateLinksResponse := do
  (validateLinksOnly drv order db req.links).mapError ("validation failed: " ++ ·)
  return {
    totalRequested := Int32.ofNat req.links.length
    totalCreated := 0
    requestId := req.requestId }

/-- The answer to a request that is executed; `create.go:69–96`. -/
def respond (req : BatchCreateLinksRequest) (result : Except String Outcome) :
    Except String BatchCreateLinksResponse := do
  let (createdIDs, failures) ← result.mapError ("transaction failed: " ++ ·)
  return {
    createdLinkIds := createdIDs
    failedLinks := failures
    totalRequested := Int32.ofNat req.links.length
    totalCreated := Int32.ofNat createdIDs.length
    requestId := req.requestId }

/-- `BatchCreateLinks`: the answer, and the tables after it; `create.go:33–96`. -/
def batchCreateLinks (drv : Driver) (order : RangeOrder String) (db : Tables)
    (req : BatchCreateLinksRequest) : Except String BatchCreateLinksResponse × Tables :=
  if req.links = [] then
    (.ok { totalRequested := 0, totalCreated := 0, requestId := req.requestId }, db)
  else if req.dryRun then (dryRun drv order db req, db)
  else
    let (result, db') := createLinksInTransaction drv db req.links
    (respond req result, db')

/-! ### What each run checks -/

variable {drv : Driver} {order : RangeOrder String} {db : Tables} {specs : List LinkCreateSpec}
  {existing linked : List String}

/-- The statements before the insertion succeed. -/
structure Driver.Answers (drv : Driver) : Prop where
  beginTx : drv.beginTx = none
  selectInterfaces : drv.selectInterfaces = none
  selectLinked : drv.selectLinked = none

/-- The statement for all specifications of a list succeeds, and its commit. -/
structure Insertable (drv : Driver) (db : Tables) (specs : List LinkCreateSpec) : Prop where
  apart : specs.Pairwise (fun s t ↦ ¬ Clash t s)
  ids_nodup : ((db.links ++ specs.map LinkCreateSpec.row).map LinkRow.id).Nodup
  accepted : drv.refuses (specs.map LinkCreateSpec.row) = none
  committed : drv.commit = none

private theorem rejectFirst_eq_ok {problem : String} {ids : List String} {u : Unit} :
    rejectFirst problem ids = .ok u ↔ ids = [] := by
  cases ids <;> simp [rejectFirst]

private theorem interfaceIDs_ne_empty (h : specs ≠ []) : interfaceIDs specs ≠ ∅ := by
  obtain ⟨s, hs⟩ := List.exists_mem_of_ne_nil specs h
  exact Finset.ne_empty_of_mem (mem_interfaceIDs.mpr ⟨s, hs, .inl rfl⟩)

private theorem exists_validateInterfacesExist {ids : Finset String} (h : ids ≠ ∅) :
    (∃ existing, validateInterfacesExist drv db ids = .ok existing) ↔
      drv.selectInterfaces = none := by
  rw [validateInterfacesExist, if_neg h]
  cases drv.selectInterfaces <;> simp [failWith, bind, Except.bind, pure, Except.pure]

private theorem exists_getLinkedInterfaces {ids : Finset String} (h : ids ≠ ∅) :
    (∃ linked, getLinkedInterfaces drv db ids = .ok linked) ↔ drv.selectLinked = none := by
  rw [getLinkedInterfaces, if_neg h]
  cases drv.selectLinked <;> simp [failWith, bind, Except.bind, pure, Except.pure]

/-- No requested interface is missing. -/
theorem nothing_missing_iff
    (hexisting : validateInterfacesExist drv db (interfaceIDs specs) = .ok existing) :
    (order.keys (interfaceIDs specs)).filter (fun id ↦ id ∉ existing) = [] ↔
      ∀ s ∈ specs, ∀ x, s.Uses x → x ∈ db.interfaceIds := by
  rw [List.filter_eq_nil_iff]
  constructor
  · intro h s hs x hx
    have hask := mem_interfaceIDs.mpr ⟨s, hs, hx⟩
    have hmem := h x ((order.mem_keys _ _).mpr hask)
    simp only [decide_not, Bool.not_eq_eq_eq_not, Bool.not_true, decide_eq_false_iff_not,
      Decidable.not_not] at hmem
    exact ((validateInterfacesExist_eq_ok hexisting x).mp hmem).1
  · intro h x hx
    have hask := (order.mem_keys _ _).mp hx
    obtain ⟨s, hs, huses⟩ := mem_interfaceIDs.mp hask
    have hmem := (validateInterfacesExist_eq_ok hexisting x).mpr ⟨h s hs x huses, hask⟩
    simpa using hmem

/-- No requested interface has a link. -/
theorem nothing_linked_iff
    (hlinked : getLinkedInterfaces drv db (interfaceIDs specs) = .ok linked) :
    order.keys linked.toFinset = [] ↔ ∀ s ∈ specs, ∀ x, s.Uses x → ¬ db.Linked x := by
  rw [List.eq_nil_iff_forall_not_mem]
  constructor
  · intro h s hs x hx hstored
    refine h x ((order.mem_keys _ _).mpr (List.mem_toFinset.mpr ?_))
    exact (getLinkedInterfaces_eq_ok hlinked x).mpr
      ⟨hstored, mem_interfaceIDs.mpr ⟨s, hs, hx⟩⟩
  · intro h x hx
    obtain ⟨hstored, hask⟩ := (getLinkedInterfaces_eq_ok hlinked x).mp
      (List.mem_toFinset.mp ((order.mem_keys _ _).mp hx))
    obtain ⟨s, hs, huses⟩ := mem_interfaceIDs.mp hask
    exact h s hs x huses hstored

/-- No id of the specifications is reported in any order of the two loops exactly if all
specifications are free. -/
theorem nothing_rejected_iff
    (hexisting : validateInterfacesExist drv db (interfaceIDs specs) = .ok existing)
    (hlinked : getLinkedInterfaces drv db (interfaceIDs specs) = .ok linked) :
    ((order.keys (interfaceIDs specs)).filter (fun id ↦ id ∉ existing) = [] ∧
      order.keys linked.toFinset = []) ↔ ∀ s ∈ specs, db.Free s := by
  rw [nothing_missing_iff hexisting, nothing_linked_iff hlinked]
  constructor
  · rintro ⟨hexist, hunlinked⟩ s hs
    exact ⟨⟨hexist s hs _ (.inl rfl), hexist s hs _ (.inr rfl)⟩, hunlinked s hs⟩
  · intro h
    refine ⟨?_, fun s hs ↦ (h s hs).2⟩
    rintro s hs x (rfl | rfl)
    · exact (h s hs).1.1
    · exact (h s hs).1.2

/-- The dry run succeeds exactly if the queries do and all specifications are free. -/
theorem dryRun_isOk_iff {req : BatchCreateLinksRequest} (h : req.links ≠ []) :
    (∃ resp, dryRun drv order db req = .ok resp) ↔ drv.Answers ∧ ∀ s ∈ req.links, db.Free s := by
  have hids := interfaceIDs_ne_empty h
  constructor
  · rintro ⟨resp, hrun⟩
    obtain ⟨_, hvalid, _⟩ := bind_eq_ok.mp hrun
    obtain ⟨_, hbegin, hvalid⟩ := bind_eq_ok.mp (mapError_eq_ok.mp hvalid)
    obtain ⟨existing, hexisting, hvalid⟩ := bind_eq_ok.mp hvalid
    obtain ⟨_, hmissing, hvalid⟩ := bind_eq_ok.mp hvalid
    obtain ⟨linked, hlinked, hvalid⟩ := bind_eq_ok.mp hvalid
    have hexisting := mapError_eq_ok.mp hexisting
    have hlinked := mapError_eq_ok.mp hlinked
    refine ⟨⟨failWith_eq_ok.mp hbegin, ?_, ?_⟩, ?_⟩
    · exact (exists_validateInterfacesExist hids).mp ⟨existing, hexisting⟩
    · exact (exists_getLinkedInterfaces hids).mp ⟨linked, hlinked⟩
    · exact (nothing_rejected_iff hexisting hlinked).mp
        ⟨rejectFirst_eq_ok.mp hmissing, rejectFirst_eq_ok.mp hvalid⟩
  · rintro ⟨hanswers, hfree⟩
    obtain ⟨existing, hexisting⟩ := (@exists_validateInterfacesExist drv db _ hids).mpr
      hanswers.selectInterfaces
    obtain ⟨linked, hlinked⟩ := (@exists_getLinkedInterfaces drv db _ hids).mpr
      hanswers.selectLinked
    obtain ⟨hmissing, hreject⟩ := (@nothing_rejected_iff _ order _ _ _ _ hexisting hlinked).mpr hfree
    refine ⟨_, bind_eq_ok.mpr ⟨(), mapError_eq_ok.mpr ?_, rfl⟩⟩
    refine bind_eq_ok.mpr ⟨(), failWith_eq_ok.mpr hanswers.beginTx, ?_⟩
    refine bind_eq_ok.mpr ⟨existing, mapError_eq_ok.mpr hexisting, ?_⟩
    refine bind_eq_ok.mpr ⟨(), rejectFirst_eq_ok.mpr hmissing, ?_⟩
    exact bind_eq_ok.mpr ⟨linked, mapError_eq_ok.mpr hlinked, rejectFirst_eq_ok.mpr hreject⟩

/-- The columns of the unique constraint are new if the rows share no interface with each other or
with stored links. -/
theorem ends_nodup_of_apart (hapart : specs.Pairwise (fun s t ↦ ¬ Clash t s))
    (hfree : ∀ s ∈ specs, db.Free s) :
    ((db.links ++ specs.map LinkCreateSpec.row).map LinkRow.ends).Nodup := by
  rw [List.map_append, List.nodup_append]
  refine ⟨db.ends_nodup, ?_, ?_⟩
  · rw [List.map_map, List.nodup_iff_pairwise_ne, List.pairwise_map]
    refine hapart.imp ?_
    intro s t hclash heq
    have ha : s.aInterfaceId = t.aInterfaceId := congrArg Prod.fst heq
    exact hclash ⟨s.aInterfaceId, .inl ha.symm, .inl rfl⟩
  · intro e he e' he' heq
    obtain ⟨l, hl, rfl⟩ := List.mem_map.mp he
    rw [List.map_map] at he'
    obtain ⟨s, hs, rfl⟩ := List.mem_map.mp he'
    have ha : l.aInterfaceId = s.aInterfaceId := congrArg Prod.fst heq
    exact (hfree s hs).2 s.aInterfaceId (.inl rfl) ⟨l, hl, .inl ha⟩

/-- A run of the validation loop without failures selects all specifications. -/
theorem select_failures_eq_nil_iff
    (hok : ∀ s ∈ specs, Passes existing linked s ↔ db.Free s) :
    (select existing linked specs).failures = [] ↔
      (∀ s ∈ specs, db.Free s) ∧ specs.Pairwise (fun s t ↦ ¬ Clash t s) := by
  obtain ⟨takes, h⟩ := exists_selected existing linked specs
  rw [← (h.greedy.congr hok).skipped_eq_nil_iff, ← List.map_eq_nil_iff, h.failures,
    List.map_eq_nil_iff]

private theorem select_specs_of_failures_eq_nil (h : (select existing linked specs).failures = []) :
    (select existing linked specs).validLinks.map ValidLink.spec = specs := by
  obtain ⟨takes, hselected⟩ := exists_selected existing linked specs
  have hskipped : Greedy.skipped specs takes = [] := by
    rw [← List.map_eq_nil_iff (f := Int32.ofNat), ← hselected.failures, h, List.map_nil]
  rw [hselected.validLinks, List.map_map]
  exact Greedy.map_fst_taken hskipped

/-- The insertion of all specifications of a list. -/
theorem exists_bulkInsertLinks {validLinks : List ValidLink} (hne : specs ≠ [])
    (hspecs : validLinks.map ValidLink.spec = specs) :
    (∃ result, bulkInsertLinks drv db validLinks = .ok result) ↔
      drv.refuses (specs.map LinkCreateSpec.row) = none ∧
        ((db.links ++ specs.map LinkCreateSpec.row).map LinkRow.id).Nodup ∧
          ((db.links ++ specs.map LinkCreateSpec.row).map LinkRow.ends).Nodup := by
  have hvalid : validLinks ≠ [] := by
    rintro rfl
    exact hne hspecs.symm
  have hrows : validLinks.map (fun v ↦ v.spec.row) = specs.map LinkCreateSpec.row := by
    rw [← hspecs, List.map_map]
    rfl
  rw [bulkInsertLinks, if_neg hvalid, hrows]
  constructor
  · rintro ⟨result, hrun⟩
    obtain ⟨db', hinsert, _⟩ := bind_eq_ok.mp hrun
    obtain ⟨hrefuses, hids, hends, _⟩ := insert_eq_ok.mp (mapError_eq_ok.mp hinsert)
    exact ⟨hrefuses, hids, hends⟩
  · rintro ⟨hrefuses, hids, hends⟩
    obtain ⟨db', hlinks, hinterfaces⟩ : ∃ db' : Tables,
        db'.links = db.links ++ specs.map LinkCreateSpec.row ∧ db'.interfaceIds = db.interfaceIds :=
      ⟨⟨db.interfaceIds, _, hids, hends⟩, rfl, rfl⟩
    have hinsert := insert_eq_ok.mpr ⟨hrefuses, hids, hends, hlinks, hinterfaces⟩
    exact ⟨_, bind_eq_ok.mpr ⟨db', mapError_eq_ok.mpr hinsert, rfl⟩⟩

/-- The real run commits without failures exactly if the queries succeed, all specifications are
free and the statement for all of them succeeds. -/
theorem createLinksInTransaction_clean_iff (hne : specs ≠ []) :
    (∃ ids, (createLinksInTransaction drv db specs).1 = .ok (ids, [])) ↔
      drv.Answers ∧ (∀ s ∈ specs, db.Free s) ∧ Insertable drv db specs := by
  have hids := interfaceIDs_ne_empty hne
  have hrun : (∃ ids, (createLinksInTransaction drv db specs).1 = .ok (ids, [])) ↔
      ∃ ids db', transaction drv db specs = .ok ((ids, []), db') := by
    unfold createLinksInTransaction
    cases transaction drv db specs with
    | error text => simp
    | ok result =>
      obtain ⟨⟨ids, failures⟩, db'⟩ := result
      simp
  rw [hrun]
  constructor
  · rintro ⟨ids, db', h⟩
    obtain ⟨hbegin, hcommit, existing, linked, hexisting, hlinked, hinsert, hfailures⟩ :=
      transaction_eq_ok.mp h
    obtain ⟨hfree, hapart⟩ := (select_failures_eq_nil_iff
      (fun s hs ↦ passes_iff_free hexisting hlinked hs)).mp hfailures.symm
    obtain ⟨hrefuses, hnodup, _⟩ := (exists_bulkInsertLinks hne
      (select_specs_of_failures_eq_nil hfailures.symm)).mp ⟨_, hinsert⟩
    refine ⟨⟨hbegin, ?_, ?_⟩, hfree, ⟨hapart, hnodup, hrefuses, hcommit⟩⟩
    · exact (exists_validateInterfacesExist hids).mp ⟨existing, hexisting⟩
    · exact (exists_getLinkedInterfaces hids).mp ⟨linked, hlinked⟩
  · rintro ⟨hanswers, hfree, hinsertable⟩
    obtain ⟨existing, hexisting⟩ := (@exists_validateInterfacesExist drv db _ hids).mpr
      hanswers.selectInterfaces
    obtain ⟨linked, hlinked⟩ := (@exists_getLinkedInterfaces drv db _ hids).mpr
      hanswers.selectLinked
    have hfailures := (select_failures_eq_nil_iff
      (fun s hs ↦ passes_iff_free hexisting hlinked hs)).mpr ⟨hfree, hinsertable.apart⟩
    obtain ⟨⟨ids, db'⟩, hinsert⟩ := (@exists_bulkInsertLinks drv db _ _ hne
      (select_specs_of_failures_eq_nil hfailures)).mpr ⟨hinsertable.accepted,
        hinsertable.ids_nodup, ends_nodup_of_apart hinsertable.apart hfree⟩
    exact ⟨ids, db', transaction_eq_ok.mpr ⟨hanswers.beginTx, hinsertable.committed, existing,
      linked, hexisting, hlinked, hinsert, hfailures.symm⟩⟩

/-! ### Prediction -/

/-- The dry run succeeds exactly if the real run of the same request commits without failures. -/
def Predicts (drv : Driver) (order : RangeOrder String) (db : Tables)
    (req : BatchCreateLinksRequest) : Prop :=
  (∃ resp, (batchCreateLinks drv order db { req with dryRun := true }).1 = .ok resp) ↔
    ∃ resp, (batchCreateLinks drv order db { req with dryRun := false }).1 = .ok resp ∧
      resp.failedLinks = []

private theorem respond_clean_iff {req : BatchCreateLinksRequest} {result : Except String Outcome} :
    (∃ resp, respond req result = .ok resp ∧ resp.failedLinks = []) ↔
      ∃ ids, result = .ok (ids, []) := by
  cases result with
  | error text => simp [respond, Except.mapError, bind, Except.bind]
  | ok outcome =>
    obtain ⟨ids, failures⟩ := outcome
    simp [respond, Except.mapError, bind, Except.bind, pure, Except.pure]

private theorem batchCreateLinks_dryRun_iff {req : BatchCreateLinksRequest} (h : req.links ≠ []) :
    (∃ resp, (batchCreateLinks drv order db { req with dryRun := true }).1 = .ok resp) ↔
      drv.Answers ∧ ∀ s ∈ req.links, db.Free s := by
  rw [batchCreateLinks, if_neg h, if_pos rfl]
  exact dryRun_isOk_iff h

private theorem batchCreateLinks_clean_iff {req : BatchCreateLinksRequest} (h : req.links ≠ []) :
    (∃ resp, (batchCreateLinks drv order db { req with dryRun := false }).1 = .ok resp ∧
      resp.failedLinks = []) ↔
        drv.Answers ∧ (∀ s ∈ req.links, db.Free s) ∧ Insertable drv db req.links := by
  rw [batchCreateLinks, if_neg h, if_neg Bool.false_ne_true, ← createLinksInTransaction_clean_iff h]
  exact respond_clean_iff

/-- A dry run predicts the real one exactly if a statement before the insertion fails, some interface
is missing or linked, or the statement for all specifications succeeds. -/
theorem predicts_iff {req : BatchCreateLinksRequest} (h : req.links ≠ []) :
    Predicts drv order db req ↔
      ¬ drv.Answers ∨ (∃ s ∈ req.links, ¬ db.Free s) ∨ Insertable drv db req.links := by
  rw [Predicts, batchCreateLinks_dryRun_iff h, batchCreateLinks_clean_iff h]
  by_cases hanswers : drv.Answers
  · by_cases hfree : ∀ s ∈ req.links, db.Free s
    · have hnone : ¬ ∃ s ∈ req.links, ¬ db.Free s := by
        rintro ⟨s, hs, hnot⟩
        exact hnot (hfree s hs)
      simp only [hanswers, hnone, not_true_eq_false, false_or, true_and]
      exact ⟨fun hpredicts ↦ (hpredicts.mp hfree).2, fun hinsertable ↦
        ⟨fun hall ↦ ⟨hall, hinsertable⟩, fun hboth ↦ hboth.1⟩⟩
    · have hsome : ∃ s ∈ req.links, ¬ db.Free s := by
        simpa using hfree
      simp [hfree, hsome]
  · simp [hanswers]

/-- Two specifications for one free port of an ONT. -/
def oneOntTwice : BatchCreateLinksRequest where
  links := [⟨"olt-if1", "ont2-if0", 1, "UP"⟩, ⟨"olt-if2", "ont2-if0", 1, "UP"⟩]

/-- The second specification alone. -/
def oneOntOnce : BatchCreateLinksRequest where
  links := [⟨"olt-if2", "ont2-if0", 1, "UP"⟩]

private theorem answers_default : Driver.Answers {} := ⟨rfl, rfl, rfl⟩

private theorem free_halfLinked {s : LinkCreateSpec}
    (h : ∀ x, s.Uses x → x ∈ ["olt-if1", "olt-if2", "ont2-if0"]) : halfLinked.Free s := by
  have hports : ∀ x ∈ ["olt-if1", "olt-if2", "ont2-if0"],
      x ∈ halfLinked.interfaceIds ∧ "olt-if0" ≠ x ∧ "ont1-if0" ≠ x := by
    decide
  refine ⟨⟨(hports _ (h _ (.inl rfl))).1, (hports _ (h _ (.inr rfl))).1⟩, ?_⟩
  rintro x hx ⟨l, hl, hlx⟩
  obtain rfl := List.mem_singleton.mp hl
  rcases hlx with ha | hb
  · exact (hports x (h x hx)).2.1 ha
  · exact (hports x (h x hx)).2.2 hb

/-- One request for a free ONT. -/
theorem predicts_iff_oneOntOnce :
    oneOntOnce.links ≠ [] ∧ Predicts {} .ascending halfLinked oneOntOnce := by
  have hne : oneOntOnce.links ≠ [] := List.cons_ne_nil _ _
  refine ⟨hne, (predicts_iff hne).mpr (.inr (.inr ?_))⟩
  exact ⟨List.pairwise_singleton _ _, by decide, rfl, rfl⟩

/-- Two requests for the ONT, of which only the first succeeds. -/
theorem oneOntTwice_not_predicts : ¬ Predicts {} .ascending halfLinked oneOntTwice := by
  have hne : oneOntTwice.links ≠ [] := List.cons_ne_nil _ _
  have hfree : ∀ s ∈ oneOntTwice.links, halfLinked.Free s := by
    intro s hs
    apply free_halfLinked
    rcases List.mem_cons.mp hs with rfl | hs
    · rintro x (rfl | rfl) <;> decide
    · obtain rfl := List.mem_singleton.mp hs
      rintro x (rfl | rfl) <;> decide
  intro hpredicts
  have hreal := hpredicts.mp ((batchCreateLinks_dryRun_iff hne).mpr ⟨answers_default, hfree⟩)
  obtain ⟨_, _, hinsertable⟩ := (batchCreateLinks_clean_iff hne).mp hreal
  obtain ⟨hapart, _⟩ := List.pairwise_cons.mp hinsertable.apart
  exact hapart _ (List.mem_singleton.mpr rfl) ⟨"ont2-if0", .inr rfl, .inr rfl⟩

end Unoc.Links.Bulk
