import Unoc.Links.Accepted

/-!
# Creating links in a batch

`backend/api/endpoints/links_batch.py`: every payload is validated against the state before the
batch, then the links are created one after another in one session. Failures of the creation loop
are collected, and what it created is committed. What happens after the commit is left out, and so
is the effective status that the response reports.
-/

namespace Unoc.Links

open Unoc.Model

/-! ### The endpoint -/

/-- The texts of the batch endpoint; `links_batch.py:244,263–281,372–375`. -/
def batchDetails : Details where
  interfaceNotFound := "Device not found for interface"
  oltOntDirect := "Direct OLT↔ONT links not allowed. Connect via ODF."
  notOdf := "ODF must connect upstream to OLT PON-port, not "
  mediumSuffix _ := ""

/-- The first check of `_validate_link_creation`, where an empty id counts as none;
`links_batch.py:234–236`. -/
def checkNotExisting (p : LinkCreate) (db : Database) : Except LinkError Unit :=
  failIf ((db.getLink p.id).isSome && p.id ≠ "") (.http 409 "Link already exists")

/-- `_validate_link_creation`; `links_batch.py:231–298`. -/
def validateLinkCreation (p : LinkCreate) (db : Database) : Except LinkError Unit := do
  checkNotExisting p db
  checkEndpointsDiffer p
  let (aDev, bDev) ← resolveDevices p batchDetails.interfaceNotFound db
  checkPairing batchDetails p aDev bDev db
  checkMediumExists p db
  checkLength p

/-- `_create_link_no_recompute`; `links_batch.py:301–395`. -/
def createLinkNoRecompute (env : Runtime) (p : LinkCreate) : Tx Link := do
  let (aDev, bDev) ← Tx.query (resolveDevices p "Device not found")
  let (aIf, bIf) ← openInterfaces p "Interface creation failed"
  Tx.check (failIf (!hasCanonicalId p) (notCanonical p))
  finishLink batchDetails env p aDev bDev aIf bIf

/-- The session of the batch with what was created and what failed. -/
structure BatchLoop where
  session : Session
  created : List Link := []
  failed : List (String × LinkError) := []

/-- One iteration of the creation loop; `links_batch.py:131–174`. -/
def createNext (env : Runtime) (b : BatchLoop) (p : LinkCreate) : BatchLoop :=
  match createLinkNoRecompute env p b.session with
  | (.ok link, s) => ⟨s, b.created ++ [link], b.failed⟩
  | (.error e, s) => ⟨s, b.created, b.failed ++ [(p.id, e)]⟩

/-- The creation loop. -/
def createAll (env : Runtime) (store : Store) (ps : List LinkCreate) : BatchLoop :=
  ps.foldl (createNext env) ⟨⟨store, false⟩, [], []⟩

/-- An exception, or a `BatchLinkCreateResponse`. -/
inductive BatchOutcome where
  | raised (error : LinkError)
  | response (created : List Link) (failed : List (String × LinkError))
  deriving DecidableEq, Repr

/-- The payloads that fail phase 1; `links_batch.py:113–123`. -/
def invalidLinks (ps : List LinkCreate) (db : Database) : List (String × LinkError) :=
  ps.filterMap (fun p ↦
    match validateLinkCreation p db with
    | .ok _ => none
    | .error e => some (p.id, e))

/-- `batch_create_links`: the answer and the committed state; `links_batch.py:79–228`. -/
def batchCreateLinks (env : Runtime) (store : Store) (ps : List LinkCreate) : BatchOutcome × Store :=
  let loop := createAll env store ps
  if ps = [] then (.raised (.http 400 "No links provided"), store)
  else if 1000 < ps.length then
    (.raised (.http 400 "Batch size limited to 1000 links (provided: \x7blen(payload.links)\x7d)"), store)
  else if invalidLinks ps store.db ≠ [] then (.response [] (invalidLinks ps store.db), store)
  else if loop.created = [] then (.response [] loop.failed, store)
  else if loop.session.lost then (.raised .database, store)
  else (.response loop.created loop.failed, loop.session.rows)

/-- Calls of `create_link_impl` one after another, up to the first error. -/
def createOneByOne (env : Runtime) (store : Store) (ps : List LinkCreate) : Except LinkError Store :=
  ps.foldlM (createLinkImpl env) store

/-! ### What creation leaves alone -/

variable {α β γ : Type} {env : Runtime} {store store' : Store} {s s' : Session} {p : LinkCreate}

/-- A computation keeps a part of the rows, also when it raises. -/
def Keeps (part : Store → γ) (x : Tx α) : Prop := ∀ s, part (x s).2.rows = part s.rows

namespace Keeps

variable {part : Store → γ}

/-- Two transactions in a row keep what both keep. -/
theorem bind {x : Tx α} {f : α → Tx β} (hx : Keeps part x) (hf : ∀ a, Keeps part (f a)) :
    Keeps part (x >>= f) := by
  intro s
  have h := hx s
  rcases hrun : x s with ⟨e | a, m⟩
  · rw [hrun] at h
    rw [Tx.bind_of_error hrun]
    exact h
  · rw [hrun] at h
    rw [Tx.bind_of_ok hrun]
    exact (hf a m).trans h

/-- A value keeps everything. -/
theorem pure (a : α) : Keeps part (Pure.pure a : Tx α) := fun _ ↦ rfl

/-- A check keeps everything. -/
theorem check (x : Except LinkError α) : Keeps part (Tx.check x) := fun _ ↦ rfl

/-- A query keeps everything. -/
theorem query (f : Database → Except LinkError α) : Keeps part (Tx.query f) := by
  intro s
  unfold Tx.query
  split <;> rfl

/-- An insertion keeps what its row is no part of. -/
theorem add {f : Store → Option Store} (hf : ∀ r r', f r = some r' → part r' = part r) :
    Keeps part (Tx.add f) := by
  intro s
  unfold Tx.add
  cases h : f s.rows with
  | none => rfl
  | some r => exact hf _ _ h

private theorem ensureDefaultInterface
    (hf : ∀ i r r', insertInterface i r = some r' → part r' = part r)
    (id : String) : Keeps part (ensureDefaultInterface id) := by
  unfold Links.ensureDefaultInterface
  refine (query _).bind (fun found ↦ ?_)
  split
  · exact pure _
  · split
    · refine (query _).bind (fun dev ↦ ?_)
      split
      · exact (add (hf _)).bind (fun _ ↦ pure _)
      · exact pure _
    · exact pure _

/-- Opening interfaces keeps what inserting one keeps. -/
theorem openInterfaces (hf : ∀ i r r', insertInterface i r = some r' → part r' = part r)
    (p : LinkCreate) (detail : String) : Keeps part (openInterfaces p detail) := by
  unfold Links.openInterfaces
  refine (ensureDefaultInterface hf _).bind (fun aIf ↦ ?_)
  refine (ensureDefaultInterface hf _).bind (fun bIf ↦ ?_)
  split
  · exact (check _).bind (fun _ ↦ pure _)
  · exact check _

end Keeps

/-- Opening interfaces adds no link. -/
theorem openInterfaces_keepsLinks (p : LinkCreate) (detail : String) :
    Keeps (fun r ↦ r.db.links) (openInterfaces p detail) :=
  .openInterfaces (fun _ _ _ h ↦ (insertInterface_eq_some h).2.2.1) p detail

private theorem openInterfaces_keepsMedia (p : LinkCreate) (detail : String) :
    Keeps (fun r ↦ r.db.physicalMedia) (openInterfaces p detail) :=
  .openInterfaces (fun _ _ _ h ↦ (insertInterface_eq_some h).2.2.2.1) p detail

/-- A computation that returns adds its link with an id, or loses the session; one that raises adds
no link. -/
def AddsLink (id : String) (x : Tx Link) : Prop := ∀ s,
  (∀ e s', x s = (.error e, s') → s'.rows.db.links = s.rows.db.links) ∧
    ∀ l s', x s = (.ok l, s') →
      s'.lost = true ∨ s'.rows.db.links = s.rows.db.links ++ [l] ∧ l.id = id

namespace AddsLink

variable {id : String}

private theorem bind {x : Tx α} {f : α → Tx Link} (hx : Keeps (fun r ↦ r.db.links) x)
    (hf : ∀ a, AddsLink id (f a)) : AddsLink id (x >>= f) := by
  intro s
  have hkeep : (x s).2.rows.db.links = s.rows.db.links := hx s
  rcases hrun : x s with ⟨e | a, m⟩
  · rw [hrun] at hkeep
    rw [Tx.bind_of_error hrun]
    constructor
    · rintro _ s' ⟨⟩
      exact hkeep
    · rintro l s' ⟨⟩
  · rw [hrun] at hkeep
    rw [Tx.bind_of_ok hrun, ← hkeep]
    exact hf a m

/-- The last statement adds the row. -/
theorem insert {l : Link} (hid : l.id = id) :
    AddsLink id (do Tx.add (insertLink l); pure l) := by
  intro s
  constructor
  · intro e s' h
    rw [Tx.bind_of_ok (Tx.add_eq _ s)] at h
    cases h
  · intro l' s' h
    obtain ⟨_, m, hadd, h⟩ := Tx.bind_eq_ok.mp h
    obtain ⟨rfl, rfl⟩ := Tx.pure_eq_ok.mp h
    cases hlost : m.lost with
    | true => exact Or.inl rfl
    | false =>
      obtain ⟨hinsert, _⟩ := Tx.add_eq_ok hadd hlost
      exact Or.inr ⟨(insertLink_eq_some hinsert).2.2, hid⟩

private theorem finishLink (d : Details) (aDev bDev : Device) (aIf bIf : Interface) :
    AddsLink p.id (finishLink d env p aDev bDev aIf bIf) := by
  have hselect : Keeps (fun r ↦ r.db.links) (selectMedium env p aDev bDev) := by
    unfold selectMedium
    split
    · exact (Keeps.query _).bind (fun _ ↦ (Keeps.add (by rintro r _ ⟨⟩; rfl)).bind (fun _ ↦ .query _))
    · exact .pure _
  refine bind (.query _) (fun _ ↦ bind (.query _) (fun _ ↦ bind hselect (fun selected ↦ ?_)))
  refine bind (.query _) (fun _ ↦ bind (.query _) (fun lengthKm ↦ bind (.add ?_) (fun _ ↦ ?_)))
  · intro r r' h
    rw [appendDomainEvent_db h]
  · exact insert rfl

/-- Creating a link adds at most that link. -/
theorem createLinkNoRecompute : AddsLink p.id (createLinkNoRecompute env p) := by
  refine bind (.query _) (fun devs ↦ bind (openInterfaces_keepsLinks p _) (fun ifs ↦ ?_))
  exact bind (.check _) (fun _ ↦ finishLink _ _ _ _ _)

end AddsLink

/-- A lost session raises and stays lost. -/
theorem createLinkNoRecompute_of_lost (hlost : s.lost = true) :
    createLinkNoRecompute env p s = (.error .database, s) := by
  refine Tx.bind_of_error ?_
  simp [Tx.query, hlost]

/-! ### One payload, in the two ways -/

private theorem checkPairing_of_details {d d' : Details} {aDev bDev : Device} {db : Database}
    (h : checkPairing d p aDev bDev db = .ok ()) : checkPairing d' p aDev bDev db = .ok () := by
  simpa only [checkPairing, seq_eq_ok, failIf_eq_ok] using h

private theorem openInterfaces_of_details {detail detail' : String} {r : Interface × Interface}
    (h : openInterfaces p detail s = (.ok r, s')) : openInterfaces p detail' s = (.ok r, s') := by
  unfold openInterfaces at h ⊢
  obtain ⟨aIf, m, ha, h⟩ := Tx.bind_eq_ok.mp h
  obtain ⟨bIf, m', hb, h⟩ := Tx.bind_eq_ok.mp h
  refine Tx.bind_eq_ok.mpr ⟨aIf, m, ha, Tx.bind_eq_ok.mpr ⟨bIf, m', hb, ?_⟩⟩
  split at h
  · exact h
  · obtain ⟨herror, _⟩ := Tx.check_eq_ok.mp h
    cases herror

private theorem checkMedium_of_details {d d' : Details} {cls : LinkClassification}
    {selected : Option Int}
    {db : Database} {u : Unit} (h : checkMedium d p cls selected db = .ok u) :
    checkMedium d' p cls selected db = .ok u := by
  unfold checkMedium at h ⊢
  split at h
  · exact h
  · split at h
    · cases h
    · exact failIf_eq_ok.mpr (failIf_eq_ok.mp h)

private theorem finishLink_of_details {d d' : Details} {aDev bDev : Device} {aIf bIf : Interface}
    {l : Link}
    (h : finishLink d env p aDev bDev aIf bIf s = (.ok l, s')) :
    finishLink d' env p aDev bDev aIf bIf s = (.ok l, s') := by
  obtain ⟨hlost, hpon, hupstream, selected, m, hselect, hmedium, hl, hsession⟩ :=
    finishLink_eq_ok.mp h
  exact finishLink_eq_ok.mpr ⟨hlost, hpon, hupstream, selected, m, hselect,
    checkMedium_of_details hmedium, hl, hsession⟩

/-- An id that is the join of two others is not empty. -/
theorem id_ne_of_hasCanonicalId (h : hasCanonicalId p = true) : p.id ≠ "" := by
  have hjoined : ∀ a b, joined a b ≠ "" := by
    intro a b hab
    have := congrArg String.toList hab
    simp [toList_joined, separator] at this
  simp only [hasCanonicalId, Bool.or_eq_true, decide_eq_true_eq] at h
  rcases h with h | h
  · rcases canonicalId_eq_or p.aInterfaceId p.bInterfaceId with hid | hid <;> rw [h, hid]
    · exact hjoined _ _
    · exact hjoined _ _
  · rw [h]
    exact hjoined _ _

/-- What phase 1 checks. -/
theorem validateLinkCreation_eq_ok {db : Database} : validateLinkCreation p db = .ok () ↔
    checkNotExisting p db = .ok () ∧ checkEndpointsDiffer p = .ok () ∧ ∃ aDev bDev,
      deviceFor db p.aInterfaceId = some aDev ∧ deviceFor db p.bInterfaceId = some bDev ∧
      checkPairing batchDetails p aDev bDev db = .ok () ∧ checkMediumExists p db = .ok () ∧
      checkLength p = .ok () := by
  unfold validateLinkCreation
  rw [seq_eq_ok, seq_eq_ok, bind_eq_ok]
  simp only [seq_eq_ok, Prod.exists, resolveDevices_eq_ok, and_assoc]

/-- What creation without a recomputation checks. -/
theorem createLinkNoRecompute_eq_ok {l : Link} : createLinkNoRecompute env p s = (.ok l, s') ↔
    s.lost = false ∧ ∃ aDev bDev,
      deviceFor s.rows.db p.aInterfaceId = some aDev ∧
      deviceFor s.rows.db p.bInterfaceId = some bDev ∧ ∃ aIf bIf m,
        openInterfaces p "Interface creation failed" s = (.ok (aIf, bIf), m) ∧
        hasCanonicalId p = true ∧
        finishLink batchDetails env p aDev bDev aIf bIf m = (.ok l, s') := by
  constructor
  · intro h
    obtain ⟨hlost, ⟨aDev, bDev⟩, hresolve, h⟩ := Tx.query_bind_eq_ok.mp h
    obtain ⟨ha, hb⟩ := resolveDevices_eq_ok.mp hresolve
    obtain ⟨⟨aIf, bIf⟩, m, hopen, h⟩ := Tx.bind_eq_ok.mp h
    obtain ⟨_, hcanonical, h⟩ := Tx.check_bind_eq_ok.mp h
    exact ⟨hlost, aDev, bDev, ha, hb, aIf, bIf, m, hopen, by simpa using hcanonical, h⟩
  · rintro ⟨hlost, aDev, bDev, ha, hb, aIf, bIf, m, hopen, hcanonical, h⟩
    refine Tx.query_bind_eq_ok.mpr ⟨hlost, (aDev, bDev), resolveDevices_eq_ok.mpr ⟨ha, hb⟩, ?_⟩
    refine Tx.bind_eq_ok.mpr ⟨(aIf, bIf), m, hopen, ?_⟩
    exact Tx.check_bind_eq_ok.mpr ⟨(), by simp [hcanonical], h⟩

/-- Opening interfaces keeps the media, so that the medium may be checked before or after. -/
theorem checkMediumExists_openInterfaces {detail : String} {r : Except LinkError (Interface × Interface)}
    (h : openInterfaces p detail s = (r, s')) :
    checkMediumExists p s'.rows.db = checkMediumExists p s.rows.db := by
  have hkeep : (openInterfaces p detail s).2.rows.db.physicalMedia = s.rows.db.physicalMedia :=
    openInterfaces_keepsMedia p detail s
  rw [h] at hkeep
  have hmedia : s'.rows.db.physicalMedia = s.rows.db.physicalMedia := hkeep
  simp only [checkMediumExists, Database.getPhysicalMedium, hmedia]

/-- A single call succeeds where the checks of both phases of the batch do, with the same rows. -/
theorem createLinkImpl_eq_ok_iff : createLinkImpl env store p = .ok store' ↔
    validateLinkCreation p store.db = .ok () ∧
      ∃ l, createLinkNoRecompute env p ⟨store, false⟩ = (.ok l, ⟨store', false⟩) := by
  rw [createLinkImpl_eq_ok]
  constructor
  · rintro ⟨l, h⟩
    obtain ⟨_, hdiffer, hfree, aDev, bDev, ha, hb, hpairing, aIf, bIf, m, hopen, _, hcanonical,
      hlength, hmedium, hfinish⟩ := createLink_eq_ok.mp h
    refine ⟨validateLinkCreation_eq_ok.mpr ⟨?_, hdiffer, aDev, bDev, ha, hb,
      checkPairing_of_details hpairing, ?_, hlength⟩, l, createLinkNoRecompute_eq_ok.mpr ⟨rfl, aDev,
        bDev, ha, hb, aIf, bIf, m, openInterfaces_of_details hopen, hcanonical,
        finishLink_of_details hfinish⟩⟩
    · rw [checkIdFree, failIf_eq_ok] at hfree
      rw [checkNotExisting, failIf_eq_ok, hfree, Bool.false_and]
    · rw [← checkMediumExists_openInterfaces hopen, hmedium]
  · rintro ⟨hvalid, l, h⟩
    obtain ⟨hnew, hdiffer, aDev, bDev, ha, hb, hpairing, hmedium, hlength⟩ :=
      validateLinkCreation_eq_ok.mp hvalid
    obtain ⟨_, aDev', bDev', ha', hb', aIf, bIf, m, hopen, hcanonical, hfinish⟩ :=
      createLinkNoRecompute_eq_ok.mp h
    obtain rfl : aDev = aDev' := Option.some.inj (ha.symm.trans ha')
    obtain rfl : bDev = bDev' := Option.some.inj (hb.symm.trans hb')
    have hmid : m.lost = false := (finishLink_ok hfinish rfl).1
    refine ⟨l, createLink_eq_ok.mpr ⟨rfl, hdiffer, ?_, aDev, bDev, ha, hb,
      checkPairing_of_details hpairing, aIf, bIf, m, openInterfaces_of_details hopen, hmid,
      hcanonical, hlength, ?_, finishLink_of_details hfinish⟩⟩
    · rw [checkNotExisting, failIf_eq_ok] at hnew
      rw [checkIdFree, failIf_eq_ok]
      simpa [id_ne_of_hasCanonicalId hcanonical] using hnew
    · rw [checkMediumExists_openInterfaces hopen, hmedium]

end Unoc.Links
