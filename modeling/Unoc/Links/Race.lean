import Unoc.Links.Turns

/-!
# Creating a link beside other transactions

`create_link_impl` of `backend/api/endpoints/links_helpers_create.py`, one database access after the
other. Between two accesses other transactions commit what they like; a query sees what is committed
then, with the rows of the request. Only the unique constraints are enforced.
-/

namespace Unoc.Links

open Unoc.Model
open Unoc.EventStore (AppendCall EventStoreRecord nextSequence)

/-! ### Accesses -/

/-- The database accesses of a request, in their order; a helper reads one state. -/
inductive Access where
  | start
  | earlyId
  | devices
  | pairing
  | aInterface
  | aDevice
  | bInterface
  | bDevice
  | secondId
  | medium
  | ponRole
  | upstream
  | seedMedia
  | defaultMedium
  | mediumClass
  | length
  | sequence
  | flushEvent
  | commit
  | refresh
  deriving DecidableEq, Repr

/-- What is committed when the request makes an access. -/
abbrev World : Type := Access → Store

/-- The rows that a request has added before its try block. -/
structure OwnRows where
  interfaces : List Interface := []
  media : List PhysicalMedium := []

/-- What a session sees; `none` is a broken constraint, which the next query raises. A row that is
flushed keeps the others from committing its key, so that only the first query after it can
raise. -/
def OwnRows.visible (own : OwnRows) (store : Store) : Option Store :=
  (own.interfaces.foldlM (fun store i ↦ insertInterface i store) store).map fun rows ↦
    { rows with db := { rows.db with physicalMedia := rows.db.physicalMedia ++ own.media } }

/-- An error and the access that decided it. -/
structure Refusal where
  error : LinkError
  access : Access

/-- A computation on the rows of a request. -/
abbrev Steps (α : Type) : Type := StateT OwnRows (Except Refusal) α

/-- A check that does not query the database. -/
def Steps.check {α : Type} (m : Access) (x : Except LinkError α) : Steps α := fun own ↦
  match x with
  | .ok a => .ok (a, own)
  | .error e => .error ⟨e, m⟩

/-- A query with a check of what it returns. -/
def Steps.query {α : Type} (w : World) (m : Access) (f : Store → Except LinkError α) :
    Steps α := fun own ↦
  match own.visible (w m) with
  | none => .error ⟨.database, m⟩
  | some store => Steps.check m (f store) own

/-- Add rows to the session. -/
def Steps.add (f : OwnRows → OwnRows) : Steps Unit := fun own ↦ .ok ((), f own)

/-! ### The checks -/

section Request

variable (env : Runtime) (w : World) (p : LinkCreate)

/-- `ensure_default_interface`; `utils.py:14–34`. -/
def ensureDefaultInterfaceIn (find device : Access) (interfaceId : String) :
    Steps (Option Interface) := do
  match ← Steps.query w find (fun store ↦ .ok (store.db.getInterface interfaceId)) with
  | some iface => return some iface
  | none =>
    if isDefault interfaceId then
      match ← Steps.query w device
          (fun store ↦ .ok (store.db.getDevice (deriveDev interfaceId))) with
      | some dev =>
        let newIface : Interface := ⟨interfaceId, dev.id, "if0", none, .up, none, none, none⟩
        Steps.add (fun own ↦ { own with interfaces := own.interfaces ++ [newIface] })
        return some newIface
      | none => return none
    else return none

/-- The interfaces at both ends, created if need be; `links_helpers_create.py:142–149`. -/
def openInterfacesIn : Steps (Interface × Interface) := do
  let aIf ← ensureDefaultInterfaceIn w .aInterface .aDevice p.aInterfaceId
  let bIf ← ensureDefaultInterfaceIn w .bInterface .bDevice p.bInterfaceId
  match aIf, bIf with
  | some aIf, some bIf =>
    Steps.check .bDevice (failIf (aIf.name = "mgmt0" || bIf.name = "mgmt0")
      (raiseError .invalidLinkType "management interface"))
    return (aIf, bIf)
  | _, _ => Steps.check .bDevice (.error (.http 400 createDetails.interfaceNotFound))

/-- `links_helpers_create.py:153–160`. -/
def checkCanonicalIdIn : Steps Unit :=
  if hasCanonicalId p then pure ()
  else do
    Steps.query w .secondId (fun store ↦ checkIdFree p store.db)
    Steps.check .secondId (.error (notCanonical p))

/-- `pick_default_physical_medium_id`; `links_service.py:40–77`. -/
def pickDefaultPhysicalMediumIdIn (aDev bDev : Device) : Steps (Option Int) := do
  let codes := (Status.allowedMediaCodesForClass
      (Status.classifyLink aDev.type bDev.type)).insertionSort
    (· ≤ ·)
  let added ← Steps.query w .seedMedia (fun store ↦
    .ok ((ensurePhysicalMedia store).db.physicalMedia.drop store.db.physicalMedia.length))
  Steps.add (fun own ↦ { own with media := own.media ++ added })
  Steps.query w .defaultMedium (fun store ↦ .ok
    ((codes[env.md5 p.id % codes.length]?.bind (mediumIdOfCode store.db)).or
      (mediumIdOfCode store.db "SMF_G652D")))

/-- `selected_pm_id`; `links_helpers_create.py:177–179`. -/
def selectMediumIn (aDev bDev : Device) : Steps (Option Int) :=
  if p.physicalMediumId.isNone then pickDefaultPhysicalMediumIdIn env w p aDev bDev else pure none

/-- The statements before the try block, up to the row of the link;
`links_helpers_create.py:68–221`. -/
def prepareLink : Steps (LinkClassification × Link) := do
  Steps.check .start (checkEndpointsDiffer p)
  Steps.query w .earlyId (fun store ↦ checkIdFree p store.db)
  let (aDev, bDev) ← Steps.query w .devices (fun store ↦
    resolveDevices p createDetails.interfaceNotFound store.db)
  Steps.query w .pairing (fun store ↦ checkPairing createDetails p aDev bDev store.db)
  let (aIf, bIf) ← openInterfacesIn w p
  checkCanonicalIdIn w p
  Steps.check .secondId (checkLength p)
  Steps.query w .medium (fun store ↦ checkMediumExists p store.db)
  let cls := classify aDev.type bDev.type
  Steps.query w .ponRole (fun store ↦ enforcePonRoleIfDeclared store.db aDev bDev aIf bIf)
  Steps.query w .upstream (fun store ↦ enforceSingleUpstreamRules store.db aDev bDev)
  let selected ← selectMediumIn env w p aDev bDev
  Steps.query w .mediumClass (fun store ↦ checkMedium createDetails p cls selected store.db)
  let lengthKm ← Steps.query w .length (fun store ↦ .ok (derivedLength env p selected store.db))
  return (cls, linkRow p cls selected lengthKm)

end Request

/-! ### The try block -/

/-- The constraints that the try block may break. The queries since the interfaces were added have
flushed them. -/
inductive Violation where
  | eventSequence
  | link
  deriving DecidableEq, Repr

/-- The error of a link that is there. -/
def linkExists : LinkError := .http 409 "Link already exists"

/-- Whether the text of an `IntegrityError` is taken for a conflict of links;
`links_helpers_create.py:346–351`. -/
def readsAsConflict (text : String) : Bool :=
  ["unique", "duplicate", "uq_link_endpoints", "uq_link_device_name"].any
    (fun word ↦ word.toList <:+: text.toLower.toList)

/-- The answer to an `IntegrityError`; `links_helpers_create.py:343–356`. -/
def mapIntegrityError (text : String) : LinkError :=
  if readsAsConflict text then linkExists else .http 500 ("Integrity error: " ++ text)

/-- The committed rows of a request. -/
structure Committed where
  interfaces : List Interface := []
  links : List Link := []
  events : List EventStoreRecord := []

/-- The answer of a request, the access that decided it, and the rows it has committed. -/
structure Outcome where
  answer : Except LinkError Link
  access : Access
  committed : Committed := {}

/-- The event of a link under a sequence number; `event_store.py:102–112`. -/
def linkCreatedRecord (env : Runtime) (cls : LinkClassification) (l : Link) (sequence : Nat) :
    Option EventStoreRecord :=
  (AppendCall.domainEvent "LINK_CREATED" l.id (linkCreatedPayload cls l) none
      (env.now sequence)).record
    sequence

section Create

-- `message` is the text of the driver for a broken constraint.
variable (env : Runtime) (message : Violation → String) (w : World) (p : LinkCreate)

/-- The sequence number read for the event; `event_store.py:31–35`. -/
def readSequence : Nat := nextSequence (w .sequence).events

/-- The number is taken when the event is flushed. -/
def SequenceTaken : Prop := readSequence w ∈ (w .flushEvent).events.map EventStoreRecord.sequence

/-- Whether the sequence is taken is checked on the committed rows. -/
instance : Decidable (SequenceTaken w) := by unfold SequenceTaken; infer_instance

/-- The try block: append the event, add the link, commit, refresh;
`links_helpers_create.py:222–370`. -/
def commitLink (own : OwnRows) (cls : LinkClassification) (l : Link) : Outcome :=
  if SequenceTaken w then ⟨.error (mapIntegrityError (message .eventSequence)), .flushEvent, {}⟩
  else
    match insertLink l (w .commit) with
    | none => ⟨.error (mapIntegrityError (message .link)), .commit, {}⟩
    | some _ =>
      let events := (linkCreatedRecord env cls l (readSequence w)).toList
      -- the refresh raises when the row is gone, and nothing undoes the commit
      let answer := if ((w .refresh).db.getLink l.id).isSome then .ok l else .error .database
      ⟨answer, .refresh, ⟨own.interfaces, [l], events⟩⟩

/-- `create_link_impl`; an error before the try block closes the session without a commit. -/
def createLinkIn : Outcome :=
  match prepareLink env w p {} with
  | .error r => ⟨.error r.error, r.access, {}⟩
  | .ok ((cls, l), own) => commitLink env message w own cls l

/-- What a request owes its caller: "Link already exists" is answered only if a link with the id or
the endpoints is committed at that access, and an error leaves no row. -/
structure Truthful (o : Outcome) : Prop where
  conflict : o.answer = .error linkExists → Taken (w o.access).db p
  clean : ∀ e, o.answer = .error e → o.committed = {}

/-- When the checks pass, no other transaction takes the sequence number before the event is
flushed, unless its link is committed too or the text is not read as a conflict; and the link is
still there when it is refreshed. -/
def NoMisreport : Prop :=
  (∃ r, prepareLink env w p {} = .ok r) →
    (SequenceTaken w → readsAsConflict (message .eventSequence) = true →
        Taken (w .flushEvent).db p) ∧
    (¬ SequenceTaken w → ¬ Taken (w .commit).db p → ((w .refresh).db.getLink p.id).isSome)

end Create

/-! ### Refusals of the checks -/

section Refusals

variable {α β : Type} {w : World} {p : LinkCreate}

/-- A check that refuses with status 400 only. -/
def BadRequest (x : Except LinkError α) : Prop := ∀ e, x = .error e → ∃ detail, e = .http 400 detail

private theorem badRequest_ok {a : α} : BadRequest
    (.ok a : Except LinkError α) := fun _ h ↦ nomatch h

private theorem badRequest_error {detail : String} :
    BadRequest (.error (.http 400 detail) : Except LinkError α) := by
  intro e h
  cases h
  exact ⟨detail, rfl⟩

private theorem badRequest_failIf {cond : Bool} {detail : String} :
    BadRequest (failIf cond (.http 400 detail)) := by
  unfold failIf
  split
  · exact badRequest_error
  · exact badRequest_ok

private theorem badRequest_raise {cond : Bool} {code : ErrorCode} {suffix : String} :
    BadRequest (failIf cond (raiseError code suffix)) := badRequest_failIf

private theorem badRequest_bind {x : Except LinkError α} {f : α → Except LinkError β}
    (hx : BadRequest x)
    (hf : ∀ a, BadRequest (f a)) : BadRequest (x >>= f) := by
  intro e h
  cases x with
  | error e' =>
    cases h
    exact hx e rfl
  | ok a => exact hf a e h

private theorem resolveDevices_badRequest {detail : String} {db : Database} :
    BadRequest (resolveDevices p detail db) := by
  unfold resolveDevices
  split
  · exact badRequest_ok
  · exact badRequest_error

variable {d : Details} {db : Database} {aDev bDev other : Device} {aIf bIf : Interface}
    {ontIfId : String}

private theorem enforcePlacementAt_badRequest {aId bId : String} :
    BadRequest (enforcePlacementAt db other ontIfId aId bId) := by
  unfold enforcePlacementAt
  split
  · exact badRequest_ok
  split
  · exact badRequest_error
  split
  · exact badRequest_error
  split
  · apply badRequest_bind
    · unfold enforceOutPortFree
      split
      · exact badRequest_raise
      · exact badRequest_ok
    · exact fun _ ↦ badRequest_raise
  · exact badRequest_ok

private theorem checkPairing_badRequest : BadRequest (checkPairing d p aDev bDev db) := by
  unfold checkPairing
  apply badRequest_bind badRequest_raise; intro _
  apply badRequest_bind badRequest_raise; intro _
  apply badRequest_bind badRequest_raise; intro _
  apply badRequest_bind badRequest_raise; intro _
  apply badRequest_bind badRequest_raise; intro _
  unfold enforceOntPlacementRules
  split
  · exact enforcePlacementAt_badRequest
  split
  · exact enforcePlacementAt_badRequest
  · exact badRequest_ok

private theorem enforceSingleUpstreamRules_badRequest :
    BadRequest (enforceSingleUpstreamRules db aDev bDev) :=
  badRequest_bind badRequest_raise (fun _ ↦ badRequest_raise)

private theorem checkMedium_badRequest {cls : LinkClassification} {selected : Option Int} :
    BadRequest (checkMedium d p cls selected db) := by
  unfold checkMedium
  split
  · exact badRequest_ok
  split
  · exact badRequest_error
  · exact badRequest_failIf

/-- A computation that answers "Link already exists" only when the link is committed. -/
def Honest (w : World) (p : LinkCreate) (x : Steps α) : Prop :=
  ∀ own r, x own = .error r → r.error = linkExists → Taken (w r.access).db p

private theorem honest_pure {a : α} : Honest w p (pure a) := fun _ _ h ↦ nomatch h

private theorem honest_add {f : OwnRows → OwnRows} : Honest w p
    (Steps.add f) := fun _ _ h ↦ nomatch h

private theorem honest_bind {x : Steps α} {f : α → Steps β} (hx : Honest w p x)
    (hf : ∀ a, Honest w p (f a)) :
    Honest w p (x >>= f) := by
  intro own r h
  cases hrun : x own with
  | error r' =>
    simp only [bind, StateT.bind, hrun, Except.bind, Except.error.injEq] at h
    exact h ▸ hx own r' hrun
  | ok a =>
    simp only [bind, StateT.bind, hrun, Except.bind] at h
    exact hf a.1 a.2 r h

private theorem honest_check {m : Access} {x : Except LinkError α} (hx : BadRequest x) :
    Honest w p (Steps.check m x) := by
  intro own r h hexists
  unfold Steps.check at h
  split at h
  · cases h
  · next e =>
    cases h
    have ⟨detail, he⟩ := hx e rfl
    rw [he] at hexists
    cases hexists

private theorem honest_query {m : Access} {f : Store → Except LinkError α}
    (hf : ∀ store, BadRequest (f store)) :
    Honest w p (Steps.query w m f) := by
  intro own r h hexists
  unfold Steps.query at h
  split at h
  · cases h
    cases hexists
  · exact honest_check (hf _) own r h hexists

/-- A session sees the committed links and events, and its interfaces behind the committed ones. -/
theorem visible_rows {own : OwnRows} {store rows : Store} (h : own.visible store = some rows) :
    rows.db.links = store.db.links ∧
      rows.db.interfaces = store.db.interfaces ++ own.interfaces ∧ rows.events = store.events := by
  have hfold : ∀ (is : List Interface) (s s' : Store),
      is.foldlM (fun store i ↦ insertInterface i store) s = some s' →
        s'.db.links = s.db.links ∧ s'.db.interfaces = s.db.interfaces ++ is ∧
          s'.events = s.events := by
    intro is
    induction is with
    | nil =>
      intro s s' hs
      cases hs
      exact ⟨rfl, (List.append_nil _).symm, rfl⟩
    | cons i is ih =>
      intro s s' hs
      rw [List.foldlM_cons] at hs
      have ⟨m, hm, hrest⟩ := Option.bind_eq_some_iff.mp hs
      have ⟨_, hinterfaces, hlinks, _, hevents⟩ := insertInterface_eq_some hm
      have ⟨hlinks', hinterfaces', hevents'⟩ := ih m s' hrest
      rw [hlinks', hinterfaces', hevents', hlinks, hinterfaces, hevents, List.append_assoc]
      exact ⟨rfl, rfl, rfl⟩
  have ⟨s', hs', hrows⟩ := Option.map_eq_some_iff.mp h
  rw [← hrows]
  exact hfold own.interfaces store s' hs'

/-- The two searches for the id see the committed links. -/
theorem honest_checkIdFree {m : Access} :
    Honest w p (Steps.query w m (fun store ↦ checkIdFree p store.db)) := by
  intro own r h _
  unfold Steps.query at h
  split at h
  next => cases h; contradiction
  next store hvisible =>
    have haccess : r.access = m ∧ (store.db.getLink p.id).isSome = true := by
      unfold Steps.check checkIdFree failIf at h
      split at h
      next => cases h
      next e hfail =>
        cases h
        apply And.intro rfl
        by_contra hnone
        simp only [hnone] at hfail
        cases hfail
    have ⟨l, hl⟩ := Option.isSome_iff_exists.mp haccess.2
    rw [haccess.1, Taken, ← (visible_rows hvisible).1]
    exact ⟨l, List.mem_of_find?_eq_some hl, .inl (by simpa using List.find?_some hl)⟩

private theorem ensureDefaultInterfaceIn_honest {find device : Access} {interfaceId : String} :
    Honest w p (ensureDefaultInterfaceIn w find device interfaceId) := by
  unfold ensureDefaultInterfaceIn
  apply honest_bind (honest_query fun _ ↦ badRequest_ok)
  intro found
  split
  · exact honest_pure
  split
  · apply honest_bind (honest_query fun _ ↦ badRequest_ok)
    intro dev
    split
    · exact honest_bind honest_add (fun _ ↦ honest_pure)
    · exact honest_pure
  · exact honest_pure

private theorem openInterfacesIn_honest : Honest w p (openInterfacesIn w p) := by
  unfold openInterfacesIn
  apply honest_bind ensureDefaultInterfaceIn_honest
  intro aIf
  apply honest_bind ensureDefaultInterfaceIn_honest
  intro bIf
  split
  · exact honest_bind (honest_check badRequest_raise) (fun _ ↦ honest_pure)
  · exact honest_check badRequest_error

private theorem checkCanonicalIdIn_honest : Honest w p (checkCanonicalIdIn w p) := by
  unfold checkCanonicalIdIn
  split
  · exact honest_pure
  · exact honest_bind honest_checkIdFree (fun _ ↦ honest_check badRequest_error)

private theorem selectMediumIn_honest {env : Runtime} : Honest w p
    (selectMediumIn env w p aDev bDev) := by
  unfold selectMediumIn pickDefaultPhysicalMediumIdIn
  split
  · apply honest_bind (honest_query fun _ ↦ badRequest_ok)
    intro added
    exact honest_bind honest_add (fun _ ↦ honest_query fun _ ↦ badRequest_ok)
  · exact honest_pure

/-- The checks never misreport a link. -/
theorem prepareLink_honest {env : Runtime} : Honest w p (prepareLink env w p) := by
  unfold prepareLink
  apply honest_bind (honest_check badRequest_failIf); intro _
  apply honest_bind honest_checkIdFree; intro _
  apply honest_bind (honest_query fun _ ↦ resolveDevices_badRequest); intro ⟨aDev, bDev⟩
  apply honest_bind (honest_query fun _ ↦ checkPairing_badRequest); intro _
  apply honest_bind openInterfacesIn_honest; intro ⟨aIf, bIf⟩
  apply honest_bind checkCanonicalIdIn_honest; intro _
  apply honest_bind (honest_check badRequest_failIf); intro _
  apply honest_bind (honest_query fun _ ↦ badRequest_failIf); intro _
  apply honest_bind (honest_query fun _ ↦ badRequest_raise); intro _
  apply honest_bind (honest_query fun _ ↦ enforceSingleUpstreamRules_badRequest); intro _
  apply honest_bind selectMediumIn_honest; intro selected
  apply honest_bind (honest_query fun _ ↦ checkMedium_badRequest); intro _
  exact honest_bind (honest_query fun _ ↦ badRequest_ok) (fun _ ↦ honest_pure)

/-- What a computation returns, with the rows of the request, has a property. -/
def Yields (x : Steps α) (P : α × OwnRows → Prop) : Prop := ∀ own r, x own = .ok r → P r

private theorem yields_bind {x : Steps α} {f : α → Steps β} {P : β × OwnRows → Prop}
    (hf : ∀ a, Yields (f a) P) : Yields (x >>= f) P := by
  intro own r h
  cases hrun : x own with
  | error r' =>
    simp only [bind, StateT.bind, hrun, Except.bind] at h
    cases h
  | ok a =>
    simp only [bind, StateT.bind, hrun, Except.bind] at h
    exact hf a.1 a.2 r h

/-- A query that does not raise has seen the rows of the request. -/
theorem yields_query {m : Access} {f : Store → Except LinkError α} {g : α → β}
    {P : β × OwnRows → Prop}
    (h : ∀ own a rows, own.visible (w m) = some rows → P (g a, own)) :
    Yields (Steps.query w m f >>= fun a ↦ pure (g a)) P := by
  intro own r hrun
  cases hvisible : own.visible (w m) with
  | none =>
    simp only [bind, StateT.bind, Steps.query, hvisible, Except.bind] at hrun
    cases hrun
  | some rows =>
    cases hf : f rows with
    | error e =>
      simp only [bind, StateT.bind, Steps.query, hvisible, Steps.check, hf, Except.bind] at hrun
      cases hrun
    | ok a =>
      simp only [bind, StateT.bind, Steps.query, hvisible, Steps.check, hf, Except.bind] at hrun
      cases hrun
      exact h own a rows hvisible

/-- The row that reaches the try block is the one of the request, and no constraint is broken. -/
theorem prepareLink_yields {env : Runtime} : Yields (prepareLink env w p) (fun r ↦
    (∃ selected lengthKm, r.1.2 = linkRow p r.1.1 selected lengthKm) ∧
      ∃ rows, r.2.visible (w .length) = some rows) := by
  unfold prepareLink
  apply yields_bind; intro _
  apply yields_bind; intro _
  apply yields_bind; intro ⟨aDev, bDev⟩
  apply yields_bind; intro _
  apply yields_bind; intro ⟨aIf, bIf⟩
  apply yields_bind; intro _
  apply yields_bind; intro _
  apply yields_bind; intro _
  apply yields_bind; intro _
  apply yields_bind; intro _
  apply yields_bind; intro selected
  apply yields_bind; intro _
  apply yields_query
  intro own lengthKm rows hvisible
  exact ⟨⟨selected, lengthKm, rfl⟩, rows, hvisible⟩

end Refusals

/-! ### The law -/

section Law

variable {env : Runtime} {message : Violation → String} {w : World} {p : LinkCreate} {own : OwnRows}
  {cls : LinkClassification} {selected : Option Int} {lengthKm : Option ℚ}

/-- An integrity error becomes a conflict exactly if its text reads as one. -/
theorem mapIntegrityError_eq_linkExists {text : String} :
    mapIntegrityError text = linkExists ↔ readsAsConflict text = true := by
  unfold mapIntegrityError
  split
  next h => exact iff_of_true rfl h
  next h =>
    apply iff_of_false
    · intro heq
      cases heq
    · exact h

/-- An error that left nothing is truthful if it does not name a link that is missing. -/
theorem truthful_of_error {e : LinkError} {m : Access} : Truthful w p ⟨.error e, m, {}⟩ ↔
    (e = linkExists → Taken (w m).db p) := by
  constructor
  · intro h heq
    exact h.conflict (congrArg Except.error heq)
  · intro h
    exact ⟨fun heq ↦ h (Except.error.inj heq), fun _ _ ↦ rfl⟩

private theorem insertLink_linkRow {store : Store} :
    insertLink (linkRow p cls selected lengthKm) store = none ↔ Taken store.db p :=
  insertLink_eq_none

/-- The try block is truthful when neither of its two gaps is used by another transaction. -/
theorem commitLink_truthful_iff :
    Truthful w p (commitLink env message w own cls (linkRow p cls selected lengthKm)) ↔
      (SequenceTaken w → readsAsConflict (message .eventSequence) = true →
          Taken (w .flushEvent).db p) ∧
      (¬ SequenceTaken w → ¬ Taken (w .commit).db p → ((w .refresh).db.getLink p.id).isSome) := by
  unfold commitLink
  by_cases htaken : SequenceTaken w
  · rw [if_pos htaken, truthful_of_error, mapIntegrityError_eq_linkExists]
    simp [htaken]
  · rw [if_neg htaken]
    simp only [htaken, not_false_eq_true, forall_const, false_implies, true_and]
    split
    next hnone =>
      have hlink := insertLink_linkRow.mp hnone
      rw [truthful_of_error]
      simp [hlink]
    next hsome =>
      have hlink : ¬ Taken (w .commit).db p := by
        intro htaken
        rw [insertLink_linkRow.mpr htaken] at hsome
        cases hsome
      rw [forall_prop_of_true hlink]
      constructor
      · intro htruthful
        by_contra hgone
        have hempty := htruthful.clean .database (if_neg hgone)
        cases congrArg Committed.links hempty
      · intro hthere
        constructor
        · intro h
          cases (if_pos hthere).symm.trans h
        · intro e h
          cases (if_pos hthere).symm.trans h

/-- Link creation reports conflicts truthfully exactly when no other transaction takes its sequence
number or deletes its link in between. -/
theorem createLinkIn_truthful_iff :
    Truthful w p (createLinkIn env message w p) ↔ NoMisreport env message w p := by
  unfold createLinkIn NoMisreport
  split
  next r hrefused =>
    rw [truthful_of_error]
    apply iff_of_true
    · exact prepareLink_honest {} r hrefused
    · intro ⟨r', hr'⟩
      rw [hrefused] at hr'
      cases hr'
  next cls l own hready =>
    have ⟨⟨selected, lengthKm, hrow⟩, _⟩ := prepareLink_yields {} _ hready
    rw [forall_prop_of_true ⟨_, hready⟩]
    change l = _ at hrow
    rw [hrow]
    exact commitLink_truthful_iff

end Law

/-! ### An event between the read and the flush -/

/-- The event of another request. -/
def otherEvent : EventStoreRecord where
  sequence := 0
  eventType := .deviceUpdated
  payload := []
  source := "WRITE_PATH"
  createdAt := ""
  correlationId := none

/-- Another transaction commits an event after the request has read its sequence number. -/
def eventWorld : World
  | .flushEvent | .commit | .refresh => { accessNetwork with events := [otherEvent] }
  | _ => accessNetwork

/-- The texts of the SQLite driver. -/
def sqliteMessage : Violation → String
  | .eventSequence => "(sqlite3.IntegrityError) UNIQUE constraint failed: eventstorerecord.sequence"
  | .link => "(sqlite3.IntegrityError) UNIQUE constraint failed: link.id"

/-- A new link of the small network. -/
def oltOdfLink : LinkCreate := linkRequest "olt-if0" "odf-if0"

/-- "Link already exists" is answered although no link is committed at all. -/
theorem createLinkIn_misreports_event :
    ¬ Truthful eventWorld oltOdfLink
        (createLinkIn constantRuntime sqliteMessage eventWorld oltOdfLink) := by
  intro htruthful
  have haccess : (createLinkIn constantRuntime sqliteMessage eventWorld oltOdfLink).access =
      .flushEvent := by
    decide +kernel
  have hanswer : (createLinkIn constantRuntime sqliteMessage eventWorld oltOdfLink).answer =
      .error linkExists := by
    decide +kernel
  have ⟨l, hl, _⟩ := htruthful.conflict hanswer
  rw [haccess] at hl
  exact absurd hl List.not_mem_nil

end Unoc.Links
