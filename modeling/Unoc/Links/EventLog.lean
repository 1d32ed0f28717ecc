import Unoc.Base.EventSourcing
import Unoc.Devices.Delete
import Unoc.Links.Lifecycle

/-!
# The event log of links

Every endpoint that creates or deletes links appends its domain events in the transaction of the
rows. The table of links, with the ends and the kind of each link, is therefore the replay of the
`LINK_CREATED` and `LINK_DELETED` records of the write path, in every state of a run of requests.
-/

namespace Unoc.Links

open Unoc.Base
open Unoc.Model
open Unoc.EventStore
open Unoc.Devices (Delete.State Delete.deleteDeviceImpl Delete.cleanInterface Delete.deleteLinks
  Delete.recordDeleted Delete.deleteInterfaces)

/-! ### Projection -/

/-- The columns of a link that its creation records. -/
structure LinkRecord where
  id : String
  aInterfaceId : String
  bInterfaceId : String
  kind : String
  deriving DecidableEq, Repr

/-- The recorded columns of a link. -/
def linkRecord (l : Link) : LinkRecord := ⟨l.id, l.aInterfaceId, l.bInterfaceId, kindText l.kind⟩

/-- The text of a key in a payload. -/
def payloadText (p : Payload) (k : String) : String := (p.lookup k).getD ""

/-- What a record of the write path says about the table of links. -/
def linkEventOf (source : String) (eventType : DomainEventType) (p : Payload) :
    Option (RowEvent LinkRecord String) :=
  if source = "WRITE_PATH" then
    match eventType with
    | .linkCreated => some (.created ⟨payloadText p "entity_id", payloadText p "a_interface_id",
        payloadText p "b_interface_id", payloadText p "kind"⟩)
    | .linkDeleted => some (.deleted (payloadText p "entity_id"))
    | _ => none
  else none

/-- What a record says about the table of links. -/
def recordEvent (r : EventStoreRecord) : Option (RowEvent LinkRecord String) :=
  linkEventOf r.source r.eventType r.payload

/-- What a row says about the table of links. -/
def rowEvent (r : EventRow) : Option (RowEvent LinkRecord String) :=
  match r.payload with
  | .fields p => linkEventOf r.source r.eventType p
  | .simulation _ => none

/-- The table of links and its events. -/
def Store.sourced (s : Store) : Sourced LinkRecord String :=
  ⟨s.db.links.map linkRecord, s.events.filterMap recordEvent⟩

/-- The table of links and its events, in the state of a device deletion. -/
def deletionSourced (s : Delete.State) : Sourced LinkRecord String :=
  ⟨s.links.map linkRecord, s.events.rows.filterMap rowEvent⟩

/-- A change that the log records. -/
abbrev RecordsLinks : Sourced LinkRecord String → Sourced LinkRecord String → Prop :=
  Sourced.Records LinkRecord.id

variable {α β : Type} {env : Runtime} {store store' : Store} {s s' : Session} {p : LinkCreate}

/-! ### Events that are appended -/

/-- The payload of a domain event with its defaults. -/
def withDefaults (payload : Payload) (entityId now : String) : Payload :=
  (payload.setDefault "entity_id" entityId).setDefault "timestamp" now

private theorem payloadText_setDefault {payload : Payload} {k k' v : String} (h : k' ≠ k) :
    payloadText (payload.setDefault k v) k' = payloadText payload k' := by
  unfold payloadText Payload.setDefault
  split
  · rfl
  · rw [List.lookup_append]
    cases payload.lookup k' with
    | some _ => rfl
    | none => simp [List.lookup_cons, beq_eq_false_iff_ne.mpr h]

/-- The defaults leave the other keys alone. -/
theorem payloadText_withDefaults {payload : Payload} {k id now : String} (h : k ≠ "entity_id")
    (h' : k ≠ "timestamp") : payloadText (withDefaults payload id now) k = payloadText payload k := by
  unfold withDefaults
  rw [payloadText_setDefault h', payloadText_setDefault h]

/-- The entity of an event whose payload does not name one. -/
theorem payloadText_entity {payload : Payload} {id now : String}
    (h : payload.any (fun e ↦ e.1 == "entity_id") = false) :
    payloadText (withDefaults payload id now) "entity_id" = id := by
  have hnone : payload.lookup "entity_id" = none := by
    rw [List.lookup_eq_none_iff]
    intro e he
    have hne : e.1 ≠ "entity_id" := by simpa using List.any_eq_false.mp h e he
    simpa using hne.symm
  unfold withDefaults
  rw [payloadText_setDefault (by decide)]
  unfold payloadText Payload.setDefault
  rw [h, if_neg Bool.false_ne_true, List.lookup_append, hnone]
  rfl

/-- The event of a creation names the link with its ends and its kind. -/
theorem linkEventOf_created {cls : LinkClassification} {l : Link} {now : String} :
    linkEventOf "WRITE_PATH" .linkCreated (withDefaults (linkCreatedPayload cls l) l.id now) =
      some (.created (linkRecord l)) := by
  unfold linkEventOf
  rw [if_pos rfl]
  dsimp only
  rw [payloadText_entity rfl, payloadText_withDefaults (by decide) (by decide),
    payloadText_withDefaults (by decide) (by decide),
    payloadText_withDefaults (by decide) (by decide)]
  rfl

/-- The event of a deletion names the link. -/
theorem linkEventOf_deleted {payload : Payload} {id now : String}
    (h : payload.any (fun e ↦ e.1 == "entity_id") = false) :
    linkEventOf "WRITE_PATH" .linkDeleted (withDefaults payload id now) = some (.deleted id) := by
  unfold linkEventOf
  rw [if_pos rfl]
  dsimp only
  rw [payloadText_entity h]

/-- What `append_domain_event` does to the log of links. -/
theorem appendDomainEvent_sourced (eventType : DomainEventType) {name entityId : String}
    {payload : Payload} (hname : DomainEventType.ofName name = some eventType)
    (h : appendDomainEvent env name entityId payload store = some store') :
    store'.db = store.db ∧ ∃ now, store'.sourced.log = store.sourced.log ++
      (linkEventOf "WRITE_PATH" eventType (withDefaults payload entityId now)).toList := by
  obtain ⟨r, hr, rfl⟩ := Option.map_eq_some_iff.mp h
  simp only [AppendCall.record, hname, Option.map_some, Option.some.injEq] at hr
  refine ⟨rfl, env.now (nextSequence store.events), ?_⟩
  simp only [Store.sourced, List.filterMap_append, ← hr, recordEvent]
  congr 1

/-! ### Creation -/

/-- A computation that returns a link records its changes, or loses the session; one that raises has
changed neither the links nor their log. -/
def RecordsLink (x : Tx Link) : Prop := ∀ s,
  (∀ e s', x s = (.error e, s') → s'.rows.sourced = s.rows.sourced) ∧
    ∀ l s', x s = (.ok l, s') → s'.lost = true ∨ RecordsLinks s.rows.sourced s'.rows.sourced

private theorem sourced_insertInterface (i : Interface) (r r' : Store)
    (h : insertInterface i r = some r') :
    r'.sourced = r.sourced := by
  obtain ⟨_, _, hlinks, _, hevents⟩ := insertInterface_eq_some h
  simp only [Store.sourced, hlinks, hevents]

private theorem selectMedium_keepsSourced (aDev bDev : Device) :
    Keeps Store.sourced (selectMedium env p aDev bDev) := by
  unfold selectMedium
  split
  · refine (Keeps.query _).bind (fun _ ↦ (Keeps.add ?_).bind (fun _ ↦ .query _))
    rintro r _ ⟨⟩
    rfl
  · exact .pure _

namespace RecordsLink

private theorem bind {x : Tx α} {f : α → Tx Link} (hx : Keeps Store.sourced x)
    (hf : ∀ a, RecordsLink (f a)) :
    RecordsLink (x >>= f) := by
  intro s
  have hkeep : (x s).2.rows.sourced = s.rows.sourced := hx s
  rcases hrun : x s with ⟨e | a, m⟩
  · rw [hrun] at hkeep
    rw [Tx.bind_of_error hrun]
    constructor
    · rintro _ s' ⟨⟩
      exact hkeep
    · rintro l s' ⟨⟩
  · rw [hrun] at hkeep
    rw [Tx.bind_of_ok hrun, ← hkeep]
    exact hf a m

/-- The last two statements add the event and the row. -/
theorem insert {cls : LinkClassification} {l : Link} :
    RecordsLink (do
      Tx.add (appendDomainEvent env "LINK_CREATED" l.id (linkCreatedPayload cls l))
      Tx.add (insertLink l)
      pure l) := by
  intro s
  constructor
  · intro e s' h
    rw [Tx.bind_of_ok (Tx.add_eq _ s), Tx.bind_of_ok (Tx.add_eq _ _)] at h
    cases h
  · intro l' s' h
    obtain ⟨_, m, hadd, h⟩ := Tx.bind_eq_ok.mp h
    obtain ⟨_, m', hadd', h⟩ := Tx.bind_eq_ok.mp h
    obtain ⟨rfl, rfl⟩ := Tx.pure_eq_ok.mp h
    cases hlost : m'.lost with
    | true => exact Or.inl rfl
    | false =>
      right
      obtain ⟨hinsert, hlost'⟩ := Tx.add_eq_ok hadd' hlost
      obtain ⟨happend, _⟩ := Tx.add_eq_ok hadd hlost'
      obtain ⟨hdb, now, hlog⟩ := appendDomainEvent_sourced .linkCreated rfl happend
      rw [linkEventOf_created] at hlog
      have hevents : m'.rows.events = m.rows.events := by
        unfold insertLink at hinsert
        split at hinsert
        · rw [← Option.some.inj hinsert]
        · cases hinsert
      refine ⟨[.created (linkRecord l)], ?_, ?_⟩
      · exact (congrArg (List.filterMap recordEvent) hevents).trans hlog
      · change m'.rows.db.links.map linkRecord = s.rows.db.links.map linkRecord ++ [linkRecord l]
        rw [(insertLink_eq_some hinsert).2.2, hdb, List.map_append]
        rfl

private theorem finishLink (d : Details) (aDev bDev : Device) (aIf bIf : Interface) :
    RecordsLink (finishLink d env p aDev bDev aIf bIf) := by
  refine bind (.query _) (fun _ ↦ bind (.query _) (fun _ ↦ bind (selectMedium_keepsSourced _ _)
    (fun selected ↦ ?_)))
  exact bind (.query _) (fun _ ↦ bind (.query _) (fun lengthKm ↦ insert))

private theorem createLink : RecordsLink (createLink env p) := by
  refine bind (.check _) (fun _ ↦ bind (.query _) (fun _ ↦ bind (.query _) (fun devs ↦ ?_)))
  refine bind (.query _) (fun _ ↦ bind (.openInterfaces sourced_insertInterface p _) (fun ifs ↦ ?_))
  refine bind ?_ (fun _ ↦ bind (.check _) (fun _ ↦ bind (.query _) (fun _ ↦ finishLink _ _ _ _ _)))
  unfold checkCanonicalId
  split
  · exact .pure _
  · exact (Keeps.query _).bind (fun _ ↦ .check _)

private theorem createLinkNoRecompute : RecordsLink (createLinkNoRecompute env p) := by
  refine bind (.query _) (fun devs ↦ bind (.openInterfaces sourced_insertInterface p _) (fun ifs ↦ ?_))
  exact bind (.check _) (fun _ ↦ finishLink _ _ _ _ _)

end RecordsLink

private theorem createLinkImpl_records (h : createLinkImpl env store p = .ok store') :
    RecordsLinks store.sourced store'.sourced := by
  obtain ⟨l, hrun⟩ := createLinkImpl_eq_ok.mp h
  exact ((RecordsLink.createLink _).2 l _ hrun).resolve_left Bool.false_ne_true

/-- The creation loop of a batch records what it has created while the session is not lost. -/
theorem createAll_records (ps : List LinkCreate) (b : BatchLoop) (base : Sourced LinkRecord String)
    (h : b.session.lost = true ∨ RecordsLinks base b.session.rows.sourced) :
    (ps.foldl (createNext env) b).session.lost = true ∨
      RecordsLinks base (ps.foldl (createNext env) b).session.rows.sourced := by
  induction ps generalizing b with
  | nil => exact h
  | cons p ps ih =>
    apply ih
    unfold createNext
    rcases h with hlost | hrec
    · rw [createLinkNoRecompute_of_lost hlost]
      exact Or.inl hlost
    · have hnext : RecordsLink (Links.createLinkNoRecompute env p) := RecordsLink.createLinkNoRecompute
      obtain ⟨herror, hok⟩ := hnext b.session
      rcases hrun : Links.createLinkNoRecompute env p b.session with ⟨e | l, s⟩
      · right
        change RecordsLinks base s.rows.sourced
        rw [herror e s hrun]
        exact hrec
      · exact (hok l s hrun).imp id hrec.trans

private theorem batchCreateLinks_records (ps : List LinkCreate) :
    RecordsLinks store.sourced (batchCreateLinks env store ps).2.sourced := by
  unfold batchCreateLinks
  dsimp only
  split_ifs with hnil hlarge hinvalid hcreated hlost
  · exact .refl _
  · exact .refl _
  · exact .refl _
  · exact .refl _
  · exact .refl _
  · exact (createAll_records ps _ _ (Or.inr (.refl _))).resolve_left hlost

/-! ### Changes and deletions of one link -/

/-- A commit with an event that does not concern the table of links. -/
theorem commitWith_assign {name entityId : String} {payload : Payload} {id : String}
    {f : LinkAssignment} (hf : ∀ l, linkRecord (f.set l) = linkRecord l)
    (hname : DomainEventType.ofName name = some .linkUpdated)
    (h : commitWith env name entityId payload (assignLink id f) store = .ok store') :
    RecordsLinks store.sourced store'.sourced := by
  unfold commitWith at h
  split at h
  · cases h
  · next rows happend =>
    cases h
    obtain ⟨hdb, now, hlog⟩ := appendDomainEvent_sourced _ hname happend
    refine ⟨[], ?_, ?_⟩
    · exact hlog
    · change (assignLink id f rows.db).links.map linkRecord = store.db.links.map linkRecord
      rw [hdb]
      unfold assignLink
      rw [List.map_map]
      apply List.map_congr_left
      intro l _
      dsimp only [Function.comp_apply]
      split
      · exact hf l
      · rfl

private theorem updateLinkImpl_records {id : String} {u : LinkUpdate}
    (h : updateLinkImpl env store id u = .ok store') : RecordsLinks store.sourced store'.sourced := by
  unfold updateLinkImpl at h
  split at h
  · cases h
  · obtain ⟨_, h⟩ := seq_eq_ok.mp h
    obtain ⟨_, h⟩ := seq_eq_ok.mp h
    obtain ⟨_, h⟩ := seq_eq_ok.mp h
    obtain ⟨_, h⟩ := seq_eq_ok.mp h
    exact commitWith_assign (fun _ ↦ rfl) rfl h

private theorem setLinkOverrideImpl_records {id : String} {value : Option String}
    (h : setLinkOverrideImpl env store id value = .ok store') :
    RecordsLinks store.sourced store'.sourced := by
  unfold setLinkOverrideImpl at h
  split at h
  · cases h
  · obtain ⟨_, h⟩ := seq_eq_ok.mp h
    exact commitWith_assign (fun _ ↦ rfl) rfl h

private theorem map_linkRecord_filter (links : List Link) (ids : List String) :
    (links.filter (fun l ↦ l.id ∉ ids)).map linkRecord =
      (links.map linkRecord).filter (fun r ↦ r.id ∉ ids) := by
  rw [List.filter_map]
  rfl

private theorem deleteLinkImpl_records {id : String}
    (h : deleteLinkImpl env store id = .ok store') :
    RecordsLinks store.sourced store'.sourced := by
  unfold deleteLinkImpl at h
  split at h
  · cases h
  · unfold commitWith at h
    split at h
    · cases h
    · next rows happend =>
      cases h
      obtain ⟨hdb, now, hlog⟩ := appendDomainEvent_sourced .linkDeleted rfl happend
      rw [linkEventOf_deleted rfl] at hlog
      refine ⟨[.deleted id], hlog, ?_⟩
      change (removeLink id rows.db).links.map linkRecord = _
      rw [hdb]
      have h := map_linkRecord_filter store.db.links [id]
      simp only [List.mem_singleton] at h
      exact h

/-! ### Deletion of a device -/

section DeleteDevice

variable {now : Nat → String} {deviceId : String} {base : Delete.State}

/-- The loop of a deletion has recorded exactly the links that are gone. -/
structure Gone (base : Delete.State) (q : Delete.State × List String) : Prop where
  log : (deletionSourced q.1).log = (deletionSourced base).log ++ q.2.map .deleted
  links : q.1.links = base.links.filter (fun l ↦ l.id ∉ q.2)

private theorem log_appendDomainEvent (s : Delete.State) (e : DomainEvent) :
    (deletionSourced (s.appendDomainEvent now e)).log = (deletionSourced s).log ++
      (linkEventOf "WRITE_PATH" e.eventType
        (withDefaults e.payload e.entityId (now s.events.nextSequence))).toList := by
  unfold deletionSourced Delete.State.appendDomainEvent EventTable.appendDomainEvent EventTable.append
  rw [List.filterMap_append]
  congr 1

/-- Recording links with new ids appends one event for each. -/
theorem foldl_recordDeleted_gone (now : Nat → String) (deviceId : String) (links : List Link)
    (q : Delete.State × List String) (hnodup : (links.map Link.id).Nodup)
    (hnew : ∀ l ∈ links, l.id ∉ q.2) :
    (links.foldl (Delete.recordDeleted now deviceId) q).2 = q.2 ++ links.map Link.id ∧
      (links.foldl (Delete.recordDeleted now deviceId) q).1.links = q.1.links ∧
      (deletionSourced (links.foldl (Delete.recordDeleted now deviceId) q).1).log =
        (deletionSourced q.1).log ++ (links.map Link.id).map .deleted := by
  induction links generalizing q with
  | nil => simp
  | cons link links ih =>
    rw [List.map_cons, List.nodup_cons] at hnodup
    have hstep : Delete.recordDeleted now deviceId q link =
        (q.1.appendDomainEvent now
          { eventType := .linkDeleted, entityId := link.id,
            payload := [("deleted_by_device_id", deviceId)] }, q.2 ++ [link.id]) :=
      if_neg (hnew link List.mem_cons_self)
    rw [List.foldl_cons, hstep]
    obtain ⟨hids, hlinks, hlog⟩ := ih (q.1.appendDomainEvent now
      { eventType := .linkDeleted, entityId := link.id,
        payload := [("deleted_by_device_id", deviceId)] }, q.2 ++ [link.id]) hnodup.2 (by
      intro l hl hmem
      rcases List.mem_append.mp hmem with hold | hlink
      · exact hnew l (List.mem_cons_of_mem _ hl) hold
      · exact hnodup.1 (List.mem_singleton.mp hlink ▸ List.mem_map_of_mem hl))
    refine ⟨?_, hlinks, ?_⟩
    · rw [hids, List.append_assoc, List.singleton_append, List.map_cons]
    · rw [hlog, log_appendDomainEvent, linkEventOf_deleted rfl]
      simp

/-- The links of one end. -/
theorem Gone.deleteLinks (hnodup : (base.links.map Link.id).Nodup) {q : Delete.State × List String}
    (h : Gone base q) (linkEnd : Link → String) (ifid : String) :
    Gone base (Delete.deleteLinks now deviceId linkEnd ifid q) := by
  have hsub : (q.1.links.filter (linkEnd · = ifid)).Sublist base.links := by
    rw [h.links]
    exact List.filter_sublist.trans List.filter_sublist
  obtain ⟨hids, hlinks, hlog⟩ := foldl_recordDeleted_gone now deviceId
    (q.1.links.filter (linkEnd · = ifid)) q ((hsub.map _).nodup hnodup) (by
      intro l hl
      have hmem := (List.mem_filter.mp hl).1
      rw [h.links] at hmem
      simpa using (List.mem_filter.mp hmem).2)
  constructor
  · change (deletionSourced (List.foldl _ q _).1).log = _ ++ List.map _ (List.foldl _ q _).2
    rw [hlog, hids, h.log, List.map_append, List.append_assoc]
  · change (List.foldl _ q _).1.links.filter _ = base.links.filter (fun l ↦ l.id ∉ (List.foldl _ q _).2)
    rw [hids, hlinks, h.links, List.filter_filter]
    apply List.filter_congr
    intro l hl
    -- a link that is left shares its id with no link of this end
    have hend : l.id ∈ (q.1.links.filter (linkEnd · = ifid)).map Link.id ↔
        l.id ∉ q.2 ∧ linkEnd l = ifid := by
      constructor
      · intro hmem
        obtain ⟨m, hm, hid⟩ := List.mem_map.mp hmem
        obtain rfl := List.inj_on_of_nodup_map hnodup (hsub.subset hm) hl hid
        obtain ⟨hin, hlinkEnd⟩ := List.mem_filter.mp hm
        rw [h.links] at hin
        exact ⟨by simpa using (List.mem_filter.mp hin).2, by simpa using hlinkEnd⟩
      · rintro ⟨hnew, hlinkEnd⟩
        refine List.mem_map.mpr ⟨l, List.mem_filter.mpr ⟨?_, by simpa using hlinkEnd⟩, rfl⟩
        rw [h.links]
        exact List.mem_filter.mpr ⟨hl, by simpa using hnew⟩
    rw [← h.links]
    simp only [List.mem_append, hend]
    by_cases hnew : l.id ∈ q.2 <;> simp [hnew]

private theorem Gone.cleanInterface (hnodup : (base.links.map Link.id).Nodup)
    {q : Delete.State × List String} (h : Gone base q) (ifid : String) :
    Gone base (Delete.cleanInterface now deviceId q ifid) := by
  have ha : Gone base (Delete.deleteLinks now deviceId Link.aInterfaceId ifid q) :=
    h.deleteLinks hnodup Link.aInterfaceId ifid
  have hb : Gone base (Delete.deleteLinks now deviceId Link.bInterfaceId ifid _) :=
    ha.deleteLinks hnodup Link.bInterfaceId ifid
  exact ⟨hb.log, hb.links⟩

private theorem Gone.foldl (now : Nat → String) (deviceId : String)
    (hnodup : (base.links.map Link.id).Nodup) (ids : List String) {q : Delete.State × List String}
    (h : Gone base q) :
    Gone base (ids.foldl (Delete.cleanInterface now deviceId) q) := by
  induction ids generalizing q with
  | nil => exact h
  | cons ifid ids ih => exact ih (h.cleanInterface hnodup ifid)

/-- The links of the deleted interfaces are recorded. -/
theorem deleteInterfaces_records {foreignKeys : Bool} {ids : List String} {s s' : Delete.State}
    (hnodup : (s.links.map Link.id).Nodup)
    (h : Delete.deleteInterfaces now foreignKeys deviceId ids s = .ok s') :
    RecordsLinks (deletionSourced s) (deletionSourced s') := by
  unfold Delete.deleteInterfaces at h
  split at h
  · cases h
    exact .refl _
  · obtain ⟨rfl, _⟩ := Devices.Delete.flush_ok h
    have hstart : Gone s ({ s with provisioningRecords :=
        s.provisioningRecords.filter (·.deviceId ≠ deviceId) }, []) := by
      constructor
      · exact (List.append_nil _).symm
      · simp
    have hgone := hstart.foldl now deviceId hnodup ids
    refine ⟨_, hgone.log, ?_⟩
    rw [RowEvent.replay_deleted]
    change (Delete.State.links _).map linkRecord = _
    rw [hgone.links, map_linkRecord_filter]
    rfl

private theorem deleteDeviceImpl_records {foreignKeys : Bool} {s s' : Delete.State}
    (hnodup : (s.links.map Link.id).Nodup)
    (h : Delete.deleteDeviceImpl now foreignKeys s deviceId = .ok s') :
    RecordsLinks (deletionSourced s) (deletionSourced s') := by
  unfold Delete.deleteDeviceImpl at h
  split at h
  · cases h
  · obtain ⟨s₁, h₁, h⟩ := bind_eq_ok.mp h
    obtain ⟨s₂, h₂, h⟩ := bind_eq_ok.mp h
    obtain ⟨s₃, h₃, h⟩ := bind_eq_ok.mp h
    obtain ⟨rfl, _⟩ := Devices.Delete.flush_ok h₂
    obtain ⟨rfl, _⟩ := Devices.Delete.flush_ok h₃
    cases h
    have hfirst : ∀ e : DomainEvent, e.eventType = .deviceDeleted →
        RecordsLinks (deletionSourced s) (deletionSourced (s.appendDomainEvent now e)) := by
      intro e he
      refine ⟨[], ?_, rfl⟩
      rw [log_appendDomainEvent, he]
      rfl
    have hrest := deleteInterfaces_records (s := s.appendDomainEvent now _) hnodup h₁
    exact (hfirst _ rfl).trans hrest

end DeleteDevice

/-! ### Runs -/

/-- One request that succeeds, on any state of the other tables. The primary key of the table is the
id of the link. -/
inductive LinkRequest (env : Runtime) : Sourced LinkRecord String → Sourced LinkRecord String → Prop where
  | create {store store' : Store} (p : LinkCreate) (h : createLinkImpl env store p = .ok store') :
      LinkRequest env store.sourced store'.sourced
  | createBatch (store : Store) (ps : List LinkCreate) :
      LinkRequest env store.sourced (batchCreateLinks env store ps).2.sourced
  | update {store store' : Store} (id : String) (u : LinkUpdate)
      (h : updateLinkImpl env store id u = .ok store') : LinkRequest env store.sourced store'.sourced
  | override {store store' : Store} (id : String) (value : Option String)
      (h : setLinkOverrideImpl env store id value = .ok store') :
      LinkRequest env store.sourced store'.sourced
  | delete {store store' : Store} (id : String) (h : deleteLinkImpl env store id = .ok store') :
      LinkRequest env store.sourced store'.sourced
  | deleteDevice {s s' : Delete.State} (foreignKeys : Bool) (deviceId : String)
      (hkey : (s.links.map Link.id).Nodup)
      (h : Delete.deleteDeviceImpl env.now foreignKeys s deviceId = .ok s') :
      LinkRequest env (deletionSourced s) (deletionSourced s')

/-- Every request records what it does to the links. -/
theorem LinkRequest.records {t t' : Sourced LinkRecord String} (h : LinkRequest env t t') :
    RecordsLinks t t' := by
  cases h with
  | create p h => exact createLinkImpl_records h
  | createBatch store ps => exact batchCreateLinks_records ps
  | update id u h => exact updateLinkImpl_records h
  | override id value h => exact setLinkOverrideImpl_records h
  | delete id h => exact deleteLinkImpl_records h
  | deleteDevice foreignKeys deviceId hkey h => exact deleteDeviceImpl_records hkey h

/-- Requests in any order only append to the log, and leave a table that is the replay of the log if
it was. -/
theorem link_table_replays_log {t t' : Sourced LinkRecord String} (ht : t.Replays LinkRecord.id)
    (h : Relation.ReflTransGen (LinkRequest env) t t') :
    t.log <+: t'.log ∧ t'.Replays LinkRecord.id := by
  have hrec := Sourced.Records.run (fun _ _ hstep ↦ LinkRequest.records hstep) h
  exact ⟨hrec.log_prefix, hrec.replays ht⟩

/-- A link of the access network that is created and deleted again. -/
theorem link_table_replays_log_network : ∃ store : Store, store.events.length = 2 ∧
    accessNetwork.sourced.log <+: store.sourced.log ∧ store.sourced.Replays LinkRecord.id := by
  have hrun : ((createLinkImpl constantRuntime accessNetwork
      (linkRequest "olt-if0" "odf-if0")).toOption.any (fun store ↦
        (deleteLinkImpl constantRuntime store (store.db.links.map Link.id).head!).toOption.any
          (fun store' ↦ store'.events.length = 2))) = true := by
    decide +kernel
  obtain ⟨store, hstore, hrun⟩ := (Option.any_eq_true _ _).mp hrun
  obtain ⟨store', hstore', hlength⟩ := (Option.any_eq_true _ _).mp hrun
  have hcreate := LinkRequest.create _ (toOption_eq_some.mp hstore)
  have hdelete := LinkRequest.delete _ (toOption_eq_some.mp hstore')
  exact ⟨store', of_decide_eq_true hlength,
    link_table_replays_log rfl (.tail (.single hcreate) hdelete)⟩

end Unoc.Links
