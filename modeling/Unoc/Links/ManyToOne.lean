import Unoc.Base.Emitting
import Unoc.Links.PortChoice

/-!
# Links from many devices to one

`createManyToOne` of the client: one batch request for the links from several devices to one target;
`unoc-frontend-v2/src/stores/links/createManyToOne.ts`. The loop over the sources passes a growing list
of links to the selection of ports, so that successive sources get different ports of the target. With
enough free ports, and interface ids that no two devices share, they do exactly if no OLT is linked to
an ODF whose `if0` is already taken.
-/

namespace Unoc.Links.ManyToOne

open Unoc.Base PortSelection
open Realtime (ClientLink orText)

/-! ### Payloads and results -/

/-- `BatchLinkPayload`; `createManyToOne.ts:16–22`. -/
structure BatchLinkPayload where
  id : String
  aInterfaceId : String
  bInterfaceId : String
  kind : String
  status : String
  deriving DecidableEq, Repr

/-- `BatchCreateResult`; `createManyToOne.ts:10–14`. -/
structure BatchCreateResult where
  ok : Nat := 0
  fail : Nat := 0
  errors : List String := []
  deriving DecidableEq, Repr

/-- An entry of `failed`; `createManyToOne.ts:30`. -/
structure FailedLink where
  linkId : Option String
  error : Option String
  deriving DecidableEq, Repr

/-- `BatchResponseBody`; a text that is missing in a created link is empty;
`createManyToOne.ts:24–31`. -/
structure BatchResponseBody where
  created : List ClientLink
  failed : List FailedLink

/-- What `postBatch` ends with: an exception, an error status with the `detail` of its body, or a body,
which may not be readable. -/
inductive Response where
  | unreachable (message : String)
  | refused (status : Nat) (detail : Option String)
  | answered (body : Option BatchResponseBody)

/-- A response, and the links of the store when it arrives. -/
structure Answer where
  response : Response
  links : List ClientLink

/-- The UTF-16 code units of a text, by which the client compares. -/
def codeUnits (s : String) : List Nat :=
  s.toList.flatMap (fun c ↦
    if c.toNat < 0x10000 then [c.toNat]
    else [0xD800 + (c.toNat - 0x10000) / 0x400, 0xDC00 + (c.toNat - 0x10000) % 0x400])

/-- `canonicalLinkId`; `deriveDeviceId` is that of the backend; `createManyToOne.ts:33–40`. -/
def canonicalLinkId (aIface bIface : String) : String :=
  let da := deriveDev aIface
  let db := deriveDev bIface
  if codeUnits da ≤ codeUnits db then joined da db else joined db da

/-- The ends of a created link; `createManyToOne.ts:54–57`. -/
def withDevices (l : ClientLink) : ClientLink :=
  if l.aDeviceId = "" ∨ l.bDeviceId = "" then
    { l with aDeviceId := deriveDev l.aInterfaceId, bDeviceId := deriveDev l.bInterfaceId }
  else l

/-- `pushCreated`: the links of the store, and how many are new; `createManyToOne.ts:50–62`. -/
def pushCreated (links created : List ClientLink) : List ClientLink × Nat :=
  created.foldl
    (fun st l ↦
      if l.id = "" ∨ st.1.any (·.id = l.id) then st else (st.1 ++ [withDevices l], st.2 + 1))
    (links, 0)

/-- `hasLinkBetween`; `linksStore.ts:22–29`. -/
def hasLinkBetween (links : List ClientLink) (a b : String) : Bool :=
  a = b || links.any (fun l ↦
    l.aDeviceId = a && l.bDeviceId = b || l.aDeviceId = b && l.bDeviceId = a)

/-! ### The loop -/

/-- What the loop changes. -/
structure Progress where
  virtualLinks : List ClientLink
  payloads : List BatchLinkPayload := []
  result : BatchCreateResult := {}

/-- What the loop reads: the flag of phase 1, the stores, and the target. -/
structure Setting where
  isPhase1Enabled : Bool
  devStore : DevicesStore
  links : List ClientLink
  targetDeviceId : String

/-- `result.fail++` and `result.errors.push`. -/
def Progress.reject (st : Progress) (message : String) : Progress :=
  { st with result :=
    { st.result with fail := st.result.fail + 1, errors := st.result.errors ++ [message] } }

/-- The payload and the virtual link of a pair of ports; `createManyToOne.ts:128–144`. -/
def Progress.submit (st : Progress) (sid targetDeviceId : String) (e : Ends) : Progress :=
  { st with
    payloads := st.payloads ++
      [{ id := canonicalLinkId e.aIface e.bIface
         aInterfaceId := e.aIface
         bInterfaceId := e.bIface
         kind := "FIBER"
         status := "UP" }]
    virtualLinks := st.virtualLinks ++
      [{ id := canonicalLinkId e.aIface e.bIface
         aInterfaceId := e.aIface
         bInterfaceId := e.bIface
         aDeviceId := sid
         bDeviceId := targetDeviceId
         status := "UP"
         effectiveStatus := ""
         kind := "FIBER"
         adminOverrideStatus := none
         lengthKm := none
         physicalMediumId := none }] }

namespace Setting

variable (cx : Setting)

/-- Why a source is rejected; `createManyToOne.ts:107–121`. -/
def rejection (virtualLinks : List ClientLink) (sid : String) : Option String :=
  let srcType := cx.devStore.typeOf sid
  let tgtType := cx.devStore.typeOf cx.targetDeviceId
  if isContainerType srcType then some (sid ++ ": Container-Endpunkt nicht erlaubt")
  else if srcType = some .odf ∧ tgtType = some .odf then
    some (sid ++ ": ODF↔ODF-Kaskaden nicht erlaubt")
  else if !phase1GuardsOk cx.isPhase1Enabled virtualLinks cx.devStore sid cx.targetDeviceId
      srcType tgtType then
    some (sid ++ ": Verbindungsregel verletzt")
  else none

/-- The pair is linked already; the store does not depend on the order of `ordered`;
`createManyToOne.ts:122–123`. -/
def alreadyLinked (sid : String) : Bool :=
  let ordered :=
    if codeUnits sid ≤ codeUnits cx.targetDeviceId then (sid, cx.targetDeviceId)
    else (cx.targetDeviceId, sid)
  hasLinkBetween cx.links ordered.1 ordered.2

/-- One iteration; `createManyToOne.ts:103–144`. -/
def step (st : Progress) (sid : String) : Progress :=
  match cx.rejection st.virtualLinks sid with
  | some message => st.reject message
  | none =>
    if cx.alreadyLinked sid then st
    else
      st.submit sid cx.targetDeviceId
        (computeSelections cx.devStore st.virtualLinks sid cx.targetDeviceId).toEnds

/-- The state before the loop; `createManyToOne.ts:99–101`. -/
def start : Progress where
  virtualLinks := cx.links

/-- The loop; `createManyToOne.ts:103–145`. -/
def loop (sources : List String) : Progress := sources.foldl cx.step cx.start

end Setting

/-! ### The request -/

/-- The requests that were sent, the links of the store, and what the promise resolves to; it is
rejected if a body cannot be read. -/
structure Outcome where
  posted : List (List BatchLinkPayload)
  links : List ClientLink
  result : Option BatchCreateResult

/-- The end of a batch with an answer; `createManyToOne.ts:192–196`. -/
def finish (posted : List (List BatchLinkPayload)) (result : BatchCreateResult)
    (links created : List ClientLink) (failed : List FailedLink) : Outcome :=
  let pushed := pushCreated links created
  { posted := posted
    links := pushed.1
    result := some
      { ok := result.ok + pushed.2
        fail := result.fail + failed.length
        errors := result.errors ++ failed.map (fun f ↦
          orText (f.linkId.getD "") "?" ++ ": " ++ orText (f.error.getD "") "unbekannt") } }

/-- The payloads of a retry: those that did not fail; `createManyToOne.ts:178–180`. -/
def retryPayloads (payloads : List BatchLinkPayload) (failed : List FailedLink) :
    List BatchLinkPayload :=
  payloads.filter (fun p ↦ some p.id ∉ failed.map (·.linkId))

/-- The request and its retry; `again` answers the second one; `createManyToOne.ts:147–196`. -/
def sendBatch (postBatch again : List BatchLinkPayload → Answer) (cx : Setting) (st : Progress) :
    Outcome :=
  let payloads := st.payloads
  let failAll := fun (links : List ClientLink) (message : String) ↦
    { posted := [payloads]
      links := links
      result := some
        { st.result with
          fail := st.result.fail + payloads.length
          errors := st.result.errors ++ [message] } }
  if payloads = [] then ⟨[], cx.links, some st.result⟩
  else
    let resp := postBatch payloads
    match resp.response with
    | .unreachable message => failAll resp.links ("Batch-Request fehlgeschlagen: " ++ message)
    | .refused status detail =>
      failAll resp.links
        ("Batch fehlgeschlagen: " ++ orText (detail.getD "") ("HTTP " ++ toString status))
    | .answered none => ⟨[payloads], resp.links, none⟩
    | .answered (some body) =>
      let retry := retryPayloads payloads body.failed
      if body.created = [] ∧ body.failed ≠ [] ∧ body.failed.length < payloads.length ∧
          retry ≠ [] then
        let retryResp := again retry
        match retryResp.response with
        | .answered (some retryBody) =>
          finish [payloads, retry] st.result retryResp.links retryBody.created
            (body.failed ++ retryBody.failed)
        | _ => finish [payloads, retry] st.result retryResp.links body.created body.failed
      else finish [payloads] st.result resp.links body.created body.failed

/-- The arguments of `createManyToOne` and what it meets: the flag of phase 1, the two stores, what
loading the interfaces makes of the devices store, and the answers to the request and its retry. The
links are those of the store after the interfaces are loaded. -/
structure Call where
  isPhase1Enabled : Bool
  devStore : DevicesStore
  fetchAllWithInterfaces : DevicesStore → DevicesStore
  links : List ClientLink
  postBatch : List BatchLinkPayload → Answer
  again : List BatchLinkPayload → Answer
  sourceDeviceIds : List String
  targetDeviceId : String

namespace Call

variable (c : Call)

/-- `Array.from(new Set(sourceDeviceIds)).filter((id) => id !== targetDeviceId)`. -/
def sources : List String := c.sourceDeviceIds.eraseDups.filter (· ≠ c.targetDeviceId)

/-- The devices store of the loop: it is fetched again where interfaces are not loaded;
`createManyToOne.ts:78–89`. -/
def loadedStore : DevicesStore :=
  let loaded := fun id ↦ ((c.devStore.byId id).bind (·.interfaces)).isSome
  if !loaded c.targetDeviceId || c.sources.any (fun id ↦ !loaded id) then
    c.fetchAllWithInterfaces c.devStore
  else c.devStore

/-- What the loop reads. -/
def setting : Setting where
  isPhase1Enabled := c.isPhase1Enabled
  devStore := c.loadedStore
  links := c.links
  targetDeviceId := c.targetDeviceId

/-- `createManyToOne`; `createManyToOne.ts:69–197`. -/
def createManyToOne : Outcome :=
  if c.sources = [] then ⟨[], c.links, some {}⟩
  else if isContainerType (c.setting.devStore.typeOf c.targetDeviceId) then
    { posted := []
      links := c.links
      result := some
        { fail := c.sources.length
          errors := ["Container (POP/CORE_SITE) kann kein Link-Ziel sein"] } }
  else sendBatch c.postBatch c.again c.setting (c.setting.loop c.sources)

end Call

/-! ### Runs of the loop -/

namespace Setting

variable (cx : Setting)

/-- A source that gets a payload. -/
def Accepts (st : Progress) (sid : String) : Prop :=
  cx.rejection st.virtualLinks sid = none ∧ cx.alreadyLinked sid = false

/-- The port of the target for a source. -/
def port (st : Progress) (sid : String) : String :=
  (computeSelections cx.devStore st.virtualLinks sid cx.targetDeviceId).bIface

/-- An interface is used by a link of the store or by a payload at the target. -/
def Taken (st : Progress) (x : String) : Prop :=
  Uses cx.links x ∨ x ∈ st.payloads.map (·.bInterfaceId)

/-- An iteration as one that emits the port of an accepted source. -/
def emits (st : Progress) (sid : String) : Option String :=
  match cx.rejection st.virtualLinks sid with
  | some _ => none
  | none => if cx.alreadyLinked sid then none else some (cx.port st sid)

private theorem step_cases (st : Progress) (sid : String) :
    (cx.Accepts st sid ∧ cx.emits st sid = some (cx.port st sid) ∧
        cx.step st sid = st.submit sid cx.targetDeviceId
          (computeSelections cx.devStore st.virtualLinks sid cx.targetDeviceId).toEnds) ∨
      (¬ cx.Accepts st sid ∧ cx.emits st sid = none ∧
        (cx.step st sid).virtualLinks = st.virtualLinks ∧
        (cx.step st sid).payloads = st.payloads) := by
  unfold Accepts emits step
  cases hrejection : cx.rejection st.virtualLinks sid with
  | some message => exact Or.inr ⟨fun h ↦ Option.some_ne_none _ h.1, rfl, rfl, rfl⟩
  | none =>
    cases hlinked : cx.alreadyLinked sid with
    | true => exact Or.inr ⟨fun h ↦ Bool.noConfusion h.2, rfl, rfl, rfl⟩
    | false => exact Or.inl ⟨⟨rfl, rfl⟩, rfl, rfl⟩

private theorem emits_eq_some {st : Progress} {sid x : String} :
    cx.emits st sid = some x ↔ cx.Accepts st sid ∧ x = cx.port st sid := by
  rcases cx.step_cases st sid with ⟨haccepts, hemits, _⟩ | ⟨haccepts, hemits, _⟩
  · rw [hemits, Option.some_inj]
    exact ⟨fun h ↦ ⟨haccepts, h.symm⟩, fun h ↦ h.2.symm⟩
  · rw [hemits]
    exact ⟨fun h ↦ absurd h.symm (Option.some_ne_none x), fun h ↦ absurd h.1 haccepts⟩

/-- The loop emits the ports of the target. -/
def emitting : Emitting Progress String String where
  step := cx.step
  out := fun st ↦ st.payloads.map (·.bInterfaceId)
  emits := cx.emits
  out_step := by
    intro st sid
    rcases cx.step_cases st sid with ⟨_, hemits, hstep⟩ | ⟨_, hemits, _, hpayloads⟩
    · rw [hemits, hstep]
      simp [Progress.submit, port]
    · rw [hemits, hpayloads]
      simp

/-- The virtual links are those of the store and of the payloads. -/
def Tracks (st : Progress) : Prop :=
  ∀ x, Uses st.virtualLinks x ↔
    Uses cx.links x ∨ ∃ p ∈ st.payloads, p.aInterfaceId = x ∨ p.bInterfaceId = x

private theorem tracks_start : cx.Tracks cx.start := by
  intro x
  simp [start]

private theorem Tracks.step {cx : Setting} {st : Progress} (h : cx.Tracks st) (sid : String) :
    cx.Tracks (cx.step st sid) := by
  intro x
  rcases cx.step_cases st sid with ⟨_, _, hstep⟩ | ⟨_, _, hlinks, hpayloads⟩
  · have hx := h x
    rw [hstep]
    simp only [Progress.submit, Uses, List.mem_append, List.mem_singleton, or_and_right, exists_or,
      exists_eq_left] at hx ⊢
    rw [hx, or_assoc]
  · rw [hlinks, hpayloads]
    exact h x

private theorem tracks_loop (sources : List String) : cx.Tracks (cx.loop sources) :=
  List.foldlRecOn sources cx.step cx.tracks_start (fun _ h sid _ ↦ h.step sid)

/-- Where the port of the target is new: an ODF that is linked to an OLT has its `if0` untaken; any
other target offers a port, or has its `if0` untaken. -/
def FindsPort (st : Progress) (sid : String) : Prop :=
  if isOltOdf (cx.devStore.typeOf sid) (cx.devStore.typeOf cx.targetDeviceId) then
    ¬ cx.Taken st (if0Id cx.targetDeviceId)
  else
    OffersPort cx.devStore st.virtualLinks sid cx.targetDeviceId ∨
      ¬ cx.Taken st (if0Id cx.targetDeviceId)

variable {cx} {st : Progress} {sid : String}

private theorem Tracks.uses_of_taken (h : cx.Tracks st) {x : String} (hx : cx.Taken st x) :
    Uses st.virtualLinks x := by
  refine (h x).mpr (hx.imp id ?_)
  intro hmem
  obtain ⟨p, hp, rfl⟩ := List.mem_map.mp hmem
  exact ⟨p, hp, Or.inr rfl⟩

private theorem Tracks.not_taken_port_iff (h : cx.Tracks st) (hne : sid ≠ cx.targetDeviceId) :
    ¬ cx.Taken st (cx.port st sid) ↔ cx.FindsPort st sid := by
  unfold FindsPort port
  split
  · next hlock => rw [computeSelections_bIface_of_isOltOdf hne hlock]
  · next hlock =>
    rw [Bool.not_eq_true] at hlock
    by_cases hoffers : OffersPort cx.devStore st.virtualLinks sid cx.targetDeviceId
    · refine iff_of_true ?_ (Or.inl hoffers)
      intro htaken
      have hunused := computeSelections_bIface_unused hne hlock hoffers
      have hempty := (@own_computeSelections_bIface cx.devStore st.virtualLinks _ _ hne).ne_empty
      exact hunused (mem_buildUsedInterfaceSet.mpr ⟨hempty, h.uses_of_taken htaken⟩)
    · rw [computeSelections_bIface_eq_if0 hne hlock hoffers]
      exact (or_iff_right hoffers).symm

variable (cx)

/-- The ports of the target are pairwise distinct and unused. -/
def PortsApart (ps : List BatchLinkPayload) : Prop :=
  (ps.map (·.bInterfaceId)).Nodup ∧ ∀ p ∈ ps, ¬ Uses cx.links p.bInterfaceId

/-- Every accepted source finds a port when its turn comes. -/
def FindPorts (sources : List String) : Prop :=
  ∀ before sid, before ++ [sid] <+: sources → cx.Accepts (cx.loop before) sid →
    cx.FindsPort (cx.loop before) sid

private theorem portsApart_loop_iff {sources : List String}
    (hne : ∀ sid ∈ sources, sid ≠ cx.targetDeviceId) :
    cx.PortsApart (cx.loop sources).payloads ↔ cx.FindPorts sources := by
  have hfresh := cx.emitting.fresh_iff cx.start (Uses cx.links) rfl sources
  have hports : (∀ b ∈ (cx.loop sources).payloads.map (·.bInterfaceId), ¬ Uses cx.links b) ↔
      ∀ p ∈ (cx.loop sources).payloads, ¬ Uses cx.links p.bInterfaceId := List.forall_mem_map
  rw [PortsApart, ← hports]
  refine hfresh.trans (forall_congr' fun before ↦ forall_congr' fun sid ↦ forall_congr' fun hpre ↦ ?_)
  have hsid : sid ≠ cx.targetDeviceId := hne sid (hpre.subset (by simp))
  have hport := (cx.tracks_loop before).not_taken_port_iff hsid
  constructor
  · intro h haccepts
    exact hport.mp (h _ ((cx.emits_eq_some).mpr ⟨haccepts, rfl⟩))
  · intro h b hb
    obtain ⟨haccepts, rfl⟩ := (cx.emits_eq_some).mp hb
    exact hport.mpr (h haccepts)

variable {cx}

private theorem PortsApart.sublist {ps qs : List BatchLinkPayload} (h : cx.PortsApart ps)
    (hsub : List.Sublist qs ps) : cx.PortsApart qs :=
  ⟨h.1.sublist (hsub.map _), fun p hp ↦ h.2 p (hsub.subset hp)⟩

end Setting

/-! ### What is submitted -/

section

variable {postBatch again : List BatchLinkPayload → Answer} {cx : Setting} {st : Progress}

/-- The payloads are submitted, and some of them once more in a retry. -/
theorem posted_cases :
    (st.payloads = [] ∧ (sendBatch postBatch again cx st).posted = []) ∨
      ∃ retries, (sendBatch postBatch again cx st).posted = st.payloads :: retries ∧
        ∀ ps ∈ retries, List.Sublist ps st.payloads := by
  unfold sendBatch
  dsimp only
  split
  · next hnil => exact Or.inl ⟨hnil, rfl⟩
  · right
    split
    · exact ⟨[], rfl, by simp⟩
    · exact ⟨[], rfl, by simp⟩
    · exact ⟨[], rfl, by simp⟩
    · next body _ =>
      split
      · refine ⟨[retryPayloads st.payloads body.failed], ?_, ?_⟩
        · split <;> rfl
        · intro ps hps
          rw [List.mem_singleton.mp hps]
          exact List.filter_sublist
      · exact ⟨[], rfl, by simp⟩

private theorem portsApart_posted_iff :
    (∀ ps ∈ (sendBatch postBatch again cx st).posted, cx.PortsApart ps) ↔
      cx.PortsApart st.payloads := by
  rcases @posted_cases postBatch again cx st with ⟨hnil, hposted⟩ | ⟨retries, hposted, hretries⟩
  · rw [hposted, hnil]
    exact iff_of_true (by simp) ⟨List.nodup_nil, by simp⟩
  · rw [hposted, List.forall_mem_cons]
    exact and_iff_left_of_imp (fun h ps hps ↦ h.sublist (hretries ps hps))

end

namespace Setting

variable (cx : Setting)

/-- The sources that the loop goes through: none, if the target is a container. -/
def turns (sources : List String) : List String :=
  if isContainerType (cx.devStore.typeOf cx.targetDeviceId) then [] else sources

/-- The target has at least as many interfaces that are unused, up and not for management as there are
accepted sources, each of which has one payload. -/
def EnoughPorts (sources : List String) : Prop :=
  (cx.loop (cx.turns sources)).payloads.length ≤
    (candidates cx.devStore cx.targetDeviceId (buildUsedInterfaceSet cx.links)).length

end Setting

namespace Call

variable (c : Call)

/-- No request is sent without sources, or to a container; otherwise the batch of the loop is. -/
theorem posted_createManyToOne : c.createManyToOne.posted =
    (sendBatch c.postBatch c.again c.setting
      (c.setting.loop (c.setting.turns c.sources))).posted := by
  unfold createManyToOne
  split
  · next hnil =>
    have hturns : c.setting.turns c.sources = [] := by
      rw [hnil, Setting.turns, ite_self]
    rw [hturns]
    rfl
  · split
    · next hcontainer =>
      have hturns : c.setting.turns c.sources = [] := if_pos hcontainer
      rw [hturns]
      rfl
    · next hcontainer =>
      have hturns : c.setting.turns c.sources = c.sources := if_neg hcontainer
      rw [hturns]

/-- With enough ports, the submitted payloads have distinct and unused ports of the target exactly if
every accepted source finds a port when its turn comes. -/
theorem createManyToOne_portsApart_iff :
    (c.setting.EnoughPorts c.sources →
        ∀ ps ∈ c.createManyToOne.posted, c.setting.PortsApart ps) ↔
      (c.setting.EnoughPorts c.sources → c.setting.FindPorts (c.setting.turns c.sources)) := by
  refine imp_congr_right fun _ ↦ ?_
  have hne : ∀ sid ∈ c.setting.turns c.sources, sid ≠ c.setting.targetDeviceId := by
    intro sid hsid
    unfold Setting.turns at hsid
    split at hsid
    · cases hsid
    · exact of_decide_eq_true (List.mem_filter.mp hsid).2
  rw [← c.setting.portsApart_loop_iff hne, posted_createManyToOne]
  exact portsApart_posted_iff

end Call

/-! ### Two OLTs -/

/-- Two OLTs with one PON port each, and an ODF with two free ports. -/
def twoOlts : DevicesStore :=
  [{ id := "olt1"
     name := "OLT 1"
     type := some .olt
     interfaces := some [⟨"olt1-pon0", "pon0", none, some .pon, some .up, by decide⟩] },
   { id := "olt2"
     name := "OLT 2"
     type := some .olt
     interfaces := some [⟨"olt2-pon0", "pon0", none, some .pon, some .up, by decide⟩] },
   { id := "odf"
     name := "ODF"
     type := some .odf
     interfaces := some
       [⟨"odf-if0", "if0", none, none, some .up, by decide⟩,
        ⟨"odf-if1", "if1", none, none, some .up, by decide⟩] }]

/-- They are linked to the ODF; the backend creates nothing. -/
def linkOlts : Call where
  isPhase1Enabled := false
  devStore := twoOlts
  fetchAllWithInterfaces := id
  links := []
  postBatch := fun _ ↦ ⟨.answered (some ⟨[], []⟩), []⟩
  again := fun _ ↦ ⟨.answered (some ⟨[], []⟩), []⟩
  sourceDeviceIds := ["olt1", "olt2"]
  targetDeviceId := "odf"

/-- Both OLTs get `if0` of the ODF, although its other port is free. -/
theorem linkOlts_not_portsApart :
    linkOlts.setting.EnoughPorts linkOlts.sources ∧
      ¬ ∀ ps ∈ linkOlts.createManyToOne.posted, linkOlts.setting.PortsApart ps := by
  constructor
  · unfold Setting.EnoughPorts
    decide
  · rw [Call.posted_createManyToOne]
    intro h
    have hports : (linkOlts.setting.loop
        (linkOlts.setting.turns linkOlts.sources)).payloads.map (·.bInterfaceId) =
          ["odf-if0", "odf-if0"] := by
      decide
    have hnodup := (portsApart_posted_iff.mp h).1
    rw [hports] at hnodup
    exact absurd hnodup (by decide)

/-! ### Interfaces with one device -/

namespace Setting

variable (cx : Setting)

/-- The interfaces of the target have different ids, and none is one of a source. -/
structure Unshared (sources : List String) : Prop where
  nodup : ((cx.devStore.ifaces cx.targetDeviceId).map (·.id)).Nodup
  apart : ∀ sid ∈ sources, ∀ x, Own cx.devStore sid x →
    ∀ i ∈ cx.devStore.ifaces cx.targetDeviceId, i.id ≠ x

/-- The first ends of the payloads are ports of sources. -/
theorem own_aInterfaceId (sources : List String) : ∀ p ∈ (cx.loop sources).payloads,
    ∃ sid ∈ sources, Own cx.devStore sid p.aInterfaceId := by
  refine List.foldlRecOn (motive := fun st ↦ ∀ p ∈ st.payloads,
    ∃ sid ∈ sources, Own cx.devStore sid p.aInterfaceId) sources cx.step ?_ ?_
  · intro p hp
    cases hp
  · intro st ih sid hsid p hp
    rcases cx.step_cases st sid with ⟨_, _, hstep⟩ | ⟨_, _, _, hpayloads⟩
    · rw [hstep] at hp
      rcases List.mem_append.mp hp with hp | hp
      · exact ih p hp
      · rw [List.mem_singleton.mp hp]
        exact ⟨sid, hsid, own_computeSelections_aIface⟩
    · rw [hpayloads] at hp
      exact ih p hp

variable {cx} {sources : List String}

/-- A free port of the target is free at every turn, or was given to an earlier source. -/
theorem Unshared.port_of_not_candidate (h : cx.Unshared sources) {before : List String}
    (hpre : before <+: sources) {i : IfaceLite}
    (hi : i ∈ candidates cx.devStore cx.targetDeviceId (buildUsedInterfaceSet cx.links))
    (hused : i.id ∈ buildUsedInterfaceSet (cx.loop before).virtualLinks) :
    i.id ∈ (cx.loop before).payloads.map (·.bInterfaceId) := by
  obtain ⟨hne, huses⟩ := mem_buildUsedInterfaceSet.mp hused
  rcases (cx.tracks_loop before _).mp huses with hlinks | ⟨p, hp, ha | hb⟩
  · exact absurd (mem_buildUsedInterfaceSet.mpr ⟨hne, hlinks⟩) (unused_of_mem_candidates hi)
  · obtain ⟨sid, hsid, hown⟩ := cx.own_aInterfaceId before p hp
    exact absurd ha.symm (h.apart sid (hpre.subset hsid) _ hown i (mem_candidates.mp hi).1)
  · exact List.mem_map.mpr ⟨p, hp, hb⟩

/-- With enough ports, some port of the target is free at every turn of an accepted source. -/
theorem Unshared.offersPort (h : cx.Unshared sources)
    (henough : (cx.loop sources).payloads.length ≤
      (candidates cx.devStore cx.targetDeviceId (buildUsedInterfaceSet cx.links)).length)
    {before : List String} {sid : String} (hpre : before ++ [sid] <+: sources)
    (haccepts : cx.Accepts (cx.loop before) sid) :
    OffersPort cx.devStore (cx.loop before).virtualLinks sid cx.targetDeviceId := by
  left
  intro hnone
  have hbefore : before <+: sources := (List.prefix_append _ _).trans hpre
  -- no free port is left, so that the earlier sources have them all
  have hsub : (candidates cx.devStore cx.targetDeviceId (buildUsedInterfaceSet cx.links)).map (·.id) ⊆
      (cx.loop before).payloads.map (·.bInterfaceId) := by
    intro x hx
    obtain ⟨i, hi, rfl⟩ := List.mem_map.mp hx
    refine h.port_of_not_candidate hbefore hi ?_
    by_contra hunused
    have hmem := mem_candidates_of_unused hi hunused
    rw [hnone] at hmem
    cases hmem
  have hnodup : ((candidates cx.devStore cx.targetDeviceId
      (buildUsedInterfaceSet cx.links)).map (·.id)).Nodup :=
    h.nodup.sublist (List.filter_sublist.map _)
  have hle := (List.subperm_of_subset hnodup hsub).length_le
  have hlt : ((cx.loop before).payloads.map (·.bInterfaceId)).length <
      ((cx.loop sources).payloads.map (·.bInterfaceId)).length :=
    cx.emitting.length_out_lt cx.start hpre ((cx.emits_eq_some).mpr ⟨haccepts, rfl⟩)
  simp only [List.length_map] at hle hlt
  omega

/-- With enough ports and unshared interfaces, only OLTs whose ODF has its `if0` taken find no port. -/
theorem Unshared.findPorts_iff (h : cx.Unshared sources)
    (henough : (cx.loop sources).payloads.length ≤
      (candidates cx.devStore cx.targetDeviceId (buildUsedInterfaceSet cx.links)).length) :
    cx.FindPorts sources ↔
      ∀ before sid, before ++ [sid] <+: sources → cx.Accepts (cx.loop before) sid →
        isOltOdf (cx.devStore.typeOf sid) (cx.devStore.typeOf cx.targetDeviceId) = true →
          ¬ cx.Taken (cx.loop before) (if0Id cx.targetDeviceId) := by
  unfold FindPorts FindsPort
  refine forall_congr' fun before ↦ forall_congr' fun sid ↦ forall_congr' fun hpre ↦
    forall_congr' fun haccepts ↦ ?_
  split
  · next hlock => simp [hlock]
  · next hlock =>
    refine iff_of_true (Or.inl (h.offersPort henough hpre haccepts)) ?_
    intro holtOdf
    exact absurd holtOdf hlock

end Setting

end Unoc.Links.ManyToOne
