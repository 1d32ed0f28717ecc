import Unoc.Provisioning.L3Uplinks

/-!
# A second configuration

What the configuration of an uplink has looked for or written stays in the tables once it is committed,
so that a second call finds it for every uplink, in whatever order the links come. A commit that fails
leaves nothing, and a second call starts anew.
-/

namespace Unoc.Provisioning

open Unoc.Base
open Unoc.Model

variable {env : L3Env} {db db' : L3Tables} {type : DeviceType} {vrfId : Int} {myIfIds : List String}
  {u : Uplink}

/-! ### Uplinks -/

private theorem deviceOf_congr (hdevices : db'.devices = db.devices)
    (hplaces : db'.interfaces.map place = db.interfaces.map place) (id : String) :
    db'.deviceOf id = db.deviceOf id := by
  have hplace : ∀ db : L3Tables, (db.getInterface id).map (fun i ↦ i.deviceId) =
      ((db.interfaces.map place).find? (fun p ↦ p.1 = id)).map Prod.snd := by
    intro db
    rw [List.find?_map, Option.map_map]
    rfl
  unfold L3Tables.deviceOf L3Tables.getDevice
  rw [hplace, hplace, hplaces, hdevices]

/-- Which links are uplinks does not depend on what the loop writes. -/
theorem uplinkOf_congr (hdevices : db'.devices = db.devices)
    (hplaces : db'.interfaces.map place = db.interfaces.map place) (ln : Link) :
    db'.uplinkOf type myIfIds ln = db.uplinkOf type myIfIds ln := by
  apply Option.ext
  intro u
  rw [uplinkOf_eq_some, uplinkOf_eq_some, deviceOf_congr hdevices hplaces]

/-- The interfaces of a device only depend on where interfaces are. -/
theorem interfaceIdsOf_congr (hplaces : db'.interfaces.map place = db.interfaces.map place)
    (id : String) : db'.interfaceIdsOf id = db.interfaceIdsOf id := by
  have hplace : ∀ db : L3Tables, db.interfaceIdsOf id =
      ((db.interfaces.map place).filter (fun p ↦ p.2 = id)).map Prod.fst := by
    intro db
    rw [List.filter_map, List.map_map]
    rfl
  rw [hplace, hplace, hplaces]

/-! ### Settled uplinks -/

/-- All that the loop ensures for an uplink is there. -/
structure Settled (env : L3Env) (vrfId : Int) (myIfIds : List String) (db : L3Tables) (u : Uplink) :
    Prop where
  myUp : ¬ db.Down u.myIf
  peerUp : ¬ db.Down u.peerIf
  addresses : ∀ row ∈ u.addressRows env vrfId, ∃ a ∈ db.addresses, a.interfaceId = row.interfaceId
  neighbors : ∀ row ∈ u.neighborRows env, ∃ n ∈ db.neighbors, n.key = row.key
  route : db.HasDefault vrfId myIfIds

/-- Tables after some iterations. -/
structure Extends (db db' : L3Tables) : Prop where
  vrfs : db'.vrfs = db.vrfs
  devices : db'.devices = db.devices
  places : db'.interfaces.map place = db.interfaces.map place
  down : ∀ x, db'.Down x → db.Down x
  addresses : db.addresses ⊆ db'.addresses
  neighbors : db.neighbors ⊆ db'.neighbors
  routes : db.routes ⊆ db'.routes

private theorem Configured.extends (h : Configured env vrfId myIfIds db db' u) :
    Extends db db' where
  vrfs := h.vrfs
  devices := h.devices
  places := h.places
  down := fun x hx ↦ (h.down x hx).1
  addresses := by
    rw [h.addresses]
    exact subset_ensureRows _ _
  neighbors := by
    rw [h.neighbors]
    exact subset_ensureRows _ _
  routes := by
    rw [h.routes]
    split
    · exact List.Subset.refl _
    · exact List.subset_append_left _ _

/-- What a call configures is settled for the next one. -/
theorem Configured.settled (hmy : u.myIf ∈ myIfIds) (h : Configured env vrfId myIfIds db db' u) :
    Settled env vrfId myIfIds db' u where
  myUp := fun hdown ↦ (h.down _ hdown).2.1 rfl
  peerUp := fun hdown ↦ (h.down _ hdown).2.2 rfl
  addresses := by
    intro row hrow
    rw [h.addresses]
    exact exists_key_ensureRows hrow
  neighbors := by
    intro row hrow
    rw [h.neighbors]
    exact exists_key_ensureRows hrow
  route := by
    unfold L3Tables.HasDefault
    rw [h.routes]
    split
    · next hany => exact any_defaultVia.mp hany
    · exact ⟨_, List.mem_append_right _ (List.mem_singleton_self _), rfl, rfl, u.myIf, hmy, rfl⟩

private theorem Settled.mono (h : Settled env vrfId myIfIds db u) (hext : Extends db db') :
    Settled env vrfId myIfIds db' u where
  myUp := fun hdown ↦ h.myUp (hext.down _ hdown)
  peerUp := fun hdown ↦ h.peerUp (hext.down _ hdown)
  addresses := by
    intro row hrow
    obtain ⟨a, ha, hkey⟩ := h.addresses row hrow
    exact ⟨a, hext.addresses ha, hkey⟩
  neighbors := by
    intro row hrow
    obtain ⟨n, hn, hkey⟩ := h.neighbors row hrow
    exact ⟨n, hext.neighbors hn, hkey⟩
  route := by
    obtain ⟨r, hr, hdefault⟩ := h.route
    exact ⟨r, hext.routes hr, hdefault⟩

/-- The configuration of a settled uplink changes nothing. -/
theorem Settled.configureUplink (hmy : u.myIf ∈ myIfIds) (h : Settled env vrfId myIfIds db u) :
    db.configureUplink env vrfId myIfIds u = some db := by
  have hmyAddress := h.addresses _ List.mem_cons_self
  have hpeerAddress := h.addresses _ (List.mem_cons_of_mem _ List.mem_cons_self)
  have hmyNeighbor := h.neighbors _ List.mem_cons_self
  have hpeerNeighbor := h.neighbors _ (List.mem_cons_of_mem _ List.mem_cons_self)
  have hroute := any_defaultVia.mpr h.route
  unfold L3Tables.configureUplink
  simp only [adminUp_of_not_down h.myUp, adminUp_of_not_down h.peerUp,
    ensureAddr_of_present hmyAddress, ensureAddr_of_present hpeerAddress, ensureNeighbor_eq,
    ensureRow_of_present hmyNeighbor, ensureRow_of_present hpeerNeighbor,
    ensureDefaultRoute_eq _ _ hmy, hroute, Option.bind_eq_bind, Option.bind_some, if_true,
    Option.pure_def]

/-- The iterations of the loop settle their links. -/
theorem settling_configureLink (env : L3Env) (type : DeviceType) (vrfId : Int)
    (myIfIds : List String) :
    Settling (configureLink env type vrfId myIfIds) Extends (fun db ln ↦
      ∀ u, db.uplinkOf type myIfIds ln = some u → Settled env vrfId myIfIds db u) where
  refl db := ⟨rfl, rfl, rfl, fun _ h ↦ h, fun _ h ↦ h, fun _ h ↦ h, fun _ h ↦ h⟩
  trans db₁ db₂ db₃ h h' :=
    { vrfs := h'.vrfs.trans h.vrfs
      devices := h'.devices.trans h.devices
      places := h'.places.trans h.places
      down := fun x hx ↦ h.down x (h'.down x hx)
      addresses := List.Subset.trans h.addresses h'.addresses
      neighbors := List.Subset.trans h.neighbors h'.neighbors
      routes := List.Subset.trans h.routes h'.routes }
  extends_step db ln db' h := by
    unfold configureLink at h
    cases hu : db.uplinkOf type myIfIds ln with
    | none =>
      simp only [hu, Option.some.injEq] at h
      subst h
      exact ⟨rfl, rfl, rfl, fun _ h ↦ h, fun _ h ↦ h, fun _ h ↦ h, fun _ h ↦ h⟩
    | some u =>
      simp only [hu] at h
      exact (Configured.of_configureUplink (uplinkOf_myIf_mem hu) h).extends
  settled_step db ln db' h := by
    intro u hu'
    unfold configureLink at h
    cases hu : db.uplinkOf type myIfIds ln with
    | none =>
      simp only [hu, Option.some.injEq] at h
      subst h
      rw [hu] at hu'
      cases hu'
    | some v =>
      simp only [hu] at h
      have hstep := Configured.of_configureUplink (uplinkOf_myIf_mem hu) h
      rw [uplinkOf_congr hstep.devices hstep.places, hu] at hu'
      obtain rfl := Option.some.inj hu'
      exact hstep.settled (uplinkOf_myIf_mem hu)
  step_settled db ln h := by
    unfold configureLink
    cases hu : db.uplinkOf type myIfIds ln with
    | none => rfl
    | some u => exact (h u hu).configureUplink (uplinkOf_myIf_mem hu)
  mono db db' ln hext h := by
    intro u hu
    rw [uplinkOf_congr hext.devices hext.places] at hu
    exact (h u hu).mono hext

/-! ### Default routes -/

/-- Only the first iteration without a default route of the router adds one. -/
theorem routes_run {linkRows : List Link}
    (h : linkRows.foldlM (configureLink env type vrfId myIfIds) db = some db') :
    (db.HasDefault vrfId myIfIds → db'.routes = db.routes) ∧
      (db'.routes = db.routes ∨
        ∃ r, DefaultVia vrfId myIfIds r ∧ db'.routes = db.routes ++ [r]) := by
  induction linkRows generalizing db with
  | nil =>
    rw [← Option.some.inj h]
    exact ⟨fun _ ↦ rfl, .inl rfl⟩
  | cons ln linkRows ih =>
    rw [List.foldlM_cons, Option.bind_eq_bind, Option.bind_eq_some_iff] at h
    obtain ⟨db₁, hstep, hrest⟩ := h
    obtain ⟨hkeep, hadd⟩ := ih hrest
    unfold configureLink at hstep
    cases hu : db.uplinkOf type myIfIds ln with
    | none =>
      simp only [hu, Option.some.injEq] at hstep
      subst hstep
      exact ⟨hkeep, hadd⟩
    | some u =>
      simp only [hu] at hstep
      have hconfigured := Configured.of_configureUplink (uplinkOf_myIf_mem hu) hstep
      have hsettled := hconfigured.settled (uplinkOf_myIf_mem hu)
      have hroutes := hconfigured.routes
      rw [hkeep hsettled.route]
      by_cases hdefault : db.HasDefault vrfId myIfIds
      · rw [if_pos (any_defaultVia.mpr hdefault)] at hroutes
        exact ⟨fun _ ↦ hroutes, .inl hroutes⟩
      · rw [if_neg (fun h ↦ hdefault (any_defaultVia.mp h))] at hroutes
        exact ⟨fun h ↦ absurd h hdefault, .inr ⟨_, ⟨rfl, rfl, u.myIf, uplinkOf_myIf_mem hu, rfl⟩,
          hroutes⟩⟩

/-! ### Calls -/

/-- The tables before the loop. -/
structure Prepared (db start : L3Tables) (device : Device) (vrfId : Int) : Prop where
  router : device.type = .edgeRouter ∨ device.type = .coreRouter
  mgmtVrf : start.mgmtVrf.isSome
  own : start.getDevice device.id = some { device with vrfId := some vrfId }
  others : ∀ d, d ≠ device.id → start.getDevice d = db.getDevice d
  interfaces : start.interfaces = db.interfaces
  addresses : start.addresses = db.addresses
  neighbors : start.neighbors = db.neighbors
  routes : start.routes = db.routes

private theorem getDevice_setVrf (db : L3Tables) (id d : String) (vrfId : Int) :
    (db.setVrf id vrfId).getDevice d =
      (db.getDevice d).map (fun d ↦ if d.id = id then { d with vrfId := some vrfId } else d) := by
  unfold L3Tables.getDevice L3Tables.setVrf
  rw [List.find?_map]
  congr 2
  funext d
  simp only [Function.comp]
  split <;> rfl

private theorem mgmtVrf_ensureIpamDefaults (db : L3Tables) (env : L3Env) :
    (db.ensureIpamDefaults env).mgmtVrf.isSome := by
  unfold L3Tables.mgmtVrf L3Tables.ensureIpamDefaults
  rw [List.find?_isSome]
  refine ⟨⟨env.newId (db.vrfs.map Vrf.id), "mgmt"⟩, ?_, by simp⟩
  dsimp only
  split
  · exact List.mem_append_right _ (List.mem_singleton_self _)
  · exact List.mem_append_left _ (List.mem_append_right _ (List.mem_singleton_self _))

/-- The loop does nothing for a device without interfaces. -/
theorem foldlM_configureLink_nil (linkRows : List Link) :
    linkRows.foldlM (configureLink env type vrfId []) db = some db := by
  induction linkRows with
  | nil => rfl
  | cons ln linkRows ih =>
    rw [List.foldlM_cons]
    exact ih

private theorem mgmtVrf_withMgmt (db : L3Tables) (env : L3Env) :
    (db.withMgmt env).mgmtVrf.isSome := by
  unfold L3Tables.withMgmt
  split
  · next h => exact h
  · exact mgmtVrf_ensureIpamDefaults db env

/-- The VRF that the router has during the loop. -/
def L3Tables.routerVrf (db : L3Tables) (env : L3Env) (device : Device) : Option Int :=
  device.vrfId <|> (db.withMgmt env).mgmtVrf.map Vrf.id

/-- The VRF of the router is there before the loop, and nothing else has changed. -/
theorem Prepared.of_assignVrf {device : Device} {vrf : Vrf} {start : L3Tables}
    (hdevice : db.getDevice device.id = some device)
    (hrouter : device.type = .edgeRouter ∨ device.type = .coreRouter)
    (h : (db.withMgmt env).assignVrf env device vrf = some (start, vrfId)) :
    Prepared db start device vrfId := by
  have hsame : (db.withMgmt env).devices = db.devices ∧
      (db.withMgmt env).interfaces = db.interfaces ∧
      (db.withMgmt env).addresses = db.addresses ∧
      (db.withMgmt env).neighbors = db.neighbors ∧ (db.withMgmt env).routes = db.routes := by
    unfold L3Tables.withMgmt
    split <;> exact ⟨rfl, rfl, rfl, rfl, rfl⟩
  obtain ⟨hdevices, hinterfaces, haddresses, hneighbors, hroutes⟩ := hsame
  have hget : ∀ d, (db.withMgmt env).getDevice d = db.getDevice d := by
    intro d
    rw [L3Tables.getDevice, hdevices]
    rfl
  unfold L3Tables.assignVrf at h
  cases hvrf : device.vrfId with
  | some own =>
    simp only [hvrf, Option.some.injEq, Prod.mk.injEq] at h
    obtain ⟨rfl, rfl⟩ := h
    refine ⟨hrouter, mgmtVrf_withMgmt db env, ?_, ?_, hinterfaces, haddresses, hneighbors, hroutes⟩
    · rw [hget, hdevice, ← hvrf]
    · exact fun d _ ↦ hget d
  | none =>
    simp only [hvrf] at h
    split at h
    · cases h
    · simp only [Option.some.injEq, Prod.mk.injEq] at h
      obtain ⟨rfl, rfl⟩ := h
      refine ⟨hrouter, mgmtVrf_withMgmt db env, ?_, ?_, hinterfaces, haddresses, hneighbors, hroutes⟩
      · rw [getDevice_setVrf, hget, hdevice, Option.map_some, if_pos rfl]
      · intro d hd
        rw [getDevice_setVrf, hget]
        cases hother : db.getDevice d with
        | none => rfl
        | some other =>
          have hid : other.id = d := by simpa using List.find?_some hother
          rw [Option.map_some, if_neg (hid ▸ hd)]

private theorem routerVrf_of_assignVrf {device : Device} {vrf : Vrf} {start : L3Tables}
    (hvrf : (db.withMgmt env).mgmtVrf = some vrf)
    (h : (db.withMgmt env).assignVrf env device vrf = some (start, vrfId)) :
    db.routerVrf env device = some vrfId := by
  unfold L3Tables.assignVrf at h
  unfold L3Tables.routerVrf
  cases hown : device.vrfId with
  | some own =>
    simp only [hown, Option.some.injEq, Prod.mk.injEq] at h
    rw [← h.2]
    rfl
  | none =>
    simp only [hown] at h
    split at h
    · cases h
    · simp only [Option.some.injEq, Prod.mk.injEq] at h
      rw [hvrf, ← h.2]
      rfl

/-- The loop with its flag: it is set once some link is an uplink. -/
theorem foldlM_configureNext (linkRows : List Link) (changed : Bool) :
    linkRows.foldlM (configureNext env type vrfId myIfIds) (db, changed) =
      (linkRows.foldlM (configureLink env type vrfId myIfIds) db).map (fun after ↦
        (after, changed || linkRows.any (fun ln ↦ (db.uplinkOf type myIfIds ln).isSome))) := by
  induction linkRows generalizing db changed with
  | nil => simp
  | cons ln linkRows ih =>
    rw [List.foldlM_cons, List.foldlM_cons]
    cases hstep : configureLink env type vrfId myIfIds db ln with
    | none => simp [configureNext, hstep]
    | some db₁ =>
      have hext := (settling_configureLink env type vrfId myIfIds).extends_step db ln db₁ hstep
      have huplinks : ∀ ln, db₁.uplinkOf type myIfIds ln = db.uplinkOf type myIfIds ln :=
        uplinkOf_congr hext.devices hext.places
      have hnext : configureNext env type vrfId myIfIds (db, changed) ln =
          some (db₁, changed || (db.uplinkOf type myIfIds ln).isSome) := by
        simp only [configureNext, hstep, Option.map_some]
      rw [hnext]
      simp only [Option.bind_eq_bind, Option.bind_some, ih, huplinks, List.any_cons, Bool.or_assoc]

/-- A call that returns normally returns early for another device than a router, or has run the loop.
What the loop has written stays, unless there is something to commit and the commit fails. -/
theorem autoConfigureL3Uplinks_eq_some {commits : Bool} {linkRows : List Link} {id : String}
    (h : autoConfigureL3Uplinks env commits db linkRows id = some db') :
    (db' = db ∧
      (∀ commits linkRows, autoConfigureL3Uplinks env commits db linkRows id = some db) ∧
        ∀ device, db.getDevice id = some device →
          ¬ (device.type = .edgeRouter ∨ device.type = .coreRouter)) ∨
      ∃ start after device vrfId, db.getDevice id = some device ∧ Prepared db start device vrfId ∧
        db.routerVrf env device = some vrfId ∧
          linkRows.foldlM (configureLink env device.type vrfId (start.interfaceIdsOf id)) start =
            some after ∧
          db' = if linkRows.any (fun ln ↦
            (start.uplinkOf device.type (start.interfaceIdsOf id) ln).isSome) && !commits then db
              else after := by
  unfold autoConfigureL3Uplinks at h ⊢
  cases hdevice : db.getDevice id with
  | none =>
    simp only [hdevice, Option.some.injEq] at h ⊢
    refine .inl ⟨h.symm, fun _ _ ↦ trivial, ?_⟩
    intro device heq
    cases heq
  | some device =>
    simp only [hdevice] at h ⊢
    by_cases hrouter : device.type = .edgeRouter ∨ device.type = .coreRouter
    · right
      rw [if_pos hrouter] at h
      obtain ⟨vrf, hvrf⟩ := Option.isSome_iff_exists.mp (mgmtVrf_withMgmt db env)
      simp only [hvrf, Option.bind_eq_bind, Option.bind_eq_some_iff] at h
      obtain ⟨⟨start, vrfId⟩, hassign, h⟩ := h
      have hid : device.id = id := by simpa using List.find?_some hdevice
      have hprepared : Prepared db start device vrfId :=
        .of_assignVrf (hid ▸ hdevice) hrouter hassign
      have hvrfId := routerVrf_of_assignVrf hvrf hassign
      dsimp only at h
      split at h
      · next hnil =>
        refine ⟨start, start, device, vrfId, rfl, hprepared, hvrfId, ?_, ?_⟩
        · rw [hnil, foldlM_configureLink_nil]
        · have hnone : linkRows.any (fun ln ↦ (start.uplinkOf device.type [] ln).isSome) = false := by
            simp [L3Tables.uplinkOf]
          rw [hnil, hnone]
          exact (Option.some.inj h).symm
      · rw [foldlM_configureNext] at h
        simp only [Option.bind_eq_some_iff, Option.map_eq_some_iff] at h
        obtain ⟨_, ⟨after, hloop, rfl⟩, h⟩ := h
        refine ⟨start, after, device, vrfId, rfl, hprepared, hvrfId, hloop, ?_⟩
        exact (Option.some.inj h).symm
    · rw [if_neg hrouter] at h
      simp only [if_neg hrouter]
      refine .inl ⟨(Option.some.inj h).symm, fun _ _ ↦ trivial, ?_⟩
      intro device' heq
      rw [← Option.some.inj heq]
      exact hrouter

/-- A call for a router with a VRF runs the loop at once. -/
theorem autoConfigureL3Uplinks_of_assigned {commits : Bool} {linkRows : List Link} {id : String}
    {device : Device} (hdevice : db.getDevice id = some { device with vrfId := some vrfId })
    (hrouter : device.type = .edgeRouter ∨ device.type = .coreRouter)
    (hmgmt : db.mgmtVrf.isSome)
    (hloop : linkRows.foldlM (configureLink env device.type vrfId (db.interfaceIdsOf id)) db =
      some db) :
    autoConfigureL3Uplinks env commits db linkRows id = some db := by
  obtain ⟨vrf, hvrf⟩ := Option.isSome_iff_exists.mp hmgmt
  have hwith : db.withMgmt env = db := by
    rw [L3Tables.withMgmt, if_pos hmgmt]
  unfold autoConfigureL3Uplinks
  simp only [hdevice, hrouter, hwith, hvrf, if_true, L3Tables.assignVrf, Option.bind_eq_bind,
    Option.bind_some, foldlM_configureNext, hloop, Option.map_some]
  split
  · rfl
  · rw [ite_self]
    rfl

/-- After a call whose commit succeeds, a second call changes nothing, whether it could commit or not,
and at most one default route has been added. -/
theorem autoConfigureL3Uplinks_again {linkRows linkRows' : List Link} {id : String}
    (hperm : linkRows'.Perm linkRows)
    (h : autoConfigureL3Uplinks env true db linkRows id = some db') :
    (∀ commits, autoConfigureL3Uplinks env commits db' linkRows' id = some db') ∧
      (db'.routes = db.routes ∨
        ∃ r, r.pfx = defaultPrefix ∧ db'.routes = db.routes ++ [r]) := by
  rcases autoConfigureL3Uplinks_eq_some h with ⟨rfl, hagain, _⟩ |
    ⟨start, after, device, vrfId, hdevice, hprepared, _, hloop, hafter⟩
  · exact ⟨fun commits ↦ hagain commits linkRows', .inl rfl⟩
  · simp only [Bool.not_true, Bool.and_false, Bool.false_eq_true, if_false] at hafter
    subst hafter
    have hsettling := settling_configureLink env device.type vrfId (start.interfaceIdsOf id)
    have hext := hsettling.extends_run hloop
    have hid : device.id = id := by simpa using List.find?_some hdevice
    have hdevice' : db'.getDevice id = some { device with vrfId := some vrfId } := by
      rw [← hid, ← hprepared.own, L3Tables.getDevice, hext.devices]
      rfl
    have hmgmt : db'.mgmtVrf.isSome := by
      rw [L3Tables.mgmtVrf, hext.vrfs]
      exact hprepared.mgmtVrf
    constructor
    · intro commits
      apply autoConfigureL3Uplinks_of_assigned hdevice' hprepared.router hmgmt
      rw [interfaceIdsOf_congr hext.places]
      exact hsettling.run_again hloop (fun ln hln ↦ hperm.mem_iff.mp hln)
    · rw [← hprepared.routes]
      rcases (routes_run hloop).2 with hsame | ⟨r, ⟨_, hpfx, _⟩, hadded⟩
      · exact .inl hsame
      · exact .inr ⟨r, hpfx, hadded⟩

/-! ### Two uplinks -/

/-- The bytes that are read of the digests for the links of `twoUplinks`. -/
def digests : List (String × List UInt8) :=
  [("l1", [57, 168, 157, 209, 88]),
    ("l1:edge-if0:172.18.57.168", [139, 132, 244, 107, 58]),
    ("l1:core-if0:172.18.57.169", [207, 36, 63, 217, 230]),
    ("l2", [149, 67, 138, 56, 58]),
    ("l2:edge-if1:172.18.149.66", [141, 167, 157, 141, 224]),
    ("l2:core-if1:172.18.149.67", [42, 234, 146, 240, 121])]

/-- The id after the highest one. -/
def nextId (ids : List Int) : Int := ids.foldr max 0 + 1

private theorem le_foldr_max {ids : List Int} {i : Int} (h : i ∈ ids) : i ≤ ids.foldr max 0 := by
  induction ids with
  | nil => cases h
  | cons j ids ih =>
    rw [List.foldr_cons]
    rcases List.mem_cons.mp h with rfl | h
    · exact le_max_left _ _
    · exact (ih h).trans (le_max_right _ _)

private theorem nextId_notMem (ids : List Int) : nextId ids ∉ ids := by
  intro h
  have hle := le_foldr_max h
  unfold nextId at hle
  omega

/-- An environment with these digests. -/
def smallEnv : L3Env where
  sha1 s i := ((digests.lookup s).getD []).getD i 0
  newId := nextId
  newId_notMem := nextId_notMem

/-- An edge router with a link to each of two interfaces of a core router. -/
def twoUplinks : L3Tables where
  vrfs := [⟨1, "mgmt"⟩]
  devices := [
    { id := "edge", type := .edgeRouter }, { id := "core", type := .coreRouter, vrfId := some 1 }]
  interfaces := [
    { id := "edge-if0", deviceId := "edge", name := "if0" },
    { id := "edge-if1", deviceId := "edge", name := "if1", adminStatus := .down },
    { id := "core-if0", deviceId := "core", name := "if0" },
    { id := "core-if1", deviceId := "core", name := "if1" }]

/-- The rows of table `link`. -/
def twoLinks : List Link :=
  [{ id := "l1", aInterfaceId := "edge-if0", bInterfaceId := "core-if0" },
    { id := "l2", aInterfaceId := "core-if1", bInterfaceId := "edge-if1" }]

/-- The commit of the second call may fail. -/
theorem autoConfigureL3Uplinks_again_twoUplinks :
    ∃ db', autoConfigureL3Uplinks smallEnv true twoUplinks twoLinks "edge" = some db' ∧
      db'.routes.map Route.nextHop = [some "172.18.57.168"] ∧
        autoConfigureL3Uplinks smallEnv false db' twoLinks.reverse "edge" = some db' := by
  have hroutes : (autoConfigureL3Uplinks smallEnv true twoUplinks twoLinks "edge").map
      (fun db' ↦ db'.routes.map Route.nextHop) = some [some "172.18.57.168"] := by
    decide +kernel
  obtain ⟨db', h, hnext⟩ := Option.map_eq_some_iff.mp hroutes
  exact ⟨db', h, hnext, (autoConfigureL3Uplinks_again (List.reverse_perm _) h).1 false⟩

/-- The commit of the first call fails: it returns normally, and a second call adds a route. -/
theorem autoConfigureL3Uplinks_rolledBack :
    ∃ db' db'', autoConfigureL3Uplinks smallEnv false twoUplinks twoLinks "edge" = some db' ∧
      autoConfigureL3Uplinks smallEnv true db' twoLinks "edge" = some db'' ∧
        db''.routes ≠ db'.routes := by
  have hroutes : (autoConfigureL3Uplinks smallEnv false twoUplinks twoLinks "edge").bind (fun db' ↦
      (autoConfigureL3Uplinks smallEnv true db' twoLinks "edge").map (fun db'' ↦
        (db'.routes.map Route.nextHop, db''.routes.map Route.nextHop))) =
      some ([], [some "172.18.57.168"]) := by
    decide +kernel
  obtain ⟨db', hfirst, hsecond⟩ := Option.bind_eq_some_iff.mp hroutes
  obtain ⟨db'', hsecond, hnext⟩ := Option.map_eq_some_iff.mp hsecond
  obtain ⟨hnone, hone⟩ := Prod.mk.inj hnext
  refine ⟨db', db'', hfirst, hsecond, ?_⟩
  intro hsame
  rw [hsame, hnone] at hone
  cases hone

end Unoc.Provisioning
