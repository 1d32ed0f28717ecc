import Unoc.Base.Rendering
import Unoc.Provisioning.L3Idempotent

/-!
# Usable adjacencies

Neighbors and the default route of an uplink name the derived addresses of its pair, but an interface
that has an address gets no other, and one that several uplinks share gets that of the first.
-/

namespace Unoc.Provisioning

open Unoc.Base
open Unoc.Model

variable {env : L3Env} {db db' : L3Tables} {type : DeviceType} {vrfId : Int} {myIfIds : List String}
  {u v : Uplink} {linkRows : List Link}

/-! ### Pairs -/

/-- Both addresses of the pair. -/
def Uplink.pair (u : Uplink) (env : L3Env) : List String :=
  [(stablePtpPair env u.pairKey).1, (stablePtpPair env u.pairKey).2]

/-- The last two numbers are read back from an address. -/
theorem address_inj {x y x' y' : Nat}
    (h : "172.18." ++ toString x ++ "." ++ toString y = "172.18." ++ toString x' ++ "." ++ toString y') :
    x = x' ∧ y = y' := by
  have hchars : (toString x).toList ++ '.' :: (toString y).toList =
      (toString x').toList ++ '.' :: (toString y').toList := by
    simpa [String.toList_append] using congrArg String.toList h
  obtain ⟨hx, _, hy⟩ := (List.append_cons_inj_of_notMem (notMem_toString rfl x)
    (notMem_toString rfl y)).mp hchars
  exact ⟨toString_inj hx, toString_inj hy⟩

private theorem even_and (b : UInt8) : (b &&& 0xFE).toNat % 2 = 0 := by
  have hmod := @Nat.and_mod_two_pow b.toNat 254 1
  rw [UInt8.toNat_and]
  exact hmod.trans (Nat.and_zero _)

private theorem mem_pair {ip : String} : ip ∈ u.pair env ↔ ∃ i < 2,
    ip = "172.18." ++ toString (u.octets env).1.toNat ++ "." ++
      toString ((u.octets env).2.toNat + i) := by
  simp only [Uplink.pair, List.mem_cons, List.not_mem_nil, or_false]
  constructor
  · rintro (rfl | rfl)
    · exact ⟨0, by decide, rfl⟩
    · exact ⟨1, by decide, rfl⟩
  · rintro ⟨i, hi, rfl⟩
    obtain rfl | rfl : i = 0 ∨ i = 1 := by omega
    · exact .inl rfl
    · exact .inr rfl

/-- Pairs share no address exactly if their bytes differ. -/
theorem pair_disjoint_iff : List.Disjoint (u.pair env) (v.pair env) ↔ u.octets env ≠ v.octets env := by
  constructor
  · rintro hdisjoint heq
    have hmem : ∀ w : Uplink, w.octets env = v.octets env →
        "172.18." ++ toString (v.octets env).1.toNat ++ "." ++
          toString ((v.octets env).2.toNat + 0) ∈ w.pair env := by
      intro w hw
      exact mem_pair.mpr ⟨0, by decide, by rw [hw]⟩
    exact hdisjoint (hmem u heq) (hmem v rfl)
  · intro hne ip hu hv
    obtain ⟨i, hi, rfl⟩ := mem_pair.mp hu
    obtain ⟨j, hj, heq⟩ := mem_pair.mp hv
    obtain ⟨hx, hy⟩ := address_inj heq
    have hu2 := even_and (env.sha1 u.pairKey 1)
    have hv2 := even_and (env.sha1 v.pairKey 1)
    refine hne (Prod.ext (UInt8.toNat_inj.mp hx) (UInt8.toNat_inj.mp ?_))
    simp only [Uplink.octets] at hy ⊢
    omega

/-! ### The loop -/

/-- The uplinks of a router in the order of the query. -/
def L3Tables.uplinks (db : L3Tables) (device : Device) (linkRows : List Link) : List Uplink :=
  linkRows.filterMap (db.uplinkOf device.type (db.interfaceIdsOf device.id))

/-- What the loop has written. -/
structure Looped (env : L3Env) (vrfId : Int) (myIfIds : List String) (db db' : L3Tables)
    (uplinks : List Uplink) : Prop where
  addresses : db'.addresses = ensureRows (fun a ↦ a.interfaceId) db.addresses
    (uplinks.flatMap (fun u ↦ u.addressRows env vrfId))
  neighbors : db'.neighbors = ensureRows Neighbor.key db.neighbors
    (uplinks.flatMap (fun u ↦ u.neighborRows env))
  routes : db'.routes = if db.routes.any (fun r ↦ DefaultVia vrfId myIfIds r) then db.routes
    else db.routes ++ uplinks.head?.toList.map (fun u ↦ u.defaultRoute env vrfId db.routes)

private theorem Looped.of_run
    (h : linkRows.foldlM (configureLink env type vrfId myIfIds) db = some db') :
    Looped env vrfId myIfIds db db' (linkRows.filterMap (db.uplinkOf type myIfIds)) := by
  induction linkRows generalizing db with
  | nil =>
    rw [← Option.some.inj h]
    refine ⟨rfl, rfl, ?_⟩
    split
    · rfl
    · exact (List.append_nil _).symm
  | cons ln linkRows ih =>
    have hrun := h
    rw [List.foldlM_cons, Option.bind_eq_bind, Option.bind_eq_some_iff] at h
    obtain ⟨db₁, hstep, hrest⟩ := h
    have hloop := ih hrest
    unfold configureLink at hstep
    cases hu : db.uplinkOf type myIfIds ln with
    | none =>
      simp only [hu, Option.some.injEq] at hstep
      subst hstep
      rw [List.filterMap_cons_none hu]
      exact hloop
    | some u =>
      simp only [hu] at hstep
      have hstep := Configured.of_configureUplink (uplinkOf_myIf_mem hu) hstep
      have huplinks : linkRows.filterMap (db₁.uplinkOf type myIfIds) =
          linkRows.filterMap (db.uplinkOf type myIfIds) := by
        congr 1
        funext ln
        exact uplinkOf_congr hstep.devices hstep.places ln
      rw [huplinks] at hloop
      rw [List.filterMap_cons_some hu]
      refine ⟨?_, ?_, ?_⟩
      · rw [List.flatMap_cons, ensureRows_append, ← hstep.addresses]
        exact hloop.addresses
      · rw [List.flatMap_cons, ensureRows_append, ← hstep.neighbors]
        exact hloop.neighbors
      · have hdefault := (hstep.settled (uplinkOf_myIf_mem hu)).route
        rw [hloop.routes, if_pos (any_defaultVia.mpr hdefault), hstep.routes]
        rfl

private theorem upstream_self (type : DeviceType) : upstream type type = false := by
  cases type <;> rfl

/-- The uplinks before the loop are those of the tables before the call. -/
theorem Prepared.uplinkOf {start : L3Tables} {device : Device}
    (h : Prepared db start device vrfId) (hdevice : db.getDevice device.id = some device)
    (ln : Link) :
    start.uplinkOf device.type myIfIds ln = db.uplinkOf device.type myIfIds ln := by
  have hpeer : ∀ d peer, upstream device.type peer.type = true →
      (start.getDevice d = some peer ↔ db.getDevice d = some peer) := by
    intro d peer hup
    by_cases hd : d = device.id
    · subst hd
      rw [h.own, hdevice]
      constructor
      · rintro heq
        rw [← Option.some.inj heq, upstream_self] at hup
        cases hup
      · rintro heq
        rw [← Option.some.inj heq, upstream_self] at hup
        cases hup
    · rw [h.others d hd]
  apply Option.ext
  intro u
  rw [uplinkOf_eq_some, uplinkOf_eq_some]
  refine and_congr_right (fun _ ↦ and_congr_right (fun _ ↦ and_congr_right (fun _ ↦
    and_congr_right (fun _ ↦ exists_congr (fun peer ↦ ?_)))))
  apply and_congr_left
  rintro ⟨hup, _⟩
  unfold L3Tables.deviceOf Ipam.getInterface
  rw [h.interfaces]
  simp only [Option.bind_eq_some_iff, hpeer _ peer hup]

/-! ### Usability -/

/-- An address row of an interface. -/
def L3Tables.HasAddress (db : L3Tables) (interfaceId ip : String) : Prop :=
  ∃ a ∈ db.addresses, a.interfaceId = interfaceId ∧ a.ip = ip

/-- No address row of an interface. -/
def L3Tables.Bare (db : L3Tables) (interfaceId : String) : Prop :=
  ∀ a ∈ db.addresses, a.interfaceId ≠ interfaceId

/-- The interfaces of uplinks with the addresses of the pairs, in the order of assignment. -/
def endsOf (env : L3Env) (uplinks : List Uplink) : List (Uplink × String × String) :=
  uplinks.flatMap (fun u ↦ [(u, u.myIf, u.myIp env), (u, u.peerIf, u.peerIp env)])

/-- The keys of the neighbors of uplinks, each with the interface at the other end. -/
def adjacenciesOf (env : L3Env) (uplinks : List Uplink) : List ((String × String) × String) :=
  uplinks.flatMap (fun u ↦
    [((u.myIf, u.peerIp env), u.peerIf), ((u.peerIf, u.myIp env), u.myIf)])

/-- The first uplink at an interface, with its address there. -/
def firstAt (env : L3Env) (uplinks : List Uplink) (interfaceId : String) :
    Option (Uplink × String × String) :=
  (endsOf env uplinks).find? (fun e ↦ e.2.1 = interfaceId)

/-- What was added is usable: each neighbor and default route names an address of the interface at the
other end of the link for which it was added, and links that got addresses got disjoint pairs. -/
structure Usable (env : L3Env) (db db' : L3Tables) (uplinks : List Uplink) : Prop where
  neighbors : ∀ n ∈ db'.neighbors, n ∉ db.neighbors →
    ∃ far, (adjacenciesOf env uplinks).find? (fun x ↦ x.1 = n.key) = some (n.key, far) ∧
      db'.HasAddress far n.ipAddress
  routes : ∀ r ∈ db'.routes, r ∉ db.routes → ∃ u nextHop, r.nextHop = some nextHop ∧
    uplinks.find? (fun u ↦ r.interfaceId = some u.myIf ∧ r.nextHop = some (u.peerIp env)) = some u ∧
      db'.HasAddress u.peerIf nextHop
  pairs : ∀ a ∈ db'.addresses, a ∉ db.addresses → ∀ b ∈ db'.addresses, b ∉ db.addresses →
    ∃ u v ip ip', firstAt env uplinks a.interfaceId = some (u, a.interfaceId, ip) ∧
      firstAt env uplinks b.interfaceId = some (v, b.interfaceId, ip') ∧
        (u.linkId ≠ v.linkId → List.Disjoint (u.pair env) (v.pair env))

/-- An interface has an address, or has none and gets it from the first uplink there. -/
def Gets (env : L3Env) (db : L3Tables) (uplinks : List Uplink) (interfaceId ip : String) : Prop :=
  db.HasAddress interfaceId ip ∨
    db.Bare interfaceId ∧ ∃ u, firstAt env uplinks interfaceId = some (u, interfaceId, ip)

/-- The condition on the tables before the call. -/
structure Clean (env : L3Env) (db : L3Tables) (uplinks : List Uplink) (hasDefault : Prop) : Prop where
  neighbors : ∀ key far, (adjacenciesOf env uplinks).find? (fun x ↦ x.1 = key) = some (key, far) →
    (∃ n ∈ db.neighbors, n.key = key) ∨ Gets env db uplinks far key.2
  route : hasDefault ∨ ∀ u ∈ uplinks.head?, Gets env db uplinks u.peerIf (u.peerIp env)
  pairs : ∀ i j u v ip ip', db.Bare i → db.Bare j →
    firstAt env uplinks i = some (u, i, ip) → firstAt env uplinks j = some (v, j, ip') →
      u.linkId ≠ v.linkId → u.octets env ≠ v.octets env

variable {uplinks : List Uplink}

/-- The address that an interface without one gets is that of the first uplink there. -/
theorem find_addressRows (i : String) :
    ((uplinks.flatMap (fun u ↦ u.addressRows env vrfId)).find? (fun a ↦ a.interfaceId = i)).map
      (fun a ↦ (a.interfaceId, a.ip)) = (firstAt env uplinks i).map Prod.snd := by
  have hcommon : (uplinks.flatMap (fun u ↦ u.addressRows env vrfId)).map
      (fun a ↦ (a.interfaceId, a.ip)) = (endsOf env uplinks).map Prod.snd := by
    rw [endsOf, List.map_flatMap, List.map_flatMap]
    rfl
  have hfind := congrArg (List.find? (fun p ↦ p.1 = i)) hcommon
  rw [List.find?_map, List.find?_map] at hfind
  exact hfind

private theorem find_neighborRows (key : String × String) :
    ((uplinks.flatMap (fun u ↦ u.neighborRows env)).find? (fun n ↦ n.key = key)).map Neighbor.key =
      ((adjacenciesOf env uplinks).find? (fun x ↦ x.1 = key)).map Prod.fst := by
  have hcommon : (uplinks.flatMap (fun u ↦ u.neighborRows env)).map Neighbor.key =
      (adjacenciesOf env uplinks).map Prod.fst := by
    rw [adjacenciesOf, List.map_flatMap, List.map_flatMap]
    rfl
  have hfind := congrArg (List.find? (fun p ↦ p = key)) hcommon
  rw [List.find?_map, List.find?_map] at hfind
  exact hfind

namespace Looped

/-- The addresses that the loop adds. -/
theorem mem_addresses (h : Looped env vrfId myIfIds db db' uplinks) {a : AddressRow} :
    a ∈ db'.addresses ↔ a ∈ db.addresses ∨ db.Bare a.interfaceId ∧
      (uplinks.flatMap (fun u ↦ u.addressRows env vrfId)).find?
        (fun x ↦ x.interfaceId = a.interfaceId) = some a := by
  rw [h.addresses, mem_ensureRows]
  rfl

private theorem hasAddress_iff (h : Looped env vrfId myIfIds db db' uplinks) {i ip : String} :
    db'.HasAddress i ip ↔ Gets env db uplinks i ip := by
  constructor
  · rintro ⟨a, ha, rfl, rfl⟩
    rcases h.mem_addresses.mp ha with hold | ⟨hbare, hfirst⟩
    · exact .inl ⟨a, hold, rfl, rfl⟩
    · have hfind := @find_addressRows env vrfId uplinks a.interfaceId
      rw [hfirst, Option.map_some, eq_comm, Option.map_eq_some_iff] at hfind
      obtain ⟨⟨u, _, _⟩, hfirstAt, hends⟩ := hfind
      cases hends
      exact .inr ⟨hbare, u, hfirstAt⟩
  · rintro (⟨a, ha, hi, hip⟩ | ⟨hbare, u, hfirstAt⟩)
    · exact ⟨a, h.mem_addresses.mpr (.inl ha), hi, hip⟩
    · have hfind := @find_addressRows env vrfId uplinks i
      rw [hfirstAt, Option.map_some, Option.map_eq_some_iff] at hfind
      obtain ⟨a, hfirst, hends⟩ := hfind
      obtain ⟨hi, hip⟩ := Prod.mk.inj hends
      subst hi
      exact ⟨a, h.mem_addresses.mpr (.inr ⟨hbare, hfirst⟩), rfl, hip⟩

/-- An address row is added exactly for an interface without one at which some uplink is. -/
theorem added_address (h : Looped env vrfId myIfIds db db' uplinks) {a : AddressRow}
    (ha : a ∈ db'.addresses) (hnew : a ∉ db.addresses) :
    db.Bare a.interfaceId ∧ ∃ u ip, firstAt env uplinks a.interfaceId =
      some (u, a.interfaceId, ip) := by
  obtain ⟨hbare, hfirst⟩ := (h.mem_addresses.mp ha).resolve_left hnew
  have hfind := @find_addressRows env vrfId uplinks a.interfaceId
  rw [hfirst, Option.map_some, eq_comm, Option.map_eq_some_iff] at hfind
  obtain ⟨⟨u, _, _⟩, hfirstAt, hends⟩ := hfind
  cases hends
  exact ⟨hbare, u, a.ip, hfirstAt⟩

private theorem exists_added_address (h : Looped env vrfId myIfIds db db' uplinks) {i ip : String}
    (hbare : db.Bare i) (hfirstAt : firstAt env uplinks i = some (u, i, ip)) :
    ∃ a ∈ db'.addresses, a ∉ db.addresses ∧ a.interfaceId = i := by
  obtain ⟨a, ha, hi, _⟩ := h.hasAddress_iff.mpr (.inr ⟨hbare, u, hfirstAt⟩)
  exact ⟨a, ha, fun hold ↦ hbare a hold hi, hi⟩

private theorem usable_neighbors_iff (h : Looped env vrfId myIfIds db db' uplinks) :
    (∀ n ∈ db'.neighbors, n ∉ db.neighbors →
      ∃ far, (adjacenciesOf env uplinks).find? (fun x ↦ x.1 = n.key) = some (n.key, far) ∧
        db'.HasAddress far n.ipAddress) ↔
    ∀ key far, (adjacenciesOf env uplinks).find? (fun x ↦ x.1 = key) = some (key, far) →
      (∃ n ∈ db.neighbors, n.key = key) ∨ Gets env db uplinks far key.2 := by
  constructor
  · intro husable key far hfind
    by_cases hold : ∃ n ∈ db.neighbors, n.key = key
    · exact .inl hold
    · right
      have hrows := @find_neighborRows env uplinks key
      rw [hfind, Option.map_some, Option.map_eq_some_iff] at hrows
      obtain ⟨n, hrow, rfl⟩ := hrows
      have hnone : ∀ x ∈ db.neighbors, x.key ≠ n.key := fun x hx hkey ↦ hold ⟨x, hx, hkey⟩
      have hmem : n ∈ db'.neighbors := by
        rw [h.neighbors, mem_ensureRows]
        exact .inr ⟨hnone, hrow⟩
      obtain ⟨far', hfind', haddress⟩ := husable n hmem (fun hn ↦ hnone n hn rfl)
      rw [hfind] at hfind'
      cases hfind'
      exact h.hasAddress_iff.mp haddress
  · intro hclean n hn hnew
    rw [h.neighbors, mem_ensureRows] at hn
    obtain ⟨hnone, hrow⟩ := hn.resolve_left hnew
    have hrows := @find_neighborRows env uplinks n.key
    rw [hrow, Option.map_some, eq_comm, Option.map_eq_some_iff] at hrows
    obtain ⟨⟨key, far⟩, hfind, rfl⟩ := hrows
    refine ⟨far, hfind, h.hasAddress_iff.mpr ((hclean n.key far hfind).resolve_left ?_)⟩
    rintro ⟨x, hx, hkey⟩
    exact hnone x hx hkey

private theorem usable_routes_iff (h : Looped env vrfId myIfIds db db' uplinks) :
    (∀ r ∈ db'.routes, r ∉ db.routes → ∃ u nextHop, r.nextHop = some nextHop ∧
      uplinks.find? (fun u ↦ r.interfaceId = some u.myIf ∧ r.nextHop = some (u.peerIp env)) =
        some u ∧ db'.HasAddress u.peerIf nextHop) ↔
    (db.HasDefault vrfId myIfIds ∨
      ∀ u ∈ uplinks.head?, Gets env db uplinks u.peerIf (u.peerIp env)) := by
  have hroutes := h.routes
  by_cases hdefault : db.HasDefault vrfId myIfIds
  · rw [if_pos (any_defaultVia.mpr hdefault)] at hroutes
    refine iff_of_true ?_ (.inl hdefault)
    intro r hr hnew
    rw [hroutes] at hr
    exact absurd hr hnew
  · rw [if_neg (fun hany ↦ hdefault (any_defaultVia.mp hany))] at hroutes
    rw [hroutes]
    cases uplinks with
    | nil => simp
    | cons u uplinks =>
      have hfresh : u.defaultRoute env vrfId db.routes ∉ db.routes := by
        intro hmem
        exact env.newId_notMem _ (List.mem_map_of_mem (f := Route.id) hmem)
      have hfind : (u :: uplinks).find? (fun v ↦
          (u.defaultRoute env vrfId db.routes).interfaceId = some v.myIf ∧
            (u.defaultRoute env vrfId db.routes).nextHop = some (v.peerIp env)) = some u :=
        List.find?_cons_of_pos (by simp [Uplink.defaultRoute])
      simp only [List.head?_cons, Option.toList_some, List.map_cons, List.map_nil,
        Option.mem_some_iff, forall_eq', ← h.hasAddress_iff]
      constructor
      · intro husable
        obtain ⟨v, nextHop, hnext, hfound, haddress⟩ := husable _
          (List.mem_append_right _ (List.mem_singleton_self _)) hfresh
        rw [hfind] at hfound
        cases hfound
        cases hnext
        exact .inr haddress
      · intro hclean r hr hnew
        obtain rfl := List.mem_singleton.mp ((List.mem_append.mp hr).resolve_left hnew)
        exact ⟨u, u.peerIp env, rfl, hfind, hclean.resolve_left hdefault⟩

private theorem usable_pairs_iff (h : Looped env vrfId myIfIds db db' uplinks) :
    (∀ a ∈ db'.addresses, a ∉ db.addresses → ∀ b ∈ db'.addresses, b ∉ db.addresses →
      ∃ u v ip ip', firstAt env uplinks a.interfaceId = some (u, a.interfaceId, ip) ∧
        firstAt env uplinks b.interfaceId = some (v, b.interfaceId, ip') ∧
          (u.linkId ≠ v.linkId → List.Disjoint (u.pair env) (v.pair env))) ↔
    ∀ i j u v ip ip', db.Bare i → db.Bare j →
      firstAt env uplinks i = some (u, i, ip) → firstAt env uplinks j = some (v, j, ip') →
        u.linkId ≠ v.linkId → u.octets env ≠ v.octets env := by
  constructor
  · intro husable i j u v ip ip' hi hj hu hv hne
    obtain ⟨a, ha, hnewa, rfl⟩ := h.exists_added_address hi hu
    obtain ⟨b, hb, hnewb, rfl⟩ := h.exists_added_address hj hv
    obtain ⟨u', v', _, _, hu', hv', hdisjoint⟩ := husable a ha hnewa b hb hnewb
    rw [hu] at hu'
    rw [hv] at hv'
    cases hu'
    cases hv'
    exact pair_disjoint_iff.mp (hdisjoint hne)
  · intro hclean a ha hnewa b hb hnewb
    obtain ⟨hbarea, u, ip, hu⟩ := h.added_address ha hnewa
    obtain ⟨hbareb, v, ip', hv⟩ := h.added_address hb hnewb
    refine ⟨u, v, ip, ip', hu, hv, fun hne ↦ pair_disjoint_iff.mpr ?_⟩
    exact hclean _ _ u v ip ip' hbarea hbareb hu hv hne

private theorem usable_iff (h : Looped env vrfId myIfIds db db' uplinks) :
    Usable env db db' uplinks ↔ Clean env db uplinks (db.HasDefault vrfId myIfIds) := by
  constructor
  · rintro ⟨hneighbors, hroutes, hpairs⟩
    exact ⟨h.usable_neighbors_iff.mp hneighbors, h.usable_routes_iff.mp hroutes,
      h.usable_pairs_iff.mp hpairs⟩
  · rintro ⟨hneighbors, hroute, hpairs⟩
    exact ⟨h.usable_neighbors_iff.mpr hneighbors, h.usable_routes_iff.mpr hroute,
      h.usable_pairs_iff.mpr hpairs⟩

end Looped

/-! ### Calls -/

/-- The router has a default route before the call. -/
def L3Tables.RouterHasDefault (db : L3Tables) (env : L3Env) (device : Device) : Prop :=
  ∃ vrfId, db.routerVrf env device = some vrfId ∧
    db.HasDefault vrfId (db.interfaceIdsOf device.id)

private theorem uplinks_of_not_router {device : Device}
    (h : ¬ (device.type = .edgeRouter ∨ device.type = .coreRouter)) :
    db.uplinks device linkRows = [] := by
  rw [L3Tables.uplinks, List.filterMap_eq_nil_iff]
  intro ln _
  rw [Option.eq_none_iff_forall_not_mem]
  intro u hu
  obtain ⟨_, _, _, _, peer, _, hup, _⟩ := uplinkOf_eq_some.mp hu
  revert hup h
  cases device.type <;> simp [upstream]

/-- The loop finds the uplinks that the tables had before the call. -/
theorem Prepared.uplinks_eq {start : L3Tables} {device : Device} (h : Prepared db start device vrfId)
    (hdevice : db.getDevice device.id = some device) :
    linkRows.filterMap (start.uplinkOf device.type (start.interfaceIdsOf device.id)) =
      db.uplinks device linkRows := by
  have hids : start.interfaceIdsOf device.id = db.interfaceIdsOf device.id :=
    interfaceIdsOf_congr (by rw [h.interfaces]) device.id
  rw [hids]
  unfold L3Tables.uplinks
  congr 1
  funext ln
  exact h.uplinkOf hdevice ln

/-- The loop, started from the tables with the VRF of the router, as one over the uplinks that the
tables had before. -/
theorem Prepared.looped {start : L3Tables} {device : Device} (h : Prepared db start device vrfId)
    (hdevice : db.getDevice device.id = some device)
    (hloop : linkRows.foldlM
      (configureLink env device.type vrfId (start.interfaceIdsOf device.id)) start = some db') :
    Looped env vrfId (db.interfaceIdsOf device.id) db db' (db.uplinks device linkRows) := by
  have hids : start.interfaceIdsOf device.id = db.interfaceIdsOf device.id :=
    interfaceIdsOf_congr (by rw [h.interfaces]) device.id
  have hlooped := Looped.of_run hloop
  rw [h.uplinks_eq hdevice, hids] at hlooped
  obtain ⟨haddresses, hneighbors, hroutes⟩ := hlooped
  rw [h.addresses] at haddresses
  rw [h.neighbors] at hneighbors
  rw [h.routes] at hroutes
  exact ⟨haddresses, hneighbors, hroutes⟩

/-- Without uplinks there is nothing to keep clean. -/
theorem Clean.nil (env : L3Env) (db : L3Tables) (hasDefault : Prop) :
    Clean env db [] hasDefault where
  neighbors key far hfind := by cases hfind
  route := .inr (fun u hu ↦ by cases hu)
  pairs i j u v ip ip' _ _ hu := by cases hu

/-- Where nothing was added, all of it is usable. -/
theorem Usable.refl (env : L3Env) (db : L3Tables) (uplinks : List Uplink) :
    Usable env db db uplinks where
  neighbors _ hn hnew := absurd hn hnew
  routes _ hr hnew := absurd hr hnew
  pairs _ ha hnew := absurd ha hnew

/-- The rows of a call that returns normally are usable exactly if its commit fails, so that it adds
none, or the tables before it are clean for the uplinks of the router. -/
theorem autoConfigureL3Uplinks_usable_iff {commits : Bool} {id : String} {device : Device}
    (hdevice : db.getDevice id = some device)
    (h : autoConfigureL3Uplinks env commits db linkRows id = some db') :
    Usable env db db' (db.uplinks device linkRows) ↔
      commits = false ∨ Clean env db (db.uplinks device linkRows) (db.RouterHasDefault env device) := by
  have hid : device.id = id := by simpa using List.find?_some hdevice
  subst hid
  rcases autoConfigureL3Uplinks_eq_some h with ⟨rfl, _, hother⟩ |
    ⟨start, after, device', vrfId, hdevice', hprepared, hvrf, hloop, hafter⟩
  · rw [uplinks_of_not_router (hother device hdevice)]
    exact iff_of_true (.refl env db' []) (.inr (.nil env db' _))
  · rw [hdevice] at hdevice'
    cases hdevice'
    have hlooped := hprepared.looped hdevice hloop
    have hdefault : db.RouterHasDefault env device ↔
        db.HasDefault vrfId (db.interfaceIdsOf device.id) := by
      constructor
      · rintro ⟨v, hv, hdefault⟩
        rw [hvrf] at hv
        cases hv
        exact hdefault
      · exact fun hdefault ↦ ⟨vrfId, hvrf, hdefault⟩
    cases commits with
    | true =>
      simp only [Bool.not_true, Bool.and_false, Bool.false_eq_true, if_false] at hafter
      subst hafter
      rw [hlooped.usable_iff, propext hdefault]
      exact (or_iff_right (by simp)).symm
    | false =>
      refine iff_of_true ?_ (.inl rfl)
      split at hafter
      · rw [hafter]
        exact .refl env db _
      · next hnone =>
        -- nothing to commit, since no link is an uplink
        subst hafter
        have huplinks : db.uplinks device linkRows = [] := by
          rw [← hprepared.uplinks_eq hdevice, List.filterMap_eq_nil_iff]
          simpa using hnone
        rw [huplinks] at hlooped ⊢
        exact hlooped.usable_iff.mpr (.nil env db _)

/-! ### A manual address -/

/-- An address set by hand on an interface of the core router. -/
def manualCore : L3Tables :=
  { twoUplinks with
    addresses := [{ interfaceId := "core-if0", ip := "10.0.0.1", prefixLen := 30, vrfId := some 1 }] }

/-- The edge router. -/
def edge : Device := { id := "edge", type := .edgeRouter }

/-- The first call makes both uplinks usable. -/
theorem autoConfigureL3Uplinks_usable_iff_twoUplinks :
    ∃ db', autoConfigureL3Uplinks smallEnv true twoUplinks twoLinks "edge" = some db' ∧
      (Usable smallEnv twoUplinks db' (twoUplinks.uplinks edge twoLinks) ↔
        true = false ∨ Clean smallEnv twoUplinks (twoUplinks.uplinks edge twoLinks)
          (twoUplinks.RouterHasDefault smallEnv edge)) := by
  have hsome : (autoConfigureL3Uplinks smallEnv true twoUplinks twoLinks "edge").isSome := by
    decide +kernel
  obtain ⟨db', h⟩ := Option.isSome_iff_exists.mp hsome
  have hdevice : twoUplinks.getDevice "edge" = some edge := by decide +kernel
  exact ⟨db', h, autoConfigureL3Uplinks_usable_iff hdevice h⟩

/-- A manual address on the core router leaves its uplink unusable. -/
theorem manualCore_not_usable :
    ∃ db', autoConfigureL3Uplinks smallEnv true manualCore twoLinks "edge" = some db' ∧
      ¬ Usable smallEnv manualCore db' (manualCore.uplinks edge twoLinks) := by
  have hrows : (autoConfigureL3Uplinks smallEnv true manualCore twoLinks "edge").map
      (fun db' ↦ (db'.routes.map Route.nextHop, db'.addresses.map (fun a ↦ a.ip))) =
        some ([some "172.18.57.168"],
          ["10.0.0.1", "172.18.57.169", "172.18.149.67", "172.18.149.66"]) := by
    decide +kernel
  obtain ⟨db', h, hvalues⟩ := Option.map_eq_some_iff.mp hrows
  obtain ⟨hroutes, haddresses⟩ := Prod.mk.inj hvalues
  refine ⟨db', h, ?_⟩
  intro husable
  obtain ⟨r, hr, hnext⟩ := List.mem_map.mp (hroutes ▸ List.mem_singleton_self (some "172.18.57.168"))
  obtain ⟨u, nextHop, hnextHop, _, a, ha, _, hip⟩ := husable.routes r hr List.not_mem_nil
  rw [hnext] at hnextHop
  cases hnextHop
  have hmem : "172.18.57.168" ∈ db'.addresses.map (fun a ↦ a.ip) := List.mem_map.mpr ⟨a, ha, hip⟩
  rw [haddresses] at hmem
  revert hmem
  decide

end Unoc.Provisioning
