import Unoc.Subscriber.FirstPass

/-!
# The second pass of subscriber aggregation

An AON access port serves the first of its candidates. The pass visits each port with candidates
once; a port only rewrites the decisions of its own candidates, because interface ids are unique,
and only adds to the node of its own switch.
-/

namespace Unoc.Subscriber

open Unoc.Base Unoc.Model

/-- The candidates of each AON port. -/
abbrev Candidates := Dict (String × String) (List String)

/-- The sorted candidates of a port. -/
def Candidates.sorted (c : Candidates) (k : String × String) : List String :=
  sortIds ((c.lookup k).getD [])

/-! ### One port -/

variable (c : Candidates)

/-- What a port does to a decision. -/
def arbitrateAt (d : Decision) (k : String × String) : Decision :=
  match c.sorted k with
  | [] => d
  | countedId :: others => arbitrate k.2 countedId (countedId :: others) d

/-- What a port does to the occupancy. -/
def occupyAt (m : Dict (String × String) Nat) (k : String × String) : Dict (String × String) Nat :=
  match c.sorted k with
  | [] => m
  | _ :: _ => m.insert k 1

/-- What a port does to a node. -/
def gainAt (n : Node) (k : String × String) : Node :=
  match c.sorted k with
  | [] => n
  | countedId :: _ => if n.id = k.1 then gainAonSubscriber countedId n else n

/-- The ports of a switch with candidates, in visiting order. -/
def portsOf (a : String) : List (String × String) :=
  (sortedSet ((c.keys.filter (fun k ↦ k.1 = a)).map Prod.snd)).map (fun p ↦ (a, p))

/-- The switches with candidates, in visiting order. -/
def anchorsOf : List String := sortedSet (c.keys.map Prod.fst)

/-- All ports with candidates, in visiting order. -/
def portKeys : List (String × String) := (anchorsOf c).flatMap (portsOf c)

/-- What a switch does to a node. -/
def settleAt (n : Node) (a : String) : Node :=
  let n := (portsOf c a).foldl (gainAt c) n
  if n.id = a then { n with subscribers := n.subscriberIds.length } else n

variable {c}

/-- The ports of an anchor among the candidates. -/
theorem mem_portsOf {a : String} {k : String × String} : k ∈ portsOf c a ↔ k.1 = a ∧ k ∈ c := by
  simp only [portsOf, List.mem_map, mem_sortedSet, List.mem_filter, decide_eq_true_eq]
  constructor
  · rintro ⟨p, ⟨k', ⟨hk', rfl⟩, rfl⟩, rfl⟩
    exact ⟨rfl, AList.mem_keys.mpr hk'⟩
  · rintro ⟨rfl, hk⟩
    exact ⟨k.2, ⟨k, ⟨AList.mem_keys.mp hk, rfl⟩, rfl⟩, rfl⟩

/-- The ports of an anchor are distinct. -/
theorem nodup_portsOf (a : String) : (portsOf c a).Nodup :=
  (nodup_sortedSet _).map (fun _ _ h ↦ (Prod.ext_iff.mp h).2)

/-- The anchors are distinct. -/
theorem nodup_anchorsOf : (anchorsOf c).Nodup := nodup_sortedSet _

/-- The pass visits the ports with candidates. -/
theorem mem_portKeys {k : String × String} : k ∈ portKeys c ↔ k ∈ c := by
  simp only [portKeys, anchorsOf, List.mem_flatMap, mem_sortedSet, mem_portsOf, List.mem_map]
  constructor
  · rintro ⟨a, _, _, hk⟩
    exact hk
  · intro hk
    exact ⟨k.1, ⟨k, AList.mem_keys.mp hk, rfl⟩, rfl, hk⟩

/-- The pass visits each port once. -/
theorem nodup_portKeys : (portKeys c).Nodup := by
  apply List.nodup_flatMap.mpr
  constructor
  · intro a _
    exact nodup_portsOf a
  · apply (nodup_sortedSet _).imp
    intro a b hab k ha hb
    exact hab ((mem_portsOf.mp ha).1.symm.trans (mem_portsOf.mp hb).1)

/-! ### The loops, field by field -/

/-- The loop body for the ports `ks` ran on `t` and treated each node by `f`. -/
structure Sweep (c : Candidates) (ks : List (String × String)) (f : Node → Node) (t t' : Tally) :
    Prop where
  perNode : t'.perNode = t.perNode.map f
  decisions : t'.decisions = t.decisions.map (fun d ↦ ks.foldl (arbitrateAt c) d)
  aonAccessOccupancy : t'.aonAccessOccupancy = ks.foldl (occupyAt c) t.aonAccessOccupancy
  aonPortCandidates : t'.aonPortCandidates = c
  ponOccupancy : t'.ponOccupancy = t.ponOccupancy

private theorem Sweep.refl {t : Tally} (hc : t.aonPortCandidates = c) : Sweep c [] id t t :=
  ⟨by simp, by simp, rfl, hc, rfl⟩

private theorem Sweep.trans {ks ks' : List (String × String)} {f f' : Node → Node}
    {t t' t'' : Tally}
    (h : Sweep c ks f t t') (h' : Sweep c ks' f' t' t'') :
    Sweep c (ks ++ ks') (f' ∘ f) t t'' where
  perNode := by rw [h'.perNode, h.perNode, List.map_map]
  decisions := by
    rw [h'.decisions, h.decisions, List.map_map]
    simp only [Function.comp_def, List.foldl_append]
  aonAccessOccupancy := by
    rw [h'.aonAccessOccupancy, h.aonAccessOccupancy, List.foldl_append]
  aonPortCandidates := h'.aonPortCandidates
  ponOccupancy := h'.ponOccupancy.trans h.ponOccupancy

private theorem sweep_tallyPort {t : Tally} (hc : t.aonPortCandidates = c) (a p : String) :
    Sweep c [(a, p)] (fun n ↦ gainAt c n (a, p)) t (tallyPort a t p) := by
  unfold tallyPort
  cases hs : c.sorted (a, p) with
  | nil =>
    have hs' : sortIds ((t.aonPortCandidates.lookup (a, p)).getD []) = [] := by rwa [hc]
    rw [hs']
    exact ⟨by simp [gainAt, hs], by simp [arbitrateAt, hs], by simp [occupyAt, hs], hc, rfl⟩
  | cons i is =>
    have hs' : sortIds ((t.aonPortCandidates.lookup (a, p)).getD []) = i :: is := by rwa [hc]
    rw [hs']
    exact ⟨by simp [gainAt, hs, updateNode], by simp [arbitrateAt, hs], by simp [occupyAt, hs], hc,
      rfl⟩

private theorem sweep_ports (a : String) (ps : List String) {t : Tally}
    (hc : t.aonPortCandidates = c) :
    Sweep c (ps.map (fun p ↦ (a, p))) (fun n ↦ (ps.map (fun p ↦ (a, p))).foldl (gainAt c) n) t
      (ps.foldl (tallyPort a) t) := by
  induction ps generalizing t with
  | nil => exact Sweep.refl hc
  | cons p ps ih =>
    have hhead := sweep_tallyPort hc a p
    exact hhead.trans (ih hhead.aonPortCandidates)

private theorem sweep_tallyAnchor {t : Tally} (hc : t.aonPortCandidates = c) (a : String) :
    Sweep c (portsOf c a) (fun n ↦ settleAt c n a) t (tallyAnchor t a) := by
  have h := sweep_ports a (candidatePorts t a) hc
  have hports : (candidatePorts t a).map (fun p ↦ (a, p)) = portsOf c a := by
    simp [candidatePorts, portsOf, hc]
  rw [hports] at h
  refine ⟨?_, h.decisions, h.aonAccessOccupancy, h.aonPortCandidates, h.ponOccupancy⟩
  simp [tallyAnchor, h.perNode, updateNode, settleAt]

private theorem sweep_anchors (as : List String) {t : Tally} (hc : t.aonPortCandidates = c) :
    Sweep c (as.flatMap (portsOf c)) (fun n ↦ as.foldl (settleAt c) n) t
      (as.foldl tallyAnchor t) := by
  induction as generalizing t with
  | nil => exact Sweep.refl hc
  | cons a as ih =>
    have hhead := sweep_tallyAnchor hc a
    exact hhead.trans (ih hhead.aonPortCandidates)

/-- The second pass runs the loop body once for each port with candidates. -/
theorem sweep_secondPass (t : Tally) :
    Sweep t.aonPortCandidates (portKeys t.aonPortCandidates)
      (fun n ↦ (anchorsOf t.aonPortCandidates).foldl (settleAt t.aonPortCandidates) n)
      t (secondPass t) := sweep_anchors _ rfl

/-! ### Occupancy -/

/-- Every port with candidates ends with one subscriber. -/
theorem lookup_foldl_occupyAt (hne : ∀ k ∈ c, c.sorted k ≠ []) (ks : List (String × String))
    (hks : ∀ k ∈ ks, k ∈ c) (m : Dict (String × String) Nat) (k : String × String) :
    (ks.foldl (occupyAt c) m).lookup k = if k ∈ ks then some 1 else m.lookup k := by
  induction ks generalizing m with
  | nil => simp
  | cons k' ks ih =>
    have hinsert : occupyAt c m k' = m.insert k' 1 := by
      unfold occupyAt
      split
      · next h => exact absurd h (hne k' (hks k' List.mem_cons_self))
      · rfl
    rw [List.foldl_cons, ih (fun x hx ↦ hks x (List.mem_cons_of_mem k' hx)), hinsert]
    by_cases hmem : k ∈ ks
    · simp [hmem]
    · by_cases hk : k = k'
      · subst hk
        simp
      · simp [hmem, hk, AList.lookup_insert_ne hk]

/-! ### Decisions -/

private theorem foldl_eq_self {α β : Type} {f : β → α → β} {y : β} {xs : List α}
    (h : ∀ x ∈ xs, f y x = y) : xs.foldl f y = y := by
  induction xs with
  | nil => rfl
  | cons x xs ih =>
    rw [List.foldl_cons, h x List.mem_cons_self]
    exact ih (fun z hz ↦ h z (List.mem_cons_of_mem x hz))

/-- A decision of another port, or of another domain, is left alone. -/
theorem arbitrateAt_of_other {d : Decision} {k : String × String}
    (h : d.domain ≠ some .aon ∨ d.anchorInterfaceId ≠ some k.2) : arbitrateAt c d k = d := by
  unfold arbitrateAt
  split
  · rfl
  · unfold arbitrate
    rw [if_pos h]

@[simp]
private theorem arbitrateAt_anchorInterfaceId (d : Decision) (k : String × String) :
    (arbitrateAt c d k).anchorInterfaceId = d.anchorInterfaceId := by
  unfold arbitrateAt arbitrate
  grind

/-- A decision is rewritten by its own port only. -/
theorem foldl_arbitrateAt {d : Decision} {k : String × String} {ks : List (String × String)}
    (hd : d.anchorInterfaceId = some k.2) (hnd : ks.Nodup) (hk : k ∈ ks)
    (hinj : ∀ k' ∈ ks, k'.2 = k.2 → k' = k) : ks.foldl (arbitrateAt c) d = arbitrateAt c d k := by
  obtain ⟨before, after, rfl⟩ := List.append_of_mem hk
  have hne : ∀ k' ∈ before ++ after, k'.2 ≠ k.2 := by
    intro k' hk' heq
    have hkk : k' = k := hinj k' (by simp at hk' ⊢; tauto) heq
    rw [List.nodup_middle, List.nodup_cons] at hnd
    exact hnd.1 (hkk ▸ hk')
  have hbefore : before.foldl (arbitrateAt c) d = d := by
    apply foldl_eq_self
    intro k' hk'
    apply arbitrateAt_of_other
    right
    rw [hd]
    intro h
    exact hne k' (List.mem_append_left _ hk') (Option.some.inj h).symm
  rw [List.foldl_append, hbefore, List.foldl_cons]
  apply foldl_eq_self
  intro k' hk'
  apply arbitrateAt_of_other
  right
  rw [arbitrateAt_anchorInterfaceId, hd]
  intro h
  exact hne k' (List.mem_append_right _ hk') (Option.some.inj h).symm

/-! ### Nodes -/

/-- The candidate that each port serves. -/
def Candidates.winner (c : Candidates) (k : String × String) : Option String := (c.sorted k).head?

private theorem gainAt_eq (n : Node) (k : String × String) :
    gainAt c n k = match c.winner k with
      | none => n
      | some id => if n.id = k.1 then gainAonSubscriber id n else n := by
  unfold gainAt Candidates.winner
  cases c.sorted k <;> rfl

@[simp]
private theorem gainAt_id (n : Node) (k : String × String) : (gainAt c n k).id = n.id := by
  unfold gainAt gainAonSubscriber
  grind

@[simp]
private theorem gainAt_type (n : Node) (k : String × String) : (gainAt c n k).type = n.type := by
  unfold gainAt gainAonSubscriber
  grind

private theorem foldl_gainAt_id (ks : List (String × String)) (n : Node) :
    (ks.foldl (gainAt c) n).id = n.id := by
  induction ks generalizing n with
  | nil => rfl
  | cons k ks ih => rw [List.foldl_cons, ih, gainAt_id]

private theorem foldl_gainAt_type (ks : List (String × String)) (n : Node) :
    (ks.foldl (gainAt c) n).type = n.type := by
  induction ks generalizing n with
  | nil => rfl
  | cons k ks ih => rw [List.foldl_cons, ih, gainAt_type]

/-- Settling keeps the id of a node. -/
@[simp]
theorem settleAt_id (n : Node) (a : String) : (settleAt c n a).id = n.id := by
  have h := foldl_gainAt_id (c := c) (portsOf c a) n
  unfold settleAt
  grind

/-- Settling keeps the type of a node. -/
@[simp]
theorem settleAt_type (n : Node) (a : String) : (settleAt c n a).type = n.type := by
  have h := foldl_gainAt_type (c := c) (portsOf c a) n
  unfold settleAt
  grind

/-- A switch only changes its own node. -/
theorem settleAt_of_ne {n : Node} {a : String} (h : n.id ≠ a) : settleAt c n a = n := by
  have hstay : (portsOf c a).foldl (gainAt c) n = n := by
    apply foldl_eq_self
    intro k hk
    have hka := (mem_portsOf.mp hk).1
    unfold gainAt
    split
    · rfl
    · rw [if_neg (by rw [hka]; exact h)]
  unfold settleAt
  rw [hstay]
  exact if_neg h

/-- A node is settled by its own switch, if that has candidates. -/
theorem foldl_settleAt (n : Node) {as : List String} (has : as.Nodup) :
    as.foldl (settleAt c) n = if n.id ∈ as then settleAt c n n.id else n := by
  by_cases hmem : n.id ∈ as
  · obtain ⟨before, after, hsplit⟩ := List.append_of_mem hmem
    rw [hsplit, List.nodup_middle, List.nodup_cons] at has
    have hne : ∀ a ∈ before ++ after, n.id ≠ a := fun a ha h ↦ has.1 (h ▸ ha)
    have hbefore : before.foldl (settleAt c) n = n :=
      foldl_eq_self (fun a ha ↦ settleAt_of_ne (hne a (List.mem_append_left _ ha)))
    rw [if_pos hmem, hsplit, List.foldl_append, hbefore, List.foldl_cons]
    apply foldl_eq_self
    intro a ha
    apply settleAt_of_ne
    rw [settleAt_id]
    exact hne a (List.mem_append_right _ ha)
  · rw [if_neg hmem]
    apply foldl_eq_self
    intro a ha
    apply settleAt_of_ne
    intro h
    exact hmem (h ▸ ha)

private theorem foldl_gainAt (ks : List (String × String)) (n : Node) (ids : List String)
    (hks : ∀ k ∈ ks, n.id = k.1) (hn : n.subscriberIds.Perm ids)
    (hdom : n.subscriberDomain = if ids = [] then none else some .aon)
    (hnd : (ids ++ ks.filterMap c.winner).Nodup) :
    (ks.foldl (gainAt c) n).subscriberIds.Perm (ids ++ ks.filterMap c.winner) ∧
      (ks.foldl (gainAt c) n).subscriberDomain =
        if ids ++ ks.filterMap c.winner = [] then none else some .aon := by
  induction ks generalizing n ids with
  | nil => simpa using ⟨hn, hdom⟩
  | cons k ks ih =>
    rw [List.foldl_cons]
    have hrest : ∀ k' ∈ ks, (gainAt c n k).id = k'.1 := by
      intro k' hk'
      rw [gainAt_id]
      exact hks k' (List.mem_cons_of_mem k hk')
    have hnk := hks k List.mem_cons_self
    cases hw : c.winner k with
    | none =>
      have hstay : gainAt c n k = n := by simp [gainAt_eq, hw]
      rw [hstay] at hrest ⊢
      rw [List.filterMap_cons_none hw] at hnd ⊢
      exact ih n ids hrest hn hdom hnd
    | some id =>
      rw [List.filterMap_cons_some hw, List.append_cons] at hnd ⊢
      have hgain : gainAt c n k = gainAonSubscriber id n := by simp [gainAt_eq, hw, hnk]
      have hnew : id ∉ n.subscriberIds := by
        intro hmem
        have hnd' := (List.nodup_append.mp hnd).1
        exact (List.nodup_append.mp hnd').2.2 id (hn.mem_iff.mp hmem) id (by simp) rfl
      have hperm : (gainAt c n k).subscriberIds.Perm (ids ++ [id]) := by
        rw [hgain]
        unfold gainAonSubscriber
        simp only [if_neg hnew]
        exact (perm_sortIds _).trans (hn.append_right [id])
      apply ih _ _ hrest hperm _ hnd
      rw [hgain]
      simp [gainAonSubscriber]

/-- A settled node lists the CPEs that its ports serve. -/
theorem lists_settleAt {n : Node} (hempty : n.subscriberIds = [])
    (hnone : n.subscriberDomain = none) (hnd : ((portsOf c n.id).filterMap c.winner).Nodup) :
    Lists .aon ((portsOf c n.id).filterMap c.winner) (settleAt c n n.id) := by
  have hks : ∀ k ∈ portsOf c n.id, n.id = k.1 := fun k hk ↦ (mem_portsOf.mp hk).1.symm
  obtain ⟨hperm, hdom⟩ := foldl_gainAt (portsOf c n.id) n [] hks (by rw [hempty])
    (by rw [hnone]; rfl) (by simpa using hnd)
  have hid := foldl_gainAt_id (c := c) (portsOf c n.id) n
  unfold settleAt
  simp only [hid, if_true]
  exact ⟨hperm, hperm.length_eq, hdom⟩

end Unoc.Subscriber
