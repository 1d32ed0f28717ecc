import Unoc.Base.Onward
import Unoc.Status.Locality

/-!
# Paths of the L3 trace

The recursion of `trace_l3_path_to_anchor` as a relation whose derivations are its finite runs. Each
run marks one more device, so every trace has one. A trace succeeds if and only if the path that
takes each device to its next hop meets an anchor, and its chain is that path.
-/

namespace Unoc.Status

open Unoc.Base Unoc.Model

variable {t : Topology} {dev p : DeviceView} {visited chain : List String}
  {res res' : DependencyCheckResult} {path : List DeviceView}

/-! ### Finite runs -/

/-- The finite runs of `_step`, with the visited ids, the chain so far and what is returned;
`dependency_resolver_trace.py:106–239`. -/
inductive StepReturns (t : Topology) :
    List String → List String → DeviceView → DependencyCheckResult → Prop where
  | loop {visited chain : List String} {dev : DeviceView} (hv : dev.id ∈ visited) :
      StepReturns t visited chain dev ⟨false, some .loop, chain⟩
  | forcedDown {visited chain : List String} {dev : DeviceView} (hv : dev.id ∉ visited)
      (hdown : dev.forcedDown = true) :
      StepReturns t visited chain dev ⟨false, some .forcedDown, chain⟩
  | anchor {visited chain : List String} {dev : DeviceView} (hv : dev.id ∉ visited)
      (hup : dev.forcedDown = false) (htype : dev.type = .backboneGateway) :
      StepReturns t visited chain dev ⟨true, none, chain⟩
  | noVrf {visited chain : List String} {dev : DeviceView} (hv : dev.id ∉ visited)
      (hup : dev.forcedDown = false) (hvrf : needsVrf dev = true) :
      StepReturns t visited chain dev ⟨false, some .noVrf, chain⟩
  | stuck {visited chain : List String} {dev : DeviceView} {reason : TraceReason}
      (hv : dev.id ∉ visited) (hup : dev.forcedDown = false)
      (htype : dev.type ≠ .backboneGateway) (hvrf : needsVrf dev = false)
      (hnext : nextHop t dev = .error reason) :
      StepReturns t visited chain dev ⟨false, some reason, chain⟩
  | hop {visited chain : List String} {dev peer : DeviceView} {res : DependencyCheckResult}
      (hv : dev.id ∉ visited) (hup : dev.forcedDown = false)
      (htype : dev.type ≠ .backboneGateway) (hvrf : needsVrf dev = false)
      (hnext : nextHop t dev = .ok peer)
      (hpeer : StepReturns t (dev.id :: visited) (chain ++ [peer.id]) peer res) :
      StepReturns t visited chain dev res

private theorem needsVrf_of_gateway (h : dev.type = .backboneGateway) : needsVrf dev = false := by
  simp [needsVrf, h]

/-- A run is what the recursion computes with enough fuel. -/
theorem StepReturns.exists_fuel (h : StepReturns t visited chain dev res) :
    ∃ n, ∀ fuel, n ≤ fuel → traceStep t fuel visited chain dev = res := by
  induction h with
  | loop hv =>
    refine ⟨1, fun fuel hfuel ↦ ?_⟩
    obtain ⟨fuel, rfl⟩ := Nat.exists_eq_add_of_le' hfuel
    simp [traceStep, hv]
  | forcedDown hv hdown =>
    refine ⟨1, fun fuel hfuel ↦ ?_⟩
    obtain ⟨fuel, rfl⟩ := Nat.exists_eq_add_of_le' hfuel
    simp [traceStep, hv, hdown]
  | anchor hv hup htype =>
    refine ⟨1, fun fuel hfuel ↦ ?_⟩
    obtain ⟨fuel, rfl⟩ := Nat.exists_eq_add_of_le' hfuel
    simp [traceStep, hv, hup, htype]
  | @noVrf visited chain dev hv hup hvrf =>
    refine ⟨1, fun fuel hfuel ↦ ?_⟩
    obtain ⟨fuel, rfl⟩ := Nat.exists_eq_add_of_le' hfuel
    have htype : dev.type ≠ .backboneGateway := by
      intro htype
      rw [needsVrf_of_gateway htype] at hvrf
      cases hvrf
    simp [traceStep, hv, hup, htype, hvrf]
  | stuck hv hup htype hvrf hnext =>
    refine ⟨1, fun fuel hfuel ↦ ?_⟩
    obtain ⟨fuel, rfl⟩ := Nat.exists_eq_add_of_le' hfuel
    simp [traceStep, hv, hup, htype, hvrf, hnext]
  | hop hv hup htype hvrf hnext _ ih =>
    obtain ⟨n, hn⟩ := ih
    refine ⟨n + 1, fun fuel hfuel ↦ ?_⟩
    obtain ⟨fuel, rfl⟩ := Nat.exists_eq_add_of_le' (Nat.le_of_add_left_le hfuel)
    simp only [traceStep, hv, hup, htype, hvrf, hnext, if_false, Bool.false_eq_true]
    exact hn fuel (Nat.le_of_add_le_add_right hfuel)

/-- A run returns one result. -/
theorem StepReturns.unique (h : StepReturns t visited chain dev res)
    (h' : StepReturns t visited chain dev res') : res = res' := by
  obtain ⟨n, hn⟩ := h.exists_fuel
  obtain ⟨n', hn'⟩ := h'.exists_fuel
  rw [← hn _ (Nat.le_max_left n n'), hn' _ (Nat.le_max_right n n')]

/-- With fuel for each device that is not visited the recursion comes to an end. -/
theorem stepReturns_traceStep (fuel : Nat) : ∀ {visited chain : List String} {dev : DeviceView},
    dev ∈ t.devices → visited.Nodup → visited ⊆ t.devices.map DeviceView.id →
      t.devices.length < fuel + visited.length →
        StepReturns t visited chain dev (traceStep t fuel visited chain dev) := by
  induction fuel with
  | zero =>
    intro visited chain dev _ hnodup hsub hfuel
    have hle := (List.subperm_of_subset hnodup hsub).length_le
    rw [List.length_map] at hle
    omega
  | succ fuel ih =>
    intro visited chain dev hdev hnodup hsub hfuel
    unfold traceStep
    split_ifs with hv hdown htype hvrf
    · exact .loop hv
    · exact .forcedDown hv hdown
    · exact .anchor hv (Bool.eq_false_of_not_eq_true hdown) htype
    · exact .noVrf hv (Bool.eq_false_of_not_eq_true hdown) hvrf
    · have hup := Bool.eq_false_of_not_eq_true hdown
      have hvrf := Bool.eq_false_of_not_eq_true hvrf
      cases hnext : nextHop t dev with
      | error reason => exact .stuck hv hup htype hvrf hnext
      | ok peer =>
        refine .hop hv hup htype hvrf hnext (ih (peer_of_nextHop hnext).mem ?_ ?_ ?_)
        · exact List.nodup_cons.mpr ⟨hv, hnodup⟩
        · exact List.cons_subset.mpr ⟨List.mem_map_of_mem hdev, hsub⟩
        · rw [List.length_cons]
          omega

/-! ### The path of a trace -/

/-- The device that a trace goes on to. -/
def traceNext (t : Topology) (dev : DeviceView) : Option DeviceView :=
  if dev.forcedDown ∨ needsVrf dev then none else (nextHop t dev).toOption

/-- A backbone gateway that is not forced DOWN. -/
def IsAnchor (dev : DeviceView) : Prop := dev.forcedDown = false ∧ dev.type = .backboneGateway

/-- The path of next hops from a device to the first anchor. -/
abbrev TracePath (t : Topology) : DeviceView → List DeviceView → Prop :=
  Onward (traceNext t) IsAnchor

/-- A trace goes on from a device that has no VRF of its own to its next hop. -/
theorem traceNext_eq_some :
    traceNext t dev = some p ↔
      dev.forcedDown = false ∧ needsVrf dev = false ∧ nextHop t dev = .ok p := by
  unfold traceNext
  cases dev.forcedDown with
  | true => simp
  | false =>
    cases needsVrf dev with
    | true => simp
    | false =>
      cases nextHop t dev with
      | error reason => simp [Except.toOption]
      | ok peer => simp [Except.toOption]

/-- The devices of a path are rows. -/
theorem TracePath.mem_devices (h : TracePath t dev path) (hdev : dev ∈ t.devices) :
    ∀ x ∈ path, x ∈ t.devices :=
  h.forall_mem hdev (fun _ _ _ hstep ↦ (peer_of_nextHop (traceNext_eq_some.mp hstep).2.2).mem)

/-- A traced path meets no device twice. -/
theorem TracePath.nodup_ids (h : TracePath t dev path) (hdev : dev ∈ t.devices) :
    (path.map DeviceView.id).Nodup :=
  Onward.nodup h |>.map_on fun x hx y hy heq ↦
    Topology.device_unique (h.mem_devices hdev x hx) (h.mem_devices hdev y hy) heq

/-- A run that succeeds extends its chain along the path. -/
theorem StepReturns.tracePath (h : StepReturns t visited chain dev res) (hok : res.ok = true) :
    ∃ rest, TracePath t dev (dev :: rest) ∧
      res = ⟨true, none, chain ++ rest.map DeviceView.id⟩ := by
  induction h with
  | loop | forcedDown | noVrf | stuck => cases hok
  | anchor hv hup htype => exact ⟨[], .goal ⟨hup, htype⟩, by simp⟩
  | @hop visited chain dev peer res hv hup htype hvrf hnext _ ih =>
    obtain ⟨rest, hpath, rfl⟩ := ih hok
    refine ⟨peer :: rest, .step (fun h ↦ htype h.2) ?_ hpath, by simp⟩
    exact traceNext_eq_some.mpr ⟨hup, hvrf, hnext⟩

/-- A path that meets no visited device is a run. -/
theorem TracePath.stepReturns (h : TracePath t dev path) :
    ∀ {visited chain : List String}, (path.map DeviceView.id).Nodup →
      (∀ x ∈ path, x.id ∉ visited) →
        StepReturns t visited chain dev ⟨true, none, chain ++ path.tail.map DeviceView.id⟩ := by
  induction h with
  | @goal dev h =>
    intro visited chain _ hv
    rw [List.tail_cons, List.map_nil, List.append_nil]
    exact .anchor (hv dev List.mem_cons_self) h.1 h.2
  | @step dev peer path hgoal hnext hpath ih =>
    intro visited chain hnodup hv
    obtain ⟨hup, hvrf, hhop⟩ := traceNext_eq_some.mp hnext
    obtain ⟨hdev, hnodup⟩ := List.nodup_cons.mp hnodup
    refine .hop (hv dev List.mem_cons_self) hup (fun htype ↦ hgoal ⟨hup, htype⟩) hvrf hhop ?_
    have hvisited : ∀ x ∈ path, x.id ∉ dev.id :: visited := by
      intro x hx hmem
      rcases List.mem_cons.mp hmem with heq | hmem
      · exact hdev (heq ▸ List.mem_map_of_mem hx)
      · exact hv x (List.mem_cons_of_mem dev hx) hmem
    obtain ⟨rest, rfl⟩ := hpath.exists_cons
    have hrun : StepReturns t (dev.id :: visited) (chain ++ [peer.id]) peer
        ⟨true, none, chain ++ [peer.id] ++ rest.map DeviceView.id⟩ := ih hnodup hvisited
    simpa using hrun

/-- The trace of a device returns as its first step says. -/
theorem stepReturns_traceL3PathToAnchor (hdev : dev ∈ t.devices) :
    StepReturns t [] [dev.id] dev (traceStep t (t.devices.length + 2) [] [dev.id] dev) :=
  stepReturns_traceStep _ hdev List.nodup_nil (List.nil_subset _) (by omega)

/-- A trace that succeeds reports the path to its anchor. -/
theorem tracePath_of_ok (hdev : dev ∈ t.devices) (hok : (traceL3PathToAnchor t dev).ok = true) :
    ∃ path, TracePath t dev path ∧
      traceL3PathToAnchor t dev = ⟨true, none, path.map DeviceView.id⟩ := by
  unfold traceL3PathToAnchor at hok ⊢
  split_ifs at hok ⊢
  obtain ⟨rest, hpath, hres⟩ := (stepReturns_traceL3PathToAnchor hdev).tracePath hok
  exact ⟨dev :: rest, hpath, by rw [hres]; rfl⟩

/-- A path to an anchor makes the trace succeed. -/
theorem TracePath.trace_eq (h : TracePath t dev path) (hdev : dev ∈ t.devices) :
    traceL3PathToAnchor t dev = ⟨true, none, path.map DeviceView.id⟩ := by
  have hlive : dev.forcedDown = false ∧ needsVrf dev = false := by
    cases h with
    | goal h => exact ⟨h.1, needsVrf_of_gateway h.2⟩
    | step _ hnext _ =>
      obtain ⟨hup, hvrf, _⟩ := traceNext_eq_some.mp hnext
      exact ⟨hup, hvrf⟩
  have hrun : StepReturns t [] [dev.id] dev ⟨true, none, [dev.id] ++ path.tail.map DeviceView.id⟩ :=
    h.stepReturns (h.nodup_ids hdev) (fun _ _ ↦ List.not_mem_nil)
  obtain ⟨rest, rfl⟩ := h.exists_cons
  unfold traceL3PathToAnchor
  rw [hlive.1, hlive.2, (stepReturns_traceL3PathToAnchor hdev).unique hrun]
  rfl

/-- A trace succeeds exactly if there is a traced path. -/
theorem trace_ok_iff (hdev : dev ∈ t.devices) :
    (traceL3PathToAnchor t dev).ok = true ↔ ∃ path, TracePath t dev path := by
  constructor
  · intro hok
    obtain ⟨path, hpath, _⟩ := tracePath_of_ok hdev hok
    exact ⟨path, hpath⟩
  · rintro ⟨path, hpath⟩
    rw [hpath.trace_eq hdev]

end Unoc.Status
