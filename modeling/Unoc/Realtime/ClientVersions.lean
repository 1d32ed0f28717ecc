import Mathlib.Algebra.Order.Ring.Unbundled.Rat
import Unoc.Base.Dict

/-!
# Versions recorded by the client

The stores of the client keep the `topo_version` of the last event that they applied to an object, in
a plain JavaScript object, and drop an event whose version is older;
`unoc-frontend-v2/src/stores/devicesStore.ts:46–47`, `linksStore.ts:13–14`. An assignment of a number
to `__proto__` leaves nothing behind, so that no version is ever recorded for this id.
-/

namespace Unoc.Realtime

open Unoc.Base

/-- `Record<string, number>`. -/
structure LastTopo where
  own : Dict String ℚ := ∅
  own_proto : own.lookup "__proto__" = none := by rfl

namespace LastTopo

/-- The empty map has no prototype entry. -/
theorem own_proto_empty : (∅ : Dict String ℚ).lookup "__proto__" = none := rfl

/-- `last[id]`, if it is a number: no property of `Object.prototype` is. -/
def read (last : LastTopo) (id : String) : Option ℚ := last.own.lookup id

/-- `last[id] = topo`. -/
def assign (last : LastTopo) (id : String) (topo : ℚ) : LastTopo :=
  if h : id = "__proto__" then last
  else
    { own := last.own.insert id topo
      own_proto := (AList.lookup_insert_ne (Ne.symm h)).trans last.own_proto }

/-- `topo != null && typeof last === 'number' && topo < last`. -/
def IsStale (last : LastTopo) (id : String) (topo : Option ℚ) : Prop :=
  ∃ v ∈ topo, ∃ w ∈ last.read id, v < w

/-- Whether a version is stale compares it with the last one. -/
instance (last : LastTopo) (id : String) (topo : Option ℚ) : Decidable (last.IsStale id topo) :=
  match topo, h : last.read id with
  | none, _ => isFalse (fun ⟨_, hv, _⟩ ↦ nomatch hv)
  | some _, none => isFalse (fun ⟨_, _, _, hw, _⟩ ↦ nomatch h.symm.trans hw)
  | some v, some w =>
    decidable_of_iff (v < w) ⟨fun hlt ↦ ⟨v, rfl, w, h, hlt⟩, fun ⟨_, hv, _, hw, hlt⟩ ↦
      Option.some.inj hv ▸ Option.some.inj (h.symm.trans hw) ▸ hlt⟩

/-- `if (topo != null) last[id] = topo`. -/
def note (last : LastTopo) (id : String) (topo : Option ℚ) : LastTopo :=
  match topo with
  | none => last
  | some v => last.assign id v

private theorem read_proto (last : LastTopo) : last.read "__proto__" = none := last.own_proto

/-- Nothing is stale where no version can be recorded. -/
theorem not_isStale_proto (last : LastTopo) (topo : Option ℚ) :
    ¬ last.IsStale "__proto__" topo := by
  rintro ⟨v, _, w, hw, _⟩
  rw [read_proto] at hw
  cases hw

/-- A noted version is read back. -/
theorem read_note {last : LastTopo} {id : String} (hid : id ≠ "__proto__") (topo : Option ℚ) :
    (last.note id topo).read id = topo.or (last.read id) := by
  cases topo with
  | none => rfl
  | some v => simp [note, assign, hid, read]

/-- After a version that is not stale has been recorded, a version is stale if it was before or is
lower than the recorded one. -/
theorem isStale_note {last : LastTopo} {id : String} (hid : id ≠ "__proto__") {topo : Option ℚ}
    (hfresh : ¬ last.IsStale id topo) (topo' : Option ℚ) :
    (last.note id topo).IsStale id topo' ↔
      last.IsStale id topo' ∨ ∃ v ∈ topo', ∃ w ∈ topo, v < w := by
  cases topo with
  | none => simp [note]
  | some w =>
    have hread : (last.note id (some w)).read id = some w := by simp [read_note hid]
    constructor
    · rintro ⟨v, hv, w', hw', hlt⟩
      rw [hread, Option.mem_some_iff] at hw'
      exact Or.inr ⟨v, hv, w, rfl, hw' ▸ hlt⟩
    · rintro (⟨v, hv, r, hr, hlt⟩ | ⟨v, hv, w', hw', hlt⟩)
      · have hle : r ≤ w := by
          by_contra hgt
          exact hfresh ⟨w, rfl, r, hr, not_le.mp hgt⟩
        exact ⟨v, hv, w, hread, hlt.trans_le hle⟩
      · rw [Option.mem_some_iff] at hw'
        exact ⟨v, hv, w, hread, hw' ▸ hlt⟩

end LastTopo

end Unoc.Realtime
