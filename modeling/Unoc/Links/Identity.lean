import Mathlib.Data.String.Basic
import Mathlib.Data.Sym.Sym2

/-!
# Ids of links

A link is named after the two devices of its interfaces: an interface id without its suffix `-if0`
counts as a device id. `backend/services/links_service.py` orders the two device ids,
`backend/utils.py` orders the interface ids before it strips them, and the bulk insert of
`engine-go/internal/batch/create.go` joins the interface ids as they are.
-/

namespace Unoc.Links

/-! ### The three ids -/

/-- The suffix of a default interface. -/
def defaultSuffix : List Char := "-if0".toList

/-- `iface_id.endswith("-if0")`. -/
def isDefault (interfaceId : String) : Bool := defaultSuffix <:+ interfaceId.toList

/-- `derive_dev`, the same in both functions; `links_service.py:18–19`, `utils.py:38–39`. -/
def deriveDev (interfaceId : String) : String :=
  if isDefault interfaceId then
    String.ofList (interfaceId.toList.take (interfaceId.toList.length - 4))
  else interfaceId

/-- `f"{a}__{b}"`. -/
def joined (a b : String) : String := a ++ "__" ++ b

/-- What `links_service.canonical_link_id` returns. -/
structure LinkIds where
  aId : String
  bId : String
  canonicalId : String
  userOrderId : String
  deriving DecidableEq, Repr

/-- `links_service.canonical_link_id`; `links_service.py:17–31`. -/
def canonicalLinkId (aIfaceId bIfaceId : String) : LinkIds where
  aId := if bIfaceId < aIfaceId then bIfaceId else aIfaceId
  bId := if bIfaceId < aIfaceId then aIfaceId else bIfaceId
  canonicalId :=
    if deriveDev aIfaceId ≤ deriveDev bIfaceId then joined (deriveDev aIfaceId) (deriveDev bIfaceId)
    else joined (deriveDev bIfaceId) (deriveDev aIfaceId)
  userOrderId := joined (deriveDev aIfaceId) (deriveDev bIfaceId)

/-- `utils.canonical_link_id`; `utils.py:37–44`. -/
def utilsCanonicalLinkId (aInterfaceId bInterfaceId : String) : String :=
  if bInterfaceId < aInterfaceId then joined (deriveDev bInterfaceId) (deriveDev aInterfaceId)
  else joined (deriveDev aInterfaceId) (deriveDev bInterfaceId)

/-- The id of a row in `bulkInsertLinks`; `create.go:245`. -/
def bulkInsertLinkId (aInterfaceId bInterfaceId : String) : String :=
  joined aInterfaceId bInterfaceId

/-! ### Order of the arguments -/

private theorem canonicalId_symm (a b : String) :
    (canonicalLinkId a b).canonicalId = (canonicalLinkId b a).canonicalId := by
  simp only [canonicalLinkId]
  rcases lt_trichotomy (deriveDev a) (deriveDev b) with hlt | heq | hlt
  · rw [if_pos hlt.le, if_neg hlt.not_ge]
  · rw [heq]
  · rw [if_neg hlt.not_ge, if_pos hlt.le]

/-- The id only depends on the unordered pair of device ids. -/
theorem canonicalId_of_devices {a b c d : String}
    (h : s(deriveDev a, deriveDev b) = s(deriveDev c, deriveDev d)) :
    (canonicalLinkId a b).canonicalId = (canonicalLinkId c d).canonicalId := by
  rcases Sym2.eq_iff.mp h with ⟨ha, hb⟩ | ⟨ha, hb⟩
  · simp only [canonicalLinkId, ha, hb]
  · rw [canonicalId_symm c d]
    simp only [canonicalLinkId, ha, hb]

/-! ### Ambiguous joins -/

/-- The separator. -/
def separator : List Char := "__".toList

/-- A device id that does not run into a separator: it has none inside and does not end in half of
one. -/
def Plain (id : String) : Prop := ¬ separator <:+: id.toList ∧ ¬ ['_'] <:+ id.toList

/-- Whether an id is plain is read off its text. -/
instance : DecidablePred Plain := fun id ↦
  inferInstanceAs (Decidable (¬ separator <:+: id.toList ∧ ¬ ['_'] <:+ id.toList))

/-- The text of a join. -/
theorem toList_joined (a b : String) : (joined a b).toList = a.toList ++ (separator ++ b.toList) := by
  simp [joined, separator, String.toList_append]

/-- A name that is longer by `t` runs into the separator. -/
private theorem eq_nil_of_plain {x : List Char} {t r r' : List Char}
    (hinside : ¬ separator <:+: x ++ t) (hsuffix : ¬ ['_'] <:+ x ++ t)
    (h : separator ++ r = t ++ (separator ++ r')) : t = [] := by
  rcases t with _ | ⟨c, _ | ⟨c', t⟩⟩
  · rfl
  · -- half of the separator
    have hc : c = '_' := by
      have := congrArg List.head? h
      simpa [separator] using this.symm
    subst hc
    exact absurd ⟨x, rfl⟩ hsuffix
  · have hc : separator = [c, c'] := by
      have := congrArg (List.take 2) h
      simpa [separator] using this
    refine absurd ⟨x, t, ?_⟩ hinside
    rw [hc]
    simp

/-- Plain names are read back from a join. -/
theorem joined_inj {a b c d : String} (ha : Plain a) (hc : Plain c)
    (h : joined a b = joined c d) : a = c ∧ b = d := by
  have hchars := congrArg String.toList h
  rw [toList_joined, toList_joined] at hchars
  have hac : a.toList = c.toList := by
    rcases List.append_eq_append_iff.mp hchars with ⟨t, hct, hrest⟩ | ⟨t, hat, hrest⟩
    · have ht : t = [] := eq_nil_of_plain (hct ▸ hc.1) (hct ▸ hc.2) hrest
      rw [hct, ht, List.append_nil]
    · have ht : t = [] := eq_nil_of_plain (hat ▸ ha.1) (hat ▸ ha.2) hrest
      rw [hat, ht, List.append_nil]
  rw [hac] at hchars
  have hbd := List.append_cancel_left (List.append_cancel_left hchars)
  exact ⟨String.toList_inj.mp hac, String.toList_inj.mp hbd⟩

/-- The id is the join of the two device ids in one of the two orders. -/
theorem canonicalId_eq_or (a b : String) :
    (canonicalLinkId a b).canonicalId = joined (deriveDev a) (deriveDev b) ∨
      (canonicalLinkId a b).canonicalId = joined (deriveDev b) (deriveDev a) := by
  simp only [canonicalLinkId]
  split
  · exact Or.inl rfl
  · exact Or.inr rfl

/-- The id is the join of the two device ids in ascending order. -/
theorem canonicalId_eq (a b : String) : (canonicalLinkId a b).canonicalId =
    joined (min (deriveDev a) (deriveDev b)) (max (deriveDev a) (deriveDev b)) := by
  simp only [canonicalLinkId]
  split
  · next hle => rw [min_eq_left hle, max_eq_right hle]
  · next hle =>
    have hlt := (not_le.mp hle).le
    rw [min_eq_right hlt, max_eq_left hlt]

/-- Pairs whose smaller device ids are plain are read back from the id. -/
theorem devices_of_canonicalId {a b c d : String} (hab : Plain (min (deriveDev a) (deriveDev b)))
    (hcd : Plain (min (deriveDev c) (deriveDev d)))
    (h : (canonicalLinkId a b).canonicalId = (canonicalLinkId c d).canonicalId) :
    s(deriveDev a, deriveDev b) = s(deriveDev c, deriveDev d) := by
  have hpair : ∀ x y : String, s(min x y, max x y) = s(x, y) := by
    intro x y
    rcases le_total x y with hle | hle
    · rw [min_eq_left hle, max_eq_right hle]
    · rw [min_eq_right hle, max_eq_left hle, Sym2.eq_swap]
  rw [canonicalId_eq, canonicalId_eq] at h
  obtain ⟨hmin, hmax⟩ := joined_inj hab hcd h
  rw [← hpair, ← hpair (deriveDev c), hmin, hmax]

/-! ### Identity -/

/-- Stripping tells the interface ids of two pairs apart, and the smaller device id of each pair is
plain. -/
structure Distinguishable (a b c d : String) : Prop where
  plain : Plain (min (deriveDev a) (deriveDev b)) ∧ Plain (min (deriveDev c) (deriveDev d))
  inj : ∀ x ∈ [a, b, c, d], ∀ y ∈ [a, b, c, d], deriveDev x = deriveDev y → x = y

/-- The canonical id is the same for both orders of the arguments and for pairs with the same device
ids; it tells pairs of distinguishable interface ids apart. The id of `utils` is the same where
stripping keeps the order, and that of the bulk insert where the ids are in order and nothing is
stripped. -/
theorem link_identity (a b : String) :
    (canonicalLinkId a b).canonicalId = (canonicalLinkId b a).canonicalId ∧
      (∀ c d, s(deriveDev a, deriveDev b) = s(deriveDev c, deriveDev d) →
        (canonicalLinkId a b).canonicalId = (canonicalLinkId c d).canonicalId) ∧
      (∀ c d, Distinguishable a b c d →
        (canonicalLinkId a b).canonicalId = (canonicalLinkId c d).canonicalId →
          s(a, b) = s(c, d)) ∧
      ((a ≤ b ↔ deriveDev a ≤ deriveDev b) →
        utilsCanonicalLinkId a b = (canonicalLinkId a b).canonicalId) ∧
      (isDefault a = false → isDefault b = false → a ≤ b →
        bulkInsertLinkId a b = (canonicalLinkId a b).canonicalId) := by
  refine ⟨canonicalId_symm a b, fun c d ↦ canonicalId_of_devices, ?_, ?_, ?_⟩
  · intro c d h hid
    have hdevices := devices_of_canonicalId h.plain.1 h.plain.2 hid
    rw [Sym2.eq_iff] at hdevices ⊢
    refine hdevices.imp ?_ ?_
    · rintro ⟨hac, hbd⟩
      exact ⟨h.inj a (by simp) c (by simp) hac, h.inj b (by simp) d (by simp) hbd⟩
    · rintro ⟨had, hbc⟩
      exact ⟨h.inj a (by simp) d (by simp) had, h.inj b (by simp) c (by simp) hbc⟩
  · intro horder
    simp only [utilsCanonicalLinkId, canonicalLinkId, ← horder]
    by_cases hab : a ≤ b
    · rw [if_neg hab.not_gt, if_pos hab]
    · rw [if_pos (not_le.mp hab), if_neg hab]
  · intro ha hb hab
    simp [bulkInsertLinkId, canonicalLinkId, deriveDev, ha, hb, hab]

/-- The default interfaces of two devices. -/
theorem link_identity_default_interfaces :
    s("olt-if0", "ont-if0") = s("ont-if0", "olt-if0") ∧
      utilsCanonicalLinkId "olt-if0" "ont-if0" =
        (canonicalLinkId "olt-if0" "ont-if0").canonicalId ∧
      bulkInsertLinkId "olt" "ont" = (canonicalLinkId "olt" "ont").canonicalId := by
  have hdefault := link_identity "olt-if0" "ont-if0"
  have hplain := link_identity "olt" "ont"
  refine ⟨hdefault.2.2.1 "ont-if0" "olt-if0" ⟨by decide, by decide⟩ hdefault.1, ?_, ?_⟩
  · exact hdefault.2.2.2.1 (by decide)
  · exact hplain.2.2.2.2 (by decide) (by decide) (by decide)

/-- Two pairs of interfaces share the id of their devices; a device id with a separator makes two
joins one; `utils` names the devices `olt` and `olt-1`
in the other order; the bulk insert keeps the suffixes. -/
theorem link_identity_fails :
    (canonicalLinkId "olt" "ont").canonicalId = (canonicalLinkId "olt-if0" "ont-if0").canonicalId ∧
      s("olt", "ont") ≠ s("olt-if0", "ont-if0") ∧
      (canonicalLinkId "a__b" "c").canonicalId = (canonicalLinkId "a" "b__c").canonicalId ∧
      s("a__b", "c") ≠ s("a", "b__c") ∧
      utilsCanonicalLinkId "olt-if0" "olt-1-if0" ≠
        (canonicalLinkId "olt-if0" "olt-1-if0").canonicalId ∧
      bulkInsertLinkId "olt-if0" "ont-if0" ≠ (canonicalLinkId "olt-if0" "ont-if0").canonicalId := by
  refine ⟨by decide, ?_, by decide, ?_, by decide, by decide⟩
  · rw [ne_eq, Sym2.eq_iff]
    decide
  · rw [ne_eq, Sym2.eq_iff]
    decide

end Unoc.Links
