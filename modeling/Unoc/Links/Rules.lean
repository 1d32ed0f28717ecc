import Unoc.Status.Topology

/-!
# Link types

Which device types a new link may join, with the class it gets: `backend/constants/link_types.py`
and `backend/services/link_classification_service.py`. The table differs from the one in
`link_rules.py` in the order of its rules and in the class of an uplink.
-/

namespace Unoc.Links

open Unoc.Model
open Unoc.Status (routerClass passiveInline ontClass matchEither LinkClass classifyLink
  allowedMediaCodesForClass)

/-! ### Errors -/

/-- `DeviceType.name`; `models_pkg/device.py:11–25`. -/
def typeName : DeviceType → String
  | .backboneGateway => "BACKBONE_GATEWAY"
  | .pop => "POP"
  | .coreSite => "CORE_SITE"
  | .coreRouter => "CORE_ROUTER"
  | .edgeRouter => "EDGE_ROUTER"
  | .aonSwitch => "AON_SWITCH"
  | .olt => "OLT"
  | .ont => "ONT"
  | .aonCpe => "AON_CPE"
  | .splitter => "SPLITTER"
  | .hop => "HOP"
  | .nvt => "NVT"
  | .odf => "ODF"
  | .businessOnt => "BUSINESS_ONT"

/-- What a request raises: an `HTTPException`, or an error of the database session. -/
inductive LinkError where
  | http (statusCode : Nat) (detail : String)
  | database
  deriving DecidableEq, Repr

/-- The error codes that link creation raises, all with status 400; `errors.py:19–25,33–40`. -/
inductive ErrorCode where
  | invalidLinkType
  | popLinkDisallowed
  | linkInvalidPairing
  | linkInvalidUpstream
  | linkMultipleUpstreams
  deriving DecidableEq, Repr

/-- `code.value`. -/
def ErrorCode.value : ErrorCode → String
  | .invalidLinkType => "INVALID_LINK_TYPE"
  | .popLinkDisallowed => "POP_LINK_DISALLOWED"
  | .linkInvalidPairing => "LINK_INVALID_PAIRING"
  | .linkInvalidUpstream => "LINK_INVALID_UPSTREAM"
  | .linkMultipleUpstreams => "LINK_MULTIPLE_UPSTREAMS"

/-- What `raise_error` raises; `errors.py:44–49`. -/
def raiseError (code : ErrorCode) (detailSuffix : String) : LinkError :=
  .http 400 (code.value ++ " " ++ detailSuffix)

/-- A guard that raises. -/
def failIf (cond : Bool) (error : LinkError) : Except LinkError Unit :=
  if cond then .error error else .ok ()

/-- A guard passes where its condition fails. -/
@[simp] theorem failIf_eq_ok {cond : Bool} {error : LinkError} {u : Unit} :
    failIf cond error = .ok u ↔ cond = false := by
  cases cond <;> simp [failIf]

/-- Two checks in a row pass if both do. -/
theorem bind_eq_ok {ε α β : Type} {x : Except ε α} {f : α → Except ε β} {b : β} :
    (x >>= f) = .ok b ↔ ∃ a, x = .ok a ∧ f a = .ok b := by
  cases x with
  | error e => simp [bind, Except.bind]
  | ok a => simp [bind, Except.bind]

/-- A check before the rest. -/
theorem seq_eq_ok {β : Type} {x : Except LinkError Unit} {f : Unit → Except LinkError β} {b : β} :
    (x >>= f) = .ok b ↔ x = .ok () ∧ f () = .ok b := by
  rw [bind_eq_ok]
  exact ⟨fun ⟨(), h⟩ ↦ h, fun h ↦ ⟨(), h⟩⟩

/-- The value of a check that passed. -/
theorem toOption_eq_some {α : Type} {x : Except LinkError α} {a : α} :
    x.toOption = some a ↔ x = .ok a := by
  cases x <;> simp [Except.toOption]

/-! ### Classification -/

/-- The classes of the table: those of `link_rules.py`, and `access_uplink`. -/
inductive LinkTypeClass where
  | shared (linkClass : LinkClass)
  | accessUplink
  deriving DecidableEq, Repr

/-- The text of a class. -/
def LinkTypeClass.name : LinkTypeClass → String
  | .shared .routedP2p => "routed_p2p"
  | .shared .opticalSegment => "optical_segment"
  | .shared .opticalTermination => "optical_termination"
  | .shared .accessEdge => "access_edge"
  | .shared .accessUplinkAon => "access_uplink_aon"
  | .shared .accessUplinkOlt => "access_uplink_olt"
  | .shared .mixedInvalid => "mixed_invalid"
  | .shared .peerInvalid => "peer_invalid"
  | .shared .reverseInvalid => "reverse_invalid"
  | .accessUplink => "access_uplink"

/-- `allowed_media_codes_for_class`, which does not know `access_uplink`; `link_rules.py:123–143`. -/
def LinkTypeClass.allowedMediaCodes : LinkTypeClass → List String
  | .shared linkClass => allowedMediaCodesForClass linkClass
  | .accessUplink => []

/-- `LinkClassification`; `link_classification_service.py:14–18`. -/
structure LinkClassification where
  ruleId : String
  allowed : Bool
  linkClass : LinkTypeClass
  deriving DecidableEq, Repr

/-- A classification with the types it matches; `link_types.py:23–28`. -/
structure LinkRule extends LinkClassification where
  matcher : DeviceType → DeviceType → Bool

/-- `LINK_TYPE_RULES`, in order; `link_types.py:92–104`. -/
def linkTypeRules : List LinkRule := [
  { ruleId := "L1", allowed := true, linkClass := .shared .routedP2p
    matcher := fun a b ↦ routerClass a && routerClass b },
  { ruleId := "L2", allowed := true, linkClass := .shared .opticalSegment
    matcher := matchEither (· = .olt) passiveInline },
  { ruleId := "L3", allowed := true, linkClass := .shared .opticalSegment
    matcher := fun a b ↦ passiveInline a && passiveInline b },
  { ruleId := "L4", allowed := true, linkClass := .shared .opticalTermination
    matcher := matchEither passiveInline ontClass },
  { ruleId := "L5", allowed := true, linkClass := .shared .opticalSegment
    matcher := matchEither (· = .olt) ontClass },
  { ruleId := "L6A", allowed := true, linkClass := .accessUplink
    matcher := matchEither (· = .aonSwitch) routerClass },
  { ruleId := "L6B", allowed := true, linkClass := .accessUplink
    matcher := matchEither (· = .olt) routerClass },
  { ruleId := "L6", allowed := true, linkClass := .shared .accessEdge
    matcher := matchEither (· = .aonSwitch) (· = .aonCpe) },
  { ruleId := "L7", allowed := false, linkClass := .shared .mixedInvalid
    matcher := matchEither passiveInline
      (fun d ↦ routerClass d || d = .aonSwitch || d = .aonCpe) },
  { ruleId := "L8", allowed := false, linkClass := .shared .peerInvalid
    matcher := fun a b ↦ ontClass a && ontClass b }]

/-- `classify`; `link_classification_service.py:21–26`. -/
def classify (a b : DeviceType) : LinkClassification :=
  match linkTypeRules.find? (fun rule ↦ rule.matcher a b) with
  | some rule => rule.toLinkClassification
  | none => ⟨"L9", false, .shared .reverseInvalid⟩

/-- The two tables give the same classes, but for the uplinks. -/
theorem classify_linkClass (a b : DeviceType) :
    (classify a b).linkClass = .shared (classifyLink a b) ∨
      (classify a b).linkClass = .accessUplink ∧
        (classifyLink a b = .accessUplinkAon ∨ classifyLink a b = .accessUplinkOlt) := by
  cases a <;> cases b <;> decide

end Unoc.Links
