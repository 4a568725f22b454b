import UpfEdge.Pfcp.Ie

/-!
# The message dictionary

`pfcp-common/src/dict.rs` and `dict_ext.rs`: which IEs a message must, should and may have, and the
check of a received body against that table.
-/

namespace UpfEdge.Pfcp

open Lib

def pfcpIeUsageReportInSessMelRsp : UInt16 := 79
def pfcpIeCpFunctionFeatures : UInt16 := 89

inductive Presence where
  | mandatory
  | conditional
  | optional
  deriving DecidableEq, Repr

structure IeSpec where
  ieType : UInt16
  presence : Presence
  name : String
  deriving DecidableEq, Repr

structure MessageSpec where
  msgType : UInt8
  name : String
  ies : List IeSpec
  deriving DecidableEq, Repr

def pfcpDict : List (UInt8 × MessageSpec) :=
  [ (1, { msgType := pfcpHeartbeatReq
          name := "Heartbeat Request"
          ies := [⟨pfcpIeRecoveryTimeStamp, .optional, "Recovery Time Stamp"⟩] }),
    (2, { msgType := pfcpHeartbeatRsp
          name := "Heartbeat Response"
          ies := [⟨pfcpIeRecoveryTimeStamp, .optional, "Recovery Time Stamp"⟩] }),
    (5, { msgType := pfcpAssociationSetupReq
          name := "Association Setup Request"
          ies := [⟨pfcpIeNodeId, .mandatory, "Node ID"⟩,
            ⟨pfcpIeRecoveryTimeStamp, .mandatory, "Recovery Time Stamp"⟩,
            ⟨pfcpIeCpFunctionFeatures, .conditional, "CP Function Feature"⟩,
            ⟨pfcpIeUpFunctionFeatures, .conditional, "UP Function Feature"⟩] }),
    (6, { msgType := pfcpAssociationSetupRsp
          name := "Association Setup Response"
          ies := [⟨pfcpIeNodeId, .mandatory, "Node ID"⟩, ⟨pfcpIeCause, .mandatory, "Cause"⟩,
            ⟨pfcpIeRecoveryTimeStamp, .mandatory, "Recovery Time Stamp"⟩,
            ⟨pfcpIeUpFunctionFeatures, .conditional, "UP Function Feature"⟩] }),
    (50, { msgType := pfcpSessionEstablishmentReq
           name := "Session Establishment Request"
           ies := [⟨pfcpIeNodeId, .mandatory, "Node ID"⟩, ⟨pfcpIeFseid, .mandatory, "FSEID"⟩,
             ⟨pfcpIeCreatePdr, .mandatory, "Create PDR"⟩,
             ⟨pfcpIeCreateFar, .mandatory, "Create FAR"⟩,
             ⟨pfcpIeCreateUrr, .conditional, "Create URR"⟩,
             ⟨pfcpIeCreateQer, .conditional, "Create QER"⟩,
             ⟨pfcpIeCreateBar, .optional, "Create BAR"⟩] }),
    (51, { msgType := pfcpSessionEstablishmentRsp
           name := "Session Establishment Response"
           ies := [⟨pfcpIeNodeId, .mandatory, "Node ID"⟩, ⟨pfcpIeCause, .mandatory, "Cause"⟩,
             ⟨pfcpIeFseid, .conditional, "FSEID"⟩,
             ⟨pfcpIeCreatePdr, .conditional, "Create PDR"⟩] }),
    (52, { msgType := pfcpSessionModificationReq
           name := "Session Modification Request"
           ies := [⟨pfcpIeFseid, .conditional, "F-SEID"⟩,
             ⟨pfcpIeUpdatePdr, .conditional, "Update PDR"⟩,
             ⟨pfcpIeUpdateFar, .conditional, "Update FAR"⟩,
             ⟨pfcpIeRemovePdr, .optional, "Remove PDR"⟩,
             ⟨pfcpIeRemoveFar, .optional, "Remove FAR"⟩] }),
    (53, { msgType := pfcpSessionModificationRsp
           name := "Session Modification Response"
           ies := [⟨pfcpIeCause, .mandatory, "Cause"⟩,
             ⟨pfcpIeCreatedPdr, .optional, "Created PDR"⟩] }),
    (54, { msgType := pfcpSessionDeletionReq
           name := "Session Deletion Request"
           ies := [] }),
    (55, { msgType := pfcpSessionDeletionRsp
           name := "Session Deletion Response"
           ies := [⟨pfcpIeCause, .mandatory, "Cause"⟩,
             ⟨pfcpIeUsageReportInSessMelRsp, .optional, "Usage Report"⟩] }),
    (56, { msgType := pfcpSessionReportReq
           name := "Session Report Request"
           ies := [⟨pfcpIeReportType, .mandatory, "Report Type"⟩,
             ⟨pfcpIeUsageReportInSessRptReq, .conditional,
               "Usage Report in Session Report Request"⟩] }),
    (57, { msgType := pfcpSessionReportRsp
           name := "Session Report Response"
           ies := [] }) ]

/-- `dict_ext::lookup`. -/
def lookup (msgType : UInt8) : Option MessageSpec :=
  (pfcpDict.find? (·.1 = msgType)).map Prod.snd

structure ValidationResult where
  missing : List String
  deriving DecidableEq, Repr

def ValidationResult.isOk (r : ValidationResult) : Bool := r.missing.isEmpty

/-- The names of the mandatory IEs of `spec` whose type does not occur. -/
def MessageSpec.missing (spec : MessageSpec) (recvIes : List UInt16) : List String :=
  ((spec.ies.filter (·.presence = .mandatory)).filter (·.ieType ∉ recvIes)).map (·.name)

/-- `dict_ext::validate`: a message type that is not in the dictionary passes. -/
def validate (msgType : UInt8) (body : Bytes) : ValidationResult :=
  match lookup msgType with
  | none => ⟨[]⟩
  | some spec => ⟨spec.missing ((iterIes body).map (·.ieType))⟩

/-- The types of the mandatory IEs of a message. -/
def mandatoryTypes (msgType : UInt8) : List UInt16 :=
  match lookup msgType with
  | none => []
  | some spec => (spec.ies.filter (·.presence = .mandatory)).map (·.ieType)

/-- A body passes when every mandatory IE of its message occurs in it. -/
theorem validate_isOk {msgType : UInt8} {body : Bytes} :
    (validate msgType body).isOk ↔
      ∀ t ∈ mandatoryTypes msgType, t ∈ (iterIes body).map (·.ieType) := by
  unfold validate mandatoryTypes
  cases lookup msgType with
  | none => simp [ValidationResult.isOk]
  | some spec =>
    simp only [ValidationResult.isOk, List.isEmpty_iff, MessageSpec.missing, List.map_eq_nil_iff,
      List.filter_eq_nil_iff, List.forall_mem_map, decide_not, Bool.not_eq_true',
      decide_eq_false_iff_not, not_not]

end UpfEdge.Pfcp
