import UpfEdge.Pfcp.Ie

/-!
# Request decoders and message builders

`pfcp-common/src/messages.rs` (the four request decoders) and the part of `builder.rs` that the
UPF and the simulator send with.  A decoder takes the first IE of a type it needs once, and all of
a repeated type in order; the first repeated IE that does not parse fails the whole request.
-/

namespace UpfEdge.Pfcp

open Lib

/-- What a request decoder can fail with. -/
inductive DecodeError where
  | nodeIdMissing
  | recoveryTsMissing
  | fseidMissing
  | ie (e : PfcpError)
  deriving DecidableEq, Repr

def DecodeError.text : DecodeError → String
  | .nodeIdMissing => "Node ID Missing"
  | .recoveryTsMissing => "Recovery TS missing"
  | .fseidMissing => "F-SEID missing"
  | .ie e => e.text

/-- `ies.iter().find(|ie| ie.ie_type == t)`. -/
def findIe (ies : List RawIE) (t : UInt16) : Option RawIE := ies.find? (·.ieType = t)

/-- A mandatory IE: missing, unparsable, or its value. -/
def requireIe {α : Type} (ies : List RawIE) (t : UInt16) (missing : DecodeError)
    (parse : Bytes → Except PfcpError α) : Except DecodeError α :=
  match findIe ies t with
  | none => .error missing
  | some raw => (parse raw.value).mapError .ie

/-- An IE whose absence or parse error is ignored. -/
def optionalIe {α : Type} (ies : List RawIE) (t : UInt16) (parse : Bytes → Except PfcpError α) :
    Option α :=
  (findIe ies t).bind fun raw => (parse raw.value).toOption

/-- All IEs of a type, in order; the first parse error wins. -/
def collectIes {α : Type} (ies : List RawIE) (t : UInt16) (parse : Bytes → Except PfcpError α) :
    Except DecodeError (List α) :=
  (ies.filter (·.ieType = t)).mapM fun raw => (parse raw.value).mapError .ie

theorem except_bind_ok {ε α β : Type} {x : Except ε α} {f : α → Except ε β} {b : β}
    (h : x >>= f = .ok b) : ∃ a, x = .ok a ∧ f a = .ok b := by
  cases x with
  | error e => cases h
  | ok a => exact ⟨a, rfl, h⟩

theorem ok_of_toOption {ε α : Type} {x : Except ε α} {a : α} (h : x.toOption = some a) :
    x = .ok a := by
  cases x with
  | error e => cases h
  | ok a' => exact congrArg Except.ok (Option.some.inj h)

structure AssociationSetupReq where
  nodeId : Ipv4Addr
  recoveryTs : UInt32
  deriving DecidableEq, Repr

def AssociationSetupReq.decode (body : Bytes) : Except DecodeError AssociationSetupReq := do
  let ies := iterIes body
  let nodeId ← requireIe ies pfcpIeNodeId .nodeIdMissing parseNodeId
  let recoveryTs ← requireIe ies pfcpIeRecoveryTimeStamp .recoveryTsMissing parseRecoveryTimestamp
  return { nodeId, recoveryTs }

structure SessionEstablishmentReq where
  nodeId : Option Ipv4Addr
  cpSeid : UInt64
  smfAddr : Ipv4Addr
  createPdrs : List ParsedPDR
  createFars : List ParsedFAR
  createUrrs : List ParsedURR
  deriving DecidableEq, Repr

def SessionEstablishmentReq.decode (body : Bytes) : Except DecodeError SessionEstablishmentReq := do
  let ies := iterIes body
  let (cpSeid, smfAddr) ← requireIe ies pfcpIeFseid .fseidMissing parseFseid
  let nodeId := optionalIe ies pfcpIeNodeId parseNodeId
  let createPdrs ← collectIes ies pfcpIeCreatePdr parseCreatePdr
  let createFars ← collectIes ies pfcpIeCreateFar parseCreateFar
  let createUrrs ← collectIes ies pfcpIeCreateUrr parseCreateUrr
  return { nodeId, cpSeid, smfAddr, createPdrs, createFars, createUrrs }

structure HeartbeatReq where
  recoveryTs : Option UInt32
  deriving DecidableEq, Repr

def HeartbeatReq.decode (body : Bytes) : HeartbeatReq :=
  ⟨optionalIe (iterIes body) pfcpIeRecoveryTimeStamp parseRecoveryTimestamp⟩

structure SessionModificationReq where
  cpSeid : Option UInt64
  smfAddr : Option Ipv4Addr
  updateFars : List ParsedFAR
  updateUrrs : List ParsedURR
  deriving DecidableEq, Repr

def SessionModificationReq.decode (body : Bytes) : Except DecodeError SessionModificationReq := do
  let ies := iterIes body
  let fseid := optionalIe ies pfcpIeFseid parseFseid
  let updateFars ← collectIes ies pfcpIeUpdateFar parseUpdateFar
  let updateUrrs ← collectIes ies pfcpIeUpdateUrr parseCreateUrr
  return { cpSeid := fseid.map Prod.fst, smfAddr := fseid.map Prod.snd, updateFars, updateUrrs }

/-! ### Builders -/

/-- `MsgBuilder::append_ie`; `add_ie` is the same on the message buffer. -/
def appendIe (buf : Bytes) (ieType : UInt16) (value : Bytes) : Bytes :=
  buf ++ (u16ToBe ieType ++ u16ToBe (UInt16.ofNat value.length) ++ value)

/-- `MsgBuilder::finish`: octets 2 and 3 of the buffer get its length without the first four. -/
def finish (buf : Bytes) : Bytes :=
  buf.take 2 ++ u16ToBe (UInt16.ofNat (buf.length - 4)) ++ buf.drop 4

def addNodeIdV4 (buf : Bytes) (addr : Ipv4Addr) : Bytes :=
  appendIe buf pfcpIeNodeId (0x00 :: addr.octets)

def addCause (buf : Bytes) (cause : UInt8) : Bytes := appendIe buf pfcpIeCause [cause]

def addRecoveryTimestamp (buf : Bytes) (ntpTs : UInt32) : Bytes :=
  appendIe buf pfcpIeRecoveryTimeStamp (u32ToBe ntpTs)

def addFseid (buf : Bytes) (seid : UInt64) (addr : Ipv4Addr) : Bytes :=
  appendIe buf pfcpIeFseid (0x02 :: (u64ToBe seid ++ addr.octets))

def addUpFunctionFeatures (buf : Bytes) : Bytes :=
  appendIe buf pfcpIeUpFunctionFeatures [0x04, 0x00]

def addCreatedPdr (buf : Bytes) (pdrId : UInt16) (teid : UInt32) (addr : Ipv4Addr) : Bytes :=
  let inner := appendIe [] pfcpIePdrId (u16ToBe pdrId)
  let inner := appendIe inner pfcpIeFteid (0x02 :: (u32ToBe teid ++ addr.octets))
  appendIe buf pfcpIeCreatedPdr inner

def buildHeartbeatResponse (seqNum recoveryTs : UInt32) : Bytes :=
  finish (addRecoveryTimestamp (PfcpHeader.newNodeMsg pfcpHeartbeatRsp seqNum).encode recoveryTs)

def buildAssociationSetupResponse (seqNum : UInt32) (ourAddr : Ipv4Addr) (recoveryTs : UInt32) :
    Bytes :=
  let msg := (PfcpHeader.newNodeMsg pfcpAssociationSetupRsp seqNum).encode
  let msg := addNodeIdV4 msg ourAddr
  let msg := addCause msg causeRequestAccepted
  let msg := addRecoveryTimestamp msg recoveryTs
  let msg := addUpFunctionFeatures msg
  finish msg

def buildSessionEstablishmentResponse (seqNum : UInt32) (cpSeid ourSeid : UInt64)
    (ourAddr : Ipv4Addr) (createdPdrs : List (UInt16 × UInt32 × Ipv4Addr)) : Bytes :=
  let msg := (PfcpHeader.newSessionMsg pfcpSessionEstablishmentRsp cpSeid seqNum).encode
  let msg := addNodeIdV4 msg ourAddr
  let msg := addCause msg causeRequestAccepted
  let msg := addFseid msg ourSeid ourAddr
  let msg := createdPdrs.foldl (fun m p => addCreatedPdr m p.1 p.2.1 p.2.2) msg
  finish msg

def buildSessionModificationResponse (seqNum : UInt32) (seid : UInt64) : Bytes :=
  finish (addCause (PfcpHeader.newSessionMsg pfcpSessionModificationRsp seid seqNum).encode
    causeRequestAccepted)

def buildSessionDeletionResponse (seqNum : UInt32) (seid : UInt64) : Bytes :=
  finish (addCause (PfcpHeader.newSessionMsg pfcpSessionDeletionRsp seid seqNum).encode
    causeRequestAccepted)

def buildSessionReportRequest (seqNum : UInt32) (cpSeid : UInt64) (urrId urSeqn : UInt32)
    (trigger : UInt8) (totalVolume ulVolume dlVolume : UInt64) : Bytes :=
  let msg := (PfcpHeader.newSessionMsg pfcpSessionReportReq cpSeid seqNum).encode
  let msg := appendIe msg pfcpIeReportType [reportTypeUsar]
  let ur := appendIe [] pfcpIeUrrId (u32ToBe urrId)
  let ur := appendIe ur pfcpIeUrSeqn (u32ToBe urSeqn)
  let ur := appendIe ur pfcpIeUsageReportTrigger [trigger, 0x00]
  let vm := (volumeMeasurementTovol ||| volumeMeasurementUlvol ||| volumeMeasurementDlvol) ::
    (u64ToBe totalVolume ++ u64ToBe ulVolume ++ u64ToBe dlVolume)
  let ur := appendIe ur pfcpIeVolumeMeasurement vm
  finish (appendIe msg pfcpIeUsageReportInSessRptReq ur)

/-- A message is finished by writing its header again with the length filled in. -/
theorem finish_encode_append (h : PfcpHeader) (rest : Bytes) :
    finish (h.encode ++ rest) =
      { h with length := UInt16.ofNat ((if h.sFlag then 12 else 4) + rest.length) }.encode ++
        rest := by
  have hn : (h.encode ++ rest).length - 4 = (if h.sFlag then 12 else 4) + rest.length := by
    cases hs : h.sFlag <;> simp [PfcpHeader.encode, hs, u16ToBe, u64ToBe, bytesBe] <;> omega
  rw [finish, hn]
  simp [PfcpHeader.encode, u16ToBe, bytesBe]

/-- The header a session message is read back with. -/
theorem decode_newSessionMsg (t : UInt8) (seid : UInt64) (seq : UInt32) (rest : Bytes) :
    PfcpHeader.decode (finish ((PfcpHeader.newSessionMsg t seid seq).encode ++ rest)) =
      .ok ({ PfcpHeader.newSessionMsg t seid (UInt32.ofNat (seq.toNat % 2 ^ 24)) with
        length := UInt16.ofNat (12 + rest.length) }, rest) := by
  have hprio : (0 : UInt8) < 16 := by decide
  rw [finish_encode_append]
  exact PfcpHeader.decode_encode_append rfl rfl hprio (fun _ => rfl) rest

/-- A response takes its sequence number from a header that was read. -/
theorem decode_answer (t : UInt8) (seid : UInt64) {header : PfcpHeader} {buf body : Bytes}
    (hd : PfcpHeader.decode buf = .ok (header, body)) (rest : Bytes) :
    PfcpHeader.decode (finish ((PfcpHeader.newSessionMsg t seid header.seqNum).encode ++ rest)) =
      .ok ({ PfcpHeader.newSessionMsg t seid header.seqNum with
        length := UInt16.ofNat (12 + rest.length) }, rest) := by
  have hseq : UInt32.ofNat (header.seqNum.toNat % 2 ^ 24) = header.seqNum := by
    rw [Nat.mod_eq_of_lt (PfcpHeader.decode_seqNum_lt hd), UInt32.ofNat_toNat]
  rw [decode_newSessionMsg, hseq]

/-- The receiver of a session message reads the SEID it was built with. -/
theorem decode_finish_sessionMsg (t : UInt8) (seid : UInt64) (seq : UInt32) (rest : Bytes) :
    ∃ header, PfcpHeader.decode (finish ((PfcpHeader.newSessionMsg t seid seq).encode ++ rest)) =
      .ok (header, rest) ∧ header.seid = some seid :=
  ⟨_, decode_newSessionMsg t seid seq rest, rfl⟩

/-- The header a node message is read back with. -/
theorem decode_newNodeMsg (t : UInt8) (seq : UInt32) (rest : Bytes) :
    PfcpHeader.decode (finish ((PfcpHeader.newNodeMsg t seq).encode ++ rest)) =
      .ok ({ PfcpHeader.newNodeMsg t (UInt32.ofNat (seq.toNat % 2 ^ 24)) with
        length := UInt16.ofNat (4 + rest.length) }, rest) := by
  have hprio : (0 : UInt8) < 16 := by decide
  rw [finish_encode_append]
  exact PfcpHeader.decode_encode_append rfl rfl hprio (fun _ => rfl) rest

/-! ### Requests an SMF sends -/

structure PdrParams where
  pdrId : UInt16
  precedence : UInt32
  sourceInterface : UInt8
  fteidChoose : Bool
  ueIp : Option Ipv4Addr
  farId : UInt32
  urrId : Option UInt32
  outerHeaderRemoval : Bool
  sdfFilter : Option SdfFilter

structure FarParams where
  farId : UInt32
  applyAction : UInt8
  destInterface : UInt8
  outerHeaderCreation : Option OuterHeaderCreation

structure UrrParams where
  urrId : UInt32
  measurementMethod : UInt8
  reportingTriggers : UInt8
  volumeThresholdTotal : Option UInt64
  measurementPeriod : Option UInt32

/-- `append_ie` of a value that may be absent. -/
def appendOptIe (buf : Bytes) (ieType : UInt16) (value : Option Bytes) : Bytes :=
  match value with
  | some v => appendIe buf ieType v
  | none => buf

def sdfFilterBytes (sdf : SdfFilter) : Bytes :=
  sdf.proto :: (sdf.srcIp.octets ++ sdf.dstIp.octets ++ u16ToBe sdf.srcPort ++ u16ToBe sdf.dstPort)

def outerHeaderCreationBytes (ohc : OuterHeaderCreation) : Bytes :=
  [0x01, 0x00] ++ u32ToBe ohc.teid ++ ohc.peerAddr.octets

def addCreatePdr (buf : Bytes) (p : PdrParams) : Bytes :=
  let inner := appendIe [] pfcpIePdrId (u16ToBe p.pdrId)
  let inner := appendIe inner pfcpIePrecedence (u32ToBe p.precedence)
  let pdi := appendIe [] pfcpIeSourceInterface [p.sourceInterface]
  let pdi := appendOptIe pdi pfcpIeFteid
    (if p.fteidChoose then some [0x04, 0x00, 0x00, 0x00, 0x00] else none)
  let pdi := appendOptIe pdi pfcpIeUeIpAddress (p.ueIp.map fun ip => 0x02 :: ip.octets)
  let pdi := appendOptIe pdi pfcpIeSdfFilter (p.sdfFilter.map sdfFilterBytes)
  let inner := appendIe inner pfcpIePdi pdi
  let inner := appendIe inner pfcpIeFarId (u32ToBe p.farId)
  let inner := appendOptIe inner pfcpIeUrrId (p.urrId.map u32ToBe)
  let inner := appendOptIe inner pfcpIeOuterHeaderRemoval
    (if p.outerHeaderRemoval then some [0x00] else none)
  appendIe buf pfcpIeCreatePdr inner

/-- The body Create URR and Update URR share. -/
def urrBytes (u : UrrParams) : Bytes :=
  let inner := appendIe [] pfcpIeUrrId (u32ToBe u.urrId)
  let inner := appendIe inner pfcpIeMeasurementMethod [u.measurementMethod]
  let inner := appendIe inner pfcpIeReportingTriggers [u.reportingTriggers, 0x00]
  let inner := appendOptIe inner pfcpIeVolumeThreshold
    (u.volumeThresholdTotal.map fun total => volumeThresholdTovol :: u64ToBe total)
  appendOptIe inner pfcpIeMeasurementPeriod (u.measurementPeriod.map u32ToBe)

def addCreateUrr (buf : Bytes) (u : UrrParams) : Bytes := appendIe buf pfcpIeCreateUrr (urrBytes u)
def addUpdateUrr (buf : Bytes) (u : UrrParams) : Bytes := appendIe buf pfcpIeUpdateUrr (urrBytes u)

/-- The body Create FAR and Update FAR share, up to the type of the forwarding parameters. -/
def farBytes (forwardingIe : UInt16) (f : FarParams) : Bytes :=
  let inner := appendIe [] pfcpIeFarId (u32ToBe f.farId)
  let inner := appendIe inner pfcpIeApplyAction [f.applyAction]
  let fwd := appendIe [] pfcpIeDestinationInterface [f.destInterface]
  let fwd := appendOptIe fwd pfcpIeOuterHeaderCreation
    (f.outerHeaderCreation.map outerHeaderCreationBytes)
  appendIe inner forwardingIe fwd

def addCreateFar (buf : Bytes) (f : FarParams) : Bytes :=
  appendIe buf pfcpIeCreateFar (farBytes pfcpIeForwardingParameters f)

def addUpdateFar (buf : Bytes) (f : FarParams) : Bytes :=
  appendIe buf pfcpIeUpdateFar (farBytes pfcpIeUpdateForwardingParameters f)

/-- `build_session_establishment_request`: one uplink and one downlink PDR with their FARs. -/
def buildSessionEstablishmentRequest (seq : UInt32) (smfAddr : Ipv4Addr) (cpSeid : UInt64)
    (ueIp gnbAddr : Ipv4Addr) (gnbTeid : UInt32) : Bytes :=
  let msg := (PfcpHeader.newSessionMsg pfcpSessionEstablishmentReq 0 seq).encode
  let msg := addNodeIdV4 msg smfAddr
  let msg := addFseid msg cpSeid smfAddr
  let msg := addCreatePdr msg
    { pdrId := 1, precedence := 100, sourceInterface := interfaceAccess, fteidChoose := true
      ueIp := some ueIp, farId := 1, urrId := none, outerHeaderRemoval := true, sdfFilter := none }
  let msg := addCreatePdr msg
    { pdrId := 2, precedence := 100, sourceInterface := interfaceCore, fteidChoose := false
      ueIp := some ueIp, farId := 2, urrId := none, outerHeaderRemoval := false, sdfFilter := none }
  let msg := addCreateFar msg
    { farId := 1, applyAction := actionForw, destInterface := interfaceCore
      outerHeaderCreation := none }
  let msg := addCreateFar msg
    { farId := 2, applyAction := actionForw, destInterface := interfaceAccess
      outerHeaderCreation := some { teid := gnbTeid, peerAddr := gnbAddr, port := 2152 } }
  finish msg

end UpfEdge.Pfcp
