import UpfEdge.Reports
import UpfEdge.Server.Tick
import UpfEdge.Smf.Transport
import UpfEdge.Understood

/-!
# Requests and the replies to them

Of the messages the UPF receives, five are requests that it answers.  Whatever it answers, the
`send_and_recv` that has sent the request returns it, and `validate_response` accepts it
(`reply_validates`): a request that is refused gets no reply at all.

In the other direction the usage reporter asks and the simulator answers, from the loop
`wait_and_handle_reports` of its `main.rs`.
-/

namespace UpfEdge

open Lib Pfcp Server SmfSim

/-! ### Replies of the UPF -/

section Checked

variable {t : UInt8} {ies : List (UInt16 × Bytes)}

/-- A message with all mandatory IEs of its type, and a Cause that says accepted if it has one,
passes both checks of its body. -/
theorem checked_of_ies (hfit : ∀ ie ∈ ies, ie.2.length < 65536)
    (hmand : ∀ m ∈ mandatoryTypes t, m ∈ ies.map (·.1))
    (hcause : ∀ v, (pfcpIeCause, v) ∈ ies → v.head? = some causeRequestAccepted) :
    (validate t (ies.flatMap ieBytes)).isOk ∧
      validateCause (iterIes (ies.flatMap ieBytes)) = .ok () := by
  constructor
  · have htypes := congrArg (List.map Prod.fst) (iterIes_flatMap hfit)
    rw [List.map_map] at htypes
    change (iterIes _).map (·.ieType) = _ at htypes
    rw [validate_isOk, htypes]
    exact hmand
  · have hfind := findIe_flatMap hfit pfcpIeCause
    unfold validateCause
    cases hie : findIe (iterIes (ies.flatMap ieBytes)) pfcpIeCause with
    | none => rfl
    | some cause =>
      rw [hie, Option.map_some] at hfind
      obtain ⟨⟨t, v⟩, hmem, hv⟩ := Option.map_eq_some_iff.mp hfind.symm
      obtain rfl : t = pfcpIeCause := by simpa using List.find?_some hmem
      have hhead := hcause v (List.mem_of_find?_eq_some hmem)
      rw [show v = cause.value from hv] at hhead
      simp only [hhead, if_true]

end Checked

/-! ### The size of the replies -/

theorem length_heartbeatResponse (seq ts : UInt32) :
    (buildHeartbeatResponse seq ts).length ≤ 4096 := by
  simp [buildHeartbeatResponse, addRecoveryTimestamp, appendIe_eq, ieBytes, finish,
    PfcpHeader.encode, PfcpHeader.newNodeMsg, u16ToBe, u32ToBe, length_bytesBe]

theorem length_setupResponse (seq : UInt32) (addr : Ipv4Addr) (ts : UInt32) :
    (buildAssociationSetupResponse seq addr ts).length ≤ 4096 := by
  simp [buildAssociationSetupResponse, addNodeIdV4, addCause, addRecoveryTimestamp,
    addUpFunctionFeatures, appendIe_eq, ieBytes, finish, PfcpHeader.encode, PfcpHeader.newNodeMsg,
    Ipv4Addr.octets, u16ToBe, u32ToBe, length_bytesBe]

theorem length_causeResponse (t : UInt8) (seid : UInt64) (seq : UInt32) :
    (finish (addCause (PfcpHeader.newSessionMsg t seid seq).encode
      causeRequestAccepted)).length ≤ 4096 := by
  simp [addCause, appendIe_eq, ieBytes, finish, PfcpHeader.encode, PfcpHeader.newSessionMsg,
    u16ToBe, u64ToBe, length_bytesBe]

theorem length_establishmentResponse (seq : UInt32) (cpSeid seid : UInt64) (addr : Ipv4Addr)
    {pdrs : List (UInt16 × UInt32 × Ipv4Addr)} (h : pdrs.length ≤ 2) :
    (buildSessionEstablishmentResponse seq cpSeid seid addr pdrs).length ≤ 4096 := by
  have hies : ((establishmentIes seid addr pdrs).flatMap ieBytes).length ≤ (pdrs.length + 3) * 23 :=
    length_establishmentIes ..
  have hhead : (PfcpHeader.newSessionMsg pfcpSessionEstablishmentRsp cpSeid seq).encode.length =
      16 := by
    simp [PfcpHeader.encode, PfcpHeader.newSessionMsg, u16ToBe, u64ToBe, length_bytesBe]
  rw [buildSessionEstablishmentResponse_eq, length_finish (by rw [List.length_append]; omega),
    List.length_append, hhead]
  omega

/-! ### What is accepted -/

/-- The message types of the requests. -/
def requestTypes : List UInt8 :=
  [pfcpHeartbeatReq, pfcpAssociationSetupReq, pfcpSessionEstablishmentReq,
    pfcpSessionModificationReq, pfcpSessionDeletionReq]

/-- The reply `rsp` is what the sender of the request `header` waits for, and passes its check. -/
structure Accepted (header : PfcpHeader) (rsp : Bytes) : Prop where
  answers : ∃ header' body', PfcpHeader.decode rsp = .ok (header', body') ∧
    header'.msgType = header.msgType + 1 ∧ header'.seqNum = header.seqNum
  validates : validateResponse header.msgType header.seqNum rsp = .ok ()

/-- A message of the right type and number passes when its body does. -/
theorem accepted_of_decode {header header' : PfcpHeader} {rsp : Bytes} (ies : List (UInt16 × Bytes))
    (hd : PfcpHeader.decode rsp = .ok (header', ies.flatMap ieBytes))
    (ht : header'.msgType = header.msgType + 1) (hseq : header'.seqNum = header.seqNum)
    (hfit : ∀ ie ∈ ies, ie.2.length < 65536)
    (hmand : ∀ m ∈ mandatoryTypes (header.msgType + 1), m ∈ ies.map (·.1))
    (hcause : ∀ v, (pfcpIeCause, v) ∈ ies → v.head? = some causeRequestAccepted) :
    Accepted header rsp := by
  refine ⟨⟨header', _, hd, ht, hseq⟩, ?_⟩
  obtain ⟨hvalid, haccepted⟩ := checked_of_ies hfit hmand hcause
  rw [validateResponse, hd]
  simp [ht, hseq, hvalid, haccepted]

section Replies

variable {header : PfcpHeader} {buf body : Bytes} (hd : PfcpHeader.decode buf = .ok (header, body))
include hd

/-- A sequence number that was read comes back unchanged. -/
theorem decode_nodeAnswer (t : UInt8) (rest : Bytes) : ∃ header',
    PfcpHeader.decode (finish ((PfcpHeader.newNodeMsg t header.seqNum).encode ++ rest)) =
      .ok (header', rest) ∧ header'.msgType = t ∧ header'.seqNum = header.seqNum := by
  refine ⟨_, decode_newNodeMsg t header.seqNum rest, rfl, ?_⟩
  show UInt32.ofNat (header.seqNum.toNat % 2 ^ 24) = header.seqNum
  rw [Nat.mod_eq_of_lt (PfcpHeader.decode_seqNum_lt hd), UInt32.ofNat_toNat]

theorem accepted_heartbeat (ht : header.msgType = pfcpHeartbeatReq) (ts : UInt32) :
    Accepted header (buildHeartbeatResponse header.seqNum ts) := by
  have hies : buildHeartbeatResponse header.seqNum ts =
      finish ((PfcpHeader.newNodeMsg pfcpHeartbeatRsp header.seqNum).encode ++
        [(pfcpIeRecoveryTimeStamp, u32ToBe ts)].flatMap ieBytes) := by
    simp [buildHeartbeatResponse, addRecoveryTimestamp, appendIe_eq]
  have htype : header.msgType + 1 = pfcpHeartbeatRsp := by rw [ht]; rfl
  have hmand : mandatoryTypes pfcpHeartbeatRsp = [] := by decide
  have hne : pfcpIeCause ≠ pfcpIeRecoveryTimeStamp := by decide
  obtain ⟨header', hdec, ht', hseq⟩ := decode_nodeAnswer hd pfcpHeartbeatRsp _
  rw [hies]
  refine accepted_of_decode _ hdec (ht'.trans htype.symm) hseq ?_ ?_ ?_
  · simp [u32ToBe, length_bytesBe]
  · rw [htype, hmand]
    simp
  · simp [hne]

theorem accepted_associationSetup (ht : header.msgType = pfcpAssociationSetupReq)
    (addr : Ipv4Addr) (ts : UInt32) :
    Accepted header (buildAssociationSetupResponse header.seqNum addr ts) := by
  have hies : buildAssociationSetupResponse header.seqNum addr ts =
      finish ((PfcpHeader.newNodeMsg pfcpAssociationSetupRsp header.seqNum).encode ++
        [(pfcpIeNodeId, 0x00 :: addr.octets), (pfcpIeCause, [causeRequestAccepted]),
          (pfcpIeRecoveryTimeStamp, u32ToBe ts),
          (pfcpIeUpFunctionFeatures, [0x04, 0x00])].flatMap ieBytes) := by
    simp [buildAssociationSetupResponse, addNodeIdV4, addCause, addRecoveryTimestamp,
      addUpFunctionFeatures, appendIe_eq]
  have htype : header.msgType + 1 = pfcpAssociationSetupRsp := by rw [ht]; rfl
  have hmand : mandatoryTypes pfcpAssociationSetupRsp =
      [pfcpIeNodeId, pfcpIeCause, pfcpIeRecoveryTimeStamp] := by decide
  have h1 : pfcpIeCause ≠ pfcpIeNodeId := by decide
  have h2 : pfcpIeCause ≠ pfcpIeRecoveryTimeStamp := by decide
  have h3 : pfcpIeCause ≠ pfcpIeUpFunctionFeatures := by decide
  obtain ⟨header', hdec, ht', hseq⟩ := decode_nodeAnswer hd pfcpAssociationSetupRsp _
  rw [hies]
  refine accepted_of_decode _ hdec (ht'.trans htype.symm) hseq ?_ ?_ ?_
  · simp [u32ToBe, length_bytesBe, Ipv4Addr.octets]
  · rw [htype, hmand]
    simp
  · simp [h1, h2, h3]

theorem accepted_establishment (ht : header.msgType = pfcpSessionEstablishmentReq)
    (cpSeid seid : UInt64) (addr : Ipv4Addr) (pdrs : List (UInt16 × UInt32 × Ipv4Addr)) :
    Accepted header (buildSessionEstablishmentResponse header.seqNum cpSeid seid addr pdrs) := by
  refine ⟨?_, by rw [ht]; exact validateResponse_establishment hd ..⟩
  rw [buildSessionEstablishmentResponse_eq]
  exact ⟨_, _, decode_answer _ _ hd _, by rw [ht]; rfl, rfl⟩

/-- The replies that say nothing but accepted. -/
theorem accepted_cause {t : UInt8} (ht : header.msgType + 1 = t)
    (hmand : mandatoryTypes t = [pfcpIeCause]) (seid : UInt64) :
    Accepted header (finish
      (addCause (PfcpHeader.newSessionMsg t seid header.seqNum).encode causeRequestAccepted)) := by
  have hies : addCause (PfcpHeader.newSessionMsg t seid header.seqNum).encode
      causeRequestAccepted = (PfcpHeader.newSessionMsg t seid header.seqNum).encode ++
        [(pfcpIeCause, [causeRequestAccepted])].flatMap ieBytes := by
    simp [addCause, appendIe_eq]
  rw [hies]
  refine accepted_of_decode _ (decode_answer t seid hd _) ht.symm rfl ?_ ?_ ?_
  · simp
  · rw [ht, hmand]
    simp
  · simp

end Replies

/-- A request is answered, if it is, with what its sender waits for and accepts. -/
theorem accepted_of_receive {host : Host} {env : Env} {now : Instant} {data : Bytes}
    {src : SocketAddr} {w : World} {header : PfcpHeader} {body rsp : Bytes}
    (hd : PfcpHeader.decode (received data) = .ok (header, body))
    (hmem : header.msgType ∈ requestTypes)
    (hrsp : (receive host env now data src w).1 = .ok rsp) : Accepted header rsp := by
  simp only [requestTypes, List.mem_cons, List.not_mem_nil, or_false] at hmem
  rcases hmem with ht | ht | ht | ht | ht
  · have hrec : receive host env now data src w =
        handleHeartbeat env header body src (touched now w) := by
      simp only [receive, handleMessage, hd, dispatch, if_pos ht]
    rw [hrec] at hrsp
    obtain rfl := Except.ok.inj hrsp
    exact accepted_heartbeat hd ht _
  · have hne : header.msgType ≠ pfcpHeartbeatReq := by rw [ht]; decide
    simp only [receive, handleMessage, hd, dispatch, if_neg hne, if_pos ht,
      handleSessionAssociation] at hrsp
    split at hrsp
    · cases hrsp
    · split_ifs at hrsp
      all_goals
        obtain rfl := Except.ok.inj hrsp
        exact accepted_associationSetup hd ht _ _
  · rw [receive_establishment hd ht] at hrsp
    rcases hout : handleSessionEstablishment host.endian env header body src (touched now w) with
      ⟨r, w'⟩
    rw [hout] at hrsp
    obtain rfl : r = .ok rsp := hrsp
    obtain ⟨req, assoc, ueIp, gnbInfo, w₁, -, -, -, -, -, -, rfl, -⟩ := establishment_accepted hout
    exact accepted_establishment hd ht ..
  · obtain ⟨seid, session, req, -, hrec⟩ := receive_modified hd ht hrsp
    rw [hrec] at hrsp
    obtain rfl := Except.ok.inj hrsp
    exact accepted_cause hd (by rw [ht]; rfl) (by decide) session.cpSeid
  · have hrec : receive host env now data src w =
        handleSessionDeletion host.endian env header src (touched now w) := by
      simp only [receive, handleMessage, hd, dispatch_deletion ht]
    simp only [hrec, handleSessionDeletion] at hrsp
    split at hrsp
    · cases hrsp
    · obtain rfl := Except.ok.inj hrsp
      exact accepted_cause hd (by rw [ht]; rfl) (by decide) _

/-- **Every reply is accepted.**  A datagram that is one of the five requests is answered, if it is,
with what its sender waits for and accepts; any other datagram gets no reply. -/
theorem reply_validates (host : Host) (env : Env) (now : Instant) (data : Bytes) (src : SocketAddr)
    (w : World) (header : PfcpHeader) (body rsp : Bytes)
    (hd : PfcpHeader.decode (received data) = .ok (header, body))
    (hrsp : (receive host env now data src w).1 = .ok rsp) :
    if header.msgType ∈ requestTypes then Accepted header rsp else rsp = [] := by
  split_ifs with hmem
  · exact accepted_of_receive hd hmem hrsp
  · simp only [requestTypes, List.mem_cons, List.not_mem_nil, or_false, not_or] at hmem
    obtain ⟨h1, h2, h3, h4, h5⟩ := hmem
    simp only [receive, handleMessage, hd, dispatch, if_neg h1, if_neg h2, if_neg h3, if_neg h4,
      if_neg h5] at hrsp
    split_ifs at hrsp
    · exact (Except.ok.inj hrsp).symm
    · exact (Except.ok.inj hrsp).symm

section Sim

open SmfSim

/-- The answer to an Association Setup Request. -/
theorem reply_validates_setup : ∃ header rsp,
    (receive host env 0 (associationSetup smfA 5) (peer smfA)
      (Audit.after host boot []).world).1 = .ok rsp ∧
      header.msgType = pfcpAssociationSetupReq ∧ Accepted header rsp := by
  have hmsg : (PfcpHeader.decode (received (associationSetup smfA 5))).toOption.map
      (fun p => p.1.msgType) = some pfcpAssociationSetupReq := by decide +kernel
  have hrsp : (receive host env 0 (associationSetup smfA 5) (peer smfA)
      (Audit.after host boot []).world).1.toOption.isSome = true := by decide +kernel
  obtain ⟨⟨header, body⟩, hd, ht⟩ := Option.map_eq_some_iff.mp hmsg
  obtain ⟨rsp, hrsp⟩ := Option.isSome_iff_exists.mp hrsp
  have h := reply_validates host env 0 (associationSetup smfA 5) (peer smfA) _ header body rsp
    (ok_of_toOption hd) (ok_of_toOption hrsp)
  simp only at ht
  rw [if_pos (by rw [ht]; decide)] at h
  exact ⟨header, rsp, ok_of_toOption hrsp, ht, h⟩

end Sim

/-! ### Reports -/

namespace SmfSim

/-- The line that is logged for a usage report. -/
structure UsageLine where
  seid : UInt64
  urrId : UInt32
  trigger : UInt16
  total : UInt64
  ul : UInt64
  dl : UInt64
  deriving DecidableEq, Repr

/-- One IE of a usage report.  Of the trigger only the first octet is read. -/
def UsageLine.read (line : UsageLine) (ie : RawIE) : UsageLine :=
  if ie.ieType = pfcpIeUrrId ∧ 4 ≤ ie.value.length then
    { line with urrId := u32OfBe (ie.value.take 4) }
  else if ie.ieType = pfcpIeUsageReportTrigger ∧ 2 ≤ ie.value.length then
    { line with trigger := (ie.value.headD 0).toUInt16 }
  else if ie.ieType = pfcpIeVolumeMeasurement ∧ 25 ≤ ie.value.length then
    { line with
      total := u64OfBe ((ie.value.drop 1).take 8)
      ul := u64OfBe ((ie.value.drop 9).take 8)
      dl := u64OfBe ((ie.value.drop 17).take 8) }
  else line

def usageLines (seid : UInt64) (body : Bytes) : List UsageLine :=
  ((iterIes body).filter (·.ieType = pfcpIeUsageReportInSessRptReq)).map fun outer =>
    (iterIes outer.value).foldl UsageLine.read ⟨seid, 0, 0, 0, 0, 0⟩

/-- `build_session_report_response`. -/
def buildSessionReportResponse (seqNum : UInt32) (seid : UInt64) : Bytes :=
  finish (addCause (PfcpHeader.newSessionMsg pfcpSessionReportRsp seid seqNum).encode
    causeRequestAccepted)

/-- A datagram that `wait_and_handle_reports` receives, and whether its answer, if there is one,
can be sent. -/
structure Arrival where
  data : Bytes
  src : SocketAddr
  sendable : Bool

/-- The loop: what it has logged and sent, and whether it has returned because of an error. -/
structure Waiting where
  lines : List UsageLine
  sent : List (SocketAddr × Bytes)
  failed : Bool

def Waiting.step (w : Waiting) (x : Arrival) : Waiting :=
  if w.failed then w
  else
    match PfcpHeader.decode (x.data.take 2048) with
    | .error _ => w
    | .ok (hdr, body) =>
      if hdr.msgType = pfcpSessionReportReq then
        let seid := hdr.seid.getD 0
        let w := { w with lines := w.lines ++ usageLines seid body }
        if x.sendable then
          { w with sent := w.sent ++ [(x.src, buildSessionReportResponse hdr.seqNum seid)] }
        else { w with failed := true }
      else w

def Waiting.start : Waiting := ⟨[], [], false⟩

/-- The loop takes the datagram for a report. -/
def Arrival.isReport (x : Arrival) : Bool :=
  match PfcpHeader.decode (x.data.take 2048) with
  | .error _ => false
  | .ok (hdr, _) => hdr.msgType = pfcpSessionReportReq

end SmfSim

/-- What a report says. -/
def Server.Report.line (r : Report) : UsageLine :=
  ⟨r.cpSeid, r.urrId, r.trigger.toUInt16, r.totalVol, r.ulBytes, r.dlBytes⟩

/-- The number of a report as its header has it. -/
def Server.Report.wireSeq (r : Report) : UInt32 := UInt32.ofNat (r.seq.toNat % 2 ^ 24)

/-- The IEs of a usage report. -/
def Server.Report.usageIes (r : Report) : List (UInt16 × Bytes) :=
  [(pfcpIeUrrId, u32ToBe r.urrId), (pfcpIeUrSeqn, u32ToBe r.urSeqn),
    (pfcpIeUsageReportTrigger, [r.trigger, 0x00]),
    (pfcpIeVolumeMeasurement,
      (volumeMeasurementTovol ||| volumeMeasurementUlvol ||| volumeMeasurementDlvol) ::
        (u64ToBe r.totalVol ++ u64ToBe r.ulBytes ++ u64ToBe r.dlBytes))]

def Server.Report.usage (r : Report) : Bytes := r.usageIes.flatMap ieBytes

def Server.Report.ies (r : Report) : List (UInt16 × Bytes) :=
  [(pfcpIeReportType, [reportTypeUsar]), (pfcpIeUsageReportInSessRptReq, r.usage)]

section Reports

variable (r : Report)

theorem message_eq_ies : r.message =
    finish ((PfcpHeader.newSessionMsg pfcpSessionReportReq r.cpSeid r.seq).encode ++
      r.ies.flatMap ieBytes) := by
  simp [Report.message, buildSessionReportRequest, Report.ies, Report.usage, Report.usageIes,
    appendIe_eq]

theorem length_usage : r.usage.length = 51 := by
  simp [Report.usage, Report.usageIes, ieBytes, u16ToBe, u32ToBe, u64ToBe, length_bytesBe]

theorem usageIes_fit : ∀ ie ∈ r.usageIes, ie.2.length < 65536 := by
  simp [Report.usageIes, u32ToBe, u64ToBe, length_bytesBe]

/-- What is read of the volumes. -/
theorem volume_octets (flags : UInt8) (total ul dl : UInt64) :
    let value := flags :: (u64ToBe total ++ u64ToBe ul ++ u64ToBe dl)
    value.length = 25 ∧ u64OfBe ((value.drop 1).take 8) = total ∧
      u64OfBe ((value.drop 9).take 8) = ul ∧ u64OfBe ((value.drop 17).take 8) = dl := by
  have hlen : ∀ x : UInt64, (u64ToBe x).length = 8 := fun x => length_bytesBe 8 _
  have htotal : (u64ToBe total ++ u64ToBe ul ++ u64ToBe dl).take 8 = u64ToBe total := by
    rw [List.append_assoc, List.take_left' (hlen total)]
  have hul : ((u64ToBe total ++ u64ToBe ul ++ u64ToBe dl).drop 8).take 8 = u64ToBe ul := by
    rw [List.append_assoc, List.drop_left' (hlen total), List.take_left' (hlen ul)]
  have hdl : ((u64ToBe total ++ u64ToBe ul ++ u64ToBe dl).drop 16).take 8 = u64ToBe dl := by
    rw [List.drop_left' (by rw [List.length_append, hlen, hlen]), List.take_of_length_le]
    exact (hlen dl).le
  refine ⟨by simp [hlen], ?_, ?_, ?_⟩
  · rw [List.drop_succ_cons, List.drop_zero, htotal, u64OfBe_u64ToBe]
  · rw [List.drop_succ_cons, hul, u64OfBe_u64ToBe]
  · rw [List.drop_succ_cons, hdl, u64OfBe_u64ToBe]

/-- A usage report is read IE by IE. -/
theorem foldl_read_usageIes (seid : UInt64) :
    (iterIes r.usage).foldl UsageLine.read ⟨seid, 0, 0, 0, 0, 0⟩ = { r.line with seid } := by
  have hread : ∀ (line : UsageLine) (ies : List RawIE), ies.foldl UsageLine.read line =
      (ies.map fun ie => (ie.ieType, ie.value)).foldl
        (fun line ie => line.read (.mk ie.1 0 ie.2 [])) line := by
    intro line ies
    rw [List.foldl_map]
    rfl
  have h1 : pfcpIeUrSeqn ≠ pfcpIeUrrId := by decide
  have h2 : pfcpIeUsageReportTrigger ≠ pfcpIeUrrId := by decide
  have h3 : pfcpIeVolumeMeasurement ≠ pfcpIeUrrId := by decide
  have h4 : pfcpIeUrSeqn ≠ pfcpIeUsageReportTrigger := by decide
  have h5 : pfcpIeVolumeMeasurement ≠ pfcpIeUsageReportTrigger := by decide
  have h6 : pfcpIeUrSeqn ≠ pfcpIeVolumeMeasurement := by decide
  have hurrId : ∀ line : UsageLine, line.read (.mk pfcpIeUrrId 0 (u32ToBe r.urrId) []) =
      { line with urrId := r.urrId } := by
    intro line
    have hlen : (u32ToBe r.urrId).length = 4 := length_bytesBe ..
    simp [UsageLine.read, RawIE.ieType, RawIE.value, hlen, List.take_of_length_le hlen.le,
      u32OfBe_u32ToBe]
  have hseqn : ∀ line : UsageLine, line.read (.mk pfcpIeUrSeqn 0 (u32ToBe r.urSeqn) []) = line := by
    intro line
    simp [UsageLine.read, RawIE.ieType, h1, h4, h6]
  have htrigger : ∀ line : UsageLine,
      line.read (.mk pfcpIeUsageReportTrigger 0 [r.trigger, 0x00] []) =
        { line with trigger := r.trigger.toUInt16 } := by
    intro line
    simp [UsageLine.read, RawIE.ieType, RawIE.value, h2]
  have hvolume : ∀ line : UsageLine, line.read (.mk pfcpIeVolumeMeasurement 0
      ((volumeMeasurementTovol ||| volumeMeasurementUlvol ||| volumeMeasurementDlvol) ::
        (u64ToBe r.totalVol ++ u64ToBe r.ulBytes ++ u64ToBe r.dlBytes)) []) =
      { line with total := r.totalVol, ul := r.ulBytes, dl := r.dlBytes } := by
    intro line
    obtain ⟨hlen, htotal, hul, hdl⟩ := volume_octets
      (volumeMeasurementTovol ||| volumeMeasurementUlvol ||| volumeMeasurementDlvol)
      r.totalVol r.ulBytes r.dlBytes
    simp only [UsageLine.read, RawIE.ieType, RawIE.value, h3, h5, hlen, htotal, hul, hdl, true_and,
      false_and, if_false, if_pos, le_refl]
  rw [hread, Report.usage, iterIes_flatMap (usageIes_fit r)]
  simp only [Report.usageIes, List.foldl_cons, List.foldl_nil, hurrId, hseqn, htrigger, hvolume]
  rfl

/-- The line of a report. -/
theorem usageLines_report : usageLines r.cpSeid (r.ies.flatMap ieBytes) = [r.line] := by
  have hfit : ∀ ie ∈ r.ies, ie.2.length < 65536 := by
    simp [Report.ies, length_usage]
  have hne : pfcpIeReportType ≠ pfcpIeUsageReportInSessRptReq := by decide
  have hmap : ∀ ies : List RawIE, ((ies.filter (·.ieType = pfcpIeUsageReportInSessRptReq)).map
      fun outer => (iterIes outer.value).foldl UsageLine.read ⟨r.cpSeid, 0, 0, 0, 0, 0⟩) =
      ((ies.map fun ie => (ie.ieType, ie.value)).filter
        (·.1 = pfcpIeUsageReportInSessRptReq)).map
          fun ie => (iterIes ie.2).foldl UsageLine.read ⟨r.cpSeid, 0, 0, 0, 0, 0⟩ := by
    intro ies
    rw [List.filter_map, List.map_map]
    rfl
  rw [usageLines, hmap, iterIes_flatMap hfit]
  have hfilter : r.ies.filter (·.1 = pfcpIeUsageReportInSessRptReq) =
      [(pfcpIeUsageReportInSessRptReq, r.usage)] := by
    simp [Report.ies, hne]
  rw [hfilter, List.map_singleton, foldl_read_usageIes]
  rfl

theorem length_message_report : r.message.length ≤ 2048 := by
  have hd := decode_newSessionMsg pfcpSessionReportReq r.cpSeid r.seq (r.ies.flatMap ieBytes)
  rw [← message_eq_ies] at hd
  have hbody := PfcpHeader.length_le_body hd
  have hlen : (r.ies.flatMap ieBytes).length = 60 := by
    simp [Report.ies, ieBytes, u16ToBe, length_bytesBe, length_usage]
  omega

/-- **One report is logged and answered.** -/
theorem step_report (w : Waiting) (hw : w.failed = false) (src : SocketAddr) :
    w.step ⟨r.message, src, true⟩ = { w with
      lines := w.lines ++ [r.line]
      sent := w.sent ++ [(src, buildSessionReportResponse r.wireSeq r.cpSeid)] } := by
  have hd := decode_newSessionMsg pfcpSessionReportReq r.cpSeid r.seq (r.ies.flatMap ieBytes)
  rw [← message_eq_ies] at hd
  have htype : (PfcpHeader.newSessionMsg pfcpSessionReportReq r.cpSeid
      (UInt32.ofNat (r.seq.toNat % 2 ^ 24))).msgType = pfcpSessionReportReq := rfl
  rw [Waiting.step, hw, List.take_of_length_le (length_message_report r), hd]
  simp only [Bool.false_eq_true, if_false, if_true, htype]
  exact congrArg (fun ls => Waiting.mk (w.lines ++ ls) _ _) (usageLines_report r)

/-- The loop ignores everything else. -/
theorem step_of_not_isReport (w : Waiting) {x : Arrival} (h : x.isReport = false) :
    w.step x = w := by
  rw [Waiting.step]
  by_cases hfailed : w.failed = true
  · rw [if_pos hfailed]
  rw [if_neg hfailed]
  rw [Arrival.isReport] at h
  cases hd : PfcpHeader.decode (x.data.take 2048) with
  | error e => rfl
  | ok p =>
    rw [hd] at h
    exact if_neg (of_decide_eq_false h)

end Reports

/-- **Any number of reports, with anything else in between.** -/
theorem run_reports {rs : List Report} {xs : List Arrival}
    (h : (xs.filter Arrival.isReport).map (fun x => (x.data, x.sendable)) =
      rs.map fun r => (r.message, true)) {w : Waiting} (hw : w.failed = false) :
    (run Waiting.step w xs).lines = w.lines ++ rs.map Report.line ∧
      (run Waiting.step w xs).sent.map Prod.snd = w.sent.map Prod.snd ++
        rs.map (fun r => buildSessionReportResponse r.wireSeq r.cpSeid) := by
  induction xs generalizing rs w with
  | nil =>
    obtain rfl : rs = [] := List.map_eq_nil_iff.mp h.symm
    simp [run_nil]
  | cons x xs ih =>
    by_cases hx : x.isReport = true
    · rw [List.filter_cons_of_pos hx, List.map_cons] at h
      cases rs with
      | nil => cases h
      | cons r rs =>
        obtain ⟨hhead, htail⟩ := List.cons.inj h
        obtain ⟨data, src, sendable⟩ := x
        obtain ⟨rfl, rfl⟩ := Prod.mk.inj hhead
        rw [run_cons, step_report r w hw src]
        have hrun := ih htail (w := { w with
          lines := w.lines ++ [r.line]
          sent := w.sent ++ [(src, buildSessionReportResponse r.wireSeq r.cpSeid)] }) hw
        simpa only [List.map_append, List.map_cons, List.map_nil, List.append_assoc,
          List.singleton_append] using hrun
    · rw [Bool.not_eq_true] at hx
      rw [List.filter_cons_of_neg (by rw [hx]; exact Bool.false_ne_true)] at h
      rw [run_cons, step_of_not_isReport w hx]
      exact ih h hw

/-- The UPF takes an answer to a report and does nothing with it. -/
theorem receive_reportResponse (host : Host) (env : Env) (now : Instant) (src : SocketAddr)
    (w : World) (seq : UInt32) (seid : UInt64) :
    receive host env now (buildSessionReportResponse seq seid) src w = (.ok [], touched now w) := by
  have hies : addCause (PfcpHeader.newSessionMsg pfcpSessionReportRsp seid seq).encode
      causeRequestAccepted = (PfcpHeader.newSessionMsg pfcpSessionReportRsp seid seq).encode ++
        [(pfcpIeCause, [causeRequestAccepted])].flatMap ieBytes := by
    simp [addCause, appendIe_eq]
  have hd := decode_newSessionMsg pfcpSessionReportRsp seid seq
    ([(pfcpIeCause, [causeRequestAccepted])].flatMap ieBytes)
  rw [← hies] at hd
  change PfcpHeader.decode (buildSessionReportResponse seq seid) = _ at hd
  have hlen : (buildSessionReportResponse seq seid).length ≤ 4096 := by
    have hbody := PfcpHeader.length_le_body hd
    simp [ieBytes, u16ToBe, length_bytesBe] at hbody
    omega
  rw [receive, received, List.take_of_length_le hlen, handleMessage, hd]
  rfl

/-- The rows that wait for the reporter have different keys. -/
theorem totals_nodup (host : Host) (b : Boot) (evs : List Event) :
    ∀ totals, (Audit.after host b evs).sys.totals = some totals →
      (totals.map Prod.fst).Nodup := by
  refine run_inv_of_step (P := fun a : Audit => ∀ totals, a.sys.totals = some totals →
    (totals.map Prod.fst).Nodup) (fun a ev h totals htotals => ?_) (fun totals h => by cases h)
  cases ev with
  | datagram env now data src => exact h totals htotals
  | uplink x f => exact h totals htotals
  | downlink x f => exact h totals htotals
  | snapshot order =>
    simp only [Audit.step, System.step, System.handle] at htotals
    split at htotals
    · obtain rfl := Option.some.inj htotals
      exact snapshot_nodup ..
    · exact h totals htotals
  | report clock =>
    simp only [Audit.step, System.step, System.handle] at htotals
    split at htotals
    · next hnone =>
      rw [hnone] at htotals
      cases htotals
    · cases htotals

/-- The line that a row of the totals brings about, where the configurations are `f`. -/
def Server.Row.line (clock : ℕ → Instant) (f : UInt64 × UInt32 → Option UrrConfig) (row : Row) :
    Option UsageLine :=
  (f row.urr).bind fun cfg =>
    if row.Fires clock cfg then
      some ⟨cfg.cpSeid, row.urr.2, (row.trigger clock cfg).toUInt16, row.totalVol,
        row.1.2.ulBytes, row.1.2.dlBytes⟩
    else none

/-- **What the simulator logs is what the reporter has found.**  In any run, the reporter looks at
the rows that wait for it, and the simulator receives what it queues, with anything else in between.
Then it logs one line for each row whose URR has a trigger that fires, with the SEID the SMF chose,
the triggers and the volumes of the row.  It answers each report under its number and SEID, and the
UPF takes the answers without doing anything. -/
theorem reports_read (host : Host) (b : Boot) (evs : List Event) (totals : Totals)
    (peer : SocketAddr) (htotals : (Audit.after host b evs).sys.totals = some totals)
    (hpeer : (Audit.after host b evs).srv.peerAddr = some peer) (clock : ℕ → Instant)
    (xs : List Arrival)
    (hxs : (xs.filter Arrival.isReport).map (fun x => (x.data, x.sendable)) =
      ((Audit.after host b evs).reports host clock).map fun r => (r.message, true)) :
    (run Waiting.step .start xs).lines =
        totals.zipIdx.filterMap (Row.line clock (Audit.after host b evs).srv.urrConfigs.lookup) ∧
      (run Waiting.step .start xs).sent.map Prod.snd =
        ((Audit.after host b evs).reports host clock).map
          (fun r => buildSessionReportResponse r.wireSeq r.cpSeid) ∧
      ∀ p ∈ (run Waiting.step .start xs).sent, ∀ env now src w,
        receive host env now p.2 src w = (.ok [], touched now w) := by
  obtain ⟨hlines, hsent⟩ := run_reports hxs (w := .start) rfl
  have hreports : (Audit.after host b evs).reports host clock =
      (report clock totals (Audit.after host b evs).srv).2 := by
    simp only [Audit.reports, System.handle, htotals]
  refine ⟨?_, hsent, fun p hp env now src w => ?_⟩
  · have hline : ∀ r : Report, r.line = r.unnumbered.line := fun _ => rfl
    have hmap : (report clock totals (Audit.after host b evs).srv).2.map Report.line =
        ((report clock totals (Audit.after host b evs).srv).2.map Report.unnumbered).map
          Report.line := by
      rw [List.map_map]
      exact List.map_congr_left fun r _ => hline r
    rw [hlines, hreports, hmap, report_requests (totals_nodup host b evs totals htotals) hpeer,
      List.map_filterMap]
    refine List.filterMap_congr fun row _ => ?_
    rw [Row.queued, Row.line]
    cases (Audit.after host b evs).srv.urrConfigs.lookup row.urr with
    | none => rfl
    | some cfg =>
      simp only [Option.bind_some]
      split_ifs <;> rfl
  · have hp' : p.2 ∈ (run Waiting.step .start xs).sent.map Prod.snd := List.mem_map_of_mem hp
    rw [hsent] at hp'
    obtain ⟨r, -, heq⟩ := List.mem_map.mp hp'
    rw [← heq]
    exact receive_reportResponse host env now src w _ _

section Sim

open SmfSim Audit

/-- The periodic report of the simulator's URR, with a heartbeat before it. -/
theorem reports_read_periodic :
    (run Waiting.step .start [⟨heartbeat 5, peer smfA, true⟩,
      ⟨(periodicReport (peer smfA)).message, peer smfA, true⟩]).lines =
        [(⟨⟨(UrrKey.new 1 1).key, {}⟩, 0⟩ : Row)].filterMap (Row.line afterPeriod
          (Audit.after host boot
            [setup smfA 1, establish smfA 1 ue1, .snapshot .asStored]).srv.urrConfigs.lookup) :=
  (reports_read host boot [setup smfA 1, establish smfA 1 ue1, .snapshot .asStored]
    [((UrrKey.new 1 1).key, {})] (peer smfA) (by decide +kernel) (by decide +kernel) afterPeriod
    [⟨heartbeat 5, peer smfA, true⟩,
      ⟨(periodicReport (peer smfA)).message, peer smfA, true⟩] (by decide +kernel)).1

end Sim

end UpfEdge
