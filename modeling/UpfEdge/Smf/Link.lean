import UpfEdge.Answers
import UpfEdge.Interference
import UpfEdge.Pfcp.Roundtrip
import UpfEdge.Smf.Process

/-!
# The simulator and the UPF

The two parties and the network between them.  Whatever the simulator has sent can reach the UPF
late, again, in any order or not at all, and the same holds the other way: `sent` and `inbox` are
the datagrams that are or have been on the way, and none is ever taken out.  Every act is one turn
of one party; which datagram a read brings, and to which task, is part of the act.  Timeouts,
resends and failing sends are acts as well.

Besides what the UPF sends, the simulator may read strays of any type but Session Establishment
Response, such as the Heartbeat Requests of the UPF's keepalive task.
-/

namespace UpfEdge.SmfSim

open Lib Pfcp Server

structure Link (cfg : Config) where
  smf : Process cfg
  upf : Audit
  sent : List Bytes
  inbox : List Bytes

inductive Act where
  | addSession
  | delSession (seid : UInt64)
  | heartbeat (clock : UInt32)
  | associate (clock : UInt32)
  | keepalive (clock : UInt32)
  | sent (task : ℕ) (result : Except String Unit) (clock : UInt32)
  | recv (task msg : ℕ) (clock : UInt32)
  | lapse (task : ℕ) (e : CallError) (clock : UInt32)
  | stray (data : Bytes)
  | deliver (msg : ℕ) (env : Env) (now : Instant)
  | upf (ev : Event)

/-- The address the simulator's socket is bound to. -/
def Config.address (cfg : Config) : SocketAddr := .v4 cfg.smfN4Addr cfg.smfN4Port

namespace Link

variable {cfg : Config}

def start (cfg : Config) (b : Boot) : Link cfg where
  smf := .new cfg
  upf := .init b
  sent := []
  inbox := []

/-- An event at the UPF, and what it sends. -/
def upfStep (host : Host) (ev : Event) (l : Link cfg) : Link cfg :=
  { l with
    upf := l.upf.step host ev
    inbox := l.inbox ++ (l.upf.sent host ev).map fun m => cut m.2 }

/-- A task of the simulator goes on and sends `out`. -/
def smfStep (clock : UInt32) (i : ℕ) (t t' : Task cfg) (out : List Bytes) (l : Link cfg) :
    Link cfg :=
  { l with smf := l.smf.advance clock i t t', sent := l.sent ++ out }

def step (host : Host) (l : Link cfg) : Act → Link cfg
  | .addSession => { l with smf := l.smf.addSession }
  | .delSession seid => { l with smf := l.smf.delSession seid }
  | .heartbeat clock => { l with smf := l.smf.heartbeat clock }
  | .associate clock => { l with smf := l.smf.associate clock }
  | .keepalive clock => { l with smf := l.smf.keepalive clock }
  | .sent i result clock =>
    match l.smf.tasks[i]? with
    | none => l
    | some t =>
      let out := match t.call.phase, result with
        | .sending _, .ok () => [t.call.req.msg]
        | _, _ => []
      l.smfStep clock i t (t.onSent result) out
  | .recv i k clock =>
    match l.smf.tasks[i]?, l.inbox[k]? with
    | some t, some data =>
      match t.call.phase with
      | .receiving _ =>
        let (t', reply) := t.onDatagram clock data
        let l' := l.smfStep clock i t t' reply.toList
        if reply.isSome then { l' with smf := (l'.smf.readClock clock).2 } else l'
      | _ => l
    | _, _ => l
  | .lapse i e clock =>
    match l.smf.tasks[i]? with
    | none => l
    | some t => l.smfStep clock i t (t.onLapse e) []
  | .stray data =>
    if (PfcpHeader.decode data).toOption.map (·.1.msgType) = some pfcpSessionEstablishmentRsp then l
    else { l with inbox := l.inbox ++ [data] }
  | .deliver k env now =>
    match l.sent[k]? with
    | none => l
    | some data => l.upfStep host (.datagram env now data cfg.address)
  | .upf ev =>
    match ev with
    | .datagram .. => l
    | _ => l.upfStep host ev

end Link

/-- The first simulator, with a pool of addresses from 10.60.0.1 on. -/
def simConfig : Config where
  smfN4Addr := smfA
  smfN4Port := 8805
  gnbAddr := gnb
  ueIpPoolStart := ue1
  ueIpPoolEnd := ⟨10, 60, 0, 254⟩
  gnbTeidStart := 0x80000001
  maxRetries := 3

/-! ### The simulator's messages -/

namespace Purpose

variable (cfg : Config)

def msgType : Purpose → UInt8
  | addSession .. => pfcpSessionEstablishmentReq
  | delSession .. => pfcpSessionDeletionReq
  | heartbeat .. | keepaliveHeartbeat .. => pfcpHeartbeatReq
  | association .. | keepaliveAssociation .. => pfcpAssociationSetupReq

/-- The calls that build an establishment request. -/
def establishmentCalls (cpSeid : UInt64) (ueIp : Ipv4Addr) (gnbTeid : UInt32) : List RequestCall :=
  [.nodeId cfg.smfN4Addr, .fseid cpSeid cfg.smfN4Addr,
    .createPdr
      { pdrId := 1, precedence := 100, sourceInterface := interfaceAccess, fteidChoose := true
        ueIp := some ueIp, farId := 1, urrId := none, outerHeaderRemoval := true
        sdfFilter := none },
    .createPdr
      { pdrId := 2, precedence := 100, sourceInterface := interfaceCore, fteidChoose := false
        ueIp := some ueIp, farId := 2, urrId := none, outerHeaderRemoval := false
        sdfFilter := none },
    .createFar
      { farId := 1, applyAction := actionForw, destInterface := interfaceCore
        outerHeaderCreation := none },
    .createFar
      { farId := 2, applyAction := actionForw, destInterface := interfaceAccess
        outerHeaderCreation := some { teid := gnbTeid, peerAddr := cfg.gnbAddr, port := 2152 } }]

/-- The IEs of a message. -/
def ies : Purpose → List (UInt16 × Bytes)
  | addSession _ cpSeid ueIp gnbTeid =>
    (establishmentCalls cfg cpSeid ueIp gnbTeid).map RequestCall.ie
  | delSession .. => []
  | heartbeat _ ts | keepaliveHeartbeat _ ts => [(pfcpIeRecoveryTimeStamp, u32ToBe ts)]
  | association ts | keepaliveAssociation _ ts =>
    [(pfcpIeNodeId, 0x00 :: cfg.smfN4Addr.octets), (pfcpIeRecoveryTimeStamp, u32ToBe ts)]

theorem message_addSession (seq : UInt32) (cpSeid : UInt64) (ueIp : Ipv4Addr) (gnbTeid : UInt32) :
    (addSession seq cpSeid ueIp gnbTeid).message cfg =
      finish ((PfcpHeader.newSessionMsg pfcpSessionEstablishmentReq 0 seq).encode ++
        ((establishmentCalls cfg cpSeid ueIp gnbTeid).map RequestCall.ie).flatMap ieBytes) := by
  rw [← RequestCall.foldl_apply]
  simp only [message, buildSessionEstablishmentRequest, establishmentCalls, List.foldl_cons,
    List.foldl_nil, RequestCall.apply]

/-- **Every message of the simulator is read back** as its type and its IEs. -/
theorem decode_message (purpose : Purpose) : ∃ header,
    PfcpHeader.decode (purpose.message cfg) =
      .ok (header, (purpose.ies cfg).flatMap ieBytes) ∧ header.msgType = purpose.msgType := by
  cases purpose with
  | addSession seq cpSeid ueIp gnbTeid =>
    rw [message_addSession]
    exact ⟨_, decode_newSessionMsg .., rfl⟩
  | delSession seid upfSeid seq =>
    have h := decode_newSessionMsg pfcpSessionDeletionReq upfSeid seq []
    rw [List.append_nil] at h
    exact ⟨_, h, rfl⟩
  | heartbeat seq ts | keepaliveHeartbeat seq ts =>
    have hmsg : heartbeatRequest seq ts =
        finish ((PfcpHeader.newNodeMsg pfcpHeartbeatReq seq).encode ++
          [(pfcpIeRecoveryTimeStamp, u32ToBe ts)].flatMap ieBytes) := by
      simp [heartbeatRequest, addRecoveryTimestamp, appendIe_eq]
    simp only [message, hmsg]
    exact ⟨_, decode_newNodeMsg .., rfl⟩
  | association ts | keepaliveAssociation seq ts =>
    have hmsg : ∀ seq, associationRequest seq cfg.smfN4Addr ts =
        finish ((PfcpHeader.newNodeMsg pfcpAssociationSetupReq seq).encode ++
          [(pfcpIeNodeId, 0x00 :: cfg.smfN4Addr.octets),
            (pfcpIeRecoveryTimeStamp, u32ToBe ts)].flatMap ieBytes) := by
      intro seq
      simp [associationRequest, addNodeIdV4, addRecoveryTimestamp, appendIe_eq]
    simp only [message, hmsg]
    exact ⟨_, decode_newNodeMsg .., rfl⟩

theorem length_pdr_ie (p : PdrParams) : (RequestCall.createPdr p).ie.2.length < 500 := by
  have hlen := length_flatMap_ieBytes (pdrIes_short p)
  have hcount : (pdrIes p).length ≤ 6 := by
    have h1 := length_optIe_le pfcpIeUrrId (p.urrId.map u32ToBe)
    have h2 := length_optIe_le pfcpIeOuterHeaderRemoval
      (if p.outerHeaderRemoval then some [0x00] else none)
    simp only [pdrIes, List.length_append, List.length_cons, List.length_nil]
    omega
  change ((pdrIes p).flatMap ieBytes).length < 500
  omega

theorem length_far_ie (f : FarParams) : (RequestCall.createFar f).ie.2.length < 500 := by
  have hshort : ∀ ie ∈ farIes pfcpIeForwardingParameters f, ie.2.length < 29 := farIes_short f
  have hlen := length_flatMap_ieBytes hshort
  have hcount : (farIes pfcpIeForwardingParameters f).length = 3 := rfl
  change (farBytes pfcpIeForwardingParameters f).length < 500
  rw [farBytes_eq]
  omega

/-- An IE of the simulator is short. -/
theorem ies_short (purpose : Purpose) : ∀ ie ∈ purpose.ies cfg, ie.2.length < 500 := by
  cases purpose with
  | addSession seq cpSeid ueIp gnbTeid =>
    simp only [ies, establishmentCalls, List.map_cons, List.map_nil, List.forall_mem_cons]
    refine ⟨?_, ?_, length_pdr_ie _, length_pdr_ie _, length_far_ie _, length_far_ie _,
      List.forall_mem_nil _⟩
    · simp [RequestCall.ie, Ipv4Addr.octets]
    · simp [RequestCall.ie, Ipv4Addr.octets, u64ToBe, length_bytesBe]
  | delSession => exact List.forall_mem_nil _
  | heartbeat | keepaliveHeartbeat => simp [ies, u32ToBe, length_bytesBe]
  | association | keepaliveAssociation => simp [ies, u32ToBe, length_bytesBe, Ipv4Addr.octets]

theorem length_message (purpose : Purpose) : (purpose.message cfg).length ≤ 4096 := by
  have hies := length_flatMap_ieBytes (ies_short cfg purpose)
  have hcount : (purpose.ies cfg).length ≤ 6 := by cases purpose <;> simp [ies, establishmentCalls]
  obtain ⟨header, hd, -⟩ := decode_message cfg purpose
  have hlen := PfcpHeader.length_le_body hd
  omega

/-- The UPF's receive buffer holds every message of the simulator. -/
theorem received_message (purpose : Purpose) :
    received (purpose.message cfg) = purpose.message cfg :=
  List.take_of_length_le (length_message cfg purpose)

/-- What the UPF reads in an establishment request of the simulator. -/
theorem decode_addSession (cpSeid : UInt64) (ueIp : Ipv4Addr) (gnbTeid : UInt32) : ∃ req,
    SessionEstablishmentReq.decode
      (((establishmentCalls cfg cpSeid ueIp gnbTeid).map RequestCall.ie).flatMap ieBytes) =
        .ok req ∧
      req.cpSeid = cpSeid ∧ req.createPdrs.findSome? (·.ueIp) = some ueIp ∧
      req.createPdrs.length = 2 := by
  have hin : ∀ c ∈ establishmentCalls cfg cpSeid ueIp gnbTeid, c.InRange := by
    have h0 : interfaceAccess < 16 := by decide
    have h1 : interfaceCore < 16 := by decide
    simp [establishmentCalls, RequestCall.InRange, h0, h1]
  exact ⟨_, decode_establishment hin rfl rfl, rfl, rfl, rfl⟩

end Purpose

/-! ### What reaches the UPF -/

/-- A datagram the simulator may have sent: a request of a task, or the answer to a heartbeat. -/
def Wrote (cfg : Config) (purposes : List Purpose) (data : Bytes) : Prop :=
  (∃ purpose ∈ purposes, data = purpose.message cfg) ∨
    ∃ seq ts, data = buildHeartbeatResponse seq ts

theorem decode_heartbeatResponse (seq ts : UInt32) : ∃ header,
    PfcpHeader.decode (buildHeartbeatResponse seq ts) =
      .ok (header, [(pfcpIeRecoveryTimeStamp, u32ToBe ts)].flatMap ieBytes) ∧
      header.msgType = pfcpHeartbeatRsp := by
  have hmsg : buildHeartbeatResponse seq ts =
      finish ((PfcpHeader.newNodeMsg pfcpHeartbeatRsp seq).encode ++
        [(pfcpIeRecoveryTimeStamp, u32ToBe ts)].flatMap ieBytes) := by
    simp [buildHeartbeatResponse, addRecoveryTimestamp, appendIe_eq]
  rw [hmsg]
  exact ⟨_, decode_newNodeMsg .., rfl⟩

/-- The UPF's receive buffer holds such a datagram. -/
theorem Wrote.received_eq {cfg : Config} {purposes : List Purpose} {data : Bytes}
    (h : Wrote cfg purposes data) : received data = data := by
  rcases h with ⟨purpose, -, rfl⟩ | ⟨seq, ts, rfl⟩
  · exact purpose.received_message cfg
  · obtain ⟨header, hd, -⟩ := decode_heartbeatResponse seq ts
    refine List.take_of_length_le ((PfcpHeader.length_le_body hd).trans ?_)
    simp [ieBytes, u16ToBe, u32ToBe, length_bytesBe]

/-- The type and the IEs of such a datagram. -/
theorem Wrote.decode {cfg : Config} {purposes : List Purpose} {data : Bytes}
    (h : Wrote cfg purposes data) {header : PfcpHeader} {body : Bytes}
    (hd : PfcpHeader.decode (received data) = .ok (header, body)) :
    (∃ purpose ∈ purposes, data = purpose.message cfg ∧ header.msgType = purpose.msgType ∧
      body = (purpose.ies cfg).flatMap ieBytes) ∨ header.msgType = pfcpHeartbeatRsp := by
  rw [h.received_eq] at hd
  rcases h with ⟨purpose, hmem, rfl⟩ | ⟨seq, ts, rfl⟩
  · obtain ⟨header', hd', ht⟩ := purpose.decode_message cfg
    obtain ⟨rfl, rfl⟩ := Prod.mk.inj (Except.ok.inj (hd'.symm.trans hd))
    exact .inl ⟨purpose, hmem, rfl, ht, rfl⟩
  · obtain ⟨header', hd', ht⟩ := decode_heartbeatResponse seq ts
    obtain ⟨rfl, -⟩ := Prod.mk.inj (Except.ok.inj (hd'.symm.trans hd))
    exact .inr ht

/-- Only an establishment request of a task gets an establishment going. -/
theorem Wrote.admission {cfg : Config} {purposes : List Purpose} {data : Bytes}
    (h : Wrote cfg purposes data) {a : Audit} {env : Env} {now : Instant} {src : SocketAddr}
    {adm : Audit.Admission} (hadm : a.admission (.datagram env now data src) = some adm) :
    ∃ seq gnbTeid, Purpose.addSession seq adm.cpSeid adm.ueIp gnbTeid ∈ purposes := by
  obtain ⟨⟨req, assoc⟩, hest, hadm⟩ := Option.bind_eq_some_iff.mp hadm
  obtain ⟨gnbInfo, -, hadm⟩ := Option.bind_eq_some_iff.mp hadm
  obtain ⟨ueIp, hue, rfl⟩ := Option.map_eq_some_iff.mp hadm
  obtain ⟨header, body, hd, ht, hreq⟩ := of_establishes hest
  rcases h.decode hd with ⟨purpose, hmem, -, htype, rfl⟩ | htype
  · cases purpose with
    | addSession seq cpSeid ueIp' gnbTeid =>
      obtain ⟨req', hreq', rfl, hue', -⟩ := Purpose.decode_addSession cfg cpSeid ueIp' gnbTeid
      obtain rfl : req' = req := Except.ok.inj (hreq'.symm.trans hreq)
      obtain rfl : ueIp' = ueIp := Option.some.inj (hue'.symm.trans hue)
      exact ⟨seq, gnbTeid, hmem⟩
    | _ => cases ht.symm.trans htype
  · cases ht.symm.trans htype

/-! ### What the UPF answers -/

section Response

variable {e : Endian} {env : Env} {data : Bytes} {src : SocketAddr} {w : World}
  {header : PfcpHeader} {body r : Bytes}

theorem getElem_one_newNodeMsg (t : UInt8) (seq : UInt32) (rest : Bytes) :
    (finish ((PfcpHeader.newNodeMsg t seq).encode ++ rest))[1]? = some t :=
  PfcpHeader.getElem_one_of_decode (decode_newNodeMsg t seq rest)

theorem getElem_one_newSessionMsg (t : UInt8) (seid : UInt64) (seq : UInt32) (rest : Bytes) :
    (finish ((PfcpHeader.newSessionMsg t seid seq).encode ++ rest))[1]? = some t :=
  PfcpHeader.getElem_one_of_decode (decode_newSessionMsg t seid seq rest)

/-- Only an establishment request is answered by a Session Establishment Response. -/
theorem type_of_establishmentRsp (h : (handleMessage e env data src w).1 = .ok r)
    (hr : r[1]? = some pfcpSessionEstablishmentRsp)
    (hd : PfcpHeader.decode data = .ok (header, body)) :
    header.msgType = pfcpSessionEstablishmentReq := by
  by_contra hne
  simp only [handleMessage, hd, dispatch, if_neg hne] at h
  split_ifs at h with h1 h2 h4 h5 h6 h7
  · obtain rfl := Except.ok.inj h
    rw [buildHeartbeatResponse, addRecoveryTimestamp, appendIe_eq, getElem_one_newNodeMsg] at hr
    cases hr
  · unfold handleSessionAssociation at h
    split at h
    · cases h
    · have hsetup : ∀ seq addr ts, (buildAssociationSetupResponse seq addr ts)[1]? =
          some pfcpAssociationSetupRsp := by
        intro seq addr ts
        simp only [buildAssociationSetupResponse, addNodeIdV4, addCause, addRecoveryTimestamp,
          addUpFunctionFeatures, appendIe_eq, List.append_assoc]
        exact getElem_one_newNodeMsg ..
      simp only at h
      split_ifs at h <;>
      · obtain rfl := Except.ok.inj h
        rw [hsetup] at hr
        cases hr
  · cases hmod : modifies env header body src w with
    | none =>
      obtain ⟨err, heq⟩ : ∃ err, handleSessionModification e env header body src w =
        (.error err, w) := modification_of_none hmod
      rw [heq] at h
      cases h
    | some found =>
      obtain ⟨seid, session, req⟩ := found
      rw [modification_of_some hmod] at h
      obtain rfl := Except.ok.inj h
      rw [buildSessionModificationResponse, addCause, appendIe_eq, getElem_one_newSessionMsg] at hr
      cases hr
  · unfold handleSessionDeletion at h
    simp only at h
    split at h
    · cases h
    · obtain rfl := Except.ok.inj h
      rw [buildSessionDeletionResponse, addCause, appendIe_eq, getElem_one_newSessionMsg] at hr
      cases hr
  · obtain rfl := Except.ok.inj h
    cases hr
  · obtain rfl := Except.ok.inj h
    cases hr

end Response

/-! ### What one act can do -/

theorem Wrote.mono {cfg : Config} {purposes purposes' : List Purpose} {data : Bytes}
    (h : Wrote cfg purposes data) (hsub : purposes ⊆ purposes') : Wrote cfg purposes' data := by
  rcases h with ⟨purpose, hmem, heq⟩ | h
  · exact .inl ⟨purpose, hsub hmem, heq⟩
  · exact .inr h

/-- The answer to an unsolicited message is to a heartbeat. -/
theorem handleUnsolicited_eq_some {clock : UInt32} {data rsp : Bytes}
    (h : handleUnsolicited clock data = some rsp) :
    ∃ seq, rsp = buildHeartbeatResponse seq (Process.ntp clock) := by
  unfold handleUnsolicited at h
  split at h
  · split_ifs at h
    exact ⟨_, (Option.some.inj h).symm⟩
  · cases h

theorem Call.onDatagram_reply {c : Call} {clock : UInt32} {data rsp : Bytes}
    (h : (c.onDatagram clock data).2 = some rsp) :
    ∃ seq, rsp = buildHeartbeatResponse seq (Process.ntp clock) := by
  unfold Call.onDatagram at h
  split at h
  · split_ifs at h
    exact handleUnsolicited_eq_some h
  · cases h

namespace Link

variable {cfg : Config}

/-- What the simulator does with its sessions in an act of its own. -/
inductive SmfTurn (l : Link cfg) (act : Act) (p' : Process cfg) : Prop
  | quiet (h : l.smf.Quiet p')
  | granted (hact : act = .addSession) (ueIp : Ipv4Addr) (hpur : l.smf.purposes ⊆ p'.purposes)
    (hgrants : p'.grants ⊆ l.smf.grants ++ [(l.smf.state.nextCpSeid, ueIp)])
    (hold : l.smf.grants ⊆ p'.grants)
    (hnext : p'.state.nextCpSeid = l.smf.state.nextCpSeid + 1)
    (hs : p'.state.sessions = l.smf.state.sessions)
  | stored {i k attempt : ℕ} {clock : UInt32} {t : Task cfg} {data : Bytes} {seq : UInt32}
    {cpSeid : UInt64} {ueIp : Ipv4Addr} {gnbTeid : UInt32} {upfSeid : UInt64} {upfTeid : UInt32}
    {upfN3Addr : Ipv4Addr} (hact : act = .recv i k clock) (ht : l.smf.tasks[i]? = some t)
    (hdata : l.inbox[k]? = some data) (hphase : t.call.phase = .receiving attempt)
    (hpurpose : t.purpose = .addSession seq cpSeid ueIp gnbTeid)
    (htype : ∃ hdr body, PfcpHeader.decode data = .ok (hdr, body) ∧
      hdr.msgType = pfcpSessionEstablishmentRsp)
    (hinfo : extractSessionInfo data = .ok (upfSeid, upfTeid, upfN3Addr))
    (h : l.smf.Quiet { p' with state := { p'.state with sessions := l.smf.state.sessions } })
    (hs : p'.state.sessions = l.smf.state.sessions.insert cpSeid
      { cpSeid, upfSeid, upfTeid, upfN3Addr, ueIp, gnbTeid })
  | erased (seid : UInt64)
    (h : l.smf.Quiet { p' with state := { p'.state with sessions := l.smf.state.sessions } })
    (hs : p'.state.sessions = l.smf.state.sessions.erase seid)

theorem SmfTurn.purposes {l : Link cfg} {act : Act} {p' : Process cfg} (h : SmfTurn l act p') :
    l.smf.purposes ⊆ p'.purposes := by
  cases h with
  | quiet h => exact h.purposes
  | granted hact ueIp hpur => exact hpur
  | stored hact ht hdata hphase hpurpose htype hinfo h hs => exact h.purposes
  | erased seid h hs => exact h.purposes

/-- What an act leaves: it is a turn of the UPF, a stray, or a turn of the simulator. -/
inductive Moved (host : Host) (l : Link cfg) (act : Act) (l' : Link cfg) : Prop
  | delivered (k : ℕ) (env : Env) (now : Instant) (data : Bytes) (hact : act = .deliver k env now)
    (hdata : l.sent[k]? = some data)
    (h : l' = l.upfStep host (.datagram env now data cfg.address))
  | upf (ev : Event) (hev : ∀ env now data src, ev ≠ .datagram env now data src)
    (h : l' = l.upfStep host ev)
  | stray (data : Bytes)
    (htype : (PfcpHeader.decode data).toOption.map (·.1.msgType) ≠ some pfcpSessionEstablishmentRsp)
    (h : l' = { l with inbox := l.inbox ++ [data] })
  | smf (hupf : l'.upf = l.upf) (hinbox : l'.inbox = l.inbox)
    (hsent : ∀ m ∈ l'.sent, m ∈ l.sent ∨ Wrote cfg l'.smf.purposes m)
    (hsmf : SmfTurn l act l'.smf)

/-- The type that answers a task's request. -/
theorem expectedRspType_eq (t : Task cfg) : t.call.req.expectedRspType = t.purpose.msgType + 1 := by
  obtain ⟨body, hd⟩ := t.call.req.decodes
  obtain ⟨header, hd', ht⟩ := t.purpose.decode_message cfg
  rw [t.sends, hd'] at hd
  rw [Request.expectedRspType, ← (Prod.mk.inj (Except.ok.inj hd)).1, ht]

theorem moved_of_quiet {host : Host} {l : Link cfg} {act : Act} {p' : Process cfg}
    (h : l.smf.Quiet p') : Moved host l act { l with smf := p' } :=
  .smf rfl rfl (fun _ => .inl) (.quiet h)

theorem SmfTurn.readClock {l : Link cfg} {act : Act} {p' : Process cfg} (h : SmfTurn l act p')
    (clock : UInt32) : SmfTurn l act (p'.readClock clock).2 := by
  cases h with
  | quiet h => exact .quiet (h.trans (.of_tasks rfl rfl rfl))
  | granted hact ueIp hpur hgrants hold hnext hs =>
    exact .granted hact ueIp hpur hgrants hold hnext hs
  | stored hact ht hdata hphase hpurpose htype hinfo h hs =>
    exact .stored hact ht hdata hphase hpurpose htype hinfo (h.trans (.of_tasks rfl rfl rfl)) hs
  | erased seid h hs => exact .erased seid (h.trans (.of_tasks rfl rfl rfl)) hs

theorem mem_sent_append {l : Link cfg} {p' : Process cfg} {out : List Bytes}
    (hout : ∀ m ∈ out, Wrote cfg l.smf.purposes m) (hpur : l.smf.purposes ⊆ p'.purposes) :
    ∀ m ∈ l.sent ++ out, m ∈ l.sent ∨ Wrote cfg p'.purposes m := by
  intro m hm
  rcases List.mem_append.mp hm with hm | hm
  · exact .inl hm
  · exact .inr ((hout m hm).mono hpur)

/-- A task goes on without a datagram. -/
theorem moved_of_advance {host : Host} {l : Link cfg} {act : Act} {i : ℕ} {t t' : Task cfg}
    (clock : UInt32) {out : List Bytes} (hi : l.smf.tasks[i]? = some t)
    (hp : t'.purpose = t.purpose) (hout : ∀ m ∈ out, Wrote cfg l.smf.purposes m)
    (hne : t.call.phase.running → ∀ rsp, t'.call.phase ≠ .returned rsp) :
    Moved host l act (l.smfStep clock i t t' out) := by
  have hturn : SmfTurn l act (l.smf.advance clock i t t') := by
    cases Process.advanced t' clock hi hp with
    | quiet h => exact .quiet h
    | stored hrun _ hphase => exact absurd hphase (hne hrun _)
    | erased seid h hs => exact .erased seid h hs
  exact .smf rfl rfl (mem_sent_append hout hturn.purposes) hturn

theorem wrote_request {l : Link cfg} {i : ℕ} {t : Task cfg} (hi : l.smf.tasks[i]? = some t) :
    Wrote cfg l.smf.purposes t.call.req.msg :=
  .inl ⟨t.purpose, List.mem_map_of_mem (List.mem_of_getElem? hi), t.sends⟩

/-- A task reads a datagram. -/
theorem smfTurn_of_recv {l : Link cfg} {i k attempt : ℕ} (clock : UInt32) {t : Task cfg}
    {data : Bytes} (hi : l.smf.tasks[i]? = some t) (hdata : l.inbox[k]? = some data)
    (hphase : t.call.phase = .receiving attempt) :
    SmfTurn l (.recv i k clock) (l.smf.advance clock i t (t.onDatagram clock data).1) ∧
      ∀ m ∈ (t.onDatagram clock data).2, Wrote cfg l.smf.purposes m := by
  constructor
  · cases Process.advanced (t.onDatagram clock data).1 clock hi rfl with
    | quiet h => exact .quiet h
    | stored hrun hpurpose hend hinfo h hs =>
      obtain ⟨rfl, hdr, body, hd, ht⟩ := Call.of_onDatagram_returned hrun hend
      rw [expectedRspType_eq, hpurpose] at ht
      exact .stored rfl hi hdata hphase hpurpose ⟨hdr, body, hd, ht⟩ hinfo h hs
    | erased seid h hs => exact .erased seid h hs
  · intro m hm
    obtain ⟨seq, rfl⟩ := Call.onDatagram_reply hm
    exact .inr ⟨_, _, rfl⟩

/-- An `AddSession` that reads a Session Establishment Response stores what it says. -/
theorem sessions_of_recv (host : Host) {l : Link cfg} {i k attempt : ℕ} (clock : UInt32)
    {t : Task cfg} {data : Bytes} {seq : UInt32} {cpSeid : UInt64} {ueIp : Ipv4Addr}
    {gnbTeid : UInt32} {upfSeid : UInt64} {upfTeid : UInt32} {upfN3Addr : Ipv4Addr}
    {hdr : PfcpHeader} {body : Bytes} (hi : l.smf.tasks[i]? = some t)
    (hdata : l.inbox[k]? = some data) (hphase : t.call.phase = .receiving attempt)
    (hpurpose : t.purpose = .addSession seq cpSeid ueIp gnbTeid)
    (hd : PfcpHeader.decode data = .ok (hdr, body))
    (htype : hdr.msgType = pfcpSessionEstablishmentRsp)
    (hinfo : extractSessionInfo data = .ok (upfSeid, upfTeid, upfN3Addr)) :
    (l.step host (.recv i k clock)).upf = l.upf ∧
      (l.step host (.recv i k clock)).smf.state.sessions = l.smf.state.sessions.insert cpSeid
        { cpSeid, upfSeid, upfTeid, upfN3Addr, ueIp, gnbTeid } := by
  have ht : hdr.msgType = t.call.req.expectedRspType := by
    rw [expectedRspType_eq, hpurpose, htype]
    rfl
  have hcall := Call.onDatagram_of_type clock hd ht
  simp only [step, hi, hdata, hphase, Task.onDatagram, hcall, smfStep, Option.isSome_none,
    Process.advance, Phase.running, hpurpose, Process.conclude, hinfo]
  exact ⟨rfl, rfl⟩

theorem moved (host : Host) (l : Link cfg) (act : Act) : Moved host l act (l.step host act) := by
  have hself : Moved host l act l := moved_of_quiet (.refl _)
  cases act with
  | addSession =>
    rcases l.smf.addSession_cases with h | ⟨ueIp, hpur, hgrants, hold, hnext, hs⟩
    · exact moved_of_quiet h
    · exact .smf rfl rfl (fun _ => .inl) (.granted rfl ueIp hpur hgrants hold hnext hs)
  | delSession seid => exact moved_of_quiet (Process.quiet_delSession seid _)
  | heartbeat clock => exact moved_of_quiet (Process.quiet_heartbeat clock _)
  | associate clock => exact moved_of_quiet (Process.quiet_associate clock _)
  | keepalive clock => exact moved_of_quiet (Process.quiet_keepalive clock _)
  | sent i result clock =>
    simp only [step]
    split
    · exact hself
    · next t hi =>
      refine moved_of_advance clock hi rfl (fun m hm => ?_) fun hrun => Call.onSent_ne_returned hrun
      split at hm
      · obtain rfl := List.mem_singleton.mp hm
        exact wrote_request hi
      · cases hm
  | recv i k clock =>
    simp only [step]
    split
    · next t data hi hdata =>
      split
      · next attempt hphase =>
        obtain ⟨hturn, hout⟩ := smfTurn_of_recv clock hi hdata hphase
        have hout' : ∀ m ∈ (t.onDatagram clock data).2.toList, Wrote cfg l.smf.purposes m :=
          fun m hm => hout m (Option.mem_toList.mp hm)
        split_ifs
        · have hturn' := hturn.readClock clock
          exact .smf rfl rfl (mem_sent_append hout' hturn'.purposes) hturn'
        · exact .smf rfl rfl (mem_sent_append hout' hturn.purposes) hturn
      · exact hself
    · exact hself
  | lapse i e clock =>
    simp only [step]
    split
    · exact hself
    · next t hi =>
      exact moved_of_advance clock hi rfl nofun fun hrun => Call.onLapse_ne_returned hrun
  | stray data =>
    simp only [step]
    split_ifs with htype
    · exact hself
    · exact .stray data htype rfl
  | deliver k env now =>
    simp only [step]
    split
    · exact hself
    · next data hdata => exact .delivered k env now data rfl hdata rfl
  | upf ev =>
    cases ev with
    | datagram => exact hself
    | snapshot | report | uplink | downlink =>
      refine .upf _ ?_ rfl
      rintro _ _ _ _ ⟨⟩

end Link

end UpfEdge.SmfSim
