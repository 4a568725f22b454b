import UpfEdge.Answers
import UpfEdge.Pfcp.Roundtrip
import UpfEdge.Smf.Validator

/-!
# What the UPF answers, the simulator understands

The response to an establishment is written by `builder.rs` from what the handler stored and read by
`validator.rs`.  Both length fields are casts that would cut silently: an IE of the response has at
most 19 octets, and there are no more Created PDRs than IEs in the request, four octets each, of
which the receive buffer holds 4096 in all.

The identifiers are the other condition: the reader takes a SEID or a TEID of 0 for a failure.  The
counters start at 1 and 1000 and both go up by one with every establishment that gets as far as
taking them (`nextSeid_run`, `nextTeid_run`), so 0 comes only after they have gone round.
-/

namespace UpfEdge

open Lib Pfcp Server

/-! ### Reading a response -/

/-- What an IE of an establishment response says. -/
inductive ResponseIe where
  | nodeId (addr : Ipv4Addr)
  | cause (value : UInt8)
  | fseid (seid : UInt64) (addr : Ipv4Addr)
  | createdPdr (pdrId : UInt16) (teid : UInt32) (addr : Ipv4Addr)
  deriving DecidableEq, Repr

def readCreatedPdr (value : Bytes) : Option ResponseIe :=
  (findIe (iterIes value) pfcpIePdrId).bind fun pdrId => (field16 pdrId.value).bind fun id =>
    (optionalIe (iterIes value) pfcpIeFteid parseFteid).map fun fteid =>
      .createdPdr id fteid.1 fteid.2

/-- One IE of the body of a response. -/
def readIe (t : UInt16) (value : Bytes) : Option ResponseIe :=
  if t = pfcpIeNodeId then (parseNodeId value).toOption.map .nodeId
  else if t = pfcpIeCause then value.head?.map .cause
  else if t = pfcpIeFseid then (parseFseid value).toOption.map fun fseid => .fseid fseid.1 fseid.2
  else if t = pfcpIeCreatedPdr then readCreatedPdr value
  else none

/-- The IEs of the response that accepts a session. -/
def responseIes (seid : UInt64) (addr : Ipv4Addr) (pdrs : List (UInt16 × UInt32 × Ipv4Addr)) :
    List ResponseIe :=
  [.nodeId addr, .cause causeRequestAccepted, .fseid seid addr] ++
    pdrs.map fun p => .createdPdr p.1 p.2.1 p.2.2

theorem parseFteid_octets (teid : UInt32) (addr : Ipv4Addr) :
    parseFteid (0x02 :: (u32ToBe teid ++ addr.octets)) = .ok (teid, addr) := by
  obtain ⟨b₀, b₁, b₂, b₃, hb⟩ : ∃ b₀ b₁ b₂ b₃, u32ToBe teid = [b₀, b₁, b₂, b₃] := ⟨_, _, _, _, rfl⟩
  have hteid : u32OfBe [b₀, b₁, b₂, b₃] = teid := by rw [← hb, u32OfBe_u32ToBe]
  have hchoose : (2 : UInt8) &&& 4 = 0 := by decide
  simp [parseFteid, hb, hteid, hchoose, Ipv4Addr.octets]

/-- The two IEs of a Created PDR, by type. -/
theorem findIe_createdPdrBytes (p : UInt16 × UInt32 × Ipv4Addr) :
    (findIe (iterIes (createdPdrBytes p)) pfcpIePdrId).map (·.value) = some (u16ToBe p.1) ∧
      (findIe (iterIes (createdPdrBytes p)) pfcpIeFteid).map (·.value) =
        some (0x02 :: (u32ToBe p.2.1 ++ p.2.2.octets)) := by
  have hshort : ∀ ie ∈ [(pfcpIePdrId, u16ToBe p.1),
      (pfcpIeFteid, 0x02 :: (u32ToBe p.2.1 ++ p.2.2.octets))], ie.2.length < 65536 := by
    simp [u16ToBe, u32ToBe, length_bytesBe, Ipv4Addr.octets]
  have hne : pfcpIePdrId ≠ pfcpIeFteid := by decide
  rw [createdPdrBytes, findIe_flatMap hshort, findIe_flatMap hshort]
  simp [hne]

theorem readCreatedPdr_bytes (p : UInt16 × UInt32 × Ipv4Addr) :
    readCreatedPdr (createdPdrBytes p) = some (.createdPdr p.1 p.2.1 p.2.2) := by
  obtain ⟨hid, hfteid⟩ := findIe_createdPdrBytes p
  obtain ⟨pdrId, hid, hv⟩ := Option.map_eq_some_iff.mp hid
  obtain ⟨fteid, hfteid, hv'⟩ := Option.map_eq_some_iff.mp hfteid
  simp [readCreatedPdr, optionalIe, hid, hfteid, hv, hv', field16_u16ToBe, parseFteid_octets,
    Except.toOption]

section Response

variable (seid : UInt64) (addr : Ipv4Addr) (pdrs : List (UInt16 × UInt32 × Ipv4Addr))

theorem establishmentIes_short : ∀ ie ∈ establishmentIes seid addr pdrs, ie.2.length < 20 := by
  intro ie hie
  rcases List.mem_append.mp hie with hie | hie
  · simp only [List.mem_cons, List.not_mem_nil, or_false] at hie
    rcases hie with rfl | rfl | rfl
    · simp [Ipv4Addr.octets]
    · simp
    · simp [Ipv4Addr.octets, u64ToBe, length_bytesBe]
  · obtain ⟨p, -, rfl⟩ := List.mem_map.mp hie
    simp [length_createdPdrBytes]

theorem establishmentIes_fit : ∀ ie ∈ establishmentIes seid addr pdrs, ie.2.length < 65536 :=
  fun ie hie => (establishmentIes_short seid addr pdrs ie hie).trans (by decide)

theorem length_establishmentIes :
    ((establishmentIes seid addr pdrs).flatMap ieBytes).length ≤ (pdrs.length + 3) * 23 := by
  have hlen : (establishmentIes seid addr pdrs).length = pdrs.length + 3 := by
    simp [establishmentIes]
  have h := length_flatMap_ieBytes (establishmentIes_short seid addr pdrs)
  rwa [hlen] at h

theorem readIe_establishmentIes :
    (establishmentIes seid addr pdrs).map (fun ie => readIe ie.1 ie.2) =
      (responseIes seid addr pdrs).map some := by
  have hnode : readIe pfcpIeNodeId (0x00 :: addr.octets) = some (.nodeId addr) := by
    rw [readIe, if_pos rfl, parseNodeId_octets]
    rfl
  have hcause : readIe pfcpIeCause [causeRequestAccepted] = some (.cause causeRequestAccepted) := by
    rw [readIe, if_neg (by decide), if_pos rfl]
    rfl
  have hfseid : readIe pfcpIeFseid (0x02 :: (u64ToBe seid ++ addr.octets)) =
      some (.fseid seid addr) := by
    rw [readIe, if_neg (by decide), if_neg (by decide), if_pos rfl, parseFseid_octets]
    rfl
  have hpdr : ∀ p, readIe pfcpIeCreatedPdr (createdPdrBytes p) =
      some (.createdPdr p.1 p.2.1 p.2.2) := by
    intro p
    rw [readIe, if_neg (by decide), if_neg (by decide), if_neg (by decide), if_pos rfl,
      readCreatedPdr_bytes]
  simp only [establishmentIes, responseIes, List.map_append, List.map_cons, List.map_nil,
    List.map_map, hnode, hcause, hfseid]
  congr 1
  exact List.map_congr_left fun p _ => hpdr p

/-- What the response is read as. -/
theorem iterIes_establishmentIes :
    (iterIes ((establishmentIes seid addr pdrs).flatMap ieBytes)).map
      (fun ie => readIe ie.ieType ie.value) = (responseIes seid addr pdrs).map some := by
  have h := congrArg (List.map fun ie => readIe ie.1 ie.2)
    (iterIes_flatMap (establishmentIes_fit seid addr pdrs))
  rw [List.map_map, readIe_establishmentIes] at h
  exact h

theorem validate_establishmentIes :
    (validate pfcpSessionEstablishmentRsp ((establishmentIes seid addr pdrs).flatMap ieBytes)).isOk
      := by
  have htypes := congrArg (List.map Prod.fst)
    (iterIes_flatMap (establishmentIes_fit seid addr pdrs))
  rw [List.map_map] at htypes
  change (iterIes _).map (·.ieType) = _ at htypes
  have hmand : mandatoryTypes pfcpSessionEstablishmentRsp = [pfcpIeNodeId, pfcpIeCause] := by decide
  rw [validate_isOk, htypes, hmand]
  simp [establishmentIes]

theorem validateCause_establishmentIes :
    SmfSim.validateCause (iterIes ((establishmentIes seid addr pdrs).flatMap ieBytes)) =
      .ok () := by
  have hne : pfcpIeNodeId ≠ pfcpIeCause := by decide
  have hfind := findIe_flatMap (establishmentIes_fit seid addr pdrs) pfcpIeCause
  have hcause : ((establishmentIes seid addr pdrs).find? (·.1 = pfcpIeCause)).map (·.2) =
      some [causeRequestAccepted] := by simp [establishmentIes, hne]
  obtain ⟨cause, hcause, hv⟩ := Option.map_eq_some_iff.mp (hfind.trans hcause)
  simp [SmfSim.validateCause, hcause, hv]

end Response

/-- A response to a request that was read passes the check of the simulator. -/
theorem validateResponse_establishment {header : PfcpHeader} {buf body : Bytes}
    (hd : PfcpHeader.decode buf = .ok (header, body)) (cpSeid seid : UInt64) (addr : Ipv4Addr)
    (pdrs : List (UInt16 × UInt32 × Ipv4Addr)) :
    SmfSim.validateResponse pfcpSessionEstablishmentReq header.seqNum
      (buildSessionEstablishmentResponse header.seqNum cpSeid seid addr pdrs) = .ok () := by
  have htype : pfcpSessionEstablishmentReq + 1 = pfcpSessionEstablishmentRsp := by decide
  rw [SmfSim.validateResponse, buildSessionEstablishmentResponse_eq, decode_answer _ _ hd _]
  simp [PfcpHeader.newSessionMsg, htype, validate_establishmentIes, validateCause_establishmentIes]

/-- The identifiers the simulator takes from a response with a Created PDR. -/
theorem extractSessionInfo_establishment {seq : UInt32} (cpSeid : UInt64) {seid : UInt64}
    (addr : Ipv4Addr) (p : UInt16 × UInt32 × Ipv4Addr) (pdrs : List (UInt16 × UInt32 × Ipv4Addr))
    (hseid : seid ≠ 0) (hteid : p.2.1 ≠ 0) :
    SmfSim.extractSessionInfo (buildSessionEstablishmentResponse seq cpSeid seid addr (p :: pdrs)) =
      .ok (seid, p.2.1, p.2.2) := by
  have hfit := establishmentIes_fit seid addr (p :: pdrs)
  have h1 : pfcpIeNodeId ≠ pfcpIeFseid := by decide
  have h2 : pfcpIeCause ≠ pfcpIeFseid := by decide
  have h3 : pfcpIeNodeId ≠ pfcpIeCreatedPdr := by decide
  have h4 : pfcpIeCause ≠ pfcpIeCreatedPdr := by decide
  have h5 : pfcpIeFseid ≠ pfcpIeCreatedPdr := by decide
  have hfseid : ((establishmentIes seid addr (p :: pdrs)).find? (·.1 = pfcpIeFseid)).map (·.2) =
      some (0x02 :: (u64ToBe seid ++ addr.octets)) := by simp [establishmentIes, h1, h2]
  have hpdr : ((establishmentIes seid addr (p :: pdrs)).find? (·.1 = pfcpIeCreatedPdr)).map (·.2) =
      some (createdPdrBytes p) := by simp [establishmentIes, h3, h4, h5]
  obtain ⟨fseid, hfseid, hvf⟩ := Option.map_eq_some_iff.mp ((findIe_flatMap hfit _).trans hfseid)
  obtain ⟨pdr, hpdr, hvp⟩ := Option.map_eq_some_iff.mp ((findIe_flatMap hfit _).trans hpdr)
  obtain ⟨fteid, hfteid, hvt⟩ := Option.map_eq_some_iff.mp (findIe_createdPdrBytes p).2
  simp [SmfSim.extractSessionInfo, buildSessionEstablishmentResponse_eq, decode_newSessionMsg,
    Except.mapError, SmfSim.expectIe, hfseid, hvf, parseFseid_octets, hseid, hpdr, hvp, hfteid, hvt,
    parseFteid_octets, hteid, bind, Except.bind, pure, Except.pure]

theorem extractSessionInfo_createdPdrs {seq : UInt32} (cpSeid : UInt64) {seid : UInt64}
    (addr : Ipv4Addr) {teid : UInt32} {pdrs : List ParsedPDR} {p : ParsedPDR} (hseid : seid ≠ 0)
    (hteid : teid ≠ 0) (hp : p ∈ pdrs) (hacc : p.sourceInterface = interfaceAccess) :
    SmfSim.extractSessionInfo
      (buildSessionEstablishmentResponse seq cpSeid seid addr (createdPdrs addr teid pdrs)) =
        .ok (seid, teid, addr) := by
  have hmem : p ∈ pdrs.filter (·.sourceInterface = interfaceAccess) :=
    List.mem_filter.mpr ⟨hp, decide_eq_true hacc⟩
  obtain ⟨q, qs, hqs⟩ := List.exists_cons_of_ne_nil (List.ne_nil_of_mem hmem)
  rw [createdPdrs, hqs, List.map_cons]
  exact extractSessionInfo_establishment cpSeid addr (q.pdrId, teid, addr) _ hseid hteid

/-! ### The size of a response -/

theorem length_of_mapM {ε α β : Type} {f : α → Except ε β} :
    ∀ {xs : List α} {ys : List β}, xs.mapM f = .ok ys → ys.length = xs.length
  | [], ys, h => by
    obtain rfl : [] = ys := Except.ok.inj h
    rfl
  | x :: xs, ys, h => by
    rw [List.mapM_cons] at h
    obtain ⟨y, -, h⟩ := except_bind_ok h
    obtain ⟨ys', hys', h⟩ := except_bind_ok h
    obtain rfl : y :: ys' = ys := Except.ok.inj h
    rw [List.length_cons, List.length_cons, length_of_mapM hys']

/-- A request has no more Create PDRs than its octets have room for. -/
theorem length_createPdrs {body : Bytes} {req : SessionEstablishmentReq}
    (h : SessionEstablishmentReq.decode body = .ok req) :
    req.createPdrs.length * 4 ≤ body.length := by
  obtain ⟨fseid, -, h⟩ := except_bind_ok h
  obtain ⟨pdrs, hpdrs, h⟩ := except_bind_ok h
  obtain ⟨fars, -, h⟩ := except_bind_ok h
  obtain ⟨urrs, -, h⟩ := except_bind_ok h
  obtain rfl := (Except.ok.inj h).symm
  have hlen : pdrs.length ≤ (iterIes body).length := by
    rw [length_of_mapM hpdrs]
    exact List.length_filter_le ..
  have := length_iterIes body
  exact (Nat.mul_le_mul_right 4 hlen).trans this

theorem length_createdPdrs (addr : Ipv4Addr) (teid : UInt32) (pdrs : List ParsedPDR) :
    (createdPdrs addr teid pdrs).length ≤ pdrs.length := by
  rw [createdPdrs, List.length_map]
  exact List.length_filter_le ..

theorem length_finish {buf : Bytes} (h : 4 ≤ buf.length) : (finish buf).length = buf.length := by
  simp only [finish, List.length_append, List.length_take, List.length_drop, u16ToBe,
    length_bytesBe]
  omega

/-! ### Identifiers issued -/

namespace Audit

/-- The number of SEIDs, and of TEIDs, that a run takes from the counters. -/
def identifiersIssued (host : Host) : Audit → List Event → ℕ
  | _, [] => 0
  | a, ev :: evs => (if a.Issues ev then 1 else 0) + identifiersIssued host (a.step host ev) evs

theorem step_counters (host : Host) (a : Audit) (ev : Event) :
    (a.step host ev).srv.nextSeid = a.srv.nextSeid + (if a.Issues ev then 1 else 0) ∧
      (a.step host ev).srv.nextTeid = a.srv.nextTeid + (if a.Issues ev then 1 else 0) := by
  cases step_booked host a ev with
  | idle hiss _ _ _ hseid hteid | deleted hiss _ _ _ _ hseid hteid
  | modified hiss _ _ _ _ _ _ _ hseid hteid
  | refused hiss _ _ _ _ hseid hteid | established hiss _ _ _ _ _ _ hseid hteid =>
    simp [hiss, hseid, hteid]

theorem nextSeid_run (host : Host) : ∀ (evs : List Event) (a : Audit),
    (run (step host) a evs).srv.nextSeid =
      a.srv.nextSeid + UInt64.ofNat (identifiersIssued host a evs)
  | [], a => by simp [run, identifiersIssued]
  | ev :: evs, a => by
    rw [run_cons, nextSeid_run host evs, (step_counters host a ev).1, identifiersIssued,
      UInt64.ofNat_add, UInt64.add_assoc]
    split_ifs <;> rfl

theorem nextTeid_run (host : Host) : ∀ (evs : List Event) (a : Audit),
    (run (step host) a evs).srv.nextTeid =
      a.srv.nextTeid + UInt32.ofNat (identifiersIssued host a evs)
  | [], a => by simp [run, identifiersIssued]
  | ev :: evs, a => by
    rw [run_cons, nextTeid_run host evs, (step_counters host a ev).2, identifiersIssued,
      UInt32.ofNat_add, UInt32.add_assoc]
    split_ifs <;> rfl

/-- Until the TEIDs have gone round, neither counter stands at 0. -/
theorem counters_ne_zero (host : Host) (b : Boot) (evs : List Event)
    (h : identifiersIssued host (init b) evs < 2 ^ 32 - 1000) :
    (after host b evs).srv.nextSeid ≠ 0 ∧ (after host b evs).srv.nextTeid ≠ 0 := by
  have hseid := nextSeid_run host evs (init b)
  have hteid := nextTeid_run host evs (init b)
  have hseid0 : (init b).srv.nextSeid = 1 := rfl
  have hteid0 : (init b).srv.nextTeid = 1000 := rfl
  rw [hseid, hteid, hseid0, hteid0]
  generalize identifiersIssued host (init b) evs = k at h
  have hk64 : (UInt64.ofNat k).toNat = k := UInt64.toNat_ofNat_of_lt' (h.trans (by decide))
  have hk32 : (UInt32.ofNat k).toNat = k := UInt32.toNat_ofNat_of_lt' (h.trans (by decide))
  constructor
  · intro h0
    have h1 := congrArg UInt64.toNat h0
    rw [UInt64.toNat_add, hk64] at h1
    simp at h1
    omega
  · intro h0
    have h1 := congrArg UInt32.toNat h0
    rw [UInt32.toNat_add, hk32] at h1
    simp at h1
    omega

end Audit

/-! ### The exchange -/

/-- The response to a request whose session the UPF has just stored, as the simulator reads it. -/
structure Understood (header : PfcpHeader) (body : Bytes) (w w' : World) (rsp : Bytes)
    (req : SessionEstablishmentReq) (session : SessionData) : Prop where
  request : SessionEstablishmentReq.decode body = .ok req
  stored : w'.srv.sessions = w.srv.sessions.insert w.srv.nextSeid session
  teid : session.teid = w.srv.nextTeid
  ies : ∃ header' body', PfcpHeader.decode rsp = .ok (header', body') ∧
    header'.length.toNat + 4 = rsp.length ∧
    (iterIes body').map (fun ie => readIe ie.ieType ie.value) =
      (responseIes w.srv.nextSeid w.srv.n3Addr
        ((req.createPdrs.filter (·.sourceInterface = interfaceAccess)).map
          fun p => (p.pdrId, session.teid, w.srv.n3Addr))).map some
  valid : SmfSim.validateResponse pfcpSessionEstablishmentReq header.seqNum rsp = .ok ()
  info : (∃ p ∈ req.createPdrs, p.sourceInterface = interfaceAccess) →
    SmfSim.extractSessionInfo rsp = .ok (w.srv.nextSeid, session.teid, w.srv.n3Addr)

/-- The length field of the response counts all of it but the first four octets. -/
theorem length_buildSessionEstablishmentResponse {seq : UInt32} {cpSeid seid : UInt64}
    {addr : Ipv4Addr} {pdrs : List (UInt16 × UInt32 × Ipv4Addr)}
    (h : pdrs.length ≤ 1024) :
    (UInt16.ofNat (12 + ((establishmentIes seid addr pdrs).flatMap ieBytes).length)).toNat + 4 =
      (buildSessionEstablishmentResponse seq cpSeid seid addr pdrs).length := by
  have hies : ((establishmentIes seid addr pdrs).flatMap ieBytes).length ≤ (1024 + 3) * 23 :=
    (length_establishmentIes ..).trans (Nat.mul_le_mul_right _ (Nat.add_le_add_right h _))
  have hhead : (PfcpHeader.newSessionMsg pfcpSessionEstablishmentRsp cpSeid seq).encode.length =
      16 := by
    simp [PfcpHeader.encode, PfcpHeader.newSessionMsg, u16ToBe, u64ToBe, length_bytesBe]
  have hfit : 12 + ((establishmentIes seid addr pdrs).flatMap ieBytes).length < 65536 := by omega
  rw [buildSessionEstablishmentResponse_eq, length_finish (by rw [List.length_append]; omega),
    List.length_append, hhead, UInt16.toNat_ofNat_of_lt' hfit]
  omega

/-- **Every accepted establishment is answered so that the simulator reads off what was stored**, as
long as the counter of TEIDs has not gone round. -/
theorem establishment_understood (host : Host) (b : Boot) (evs : List Event)
    (hissued : Audit.identifiersIssued host (.init b) evs < 2 ^ 32 - 1000) (env : Env)
    (now : Instant) (data : Bytes) (src : SocketAddr) {header : PfcpHeader} {body rsp : Bytes}
    (hd : PfcpHeader.decode (received data) = .ok (header, body))
    (ht : header.msgType = pfcpSessionEstablishmentReq)
    (hrsp : (receive host env now data src (Audit.after host b evs).world).1 = .ok rsp) :
    ∃ req session, Understood header body (Audit.after host b evs).world
      (receive host env now data src (Audit.after host b evs).world).2 rsp req session := by
  obtain ⟨hseid, hteid⟩ := Audit.counters_ne_zero host b evs hissued
  generalize Audit.after host b evs = a at hrsp hseid hteid
  rw [receive_establishment hd ht] at hrsp ⊢
  rcases hout : handleSessionEstablishment host.endian env header body src (touched now a.world)
    with ⟨r, w'⟩
  rw [hout] at hrsp
  obtain rfl : r = .ok rsp := hrsp
  obtain ⟨req, assoc, ueIp, gnbInfo, w₁, hreq, -, -, -, -, hinst, rfl, rfl⟩ :=
    establishment_accepted hout
  have hpdrs : (createdPdrs a.srv.n3Addr a.srv.nextTeid req.createPdrs).length ≤ 1024 := by
    have h1 := length_createdPdrs a.srv.n3Addr a.srv.nextTeid req.createPdrs
    have h2 := length_createPdrs hreq
    have h3 := PfcpHeader.length_body_le hd
    have h4 : (received data).length ≤ 4096 := List.length_take_le ..
    omega
  refine ⟨req, { ueIp, teid := a.srv.nextTeid, gnbIp := gnbInfo.peerAddr, cpSeid := req.cpSeid },
    hreq, ?_, rfl, ?_, ?_, ?_⟩
  · simp only [registerSession]
    rw [(srv_of_install hinst).1]
    rfl
  · have hdec := decode_answer pfcpSessionEstablishmentRsp req.cpSeid hd
      ((establishmentIes a.srv.nextSeid a.srv.n3Addr
        (createdPdrs a.srv.n3Addr a.srv.nextTeid req.createPdrs)).flatMap ieBytes)
    rw [← buildSessionEstablishmentResponse_eq] at hdec
    exact ⟨_, _, hdec, length_buildSessionEstablishmentResponse hpdrs, iterIes_establishmentIes ..⟩
  · exact validateResponse_establishment hd _ a.srv.nextSeid a.srv.n3Addr _
  · rintro ⟨p, hp, hacc⟩
    exact extractSessionInfo_createdPdrs _ a.srv.n3Addr hseid hteid hp hacc

/-- The simulator's first session: it reads off SEID 1 and TEID 1000. -/
theorem establishment_understood_first : ∃ header body rsp req session,
    Understood header body (Audit.after SmfSim.host SmfSim.boot [SmfSim.setup SmfSim.smfA 5]).world
      (receive SmfSim.host SmfSim.env 0
        (SmfSim.sessionEstablishment 7 SmfSim.smfA SmfSim.ue1 SmfSim.gnb 0x80000001)
        (SmfSim.peer SmfSim.smfA)
        (Audit.after SmfSim.host SmfSim.boot [SmfSim.setup SmfSim.smfA 5]).world).2
      rsp req session ∧ SmfSim.extractSessionInfo rsp = .ok (1, 1000, ⟨10, 0, 0, 1⟩) := by
  have hmsg : (PfcpHeader.decode (received (SmfSim.sessionEstablishment 7 SmfSim.smfA SmfSim.ue1
      SmfSim.gnb 0x80000001))).toOption.map (fun p => p.1.msgType) = some 50 := by decide +kernel
  have hrsp : (receive SmfSim.host SmfSim.env 0
      (SmfSim.sessionEstablishment 7 SmfSim.smfA SmfSim.ue1 SmfSim.gnb 0x80000001)
      (SmfSim.peer SmfSim.smfA)
      (Audit.after SmfSim.host SmfSim.boot [SmfSim.setup SmfSim.smfA 5]).world).1.toOption.map
        (fun rsp => (SmfSim.extractSessionInfo rsp).toOption) =
      some (some (1, 1000, ⟨10, 0, 0, 1⟩)) := by decide +kernel
  obtain ⟨⟨header, body⟩, hd, ht⟩ := Option.map_eq_some_iff.mp hmsg
  obtain ⟨rsp, hrsp, hinfo⟩ := Option.map_eq_some_iff.mp hrsp
  obtain ⟨req, session, h⟩ := establishment_understood SmfSim.host SmfSim.boot
    [SmfSim.setup SmfSim.smfA 5] (by decide +kernel) SmfSim.env 0 _ (SmfSim.peer SmfSim.smfA)
    (ok_of_toOption hd) ht (ok_of_toOption hrsp)
  exact ⟨header, body, rsp, req, session, h, ok_of_toOption hinfo⟩

end UpfEdge
