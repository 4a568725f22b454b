import UpfEdge.Pfcp.Wire
import UpfEdge.Sessions
import UpfEdge.SmfSim

/-!
# To whom a session response is addressed

An SMF finds the session of a response by the SEID in its header, which is the SEID the SMF chose
for the session.  The handlers of `handle_msg.rs` have two numbers of the same type at hand, the
session's own SEID and the one its SMF chose: the responses to an establishment and to a
modification are built with the SMF's, the response to a deletion with the UPF's.

`Addressed` says what a response should be, and `addressed_iff` that the deletions whose two numbers
differ are the only requests that are answered otherwise.
-/

namespace UpfEdge

open Lib Pfcp Server

/-! ### Accepted establishments -/

section Establishment

variable {e : Endian} {env : Env} {header : PfcpHeader} {body : Bytes} {src : SocketAddr}
  {w w' : World} {rsp : Bytes}

/-- What an accepted establishment has found, and what it answers and leaves. -/
theorem establishment_accepted
    (h : handleSessionEstablishment e env header body src w = (.ok rsp, w')) :
    ∃ req assoc ueIp gnbInfo w₁, SessionEstablishmentReq.decode body = .ok req ∧
      findAssociation env w.srv src = some assoc ∧ (∃ ip port, src = .v4 ip port) ∧
      req.createPdrs.findSome? (·.ueIp) = some ueIp ∧
      req.createFars.findSome? (·.outerHeaderCreation) = some gnbInfo ∧
      install (installSteps e env w.srv.n3Addr w.srv.nextSeid w.srv.nextTeid ueIp gnbInfo req)
        (allocated w) = (true, w₁) ∧
      rsp = buildSessionEstablishmentResponse header.seqNum req.cpSeid w.srv.nextSeid w.srv.n3Addr
        (createdPdrs w.srv.n3Addr w.srv.nextTeid req.createPdrs) ∧
      w' = registerSession assoc.2.nodeId w.srv.nextSeid
        { ueIp, teid := w.srv.nextTeid, gnbIp := gnbInfo.peerAddr, cpSeid := req.cpSeid } w₁ := by
  unfold handleSessionEstablishment at h
  cases hreq : SessionEstablishmentReq.decode body with
  | error err => simp [hreq] at h
  | ok req =>
    cases src with
    | v6 => simp [hreq] at h
    | v4 ip port =>
      cases hfind : findAssociation env w.srv (.v4 ip port) with
      | none => simp [hreq, hfind] at h
      | some assoc =>
        cases hue : req.createPdrs.findSome? (·.ueIp) with
        | none => simp [hreq, hfind, hue] at h
        | some ueIp =>
          cases hgnb : req.createFars.findSome? (·.outerHeaderCreation) with
          | none => simp [hreq, hfind, hue, hgnb] at h
          | some gnbInfo =>
            simp only [hreq, hfind, hue, hgnb] at h
            rcases hinst : install (installSteps e env w.srv.n3Addr w.srv.nextSeid w.srv.nextTeid
              ueIp gnbInfo req) (allocated w) with ⟨ok, w₁⟩
            cases ok with
            | false => simp [hinst] at h
            | true =>
              simp only [hinst, Prod.mk.injEq, Except.ok.injEq] at h
              exact ⟨req, assoc, ueIp, gnbInfo, w₁, rfl, rfl, ⟨ip, port, rfl⟩, hue, hgnb, hinst,
                h.1.symm, h.2.symm⟩

end Establishment

/-! ### Addressing -/

/-- The session a request was handled for: the one under its SEID afterwards, or the one that was
there before if the request removed it. -/
def concerned (w w' : World) (seid : UInt64) : Option SessionData :=
  (w'.srv.sessions.lookup seid).or (w.srv.sessions.lookup seid)

/-- The response `rsp` to the request `header` is of the type that answers it, has its sequence
number, and is addressed to the SMF's side of the session. -/
def Answers (header : PfcpHeader) (session : SessionData) (rsp : Bytes) : Prop :=
  ∃ header' body', PfcpHeader.decode rsp = .ok (header', body') ∧
    header'.msgType = header.msgType + 1 ∧ header'.seqNum = header.seqNum ∧
    header'.seid = some session.cpSeid

/-- If the datagram is a session request that is accepted, its response answers it. -/
def Addressed (host : Host) (env : Env) (now : Instant) (data : Bytes) (src : SocketAddr)
    (w : World) : Prop :=
  ∀ header body seid rsp, PfcpHeader.decode (received data) = .ok (header, body) →
    targetSeid (received data) w = some seid →
    (receive host env now data src w).1 = .ok rsp →
    ∃ session, concerned w (receive host env now data src w).2 seid = some session ∧
      Answers header session rsp

section Addressed

variable {host : Host} {env : Env} {now : Instant} {data body rsp : Bytes} {src : SocketAddr}
  {w : World} {header : PfcpHeader} {seid : UInt64}

theorem receive_establishment (hd : PfcpHeader.decode (received data) = .ok (header, body))
    (ht : header.msgType = pfcpSessionEstablishmentReq) :
    receive host env now data src w =
      handleSessionEstablishment host.endian env header body src (touched now w) := by
  simp only [receive, handleMessage, hd, dispatch]
  rw [if_neg (by rw [ht]; decide), if_neg (by rw [ht]; decide), if_pos ht]

theorem establishment_answers (hd : PfcpHeader.decode (received data) = .ok (header, body))
    (ht : header.msgType = pfcpSessionEstablishmentReq)
    (hrsp : (receive host env now data src w).1 = .ok rsp) :
    ∃ session, concerned w (receive host env now data src w).2 w.srv.nextSeid = some session ∧
      Answers header session rsp := by
  rw [receive_establishment hd ht] at hrsp ⊢
  rcases hout : handleSessionEstablishment host.endian env header body src (touched now w) with
    ⟨r, w'⟩
  rw [hout] at hrsp
  obtain rfl : r = .ok rsp := hrsp
  obtain ⟨req, assoc, ueIp, gnbInfo, w₁, -, -, -, -, -, -, rfl, rfl⟩ := establishment_accepted hout
  refine ⟨{ ueIp, teid := w.srv.nextTeid, gnbIp := gnbInfo.peerAddr, cpSeid := req.cpSeid }, ?_, ?_⟩
  · have hnew : ∀ session, (registerSession assoc.2.nodeId w.srv.nextSeid session
        w₁).srv.sessions.lookup w.srv.nextSeid = some session := fun session =>
      (Table.lookup_insert_ite ..).trans (if_pos rfl)
    exact congrArg (Option.or · _) (hnew _)
  · rw [buildSessionEstablishmentResponse_eq]
    exact ⟨_, _, decode_answer _ _ hd _, by rw [ht]; rfl, rfl, rfl⟩

/-- An accepted modification: what it has found, and what it answers and leaves. -/
theorem receive_modified (hd : PfcpHeader.decode (received data) = .ok (header, body))
    (ht : header.msgType = pfcpSessionModificationReq)
    (hrsp : (receive host env now data src w).1 = .ok rsp) :
    ∃ seid session req, modifies env header body src (touched now w) = some (seid, session, req) ∧
      receive host env now data src w =
        (.ok (buildSessionModificationResponse header.seqNum session.cpSeid),
          modifySession host.endian seid session.ueIp req (touched now w)) := by
  have hrec : receive host env now data src w =
      handleSessionModification host.endian env header body src (touched now w) := by
    simp only [receive, handleMessage, hd, dispatch_modification ht]
  rw [hrec] at hrsp ⊢
  cases hmod : modifies env header body src (touched now w) with
  | none =>
    obtain ⟨err, heq⟩ : ∃ err, handleSessionModification host.endian env header body src
        (touched now w) = (.error err, touched now w) := modification_of_none hmod
    rw [heq] at hrsp
    cases hrsp
  | some found =>
    obtain ⟨seid, session, req⟩ := found
    exact ⟨seid, session, req, rfl, modification_of_some hmod⟩

theorem modification_answers (hd : PfcpHeader.decode (received data) = .ok (header, body))
    (ht : header.msgType = pfcpSessionModificationReq) (hseid : header.seid = some seid)
    (hrsp : (receive host env now data src w).1 = .ok rsp) :
    ∃ session, concerned w (receive host env now data src w).2 seid = some session ∧
      Answers header session rsp := by
  obtain ⟨seid', session, req, hmod, hrec⟩ := receive_modified hd ht hrsp
  obtain ⟨-, hseid', -, hlive, -⟩ := modifies_eq_some.mp hmod
  obtain rfl : seid' = seid := Option.some.inj (hseid'.symm.trans hseid)
  rw [hrec] at hrsp ⊢
  obtain rfl := Except.ok.inj hrsp
  have hafter : (modifySession host.endian seid' session.ueIp req
      (touched now w)).srv.sessions.lookup seid' = some (moved req.updateFars session) :=
    (lookup_modifySession hlive req seid').trans (if_pos rfl)
  refine ⟨moved req.updateFars session, congrArg (Option.or · _) hafter, ?_⟩
  have hies : addCause (PfcpHeader.newSessionMsg pfcpSessionModificationRsp session.cpSeid
      header.seqNum).encode causeRequestAccepted = _ ++ _ := appendIe_eq ..
  rw [buildSessionModificationResponse, hies]
  exact ⟨_, _, decode_answer _ _ hd _, by rw [ht]; rfl, rfl, by rw [moved_cpSeid]; rfl⟩

/-- An accepted deletion is answered under the SEID that it named. -/
theorem deletion_answers_iff (hd : PfcpHeader.decode (received data) = .ok (header, body))
    (ht : header.msgType = pfcpSessionDeletionReq) {session : SessionData}
    {assoc : Sigma fun _ : Ipv4Addr => SmfAssociation}
    (hdel : deletes env (received data) src w = some (seid, session, assoc))
    (hrsp : (receive host env now data src w).1 = .ok rsp) :
    concerned w (receive host env now data src w).2 seid = some session ∧
      (Answers header session rsp ↔ session.cpSeid = seid) := by
  have hrec : receive host env now data src w =
      handleSessionDeletion host.endian env header src (touched now w) := by
    simp only [receive, handleMessage, hd, dispatch_deletion ht]
  obtain ⟨hof, hlive, hfind, hown⟩ := of_deletes hdel
  obtain ⟨ip, port, rfl⟩ : ∃ ip port, src = .v4 ip port := by
    cases src with
    | v4 ip port => exact ⟨ip, port, rfl⟩
    | v6 => simp [deletes] at hdel
  obtain rfl : header.seid.getD 0 = seid := by
    simp only [deletionOf, hd, if_pos ht] at hof
    exact Option.some.inj hof
  have hsess : (touched now w).srv.sessions = w.srv.sessions := rfl
  have hassoc : findAssociation env (touched now w).srv (.v4 ip port) = some assoc := hfind
  rw [hrec] at hrsp ⊢
  simp only [handleSessionDeletion, deletionLock, hsess, hlive, hassoc, hown, if_true,
    Except.ok.injEq] at hrsp ⊢
  subst hrsp
  constructor
  · have hgone : (unregisterSession assoc.2.nodeId (header.seid.getD 0) session.cpSeid
        (touched now w)).srv.sessions.lookup (header.seid.getD 0) = none :=
      (Table.lookup_erase_ite ..).trans (if_pos rfl)
    exact (congrArg (Option.or · _) hgone).trans hlive
  · have hies : addCause (PfcpHeader.newSessionMsg pfcpSessionDeletionRsp (header.seid.getD 0)
        header.seqNum).encode causeRequestAccepted = _ ++ _ := appendIe_eq ..
    rw [Answers, buildSessionDeletionResponse, hies, decode_answer _ _ hd _]
    constructor
    · rintro ⟨header', body', hdec, -, -, hseid⟩
      obtain ⟨rfl, -⟩ := Prod.mk.inj (Except.ok.inj hdec)
      exact (Option.some.inj hseid).symm
    · intro heq
      exact ⟨_, _, rfl, by rw [ht]; rfl, rfl, by rw [heq]; rfl⟩

/-- The SEID that an answered deletion shows. -/
theorem Addressed.cpSeid_eq (h : Addressed host env now data src w) {session : SessionData}
    {assoc : Sigma fun _ : Ipv4Addr => SmfAssociation}
    (hdel : deletes env (received data) src w = some (seid, session, assoc)) :
    session.cpSeid = seid := by
  have hof := (of_deletes hdel).1
  have hdel' : deletes env (received data) src (touched now w) = some (seid, session, assoc) := hdel
  obtain ⟨⟨rsp, hrsp⟩, -⟩ := handleMessage_of_deletes (e := host.endian) hdel'
  unfold deletionOf at hof
  split at hof
  · next header body hd =>
    split_ifs at hof with ht
    have htarget : targetSeid (received data) w = some seid := by
      simp only [targetSeid, hd, ht]
      exact hof
    obtain ⟨hcon, hiff⟩ := deletion_answers_iff hd ht hdel hrsp
    obtain ⟨session', hcon', hans⟩ := h header body seid rsp hd htarget hrsp
    obtain rfl : session = session' := Option.some.inj (hcon.symm.trans hcon')
    exact hiff.mp hans
  · cases hof

/-- **A session request is answered as it should be, unless it is a deletion of a session whose
SMF chose another SEID than the UPF.** -/
theorem addressed_iff (host : Host) (env : Env) (now : Instant) (data : Bytes) (src : SocketAddr)
    (w : World) :
    Addressed host env now data src w ↔ ∀ seid session assoc,
      deletes env (received data) src w = some (seid, session, assoc) → session.cpSeid = seid := by
  constructor
  · intro h seid session assoc hdel
    exact h.cpSeid_eq hdel
  · intro h header body seid rsp hd htarget hrsp
    simp only [targetSeid, hd] at htarget
    split_ifs at htarget with h1 h2 h3
    · obtain rfl := Option.some.inj htarget
      exact establishment_answers hd h1 hrsp
    · exact modification_answers hd h2 htarget hrsp
    · cases hdel : deletes env (received data) src (touched now w) with
      | none =>
        have hrec : receive host env now data src w =
            handleSessionDeletion host.endian env header src (touched now w) := by
          simp only [receive, handleMessage, hd, dispatch_deletion h3]
        obtain ⟨err, heq⟩ : ∃ err, handleSessionDeletion host.endian env header src
            (touched now w) = (.error err, touched now w) := deletion_of_none hd h3 hdel
        rw [hrec, heq] at hrsp
        cases hrsp
      | some found =>
        obtain ⟨seid', session, assoc⟩ := found
        have hdel' : deletes env (received data) src w = some (seid', session, assoc) := hdel
        have hof := (of_deletes hdel').1
        simp only [deletionOf, hd, if_pos h3] at hof
        obtain rfl : seid' = seid := Option.some.inj (hof.symm.trans htarget)
        obtain ⟨hcon, hiff⟩ := deletion_answers_iff hd h3 hdel' hrsp
        exact ⟨session, hcon, hiff.mpr (h _ _ _ hdel')⟩

/-- A simulator that numbers its session 7 deletes it: the response goes to SEID 1. -/
theorem not_addressed_deletion :
    ¬ Addressed SmfSim.host SmfSim.env 0 (SmfSim.sessionDeletion 1) (SmfSim.peer SmfSim.smfA)
      (Audit.after SmfSim.host SmfSim.boot
        [SmfSim.setup SmfSim.smfA 5, SmfSim.establish SmfSim.smfA 7 SmfSim.ue1]).world := by
  intro h
  have hdel : (deletes SmfSim.env (received (SmfSim.sessionDeletion 1)) (SmfSim.peer SmfSim.smfA)
      (Audit.after SmfSim.host SmfSim.boot
        [SmfSim.setup SmfSim.smfA 5, SmfSim.establish SmfSim.smfA 7 SmfSim.ue1]).world).map
      (fun x => (x.1, x.2.1.cpSeid)) = some (1, 7) := by decide +kernel
  obtain ⟨⟨seid, session, assoc⟩, hdel, hx⟩ := Option.map_eq_some_iff.mp hdel
  obtain ⟨rfl, hcp⟩ := Prod.mk.inj hx
  have heq : session.cpSeid = 1 := h.cpSeid_eq hdel
  rw [hcp] at heq
  cases heq

end Addressed

end UpfEdge
