import UpfEdge.Agreement
import UpfEdge.Sessions
import UpfEdge.Xdp.Effects

/-!
# What a datagram writes

A datagram leaves the maps and the configurations alone, or it installs the rules of an
establishment (all of them, if it is answered), or it is an accepted modification or deletion.
`Writes` says so with the request of the datagram; `step_writes` is the inversion that the ledgers
of what an SMF has sent go by.
-/

namespace UpfEdge

open Lib Pfcp Server Xdp

/-- What a datagram does to the maps, the configurations and the session table. -/
inductive Writes (host : Host) (a : Audit) (env : Env) (now : Instant) (data : Bytes)
    (src : SocketAddr) (a' : Audit) : Prop
  | nothing (hadm : a.admission (.datagram env now data src) = none)
    (hmod : a.modification (.datagram env now data src) = none)
    (hdel : a.deletion (.datagram env now data src) = none)
    (hm : a'.maps = a.maps) (hc : a'.srv.urrConfigs = a.srv.urrConfigs)
    (hs : a'.srv.sessions = a.srv.sessions)
  | rules (req : SessionEstablishmentReq) (assoc : SmfAssociation) (ueIp : Ipv4Addr)
    (gnbInfo : OuterHeaderCreation) (w' : World)
    (hest : establishes env (received data) src a.world = some (req, assoc))
    (hue : req.createPdrs.findSome? (·.ueIp) = some ueIp)
    (hgnb : req.createFars.findSome? (·.outerHeaderCreation) = some gnbInfo)
    (hmod : a.modification (.datagram env now data src) = none)
    (hdel : a.deletion (.datagram env now data src) = none)
    (hinst : install (installSteps host.endian env a.srv.n3Addr a.srv.nextSeid a.srv.nextTeid ueIp
      gnbInfo req) (allocated (touched now a.world)) =
        (a.answered host (.datagram env now data src), w'))
    (hm : a'.maps = w'.maps) (hc : a'.srv.urrConfigs = w'.srv.urrConfigs)
    (hs : a'.srv.sessions = if a.answered host (.datagram env now data src) then
      a.srv.sessions.insert a.srv.nextSeid
        { ueIp, teid := a.srv.nextTeid, gnbIp := gnbInfo.peerAddr, cpSeid := req.cpSeid }
      else a.srv.sessions)
  | modified (seid : UInt64) (session : SessionData) (req : SessionModificationReq)
    (hiss : ¬ a.Issues (.datagram env now data src))
    (hmod : a.modification (.datagram env now data src) = some (seid, session, req))
    (hdel : a.deletion (.datagram env now data src) = none)
    (hlive : a.Live seid session)
    (hw : a'.world = modifySession host.endian seid session.ueIp req (touched now a.world))
  | deleted (seid : UInt64) (session : SessionData)
    (assoc : Sigma fun _ : Ipv4Addr => SmfAssociation)
    (hiss : ¬ a.Issues (.datagram env now data src))
    (hmod : a.modification (.datagram env now data src) = none)
    (hdel : a.deletion (.datagram env now data src) = some (seid, session, assoc))
    (hlive : a.Live seid session)
    (hm : a'.maps = removeRules host.endian env seid session a.maps)
    (hc : a'.srv.urrConfigs = a.srv.urrConfigs)
    (hs : a'.srv.sessions = a.srv.sessions.erase seid)

section Datagram

variable {host : Host} {a : Audit} {env : Env} {now : Instant} {data : Bytes} {src : SocketAddr}
  {header : PfcpHeader} {body : Bytes}

theorem deletion_eq_none (hd : PfcpHeader.decode (received data) = .ok (header, body))
    (h : header.msgType ≠ pfcpSessionDeletionReq) :
    a.deletion (.datagram env now data src) = none := by
  simp [Audit.deletion, deletes, deletionOf, hd, h]

theorem admission_eq_none (h : ¬ a.Issues (.datagram env now data src)) :
    a.admission (.datagram env now data src) = none := by
  have hest : establishes env (received data) src a.world = none :=
    Option.not_isSome_iff_eq_none.mp h
  simp only [Audit.admission, hest, Option.bind_none]

/-- A datagram whose handler touches neither the maps nor the tables in question. -/
theorem writes_nothing {w' : World} (hadm : a.admission (.datagram env now data src) = none)
    (hmod : a.modification (.datagram env now data src) = none)
    (hdel : a.deletion (.datagram env now data src) = none) {a' : Audit} (hw : a'.world = w')
    (hm : w'.maps = a.maps) (hc : w'.srv.urrConfigs = a.srv.urrConfigs)
    (hs : w'.srv.sessions = a.srv.sessions) : Writes host a env now data src a' := by
  subst hw
  exact .nothing hadm hmod hdel hm hc hs

theorem issues_writes (host : Host) (hiss : a.Issues (.datagram env now data src)) :
    Writes host a env now data src (a.step host (.datagram env now data src)) := by
  obtain ⟨header, body, hd, htype⟩ := of_issues hiss
  have hmod : a.modification (.datagram env now data src) = none :=
    modification_eq_none hd (by rw [htype]; decide)
  have hdel : a.deletion (.datagram env now data src) = none :=
    deletion_eq_none hd (by rw [htype]; decide)
  obtain ⟨req, assoc, hest, ⟨-, hadm, hw⟩ | ⟨ueIp, gnbInfo, w', hue, hgnb, hinst, hw⟩⟩ :=
    issues_cases host hiss
  · exact writes_nothing hadm hmod hdel hw rfl rfl rfl
  · obtain ⟨hsrv, -⟩ := srv_of_install hinst
    refine .rules req assoc ueIp gnbInfo w' hest hue hgnb hmod hdel hinst ?_ ?_ ?_
    · rw [Audit.maps, hw]
      split_ifs <;> rfl
    · rw [Audit.srv, hw]
      split_ifs <;> rfl
    · rw [Audit.srv, hw]
      split_ifs
      · rw [registerSession, hsrv]
        rfl
      · rw [hsrv]
        rfl

theorem modification_writes {a' : Audit} (hiss : ¬ a.Issues (.datagram env now data src))
    (hd : PfcpHeader.decode (received data) = .ok (header, body))
    (ht : header.msgType = pfcpSessionModificationReq)
    (hw : a'.world =
      (handleSessionModification host.endian env header body src (touched now a.world)).2) :
    Writes host a env now data src a' := by
  have hmod : a.modification (.datagram env now data src) =
      modifies env header body src (touched now a.world) := by
    simp only [Audit.modification, hd, if_pos ht]
    rfl
  have hdel : a.deletion (.datagram env now data src) = none :=
    deletion_eq_none hd (by rw [ht]; decide)
  cases hfound : modifies env header body src (touched now a.world) with
  | none =>
    obtain ⟨err, heq⟩ : ∃ err, handleSessionModification host.endian env header body src
        (touched now a.world) = (.error err, touched now a.world) := modification_of_none hfound
    rw [heq] at hw
    exact writes_nothing (admission_eq_none hiss) (hmod.trans hfound) hdel hw rfl rfl rfl
  | some found =>
    obtain ⟨seid, session, req⟩ := found
    rw [modification_of_some hfound] at hw
    obtain ⟨-, -, -, hlive, -⟩ := modifies_eq_some.mp hfound
    exact .modified seid session req hiss (hmod.trans hfound) hdel hlive hw

theorem deletion_writes {a' : Audit} (hiss : ¬ a.Issues (.datagram env now data src))
    (hd : PfcpHeader.decode (received data) = .ok (header, body))
    (ht : header.msgType = pfcpSessionDeletionReq)
    (hw : a'.world = (handleMessage host.endian env (received data) src (touched now a.world)).2)
    (hw' : a'.world = (handleSessionDeletion host.endian env header src (touched now a.world)).2) :
    Writes host a env now data src a' := by
  have hmod : a.modification (.datagram env now data src) = none :=
    modification_eq_none hd (by rw [ht]; decide)
  cases hdel : deletes env (received data) src (touched now a.world) with
  | none =>
    obtain ⟨err, heq⟩ : ∃ err, handleSessionDeletion host.endian env header src
        (touched now a.world) = (.error err, touched now a.world) := deletion_of_none hd ht hdel
    rw [heq] at hw'
    exact writes_nothing (admission_eq_none hiss) hmod hdel hw' rfl rfl rfl
  | some found =>
    obtain ⟨seid, session, assoc⟩ := found
    rw [(handleMessage_of_deletes hdel).2] at hw
    refine .deleted seid session assoc hiss hmod hdel (of_deletes hdel).2.1 ?_ ?_ ?_
    · rw [Audit.maps, hw]
      rfl
    · rw [Audit.srv, hw]
      rfl
    · rw [Audit.srv, hw]
      rfl

/-- **What a datagram writes.** -/
theorem step_writes (host : Host) (a : Audit) (env : Env) (now : Instant) (data : Bytes)
    (src : SocketAddr) :
    Writes host a env now data src (a.step host (.datagram env now data src)) := by
  by_cases hiss : a.Issues (.datagram env now data src)
  · exact issues_writes host hiss
  obtain ⟨hmod, hdel, associations, peerAddr, hw⟩ | ⟨header, body, hd, ⟨ht, hw⟩ | ⟨ht, hw⟩⟩ :=
    unissued_cases host hiss
  · exact writes_nothing (admission_eq_none hiss) hmod hdel hw rfl rfl rfl
  · exact modification_writes hiss hd ht hw
  · have hstep : (a.step host (.datagram env now data src)).world =
        (handleMessage host.endian env (received data) src (touched now a.world)).2 := rfl
    exact deletion_writes hiss hd ht hstep hw

/-- An establishment that names no UE address uses up a SEID and a TEID. -/
theorem receive_of_refused (host : Host) (now : Instant) {w : World}
    {p : SessionEstablishmentReq × SmfAssociation}
    (hest : establishes env (received data) src w = some p)
    (hue : p.1.createPdrs.findSome? (·.ueIp) = none) :
    ∃ err, receive host env now data src w = (.error err, allocated (touched now w)) := by
  obtain ⟨req, assoc⟩ := p
  rcases establishment_outcomes host now hest with ⟨-, hrec⟩ | ⟨ueIp, gnbInfo, hue', -⟩
  · exact hrec
  · rw [hue] at hue'
    cases hue'

end Datagram

/-- An event that is no datagram changes counters only. -/
theorem step_counters (host : Host) (a : Audit) {ev : Event}
    (h : ∀ env now data src, ev ≠ .datagram env now data src) : ∃ stats urrs,
    (a.step host ev).maps = { a.maps with statsMap := stats, urrMap := urrs } := by
  cases ev with
  | datagram env now data src => exact absurd rfl (h env now data src)
  | snapshot order =>
    refine ⟨a.maps.statsMap, a.maps.urrMap, ?_⟩
    simp only [Audit.step, System.step, System.handle]
    split <;> rfl
  | report clock =>
    refine ⟨a.maps.statsMap, a.maps.urrMap, ?_⟩
    simp only [Audit.step, System.step, System.handle]
    split <;> rfl
  | uplink x f => exact tryN3Uplink_maps host.endian x f a.maps
  | downlink x f =>
    obtain ⟨stats, hm⟩ := tryN6Downlink_maps host.endian x f a.maps
    exact ⟨stats, a.maps.urrMap, hm⟩

end UpfEdge
