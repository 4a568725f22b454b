import Mathlib.Data.List.Find
import UpfEdge.Interference
import UpfEdge.Restart
import UpfEdge.Server.Modification

/-!
# Retransmitted requests

`PfcpTransport::send_and_recv` of the simulator sends the same bytes again when no response comes,
so the UPF may get a request twice.  A request is `Harmless` when the second delivery gives the same
response and leaves the same state as the first.

Heartbeats, setups and modifications are: a time stamp that is stored already is not stored again,
a setup that was accepted is a duplicate the next time, and a modification overwrites fields with
values of its own (`modifySession_twice`).  An establishment that finds its association takes new
identifiers every time, and an accepted deletion is refused the second time.
`retransmission_harmless_iff` says that these two are all there is.
-/

namespace UpfEdge

open Lib Pfcp Server

/-! ### The same state -/

/-- The same server, associations and maps, the time of the last activity aside. -/
structure SameState (w w' : World) : Prop where
  associations : ∀ k, w'.srv.associations.lookup k = w.srv.associations.lookup k
  sessions : ∀ s, w'.srv.sessions.lookup s = w.srv.sessions.lookup s
  urrConfigs : ∀ k, w'.srv.urrConfigs.lookup k = w.srv.urrConfigs.lookup k
  nextSeid : w'.srv.nextSeid = w.srv.nextSeid
  nextTeid : w'.srv.nextTeid = w.srv.nextTeid
  peerAddr : w'.srv.peerAddr = w.srv.peerAddr
  settings : (w'.srv.n3Addr, w'.srv.recoveryTs, w'.srv.sessionStore, w'.srv.nextReportSeq) =
    (w.srv.n3Addr, w.srv.recoveryTs, w.srv.sessionStore, w.srv.nextReportSeq)
  sessionMap : ∀ k, w'.maps.sessionMap.lookup k = w.maps.sessionMap.lookup k
  pdrMap : ∀ k, w'.maps.pdrMap.lookup k = w.maps.pdrMap.lookup k
  farMap : ∀ k, w'.maps.farMap.lookup k = w.maps.farMap.lookup k
  statsMap : ∀ k, w'.maps.statsMap.lookup k = w.maps.statsMap.lookup k
  urrMap : ∀ k, w'.maps.urrMap.lookup k = w.maps.urrMap.lookup k
  arrays : (w'.maps.ifIndex, w'.maps.gwMac) = (w.maps.ifIndex, w.maps.gwMac)

theorem sameState_touched (now : Instant) (w : World) : SameState w (touched now w) :=
  ⟨fun _ => rfl, fun _ => rfl, fun _ => rfl, rfl, rfl, rfl, rfl, fun _ => rfl, fun _ => rfl,
    fun _ => rfl, fun _ => rfl, fun _ => rfl, rfl⟩

/-- A hash table whose keys have not changed is walked in the same order again. -/
def SameWalk (env env' : Env) (t t' : Table Ipv4Addr SmfAssociation) : Prop :=
  (∀ k, (t'.lookup k).isSome = (t.lookup k).isSome) →
    (env'.assocOrder.perm t'.entries).map Sigma.fst = (env.assocOrder.perm t.entries).map Sigma.fst

/-- The outcome of a second delivery is that of the first: the same response, or none as before,
and the same state. -/
structure Repeats (first second : Outcome) : Prop where
  response : second.1.toOption = first.1.toOption
  state : SameState first.2 second.2

/-- Delivering the datagram twice in a row is as good as delivering it once. -/
def Harmless (host : Host) (env env' : Env) (now now' : Instant) (data : Bytes) (src : SocketAddr)
    (w : World) : Prop :=
  Repeats (receive host env now data src w)
    (receive host env' now' data src (receive host env now data src w).2)

/-! ### The association that is found -/

section Find

variable {env env' : Env} {srv srv' : PfcpServer} {src : SocketAddr}

/-- The search goes by the keys of the table. -/
theorem findAssociation_map_fst (env : Env) (srv : PfcpServer) (src : SocketAddr) :
    (findAssociation env srv src).map Sigma.fst =
      ((env.assocOrder.perm srv.associations.entries).map Sigma.fst).find? fun k =>
        (srv.associations.lookup k).map (·.peerAddr) = some src := by
  rw [List.find?_map]
  unfold findAssociation
  congr 1
  refine List.find?_congr fun x hx => ?_
  have hlookup : srv.associations.lookup x.1 = some x.2 :=
    Table.lookup_eq_some.mpr (env.assocOrder.mem_perm.mp hx)
  simp [Function.comp, hlookup]

/-- In two tables with the same addresses the same association is found. -/
theorem findAssociation_key (hwalk : SameWalk env env' srv.associations srv'.associations)
    (hpeer : ∀ k, (srv'.associations.lookup k).map (·.peerAddr) =
      (srv.associations.lookup k).map (·.peerAddr)) :
    (findAssociation env' srv' src).map Sigma.fst =
      (findAssociation env srv src).map Sigma.fst := by
  have hkeys : ∀ k, (srv'.associations.lookup k).isSome = (srv.associations.lookup k).isSome := by
    intro k
    have h := congrArg Option.isSome (hpeer k)
    rwa [Option.isSome_map, Option.isSome_map] at h
  rw [findAssociation_map_fst, findAssociation_map_fst, hwalk hkeys]
  refine List.find?_congr fun k _ => ?_
  rw [hpeer]

/-- In the same table the same association is found. -/
theorem findAssociation_same (hwalk : SameWalk env env' srv.associations srv'.associations)
    (hsame : ∀ k, srv'.associations.lookup k = srv.associations.lookup k) :
    findAssociation env' srv' src = findAssociation env srv src := by
  have hkey : (findAssociation env' srv' src).map Sigma.fst =
      (findAssociation env srv src).map Sigma.fst :=
    findAssociation_key hwalk fun k => by rw [hsame]
  cases hfind : findAssociation env srv src with
  | none =>
    rw [hfind] at hkey
    exact Option.map_eq_none_iff.mp hkey
  | some found =>
    rw [hfind, Option.map_some] at hkey
    obtain ⟨⟨k, x⟩, hfind', hk⟩ := Option.map_eq_some_iff.mp hkey
    have hx : srv.associations.lookup k = some x := by
      rw [← hsame]
      exact (findAssociation_some hfind').1
    obtain ⟨k', x'⟩ := found
    obtain rfl : k = k' := hk
    obtain rfl : x = x' := Option.some.inj (hx.symm.trans (findAssociation_some hfind).1)
    exact hfind'

/-- Where no association is found, none has that address, whatever the order. -/
theorem findAssociation_none (h : findAssociation env srv src = none) :
    findAssociation env' srv src = none := by
  refine Audit.findAssociation_eq_none fun x hx hpeer => ?_
  have hsome := findAssociation_isSome env (Table.lookup_eq_some.mpr hx)
  rw [hpeer, h] at hsome
  cases hsome

end Find

/-! ### Node messages -/

section Node

variable {e : Endian} {env env' : Env} {header : PfcpHeader} {body : Bytes} {src : SocketAddr}
  {w : World} {now' : Instant}

/-- A heartbeat leaves the addresses of the associations alone. -/
theorem heartbeat_peerAddr (env : Env) (src : SocketAddr) (recvTs : Option UInt32)
    (srv : PfcpServer) (k : Ipv4Addr) :
    ((heartbeatAssociations env src recvTs srv).lookup k).map (·.peerAddr) =
      (srv.associations.lookup k).map (·.peerAddr) := by
  rcases lookup_heartbeatAssociations env src recvTs srv k with
    heq | ⟨assoc, recv, -, -, hassoc, -, heq⟩
  · rw [heq]
  · rw [heq, hassoc]
    rfl

/-- The time stamp of a heartbeat is stored once. -/
theorem heartbeatAssociations_again {recvTs : Option UInt32} {srv srv' : PfcpServer}
    (hwalk : SameWalk env env' srv.associations srv'.associations)
    (h : srv'.associations = heartbeatAssociations env src recvTs srv) :
    heartbeatAssociations env' src recvTs srv' = srv'.associations := by
  cases src with
  | v6 => rfl
  | v4 ip port =>
    cases recvTs with
    | none =>
      cases hfind : findAssociation env' srv' (.v4 ip port) <;>
        simp [heartbeatAssociations, hfind]
    | some recv =>
      have hkey : (findAssociation env' srv' (.v4 ip port)).map Sigma.fst =
          (findAssociation env srv (.v4 ip port)).map Sigma.fst :=
        findAssociation_key hwalk fun k => by rw [h, heartbeat_peerAddr]
      cases hfind' : findAssociation env' srv' (.v4 ip port) with
      | none => simp [heartbeatAssociations, hfind']
      | some found' =>
        obtain ⟨k, x'⟩ := found'
        rw [hfind', Option.map_some] at hkey
        obtain ⟨⟨k', x⟩, hfind, hk⟩ := Option.map_eq_some_iff.mp hkey.symm
        obtain rfl : k' = k := hk
        have hx' := (findAssociation_some hfind').1
        -- The association found again is the one the first heartbeat has set to `recv`.
        have hts : x'.recoveryTs = recv := by
          simp only [heartbeatAssociations, hfind] at h
          rw [h] at hx'
          split_ifs at hx' with hne
          · rw [Table.lookup_insert_ite, if_pos rfl] at hx'
            obtain rfl := Option.some.inj hx'
            rfl
          · obtain rfl := Option.some.inj ((findAssociation_some hfind).1.symm.trans hx')
            exact not_not.mp hne
        simp [heartbeatAssociations, hfind', hts]

theorem heartbeat_repeats (hwalk : SameWalk env env' w.srv.associations
      (handleHeartbeat env header body src w).2.srv.associations) :
    Repeats (handleHeartbeat env header body src w)
      (handleHeartbeat env' header body src
        (touched now' (handleHeartbeat env header body src w).2)) := by
  have hagain : heartbeatAssociations env' src (HeartbeatReq.decode body).recoveryTs
      (touched now' (handleHeartbeat env header body src w).2).srv = _ :=
    heartbeatAssociations_again hwalk rfl
  refine ⟨rfl, { sameState_touched now' (handleHeartbeat env header body src w).2 with
    associations := fun k => ?_ }⟩
  exact congrArg (fun t => Table.lookup t k) hagain

/-- An accepted setup is a duplicate the next time. -/
theorem association_repeats : Repeats (handleSessionAssociation header body src w)
    (handleSessionAssociation header body src
      (touched now' (handleSessionAssociation header body src w).2)) := by
  unfold handleSessionAssociation
  cases AssociationSetupReq.decode body with
  | error err => exact ⟨rfl, sameState_touched now' w⟩
  | ok req =>
    by_cases hdup : isDuplicateSetup req w.srv
    · have hdup' : isDuplicateSetup req (touched now' w).srv := hdup
      simp only [hdup, hdup', if_true]
      exact ⟨rfl, sameState_touched now' w⟩
    · simp only [hdup, Bool.false_eq_true, if_false]
      have hdup' : isDuplicateSetup req
          (touched now' { w with srv := associate req.nodeId src req.recoveryTs w.srv }).srv := by
        have hlookup : (associate req.nodeId src req.recoveryTs w.srv).associations.lookup
            req.nodeId = some (.new req.nodeId src req.recoveryTs) := by
          rw [associate, Table.lookup_insert_ite, if_pos rfl]
        change isDuplicateSetup req (associate req.nodeId src req.recoveryTs w.srv) = true
        simp [isDuplicateSetup, hlookup, SmfAssociation.new]
      simp only [hdup', if_true]
      exact ⟨rfl, sameState_touched now' _⟩

end Node

/-! ### Modification -/

section Modification

variable {e : Endian} {env env' : Env} {header : PfcpHeader} {body : Bytes} {src : SocketAddr}
  {seid : UInt64} {ueIp : Ipv4Addr} {w : World}

/-- **A modification made twice** is as good as made once. -/
theorem modifySession_twice (req : SessionModificationReq) (now' : Instant) :
    SameState (modifySession e seid ueIp req w)
      (modifySession e seid ueIp req (touched now' (modifySession e seid ueIp req w))) := by
  obtain ⟨hsrv, hmaps⟩ : (modifySession e seid ueIp req (touched now'
      (modifySession e seid ueIp req w))).srv = _ ∧ _ := modifySession_rest req
  refine
    { associations := fun k => by rw [hsrv]; rfl
      sessions := fun s => ?_
      urrConfigs := fun k => ?_
      nextSeid := by rw [hsrv]; rfl
      nextTeid := by rw [hsrv]; rfl
      peerAddr := by rw [hsrv]; rfl
      settings := by rw [hsrv]; rfl
      sessionMap := fun k => ?_
      pdrMap := fun k => by rw [hmaps]; rfl
      farMap := fun k => ?_
      statsMap := fun k => by rw [hmaps]; rfl
      urrMap := fun k => by rw [hmaps]; rfl
      arrays := by rw [hmaps]; rfl }
  · refine congrFun ?_ s
    rw [modifySession_sessions]
    change List.foldl _ (modifySession e seid ueIp req w).srv.sessions.lookup _ = _
    rw [modifySession_sessions]
    exact foldl_overwrite_twice setSession_setSession _ _
  · refine congrFun ?_ k
    rw [modifySession_urrConfigs]
    change List.foldl _ (modifySession e seid ueIp req w).srv.urrConfigs.lookup _ = _
    rw [modifySession_urrConfigs]
    exact foldl_overwrite_twice setConfig_setConfig _ _
  · refine congrFun ?_ k
    rw [modifySession_sessionMap]
    change List.foldl _ (modifySession e seid ueIp req w).maps.sessionMap.lookup _ = _
    rw [modifySession_sessionMap]
    exact foldl_overwrite_twice (setRow_setRow e) _ _
  · refine congrFun ?_ k
    rw [modifySession_farMap]
    change List.foldl _ (modifySession e seid ueIp req w).maps.farMap.lookup _ = _
    rw [modifySession_farMap]
    exact foldl_overwrite_twice (setFar_setFar e) _ _

theorem modification_repeats {now' : Instant}
    (hwalk : SameWalk env env' w.srv.associations
      (handleSessionModification e env header body src w).2.srv.associations) :
    Repeats (handleSessionModification e env header body src w)
      (handleSessionModification e env' header body src
        (touched now' (handleSessionModification e env header body src w).2)) := by
  cases hmod : modifies env header body src w with
  | none =>
    obtain ⟨err, heq⟩ : ∃ err, handleSessionModification e env header body src w =
      (.error err, w) := modification_of_none hmod
    rw [heq] at hwalk ⊢
    have hmod' : modifies env' header body src (touched now' w) = none := by
      have hfind : findAssociation env' (touched now' w).srv src = findAssociation env w.srv src :=
        findAssociation_same hwalk fun _ => rfl
      unfold modifies at hmod ⊢
      rw [hfind]
      exact hmod
    obtain ⟨err', heq'⟩ : ∃ err', handleSessionModification e env' header body src
        (touched now' w) = (.error err', touched now' w) := modification_of_none hmod'
    rw [heq']
    exact ⟨rfl, sameState_touched now' w⟩
  | some found =>
    obtain ⟨seid, session, req⟩ := found
    have heq : handleSessionModification e env header body src w = _ := modification_of_some hmod
    rw [heq] at hwalk ⊢
    obtain ⟨hreq, hseid, hsrc, hlive, assoc, hfind, hown⟩ := modifies_eq_some.mp hmod
    -- The session keeps its identity, and its association all of its own.
    have hsteady : Steady w (modifySession e seid session.ueIp req w) := modifySession_steady
    have hid := hsteady.session seid
    rw [hlive, Option.map_some] at hid
    obtain ⟨session', hlive', hsame⟩ := Option.map_eq_some_iff.mp hid
    obtain ⟨hue, hcp⟩ := Prod.mk.inj hsame
    have hfind' : findAssociation env' (touched now' (modifySession e seid session.ueIp req w)).srv
        src = some assoc := by
      rw [← hfind]
      exact findAssociation_same hwalk fun k =>
        congrArg (fun t => Table.lookup t k) hsteady.associations
    have hmod' : modifies env' header body src
        (touched now' (modifySession e seid session.ueIp req w)) = some (seid, session', req) :=
      modifies_eq_some.mpr ⟨hreq, hseid, hsrc, hlive', assoc, hfind', by rw [hcp]; exact hown⟩
    rw [modification_of_some hmod', hcp, hue]
    exact ⟨rfl, modifySession_twice req now'⟩

end Modification

/-! ### Establishment and deletion -/

section Sessions

variable {e : Endian} {env env' : Env} {data : Bytes} {header : PfcpHeader} {body : Bytes}
  {src : SocketAddr} {w : World}

/-- A deletion whose session is gone is refused. -/
theorem handleMessage_of_deleted {seid : UInt64} (h : deletionOf data = some seid)
    (hgone : w.srv.sessions.lookup seid = none) :
    (handleMessage e env data src w).1.toOption = none := by
  have hdel : deletes env data src w = none := by
    unfold deletes
    rw [h]
    cases src with
    | v4 => simp only [hgone, Option.bind_none]
    | v6 => rfl
  unfold deletionOf at h
  unfold handleMessage
  cases hd : PfcpHeader.decode data with
  | error err => rfl
  | ok p =>
    obtain ⟨header, body⟩ := p
    simp only [hd] at h
    split_ifs at h with ht
    obtain ⟨err, heq⟩ : ∃ err, handleSessionDeletion e env header src w = (.error err, w) :=
      deletion_of_none hd ht hdel
    simp only
    rw [dispatch_deletion ht, heq]
    rfl

/-- A source without an association establishes nothing, whatever the order. -/
theorem establishes_none (h : establishes env data src w = none) :
    establishes env' data src w = none := by
  unfold establishes at h ⊢
  split
  · next req ip port hreq =>
    rw [hreq] at h
    rw [findAssociation_none (Option.map_eq_none_iff.mp h)]
    rfl
  · rfl

theorem deletes_same (hwalk : SameWalk env env' w.srv.associations w.srv.associations) :
    deletes env' data src w = deletes env data src w := by
  have hfind : findAssociation env' w.srv src = findAssociation env w.srv src :=
    findAssociation_same hwalk fun _ => rfl
  unfold deletes
  rw [hfind]

/-- Every establishment that finds its association takes a SEID, and the associations keep their
addresses. -/
theorem receive_of_establishes (host : Host) (now : Instant)
    {p : SessionEstablishmentReq × SmfAssociation}
    (h : establishes env (received data) src w = some p) :
    (receive host env now data src w).2.srv.nextSeid = w.srv.nextSeid + 1 ∧
      ∀ k, ((receive host env now data src w).2.srv.associations.lookup k).map (·.peerAddr) =
        (w.srv.associations.lookup k).map (·.peerAddr) := by
  obtain ⟨req, assoc⟩ := p
  rcases establishment_outcomes host now h with ⟨-, err, hrec⟩ |
    ⟨ueIp, gnbInfo, -, -, made, w', hinst, ⟨-, err, hrec⟩ | ⟨-, rsp, hrec⟩⟩
  · rw [hrec]
    exact ⟨rfl, fun _ => rfl⟩
  · have hin : Installed host.endian ueIp req.cpSeid w w' := installed hinst
    rw [hrec]
    exact ⟨hin.nextSeid, fun k => by rw [hin.associations]⟩
  · have hin : Installed host.endian ueIp req.cpSeid w w' := installed hinst
    rw [hrec]
    refine ⟨hin.nextSeid, fun k => ?_⟩
    rw [map_registerSession fun _ _ => rfl, hin.associations]

/-- Where the associations have kept their addresses, an establishment finds one again. -/
theorem establishes_again (env' : Env) {w' : World} {p : SessionEstablishmentReq × SmfAssociation}
    (h : establishes env data src w = some p)
    (hpeer : ∀ k, (w'.srv.associations.lookup k).map (·.peerAddr) =
      (w.srv.associations.lookup k).map (·.peerAddr)) :
    ∃ p', establishes env' data src w' = some p' := by
  unfold establishes at h ⊢
  split
  · next req ip port hreq =>
    rw [hreq] at h
    obtain ⟨found, hfind, -⟩ := Option.map_eq_some_iff.mp h
    obtain ⟨hx, hsrc⟩ := findAssociation_some hfind
    have hk := hpeer found.1
    rw [hx, Option.map_some, hsrc] at hk
    obtain ⟨x', hx', hsrc'⟩ := Option.map_eq_some_iff.mp hk
    have hsome := findAssociation_isSome env' hx'
    rw [hsrc'] at hsome
    obtain ⟨found', hfind'⟩ := Option.isSome_iff_exists.mp hsome
    exact ⟨_, by rw [hfind']; rfl⟩
  · next hno =>
    split at h
    · next req ip port hreq => exact absurd hreq (hno req ip port · rfl)
    · cases h

end Sessions

/-! ### All requests -/

section Deliver

variable {host : Host} {env env' : Env} {now now' : Instant} {data : Bytes} {src : SocketAddr}
  {w : World}

/-- A datagram that was refused before it changed anything is refused again. -/
theorem repeats_of_error {second : Outcome} {err err' : HandleError}
    (h : second = (.error err', touched now' w)) : Repeats (.error err, w) second := by
  rw [h]
  exact ⟨rfl, sameState_touched now' w⟩

theorem harmless_of_none (hwalk : SameWalk env env' w.srv.associations
      (receive host env now data src w).2.srv.associations)
    (hest : establishes env (received data) src w = none)
    (hdel : deletes env (received data) src w = none) :
    Harmless host env env' now now' data src w := by
  unfold Harmless
  unfold receive handleMessage at hwalk ⊢
  cases hd : PfcpHeader.decode (received data) with
  | error err => exact ⟨rfl, sameState_touched now' _⟩
  | ok p =>
    obtain ⟨header, body⟩ := p
    simp only [hd, dispatch] at hwalk ⊢
    split_ifs at hwalk ⊢ with h1 h2 h3 h4 h5 h6 h7
    · exact heartbeat_repeats hwalk
    · exact association_repeats
    · have hest' : establishes env (received data) src (touched now w) = none := hest
      obtain ⟨err, heq⟩ : ∃ err, handleSessionEstablishment host.endian env header body src
          (touched now w) = (.error err, touched now w) := establishment_of_none hd h3 hest'
      rw [heq]
      have hest'' : establishes env' (received data) src (touched now' (touched now w)) = none :=
        establishes_none hest
      obtain ⟨err', heq'⟩ := establishment_of_none hd h3 hest''
      exact repeats_of_error heq'
    · exact modification_repeats hwalk
    · have hdel' : deletes env (received data) src (touched now w) = none := hdel
      obtain ⟨err, heq⟩ : ∃ err, handleSessionDeletion host.endian env header src
          (touched now w) = (.error err, touched now w) := deletion_of_none hd h5 hdel'
      rw [heq] at hwalk ⊢
      have hdel'' : deletes env' (received data) src (touched now' (touched now w)) = none :=
        (deletes_same hwalk).trans hdel
      obtain ⟨err', heq'⟩ := deletion_of_none hd h5 hdel''
      exact repeats_of_error heq'
    all_goals exact ⟨rfl, sameState_touched now' _⟩

/-- An establishment that finds its association takes another SEID the second time. -/
theorem not_harmless_of_establishes {p : SessionEstablishmentReq × SmfAssociation}
    (h : establishes env (received data) src w = some p) :
    ¬ Harmless host env env' now now' data src w := by
  rintro ⟨-, hstate⟩
  obtain ⟨-, hpeer⟩ := receive_of_establishes host now h
  obtain ⟨p', h'⟩ := establishes_again env' h hpeer
  have hnext := hstate.nextSeid
  rw [(receive_of_establishes host now' h').1] at hnext
  simp at hnext

/-- An accepted deletion is refused the second time. -/
theorem not_harmless_of_deletes {seid : UInt64} {session : SessionData}
    {assoc : Sigma fun _ : Ipv4Addr => SmfAssociation}
    (h : deletes env (received data) src w = some (seid, session, assoc)) :
    ¬ Harmless host env env' now now' data src w := by
  rintro ⟨hresponse, -⟩
  have h' : deletes env (received data) src (touched now w) = some (seid, session, assoc) := h
  obtain ⟨⟨r, hr⟩, hw⟩ : (∃ r, (receive host env now data src w).1 = .ok r) ∧
    (receive host env now data src w).2 = _ := handleMessage_of_deletes h'
  have hgone : (touched now' (receive host env now data src w).2).srv.sessions.lookup seid =
      none := by
    rw [hw]
    exact (Table.lookup_erase_ite _ _ _).trans (if_pos rfl)
  have hagain : (receive host env' now' data src
      (receive host env now data src w).2).1.toOption = none :=
    handleMessage_of_deleted (of_deletes h).1 hgone
  rw [hagain, hr] at hresponse
  cases hresponse

end Deliver

/-- **Retransmission.**  Delivering a datagram twice in a row is as good as delivering it once
exactly when it is neither an establishment that finds its association nor a deletion that is
accepted. -/
theorem retransmission_harmless_iff (host : Host) (env env' : Env) (now now' : Instant)
    (data : Bytes) (src : SocketAddr) (w : World)
    (hwalk : SameWalk env env' w.srv.associations
      (receive host env now data src w).2.srv.associations) :
    Harmless host env env' now now' data src w ↔
      establishes env (received data) src w = none ∧ deletes env (received data) src w = none := by
  constructor
  · intro h
    constructor
    · refine Option.eq_none_iff_forall_ne_some.mpr fun p hp => ?_
      exact not_harmless_of_establishes hp h
    · refine Option.eq_none_iff_forall_ne_some.mpr fun p hp => ?_
      obtain ⟨seid, session, assoc⟩ := p
      exact not_harmless_of_deletes hp h
  · rintro ⟨hest, hdel⟩
    exact harmless_of_none hwalk hest hdel

section Sim

open SmfSim

/-- A heartbeat with a new time stamp and a modification may be sent again. -/
theorem retransmission_harmless_iff_sim :
    let w := (Audit.after host boot [setup smfA 1, establish smfA 1 ue1]).world
    Harmless host env env 0 0 (heartbeat 2) (peer smfA) w ∧
      Harmless host env env 0 0 (sessionModification 1 (some 5000) none) (peer smfA) w := by
  intro w
  constructor
  · refine (retransmission_harmless_iff host env env 0 0 _ _ _ fun _ => ?_).mpr ⟨?_, ?_⟩
    · decide +kernel
    · decide +kernel
    · decide +kernel
  · refine (retransmission_harmless_iff host env env 0 0 _ _ _ fun _ => ?_).mpr ⟨?_, ?_⟩
    · decide +kernel
    · decide +kernel
    · decide +kernel

/-- An establishment of the simulator that is sent again is answered with another SEID. -/
theorem not_harmless_establishment :
    let w := (Audit.after host boot [setup smfA 1]).world
    let msg := sessionEstablishment 1 smfA ue1 gnb 0x80000001
    ¬ Harmless host env env 0 0 msg (peer smfA) w := by
  intro w msg h
  have hnext : (receive host env 0 msg (peer smfA)
      (receive host env 0 msg (peer smfA) w).2).2.srv.nextSeid ≠
        (receive host env 0 msg (peer smfA) w).2.srv.nextSeid := by
    decide +kernel
  exact hnext h.state.nextSeid

end Sim

end UpfEdge
