import UpfEdge.Ledger
import UpfEdge.SmfSim

/-!
# What a restart of an SMF clears

An SMF that has restarted shows a new Recovery Time Stamp, in an Association Setup Request or in a
Heartbeat Request.  Both handlers then empty the session table *of the association* and nothing
else: the server's own session table, the eBPF maps and `urr_configs` stay as they are.  So nothing
of the SMF's sessions remains exactly when there was nothing before, and, since a heartbeat finds
its association by address and not by Node ID, other SMFs keep their tables exactly when it finds
the right one (`restart_cleared_iff`).
-/

namespace UpfEdge

open Lib Pfcp Server

section Handlers

variable {e : Endian} {env : Env} {data : Bytes} {src : SocketAddr} {w : World}

/-- The world after a Heartbeat Request. -/
theorem handleMessage_of_heartbeat {recvTs : Option UInt32} (h : heartbeatOf data = some recvTs) :
    (handleMessage e env data src w).2 = { w with
      srv := { w.srv with associations := heartbeatAssociations env src recvTs w.srv } } := by
  unfold heartbeatOf at h
  unfold handleMessage
  cases hd : PfcpHeader.decode data with
  | error err => simp [hd] at h
  | ok p =>
    obtain ⟨header, body⟩ := p
    simp only [hd] at h
    split_ifs at h with ht
    obtain rfl := Option.some.inj h
    simp only [dispatch, if_pos ht]
    rfl

/-- What an Association Setup Request does, and its answer. -/
theorem handleMessage_setup {req : AssociationSetupReq} (h : setupOf data = some req) :
    ∃ seq, handleMessage e env data src w =
      (.ok (buildAssociationSetupResponse seq w.srv.n3Addr w.srv.recoveryTs),
        if isDuplicateSetup req w.srv then w
        else { w with srv := associate req.nodeId src req.recoveryTs w.srv }) := by
  unfold setupOf at h
  unfold handleMessage
  cases hd : PfcpHeader.decode data with
  | error err => simp [hd] at h
  | ok p =>
    obtain ⟨header, body⟩ := p
    simp only [hd] at h
    split_ifs at h with ht
    have hreq : AssociationSetupReq.decode body = .ok req := by
      cases hr : AssociationSetupReq.decode body with
      | error err => simp [hr, Except.toOption] at h
      | ok r => simpa [hr, Except.toOption] using h
    have hne : header.msgType ≠ pfcpHeartbeatReq := by rw [ht]; decide
    refine ⟨header.seqNum, ?_⟩
    simp only [dispatch, if_neg hne, if_pos ht, handleSessionAssociation, hreq]
    split_ifs <;> rfl

/-- The world after an Association Setup Request that is not a duplicate. -/
theorem handleMessage_of_setup {req : AssociationSetupReq} (h : setupOf data = some req)
    (hdup : isDuplicateSetup req w.srv = false) :
    (handleMessage e env data src w).2 = { w with
      srv := associate req.nodeId src req.recoveryTs w.srv } := by
  obtain ⟨seq, heq⟩ : ∃ seq, handleMessage e env data src w = _ := handleMessage_setup h
  rw [heq, hdup]
  rfl

theorem heartbeatOf_of_setupOf {req : AssociationSetupReq} (h : setupOf data = some req) :
    heartbeatOf data = none := by
  unfold setupOf at h
  unfold heartbeatOf
  cases hd : PfcpHeader.decode data with
  | error err => rfl
  | ok p =>
    obtain ⟨header, body⟩ := p
    simp only [hd] at h ⊢
    split_ifs at h with ht
    exact if_neg (by rw [ht]; decide)

end Handlers

namespace Audit

/-- Nothing is stored for the SEID `s`. -/
structure Gone (a : Audit) (s : UInt64) : Prop where
  entry : a.srv.sessions.lookup s = none
  row : ∀ k info, a.maps.sessionMap.lookup k = some info → info.seid ≠ s
  pdr : ∀ k : PdrKey, seidPart k.key = s → a.maps.pdrMap.lookup k = none
  far : ∀ k : FarKey, seidPart k.key = s → a.maps.farMap.lookup k = none
  urr : ∀ k : UrrKey, seidPart k.key = s → a.maps.urrMap.lookup k = none
  config : ∀ u, a.srv.urrConfigs.lookup (s, u) = none

/-- Everything stored for the SEID `s` is as it was. -/
structure Unchanged (s : UInt64) (a a' : Audit) : Prop where
  entry : a'.srv.sessions.lookup s = a.srv.sessions.lookup s
  row : ∀ k info, info.seid = s →
    (a'.maps.sessionMap.lookup k = some info ↔ a.maps.sessionMap.lookup k = some info)
  rules : SameRules s a.world a'.world

/-- The sessions established through the association of `nodeId` are gone, and those of all other
associations are as they were, in the tables of the associations too. -/
structure Cleared (nodeId : Ipv4Addr) (a a' : Audit) : Prop where
  gone : ∀ s o, a.origin.lookup s = some o → o.nodeId = nodeId → a'.Gone s
  spared : ∀ s o, a.origin.lookup s = some o → o.nodeId ≠ nodeId → Unchanged s a a'
  tables : ∀ k, k ≠ nodeId → (a'.srv.associations.lookup k).map (·.sessions) =
    (a.srv.associations.lookup k).map (·.sessions)

/-- The event shows that the SMF of the association `x` of `nodeId` has restarted. -/
def Restarts (nodeId : Ipv4Addr) (x : SmfAssociation) : Event → Prop
  | .datagram _ _ data src =>
    (∃ req, setupOf (received data) = some req ∧ req.nodeId = nodeId ∧
      x.recoveryTs < req.recoveryTs) ∨
    ∃ recv, heartbeatOf (received data) = some (some recv) ∧ src = x.peerAddr ∧ recv ≠ x.recoveryTs
  | _ => False

/-- If the event is a heartbeat, then the association it is taken to be from is that of `nodeId`,
or one that has nothing to lose: it has the time stamp already, or no sessions. -/
def FindsOwn (a : Audit) (nodeId : Ipv4Addr) : Event → Prop
  | .datagram env _ data (.v4 ip port) =>
    ∀ recv, heartbeatOf (received data) = some (some recv) →
      ∀ found ∈ findAssociation env a.srv (.v4 ip port), found.1 ≠ nodeId →
        found.2.recoveryTs = recv ∨ found.2.sessions = ∅
  | _ => True

/-- The same sessions, maps and configurations: all that a restart leaves alone. -/
structure SameStores (a a' : Audit) : Prop where
  maps : a'.maps = a.maps
  sessions : a'.srv.sessions = a.srv.sessions
  configs : a'.srv.urrConfigs = a.srv.urrConfigs

section Step

variable {host : Host} {a a' : Audit} {nodeId : Ipv4Addr} {s : UInt64}

theorem SameStores.gone_iff (h : SameStores a a') : a'.Gone s ↔ a.Gone s := by
  obtain ⟨hmaps, hsessions, hconfigs⟩ := h
  constructor
  · rintro ⟨h1, h2, h3, h4, h5, h6⟩
    rw [hsessions] at h1
    rw [hmaps] at h2 h3 h4 h5
    rw [hconfigs] at h6
    exact ⟨h1, h2, h3, h4, h5, h6⟩
  · rintro ⟨h1, h2, h3, h4, h5, h6⟩
    rw [← hsessions] at h1
    rw [← hmaps] at h2 h3 h4 h5
    rw [← hconfigs] at h6
    exact ⟨h1, h2, h3, h4, h5, h6⟩

theorem SameStores.unchanged (h : SameStores a a') : Unchanged s a a' := by
  have hmaps : a'.world.maps = a.world.maps := h.maps
  have hconfigs : a'.world.srv.urrConfigs = a.world.srv.urrConfigs := h.configs
  refine ⟨?_, fun k info _ => ?_, ⟨?_, ?_, ?_, ?_⟩⟩
  · rw [h.sessions]
  · rw [h.maps]
  · rw [hmaps]; exact fun _ => rfl
  · rw [hmaps]; exact fun _ => rfl
  · rw [hmaps]; exact fun _ => rfl
  · rw [hconfigs]; exact fun _ => rfl

/-- A step that leaves all stores alone clears an association exactly when nothing of it was
stored, and the other associations keep their tables. -/
theorem SameStores.cleared_iff (h : SameStores a a') : Cleared nodeId a a' ↔
    (∀ s o, a.origin.lookup s = some o → o.nodeId = nodeId → a.Gone s) ∧
      ∀ k, k ≠ nodeId → (a'.srv.associations.lookup k).map (·.sessions) =
        (a.srv.associations.lookup k).map (·.sessions) := by
  constructor
  · intro hc
    exact ⟨fun s o ho hn => h.gone_iff.mp (hc.gone s o ho hn), hc.tables⟩
  · rintro ⟨hgone, htables⟩
    exact ⟨fun s o ho hn => h.gone_iff.mpr (hgone s o ho hn), fun _ _ _ _ => h.unchanged, htables⟩

/-- The tables of the other associations after a heartbeat. -/
theorem heartbeat_tables_iff {env : Env} {src : SocketAddr} {recv : UInt32} {srv : PfcpServer} :
    (∀ k, k ≠ nodeId →
      ((heartbeatAssociations env src (some recv) srv).lookup k).map (·.sessions) =
        (srv.associations.lookup k).map (·.sessions)) ↔
      match src with
      | .v4 ip port => ∀ found ∈ findAssociation env srv (.v4 ip port), found.1 ≠ nodeId →
          found.2.recoveryTs = recv ∨ found.2.sessions = ∅
      | .v6 .. => True := by
  cases src with
  | v6 ip port fl sc => exact iff_of_true (fun _ _ => rfl) trivial
  | v4 ip port =>
    simp only [heartbeatAssociations]
    cases hfind : findAssociation env srv (.v4 ip port) with
    | none => exact iff_of_true (fun _ _ => rfl) (by simp)
    | some found =>
      obtain ⟨k, x⟩ := found
      have hx := (findAssociation_some hfind).1
      by_cases hts : x.recoveryTs = recv
      · simp [hts]
      · simp only [ne_eq, hts, not_false_eq_true, if_true, Option.mem_some_iff, forall_eq',
          false_or]
        constructor
        · intro h hk
          have hk' := h k hk
          rw [Table.lookup_insert_ite, if_pos rfl, hx] at hk'
          exact (Option.some.inj hk').symm
        · intro h j hj
          rw [Table.lookup_insert_ite]
          split_ifs with hjk
          · subst hjk
            rw [hx, Option.map_some, Option.map_some, h hj]
          · rfl

/-- One restart, in any state. -/
theorem step_cleared_iff {x : SmfAssociation} {ev : Event}
    (hx : a.srv.associations.lookup nodeId = some x) (hr : Restarts nodeId x ev) :
    Cleared nodeId a (a.step host ev) ↔
      (∀ s o, a.origin.lookup s = some o → o.nodeId = nodeId → a.Gone s) ∧
        a.FindsOwn nodeId ev := by
  cases ev with
  | snapshot | report | uplink | downlink => exact absurd hr id
  | datagram env now data src =>
    have hw : (a.step host (.datagram env now data src)).world =
      (handleMessage host.endian env (received data) src (touched now a.world)).2 := rfl
    have hstores : ∀ {srv}, (a.step host (.datagram env now data src)).world =
        { touched now a.world with srv := srv } → srv.sessions = a.srv.sessions →
        srv.urrConfigs = a.srv.urrConfigs →
        SameStores a (a.step host (.datagram env now data src)) := by
      intro srv hw hs hc
      constructor
      · rw [Audit.maps, hw]; rfl
      · rw [Audit.srv, hw, hs]
      · rw [Audit.srv, hw, hc]
    rcases hr with ⟨req, hreq, hnode, hlt⟩ | ⟨recv, hrecv, -, -⟩
    · have hdup : isDuplicateSetup req (touched now a.world).srv = false := by
        have hne : req.recoveryTs ≠ x.recoveryTs := fun h => by
          rw [h] at hlt
          exact UInt32.lt_irrefl _ hlt
        have hx' : (touched now a.world).srv.associations.lookup req.nodeId = some x := by
          rw [hnode]
          exact hx
        simp [isDuplicateSetup, hx', hne]
      rw [handleMessage_of_setup hreq hdup] at hw
      have hsame := hstores hw rfl rfl
      rw [hsame.cleared_iff]
      refine and_congr_right fun _ => iff_of_true (fun k hk => ?_) ?_
      · rw [Audit.srv, hw]
        refine congrArg (Option.map _) ((Table.lookup_insert_ite _ _ _ _).trans (if_neg ?_))
        rw [hnode]
        exact hk
      · have hnone := heartbeatOf_of_setupOf hreq
        cases src with
        | v4 ip port =>
          intro recv hrecv
          rw [hnone] at hrecv
          cases hrecv
        | v6 => trivial
    · rw [handleMessage_of_heartbeat hrecv] at hw
      have hsame := hstores hw rfl rfl
      have hassoc : (a.step host (.datagram env now data src)).srv.associations =
          heartbeatAssociations env src (some recv) a.srv := by
        rw [Audit.srv, hw]; rfl
      rw [hsame.cleared_iff, hassoc, heartbeat_tables_iff]
      refine and_congr_right fun _ => ?_
      cases src with
      | v4 ip port => simp [FindsOwn, hrecv]
      | v6 => exact Iff.rfl

end Step

/-- **Restart.**  In every state that a run reaches, a restart of the SMF of an association clears
its sessions, and only those, exactly when nothing is stored of any session it established, and a
heartbeat is taken to be from no other association that has something to lose. -/
theorem restart_cleared_iff (host : Host) (b : Boot) (evs : List Event) (ev : Event)
    (nodeId : Ipv4Addr) (x : SmfAssociation)
    (hx : (after host b evs).srv.associations.lookup nodeId = some x) (hr : Restarts nodeId x ev) :
    Cleared nodeId (after host b evs) (after host b (evs ++ [ev])) ↔
      (∀ s o, (after host b evs).origin.lookup s = some o → o.nodeId = nodeId →
        (after host b evs).Gone s) ∧ (after host b evs).FindsOwn nodeId ev := by
  have hstep : after host b (evs ++ [ev]) = (after host b evs).step host ev := run_concat _ _ _
  rw [hstep]
  exact step_cleared_iff hx hr

section Sim

open SmfSim

/-- A simulator that restarts before it has established anything: the other one keeps its
session. -/
theorem restart_cleared_iff_idle :
    let evs := [setup smfA 1, setup smfB 1, establish smfB 1 ue1]
    ((after host boot evs).srv.sessions.lookup 1).isSome ∧
      Cleared smfA (after host boot evs) (after host boot (evs ++ [setup smfA 2])) := by
  intro evs
  have hx : ((after host boot evs).srv.associations.lookup smfA).map (·.recoveryTs) = some 1 := by
    decide +kernel
  have hB : ∀ e ∈ (after host boot evs).origin.entries, e.2.nodeId ≠ smfA := by decide +kernel
  have hsetup : setupOf (received (associationSetup smfA 2)) = some ⟨smfA, 2⟩ := by decide +kernel
  obtain ⟨x, hx, hts⟩ := Option.map_eq_some_iff.mp hx
  have hr : Restarts smfA x (setup smfA 2) := .inl ⟨_, hsetup, rfl, by rw [hts]; decide⟩
  refine ⟨by decide +kernel, (restart_cleared_iff host boot _ _ _ _ hx hr).mpr ⟨?_, ?_⟩⟩
  · intro s o ho hnode
    exact absurd hnode (hB _ (Table.lookup_eq_some.mp ho))
  · intro recv hrecv
    rw [heartbeatOf_of_setupOf hsetup] at hrecv
    cases hrecv

/-- A simulator that restarts with a session: whether it sets up again or sends a heartbeat, the
session stays. -/
theorem not_cleared_live_session :
    let a := after host boot [setup smfA 1, establish smfA 1 ue1]
    ∃ x, a.srv.associations.lookup smfA = some x ∧
      ∀ ev ∈ [setup smfA 2, sends smfA (heartbeat 2)], Restarts smfA x ev ∧
        ¬ Cleared smfA a (a.step host ev) := by
  intro a
  have hx : (a.srv.associations.lookup smfA).map (fun x => (x.peerAddr, x.recoveryTs)) =
      some (peer smfA, 1) := by
    decide +kernel
  obtain ⟨x, hx, heq⟩ := Option.map_eq_some_iff.mp hx
  obtain ⟨hpeer, hts⟩ := Prod.mk.inj heq
  have ho : a.origin.lookup 1 = some ⟨smfA, peer smfA, 1⟩ := by decide +kernel
  have hleft : ∀ ev ∈ [setup smfA 2, sends smfA (heartbeat 2)],
      ((a.step host ev).srv.sessions.lookup 1).isSome := by
    decide +kernel
  refine ⟨x, hx, fun ev hev => ⟨?_, fun hc => ?_⟩⟩
  · simp only [List.mem_cons, List.not_mem_nil, or_false] at hev
    rcases hev with rfl | rfl
    · refine .inl ⟨⟨smfA, 2⟩, by decide +kernel, rfl, ?_⟩
      rw [hts]
      decide
    · refine .inr ⟨2, by decide +kernel, hpeer.symm, ?_⟩
      rw [hts]
      decide
  · have hsome := hleft ev hev
    rw [(hc.gone 1 _ ho rfl).entry] at hsome
    cases hsome

end Sim

end Audit

end UpfEdge
