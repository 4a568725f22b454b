import UpfEdge.Agreement
import UpfEdge.Answers
import UpfEdge.Associations
import UpfEdge.Directory

/-!
# The sessions of an SMF in the company of others

What an SMF may rely on while the others behave (`Proper`): its association stays, and so does each
of its sessions until it is withdrawn (`Held.step`).  As long as it is there, a modification and a
deletion of it from the address of the SMF are accepted, and the data plane is ordered to follow.
-/

namespace UpfEdge

open Lib Pfcp Server Xdp

namespace Audit

/-- What an event must be like for the tables to agree and for the data plane to follow them. -/
structure Proper (host : Host) (a : Audit) (ev : Event) : Prop where
  fits : a.Fits host ev
  oneSetup : a.OneSetup ev
  orderly : a.Orderly host ev

instance (host : Host) (a : Audit) (ev : Event) : Decidable (a.Proper host ev) :=
  decidable_of_iff (a.Fits host ev ∧ a.OneSetup ev ∧ a.Orderly host ev)
    ⟨fun h => ⟨h.1, h.2.1, h.2.2⟩, fun h => ⟨h.1, h.2, h.3⟩⟩

/-- What a run of such events keeps. -/
structure Upright (host : Host) (a : Audit) : Prop where
  tidy : a.Tidy host
  ledger : Ledger a
  placed : Placed a
  bijOn : Set.BijOn a.ownerPair a.liveSeids a.tablePairs

/-- There is an association of the node, at the address. -/
def Associated (a : Audit) (node : Ipv4Addr) (src : SocketAddr) : Prop :=
  ∃ x, a.srv.associations.lookup node = some x ∧ x.peerAddr = src

/-- The session is live, for the UE, and was established from the address. -/
structure Held (a : Audit) (src : SocketAddr) (s : UInt64) (ueIp : Ipv4Addr) : Prop where
  live : ∃ session, a.Live s session ∧ session.ueIp = ueIp
  origin : ∃ o, a.origin.lookup s = some o ∧ o.peerAddr = src

section Step

variable {host : Host} {a : Audit} {ev : Event}

theorem init_upright (host : Host) (b : Boot) : (init b).Upright host where
  tidy := init_tidy host b
  ledger := init_ledger b
  placed := init_placed b
  bijOn := by
    have hlive : (init b).liveSeids = ∅ := Set.eq_empty_of_forall_notMem fun s hs => by cases hs
    have htable : (init b).tablePairs = ∅ :=
      Set.eq_empty_of_forall_notMem fun p ⟨x, hx, _⟩ => by cases hx
    rw [hlive, htable]
    exact Set.bijOn_empty _

theorem Upright.step (h : a.Upright host) (hp : a.Proper host ev) :
    (a.step host ev).Upright host where
  tidy := h.tidy.step hp.fits
  ledger := h.ledger.step h.tidy.issued
  placed := h.placed.step h.ledger hp.oneSetup
  bijOn := bijOn_step h.tidy.issued h.ledger hp.oneSetup hp.orderly h.bijOn

/-! ### Associations -/

/-- An association stays where it is. -/
theorem Associated.step {node : Ipv4Addr} {src : SocketAddr} (h : a.Associated node src)
    (hone : a.OneSetup ev) : (a.step host ev).Associated node src := by
  obtain ⟨x, hx, hpeer⟩ := h
  rcases step_association host a ev node with hlink |
    ⟨env, now, data, src', req, rfl, hfresh, rfl, -⟩ |
    ⟨env, now, data, src', recv, y, rfl, -, hfind, -, hnew⟩
  · rw [hx, Option.map_some] at hlink
    obtain ⟨y, hy, heq⟩ := Option.map_eq_some_iff.mp hlink
    exact ⟨y, hy, (congrArg Prod.fst heq).trans hpeer⟩
  · rw [(hone.2 req hfresh).1] at hx
    cases hx
  · obtain ⟨hy, -⟩ := findAssociation_some hfind
    obtain rfl := Option.some.inj (hx.symm.trans hy)
    exact ⟨_, hnew, hpeer⟩

theorem Associated.found {node : Ipv4Addr} {src : SocketAddr} (h : a.Associated node src)
    (env : Env) : (findAssociation env a.srv src).isSome := by
  obtain ⟨x, hx, rfl⟩ := h
  exact findAssociation_isSome env hx

/-! ### Orders -/

theorem order_of_modification {seid : UInt64} {session : SessionData}
    {req : SessionModificationReq} (hiss : ¬ a.Issues ev)
    (hmod : a.modification ev = some (seid, session, req)) :
    a.order host ev = some (.retunnel session.ueIp req.updateFars) := by
  cases ev with
  | datagram env now data src =>
    have hest : establishes env (received data) src a.world = none :=
      Option.not_isSome_iff_eq_none.mp hiss
    simp only [order, hest, hmod]
  | snapshot | report | uplink | downlink => cases hmod

theorem order_of_deletion {seid : UInt64} {session : SessionData}
    {assoc : Sigma fun _ : Ipv4Addr => SmfAssociation} (hiss : ¬ a.Issues ev)
    (hmod : a.modification ev = none) (hdel : a.deletion ev = some (seid, session, assoc)) :
    a.order host ev = some (.withdraw session.ueIp) := by
  cases ev with
  | datagram env now data src =>
    have hest : establishes env (received data) src a.world = none :=
      Option.not_isSome_iff_eq_none.mp hiss
    simp only [order, hest, hmod, hdel]
  | snapshot | report | uplink | downlink => cases hdel

/-- What an order makes of the service of its UE. -/
theorem directory_of_order (h : a.Tidy host) (hf : a.Fits host ev) {o : Order}
    (ho : a.order host ev = some o) : (a.step host ev).maps.directory host.endian o.ueIp =
      o.service host.endian (a.maps.directory host.endian o.ueIp) := by
  rw [step_directory h hf, ho, Option.toList_some, run_cons, run_nil, Order.apply,
    Function.update_self]

theorem directory_of_others (h : a.Tidy host) (hf : a.Fits host ev) {ip : Ipv4Addr}
    (ho : ∀ o ∈ a.order host ev, o.ueIp ≠ ip) :
    (a.step host ev).maps.directory host.endian ip = a.maps.directory host.endian ip := by
  rw [step_directory h hf]
  exact Order.run_apply_of_ne (fun o hmem => ho o (Option.mem_toList.mp hmem)) _

/-! ### Sessions -/

variable {src : SocketAddr} {s : UInt64} {ueIp : Ipv4Addr}

/-- **A session stays until it is withdrawn.** -/
theorem Held.step (h : a.Held src s ueIp) (hu : a.Upright host)
    (ho : a.order host ev ≠ some (.withdraw ueIp)) : (a.step host ev).Held src s ueIp := by
  obtain ⟨⟨session, hlive, hue⟩, o, horigin, hpeer⟩ := h
  have hne := ne_nextSeid hu.tidy.issued (mem_liveSeids.mpr ⟨session, hlive⟩)
  refine ⟨?_, o, (origin_of_ne (a.step_move host ev) hne).trans horigin, hpeer⟩
  have hsame : (a.step host ev).srv.sessions = a.srv.sessions →
      ∃ session, (a.step host ev).Live s session ∧ session.ueIp = ueIp := by
    intro hs
    refine ⟨session, ?_, hue⟩
    rw [Live, hs]
    exact hlive
  by_cases hdatagram : ∃ env now data src, ev = .datagram env now data src
  swap
  · exact hsame (step_idle host a fun env now data src heq =>
      hdatagram ⟨env, now, data, src, heq⟩).1
  obtain ⟨env, now, data, src', rfl⟩ := hdatagram
  have hw := step_writes host a env now data src'
  generalize a.step host (.datagram env now data src') = a' at hw hsame ⊢
  cases hw with
  | nothing hadm hmod hdel hm hc hs => exact hsame hs
  | rules req assoc ueIp' gnbInfo w' hest hue' hgnb hmod hdel hinst hm hc hs =>
    split_ifs at hs
    · refine ⟨session, ?_, hue⟩
      rw [Live, hs, Table.lookup_insert_ite, if_neg hne]
      exact hlive
    · exact hsame hs
  | modified seid session' req hiss hmod hdel hlive' hw =>
    have hlookup : a'.srv.sessions.lookup s =
        if s = seid then some (moved req.updateFars session') else a.srv.sessions.lookup s := by
      have htouched : (touched now a.world).srv.sessions.lookup seid = some session' := hlive'
      rw [Audit.srv, hw, lookup_modifySession htouched req s]
      rfl
    by_cases hs : s = seid
    · subst hs
      obtain rfl := Option.some.inj (hlive.symm.trans hlive')
      rw [if_pos rfl] at hlookup
      exact ⟨_, hlookup, (moved_ueIp ..).trans hue⟩
    · rw [if_neg hs] at hlookup
      exact ⟨session, hlookup.trans hlive, hue⟩
  | deleted seid session' assoc hiss hmod hdel hlive' hm hc hs =>
    have hother : s ≠ seid := by
      rintro rfl
      obtain rfl := Option.some.inj (hlive.symm.trans hlive')
      exact ho (by rw [order_of_deletion hiss hmod hdel, hue])
    refine ⟨session, ?_, hue⟩
    rw [Live, hs, Table.lookup_erase_ite, if_neg hother]
    exact hlive

/-- The association that an update of the session from its address finds. -/
theorem Held.found (h : a.Held src s ueIp) (hu : a.Upright host) (env : Env) :
    ∃ ip port session x, src = .v4 ip port ∧ a.Live s session ∧ session.ueIp = ueIp ∧
      findAssociation env a.srv src = some x ∧ (x.2.sessions.lookup session.cpSeid).isSome := by
  obtain ⟨⟨session, hlive, hue⟩, o, horigin, rfl⟩ := h
  obtain ⟨ip, port, x, hsrc, hfind, hown⟩ :=
    (agree_of_bijOn hu.placed hu.bijOn).2 s session o hlive horigin env
  exact ⟨ip, port, session, x, hsrc, hlive, hue, hfind, hown⟩

variable {env : Env} {now : Instant} {data body : Bytes} {header : PfcpHeader}

/-- A node that has no association yet sets one up. -/
theorem associated_of_setup (host : Host) (env : Env) (now : Instant) (src : SocketAddr)
    (hd : PfcpHeader.decode (received data) = .ok (header, body))
    (ht : header.msgType = pfcpAssociationSetupReq) {req : AssociationSetupReq}
    (hreq : AssociationSetupReq.decode body = .ok req)
    (hnew : a.srv.associations.lookup req.nodeId = none) :
    (receive host env now data src a.world).1 =
        .ok (buildAssociationSetupResponse header.seqNum a.srv.n3Addr a.srv.recoveryTs) ∧
      (a.step host (.datagram env now data src)).Associated req.nodeId src ∧
      a.order host (.datagram env now data src) = none := by
  have hset : setupOf (received data) = some req := by
    simp only [setupOf, hd, if_pos ht, hreq, Except.toOption]
  have hfresh : freshSetup (received data) a.world = some req := by
    have hdup : isDuplicateSetup req a.world.srv = false := by
      simp only [isDuplicateSetup, show a.world.srv.associations.lookup req.nodeId = none from hnew]
    rw [freshSetup, hset]
    simp [hdup]
  refine ⟨?_, ⟨.new req.nodeId src req.recoveryTs, ?_, rfl⟩, ?_⟩
  · have hne : header.msgType ≠ pfcpHeartbeatReq := by rw [ht]; decide
    have hdup : isDuplicateSetup req (touched now a.world).srv = false := by
      have hnone : (touched now a.world).srv.associations.lookup req.nodeId = none := hnew
      simp only [isDuplicateSetup, hnone]
    simp only [receive, handleMessage, hd, dispatch, if_neg hne, if_pos ht,
      handleSessionAssociation, hreq, hdup]
    rfl
  · rw [step_of_freshSetup now hfresh]
    exact (Table.lookup_insert_ite ..).trans (if_pos rfl)
  · rw [order, establishes_eq_none hd (by rw [ht]; decide),
      modification_eq_none hd (by rw [ht]; decide), deletion_eq_none hd (by rw [ht]; decide)]

/-- An establishment that completes is held from then on. -/
theorem held_of_establishes (host : Host) (now : Instant)
    (hd : PfcpHeader.decode (received data) = .ok (header, body))
    (ht : header.msgType = pfcpSessionEstablishmentReq) {req : SessionEstablishmentReq}
    {assoc : SmfAssociation} {gnbInfo : OuterHeaderCreation}
    (hest : establishes env (received data) src a.world = some (req, assoc))
    (hue : req.createPdrs.findSome? (·.ueIp) = some ueIp)
    (hgnb : req.createFars.findSome? (·.outerHeaderCreation) = some gnbInfo)
    (hcomp : a.Completes host (.datagram env now data src)) :
    (receive host env now data src a.world).1 =
        .ok (buildSessionEstablishmentResponse header.seqNum req.cpSeid a.srv.nextSeid a.srv.n3Addr
          (createdPdrs a.srv.n3Addr a.srv.nextTeid req.createPdrs)) ∧
      (a.step host (.datagram env now data src)).Held src a.srv.nextSeid ueIp := by
  have hanswered := hcomp (by rw [admission_of hest hue hgnb]; rfl)
  obtain ⟨rsp, hrsp⟩ := Option.isSome_iff_exists.mp hanswered
  have hrsp := ok_of_toOption hrsp
  have hrec : receive host env now data src a.world =
      handleSessionEstablishment host.endian env header body src (touched now a.world) :=
    receive_establishment hd ht
  have hworld : (a.step host (.datagram env now data src)).world =
      (receive host env now data src a.world).2 := rfl
  rw [hrec] at hrsp hworld ⊢
  rcases hout : handleSessionEstablishment host.endian env header body src (touched now a.world)
    with ⟨r, w'⟩
  rw [hout] at hrsp hworld
  obtain rfl : r = .ok rsp := hrsp
  obtain ⟨req', assoc', ueIp', gnbInfo', w₁, hreq', -, -, hue', -, hinst, rfl, rfl⟩ :=
    establishment_accepted hout
  obtain ⟨header', body', hd', -, hreq⟩ := of_establishes hest
  obtain ⟨rfl, rfl⟩ := Prod.mk.inj (Except.ok.inj (hd.symm.trans hd'))
  obtain rfl := Except.ok.inj (hreq.symm.trans hreq')
  obtain rfl := Option.some.inj (hue.symm.trans hue')
  refine ⟨rfl, ⟨⟨ueIp, a.srv.nextTeid, gnbInfo'.peerAddr, req.cpSeid⟩, ?_, rfl⟩,
    ⟨assoc.nodeId, src, req.cpSeid⟩, ?_, rfl⟩
  · rw [Live, Audit.srv, hworld]
    exact (Table.lookup_insert_ite ..).trans (if_pos rfl)
  · have horigin : (a.step host (.datagram env now data src)).origin = a.issued src req assoc := by
      simp only [Audit.step, Audit.record, recordDatagram, hest]
      rfl
    rw [horigin, lookup_issued_self]

/-- A modification of the session is accepted. -/
theorem Held.modification (h : a.Held src s ueIp) (hu : a.Upright host) (env : Env) (now : Instant)
    (hd : PfcpHeader.decode (received data) = .ok (header, body))
    (ht : header.msgType = pfcpSessionModificationReq) (hseid : header.seid = some s)
    {req : SessionModificationReq} (hreq : SessionModificationReq.decode body = .ok req) :
    (∃ cpSeid, (receive host env now data src a.world).1 =
        .ok (buildSessionModificationResponse header.seqNum cpSeid)) ∧
      a.order host (.datagram env now data src) = some (.retunnel ueIp req.updateFars) := by
  obtain ⟨ip, port, session, x, rfl, hlive, hue, hfind, hown⟩ := h.found hu env
  have hiss : ¬ a.Issues (.datagram env now data (.v4 ip port)) :=
    not_issues hd (by rw [ht]; decide)
  have hmod : modifies env header body (.v4 ip port) (touched now a.world) =
      some (s, session, req) :=
    modifies_eq_some.mpr ⟨hreq, hseid, ⟨ip, port, rfl⟩, hlive, x, hfind, hown⟩
  have hrec : receive host env now data (.v4 ip port) a.world =
      handleSessionModification host.endian env header body (.v4 ip port)
        (touched now a.world) := by
    simp only [receive, handleMessage, hd, dispatch_modification ht]
  constructor
  · exact ⟨session.cpSeid, by rw [hrec, modification_of_some hmod]⟩
  · have hmodification : a.modification (.datagram env now data (.v4 ip port)) =
        some (s, session, req) := by
      simp only [Audit.modification, hd, if_pos ht]
      exact hmod
    rw [order_of_modification hiss hmodification, hue]

/-- A deletion of the session is accepted. -/
theorem Held.deletion (h : a.Held src s ueIp) (hu : a.Upright host) (env : Env) (now : Instant)
    (hd : PfcpHeader.decode (received data) = .ok (header, body))
    (ht : header.msgType = pfcpSessionDeletionReq) (hseid : header.seid = some s) :
    (receive host env now data src a.world).1 =
        .ok (buildSessionDeletionResponse header.seqNum s) ∧
      a.order host (.datagram env now data src) = some (.withdraw ueIp) := by
  obtain ⟨ip, port, session, x, rfl, hlive, hue, hfind, hown⟩ := h.found hu env
  have hlive' : (touched now a.world).srv.sessions.lookup s = some session := hlive
  have hfind' : findAssociation env (touched now a.world).srv (.v4 ip port) = some x := hfind
  have hdel : deletes env (received data) (.v4 ip port) (touched now a.world) =
      some (s, session, x) := by
    have hof : deletionOf (received data) = some s := by
      simp only [deletionOf, hd, if_pos ht, hseid, Option.getD_some]
    simp only [deletes, hof, hlive', Option.bind_some, hfind', Option.filter, hown, if_true,
      Option.map_some]
  have hrec : receive host env now data (.v4 ip port) a.world =
      handleSessionDeletion host.endian env header (.v4 ip port) (touched now a.world) := by
    simp only [receive, handleMessage, hd, dispatch_deletion ht]
  constructor
  · simp only [hrec, handleSessionDeletion, deletionLock, hseid, Option.getD_some, hlive', hfind',
      hown, if_true]
  · rw [order_of_deletion (not_issues hd (by rw [ht]; decide))
      (modification_eq_none hd (by rw [ht]; decide)) hdel, hue]

end Step

end Audit

end UpfEdge
