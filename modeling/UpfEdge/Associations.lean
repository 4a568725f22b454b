import UpfEdge.Restart

/-!
# Setting up an association, and finding it again

An association is stored under the Node ID that the Association Setup Request names, with the
address the request came from and the Recovery Time Stamp in it; four handlers then look for it by
that address.  One event changes the address or the time stamp of an association in two ways only
(`step_association`): a setup that is not a duplicate writes both, and a heartbeat from its address
writes the time stamp.

Nothing ties the three fields together.  A duplicate setup from another address is accepted and
changes nothing (`setup_usable_iff`), one address may set up several Node IDs
(`always_unambiguous_iff`), and an older time stamp is written over a newer one
(`meets_forward_iff`).
-/

namespace UpfEdge

open Lib Pfcp Server

/-- The address and the Recovery Time Stamp of an association. -/
def Server.SmfAssociation.link (x : SmfAssociation) : SocketAddr × UInt32 :=
  (x.peerAddr, x.recoveryTs)

namespace Audit

/-! ### One event -/

section Step

variable {host : Host} {a : Audit} {ev : Event}

/-- **What one event does to the link of an association.** -/
theorem step_association (host : Host) (a : Audit) (ev : Event) (k : Ipv4Addr) :
    ((a.step host ev).srv.associations.lookup k).map (·.link) =
        (a.srv.associations.lookup k).map (·.link) ∨
      (∃ env now data src req, ev = .datagram env now data src ∧
        freshSetup (received data) a.world = some req ∧ k = req.nodeId ∧
        (a.step host ev).srv.associations.lookup k = some (.new k src req.recoveryTs)) ∨
      ∃ env now data src recv x, ev = .datagram env now data src ∧
        heartbeatOf (received data) = some (some recv) ∧
        findAssociation env a.srv src = some ⟨k, x⟩ ∧ (∃ ip port, src = .v4 ip port) ∧
        (a.step host ev).srv.associations.lookup k =
          some { x with sessions := ∅, recoveryTs := recv } := by
  have hmove := a.step_move host ev
  generalize a.step host ev = a' at hmove ⊢
  cases hmove with
  | steady hw ho hl hest => exact .inl (by rw [Audit.srv, hw.associations])
  | @heartbeat env now data src _ recvTs hhb hest hw ho hl =>
    have hassoc : a'.srv.associations = heartbeatAssociations env src recvTs a.srv := by
      rw [Audit.srv, hw]
    rw [hassoc]
    cases src with
    | v6 => exact .inl rfl
    | v4 ip port =>
      rcases lookup_heartbeatAssociations env (.v4 ip port) recvTs a.srv k with
        heq | ⟨x, recv, rfl, hfind, -, -, hnew⟩
      · exact .inl (by rw [heq])
      · exact .inr (.inr ⟨env, now, data, _, recv, x, rfl, hhb, hfind, ⟨ip, port, rfl⟩, hnew⟩)
  | @setup env now data src _ req hset hest hw ho hl =>
    have hlookup := Table.lookup_insert_ite a.srv.associations req.nodeId k
      (.new req.nodeId src req.recoveryTs)
    have hassoc : a'.srv.associations =
        a.srv.associations.insert req.nodeId (.new req.nodeId src req.recoveryTs) := by
      rw [Audit.srv, hw]
      rfl
    rw [hassoc, hlookup]
    split_ifs with hk
    · obtain rfl := hk
      exact .inr (.inl ⟨env, now, data, src, req, rfl, hset, rfl, rfl⟩)
    · exact .inl rfl
  | refused req assoc hest hnone hw ho hl => exact .inl (by rw [Audit.srv, hw]; rfl)
  | interrupted req assoc ueIp gnbInfo hest hue hgnb hinst ho hl =>
    exact .inl (by rw [Audit.srv, (installed hinst).associations])
  | established req assoc ueIp gnbInfo w' hest hue hgnb hinst hw ho hl =>
    left
    rw [Audit.srv, hw, map_registerSession fun _ _ => rfl, (installed hinst).associations]
  | deleted seid session assoc hest hdel hw ho hl =>
    left
    have hassoc : a'.srv.associations =
        (unregisterSession assoc.2.nodeId seid session.cpSeid a.world).srv.associations := by
      rw [Audit.srv, hw]
      rfl
    rw [hassoc, map_unregisterSession fun _ _ => rfl]

/-- A setup that is not a duplicate writes its association. -/
theorem step_of_freshSetup {env : Env} {data : Bytes} {src : SocketAddr} {req : AssociationSetupReq}
    (now : Instant) (h : freshSetup (received data) a.world = some req) :
    (a.step host (.datagram env now data src)).srv =
      associate req.nodeId src req.recoveryTs (a.srv.touchActivity now) := by
  obtain ⟨hset, hfresh⟩ := Option.filter_eq_some_iff.mp h
  have hdup : isDuplicateSetup req a.srv = false := by simpa using hfresh
  have hworld : (a.step host (.datagram env now data src)).world = _ :=
    handleMessage_of_setup (w := touched now a.world) hset hdup
  exact congrArg World.srv hworld

/-- A duplicate setup changes no association. -/
theorem step_of_duplicateSetup {env : Env} {data : Bytes} {src : SocketAddr}
    {req : AssociationSetupReq} (now : Instant) (h : setupOf (received data) = some req)
    (hdup : isDuplicateSetup req a.srv = true) :
    (a.step host (.datagram env now data src)).srv.associations = a.srv.associations := by
  obtain ⟨seq, heq⟩ : ∃ seq, receive host env now data src a.world = _ :=
    handleMessage_setup (w := touched now a.world) h
  have hworld := congrArg Prod.snd heq
  have hdup' : isDuplicateSetup req (touched now a.world).srv = true := hdup
  simp only [hdup', if_true] at hworld
  exact congrArg (·.srv.associations) hworld

end Step

/-! ### The association of an address -/

/-- No two associations have the same address. -/
def OneSource (a : Audit) : Prop :=
  ∀ k k' x x', a.srv.associations.lookup k = some x → a.srv.associations.lookup k' = some x' →
    x.peerAddr = x'.peerAddr → k = k'

/-- The association of an address is the same in whatever order the table is walked. -/
def Unambiguous (a : Audit) : Prop :=
  a.OneSource ∧ ∀ env env' src, findAssociation env a.srv src = findAssociation env' a.srv src

/-- A setup that is not a duplicate comes from an address that no association of another Node ID
has. -/
def NewSource (a : Audit) : Event → Prop
  | .datagram _ _ data src =>
    ∀ req, freshSetup (received data) a.world = some req →
      ∀ k x, a.srv.associations.lookup k = some x → x.peerAddr = src → k = req.nodeId
  | _ => True

section Source

variable {host : Host} {a : Audit} {ev : Event}

theorem OneSource.findAssociation_eq (h : a.OneSource) (env env' : Env) (src : SocketAddr) :
    findAssociation env a.srv src = findAssociation env' a.srv src := by
  -- whatever one order finds, the other finds too
  have hfind : ∀ {env env' : Env} {found}, findAssociation env a.srv src = some found →
      findAssociation env' a.srv src = some found := by
    intro env env' found hfound
    obtain ⟨hx, hpeer⟩ := findAssociation_some hfound
    have hsome := findAssociation_isSome env' hx
    rw [hpeer] at hsome
    obtain ⟨found', hfound'⟩ := Option.isSome_iff_exists.mp hsome
    obtain ⟨hx', hpeer'⟩ := findAssociation_some hfound'
    obtain ⟨k, x⟩ := found
    obtain ⟨k', x'⟩ := found'
    obtain rfl : k = k' := h k k' x x' hx hx' (hpeer.trans hpeer'.symm)
    obtain rfl : x = x' := Option.some.inj (hx.symm.trans hx')
    exact hfound'
  cases hfound : findAssociation env a.srv src with
  | some found => exact (hfind hfound).symm
  | none =>
    cases hfound' : findAssociation env' a.srv src with
    | none => rfl
    | some found => cases hfound.symm.trans (hfind hfound')

/-- What is at a Node ID after an event was there before with the same address, or was set up by
the event. -/
theorem peerAddr_before {k : Ipv4Addr} {x' : SmfAssociation}
    (h : (a.step host ev).srv.associations.lookup k = some x') :
    (∃ x, a.srv.associations.lookup k = some x ∧ x.peerAddr = x'.peerAddr) ∨
      ∃ env now data src req, ev = .datagram env now data src ∧
        freshSetup (received data) a.world = some req ∧ k = req.nodeId ∧ x'.peerAddr = src := by
  rcases step_association host a ev k with
    heq | ⟨env, now, data, src, req, hev, hset, hk, hnew⟩ |
    ⟨env, -, -, src, recv, x, -, -, hfind, -, hnew⟩
  · rw [h, Option.map_some] at heq
    obtain ⟨x, hx, hlink⟩ := Option.map_eq_some_iff.mp heq.symm
    exact .inl ⟨x, hx, (Prod.mk.inj hlink).1⟩
  · refine .inr ⟨env, now, data, src, req, hev, hset, hk, ?_⟩
    rw [← Option.some.inj (hnew.symm.trans h)]
    rfl
  · refine .inl ⟨x, (findAssociation_some hfind).1, ?_⟩
    rw [← Option.some.inj (hnew.symm.trans h)]

theorem OneSource.step (h : a.OneSource) (hg : a.NewSource ev) : (a.step host ev).OneSource := by
  intro k k' x x' hx hx' hpeer
  rcases peerAddr_before hx with ⟨y, hy, hyp⟩ | ⟨env, now, data, src, req, rfl, hset, rfl, hsrc⟩
  · rcases peerAddr_before hx' with
      ⟨y', hy', hyp'⟩ | ⟨env, now, data, src, req, rfl, hset, rfl, hsrc⟩
    · exact h k k' y y' hy hy' (by rw [hyp, hyp', hpeer])
    · exact hg req hset k y hy (by rw [hyp, hpeer, hsrc])
  · rcases peerAddr_before hx' with ⟨y', hy', hyp'⟩ | ⟨_, _, _, _, req', heq, hset', rfl, -⟩
    · exact (hg req hset k' y' hy' (by rw [hyp', ← hpeer, hsrc])).symm
    · obtain ⟨rfl, rfl, rfl, rfl⟩ := Event.datagram.inj heq
      rw [Option.some.inj (hset.symm.trans hset')]

/-- A setup from the address of another association makes a second one. -/
theorem OneSource.newSource (h' : (a.step host ev).OneSource) : a.NewSource ev := by
  cases ev with
  | snapshot | report | uplink | downlink => trivial
  | datagram env now data src =>
    intro req hset k x hx hpeer
    have hlookup : ∀ j, (a.step host (.datagram env now data src)).srv.associations.lookup j =
        if j = req.nodeId then some (.new req.nodeId src req.recoveryTs)
        else a.srv.associations.lookup j := by
      intro j
      rw [step_of_freshSetup now hset]
      exact Table.lookup_insert_ite _ _ _ _
    by_contra hne
    refine hne (h' k req.nodeId x _ ?_ ((hlookup _).trans (if_pos rfl)) hpeer)
    rw [hlookup, if_neg hne, hx]

end Source

/-- **Source lookup.**  In every state of a run no two associations share an address, and lookups by
address do not depend on the walk order, exactly when no setup of the run that is not a duplicate
comes from the address of another association. -/
theorem always_unambiguous_iff (host : Host) (b : Boot) (evs : List Event) :
    Always (step host) Unambiguous (init b) evs ↔ Meets (step host) NewSource (init b) evs := by
  have hstart : (init b).OneSource := by
    intro k k' x x' hx
    cases hx
  refine always_iff_meets (fun a ev h hg => ?_) (fun a ev _ h' => h'.1.newSource)
    ⟨hstart, hstart.findAssociation_eq⟩
  have hstep : (a.step host ev).OneSource := h.1.step hg
  exact ⟨hstep, hstep.findAssociation_eq⟩

open SmfSim in
/-- One simulator that sets up two Node IDs from its address has two associations there. -/
theorem not_unambiguous_two_nodes :
    ¬ (after host boot [setup smfA 1, sends smfA (associationSetup smfB 1)]).Unambiguous := by
  rintro ⟨hone, -⟩
  generalize hrun : after host boot [setup smfA 1, sends smfA (associationSetup smfB 1)] = a at hone
  have hlinks : (a.srv.associations.lookup smfA).map (·.peerAddr) = some (peer smfA) ∧
      (a.srv.associations.lookup smfB).map (·.peerAddr) = some (peer smfA) := by
    rw [← hrun]
    decide +kernel
  obtain ⟨x, hx, hpeer⟩ := Option.map_eq_some_iff.mp hlinks.1
  obtain ⟨x', hx', hpeer'⟩ := Option.map_eq_some_iff.mp hlinks.2
  exact absurd (hone smfA smfB x x' hx hx' (hpeer.trans hpeer'.symm)) (by decide)

/-! ### Recovery Time Stamps -/

/-- The event takes no Recovery Time Stamp back, and if it is an Association Setup Request with an
older one than is stored, it changes nothing on the server. -/
structure Forward (host : Host) (a : Audit) (ev : Event) : Prop where
  stamps : ∀ k x x', a.srv.associations.lookup k = some x →
    (a.step host ev).srv.associations.lookup k = some x' → x.recoveryTs ≤ x'.recoveryTs
  rejected : ∀ env now data src req x, ev = .datagram env now data src →
    setupOf (received data) = some req → a.srv.associations.lookup req.nodeId = some x →
    req.recoveryTs < x.recoveryTs → (a.step host ev).srv = a.srv.touchActivity now

/-- The event shows no older Recovery Time Stamp than is stored: neither an Association Setup
Request for its Node ID, nor a heartbeat for the association that is found for its address. -/
def NotOlder (a : Audit) : Event → Prop
  | .datagram env _ data src =>
    (∀ req x, setupOf (received data) = some req →
      a.srv.associations.lookup req.nodeId = some x → x.recoveryTs ≤ req.recoveryTs) ∧
    ∀ recv ip port found, heartbeatOf (received data) = some (some recv) → src = .v4 ip port →
      findAssociation env a.srv src = some found → found.2.recoveryTs ≤ recv
  | _ => True

section Stamps

variable {host : Host} {a : Audit} {ev : Event}

theorem NotOlder.forward (h : a.NotOlder ev) : a.Forward host ev := by
  constructor
  · intro k x x' hx hx'
    rcases step_association host a ev k with
      heq | ⟨env, now, data, src, req, rfl, hset, rfl, hnew⟩ |
        ⟨env, now, data, src, recv, y, rfl, hhb, hfind, ⟨ip, port, hsrc⟩, hnew⟩
    · rw [hx, hx'] at heq
      have hlink : x'.link = x.link := Option.some.inj heq
      rw [(Prod.mk.inj hlink).2]
      exact UInt32.le_refl _
    · obtain rfl := Option.some.inj (hnew.symm.trans hx')
      exact h.1 req x (Option.filter_eq_some_iff.mp hset).1 hx
    · obtain rfl := Option.some.inj (hnew.symm.trans hx')
      obtain rfl : y = x := Option.some.inj ((findAssociation_some hfind).1.symm.trans hx)
      exact h.2 recv ip port _ hhb hsrc hfind
  · rintro env now data src req x rfl hset hx holder
    exact absurd (h.1 req x hset hx) (UInt32.not_le.mpr holder)

theorem Forward.notOlder (h : a.Forward host ev) : a.NotOlder ev := by
  cases ev with
  | snapshot | report | uplink | downlink => trivial
  | datagram env now data src =>
    refine ⟨fun req x hset hx => ?_, fun recv ip port found hhb hsrc hfind => ?_⟩
    · by_contra holder
      have hdup : isDuplicateSetup req a.srv = false := by
        simp only [isDuplicateSetup, hx]
        exact decide_eq_false fun heq => holder (heq ▸ UInt32.le_refl _)
      have hfresh : freshSetup (received data) a.world = some req :=
        Option.filter_eq_some_iff.mpr ⟨hset, by simpa using hdup⟩
      have hnew : (a.step host (.datagram env now data src)).srv.associations.lookup req.nodeId =
          some (.new req.nodeId src req.recoveryTs) := by
        rw [step_of_freshSetup now hfresh]
        exact (Table.lookup_insert_ite _ _ _ _).trans (if_pos rfl)
      exact holder (h.stamps _ x _ hx hnew)
    · subst hsrc
      have hx := (findAssociation_some hfind).1
      have hassoc : (a.step host (.datagram env now data (.v4 ip port))).srv.associations =
          heartbeatAssociations env (.v4 ip port) (some recv) a.srv := by
        have hworld : (a.step host (.datagram env now data (.v4 ip port))).world = _ :=
          handleMessage_of_heartbeat (w := touched now a.world) hhb
        exact congrArg (·.srv.associations) hworld
      by_cases hts : found.2.recoveryTs = recv
      · rw [hts]
        exact UInt32.le_refl _
      · have hnew : (a.step host (.datagram env now data (.v4 ip port))).srv.associations.lookup
            found.1 = some { found.2 with sessions := ∅, recoveryTs := recv } := by
          rw [hassoc]
          simp only [heartbeatAssociations, hfind, ne_eq, hts, not_false_eq_true, if_true]
          exact (Table.lookup_insert_ite _ _ _ _).trans (if_pos rfl)
        exact h.stamps _ _ _ hx hnew

end Stamps

/-- **Recovery Time Stamps.**  No event of a run takes a time stamp back, and older setups change
nothing, exactly when no event of the run shows an older time stamp than is stored. -/
theorem meets_forward_iff (host : Host) (b : Boot) (evs : List Event) :
    Meets (step host) (Forward host) (init b) evs ↔ Meets (step host) NotOlder (init b) evs :=
  ⟨Meets.mono (fun _ _ h => h.notOlder), Meets.mono (fun _ _ h => h.forward)⟩

open SmfSim in
/-- A setup with an older time stamp replaces the association. -/
theorem not_forward_older_setup :
    ¬ Meets (step host) (Forward host) (init boot) [setup smfA 2, setup smfA 1] := by
  rintro ⟨-, hforward, -⟩
  have hbefore : (((init boot).step host (setup smfA 2)).srv.associations.lookup smfA).map
      (·.recoveryTs) = some 2 := by
    decide +kernel
  have hafter : ((((init boot).step host (setup smfA 2)).step host
      (setup smfA 1)).srv.associations.lookup smfA).map (·.recoveryTs) = some 1 := by
    decide +kernel
  obtain ⟨x, hx, htwo⟩ := Option.map_eq_some_iff.mp hbefore
  obtain ⟨x', hx', hone⟩ := Option.map_eq_some_iff.mp hafter
  have hle := hforward.stamps smfA x x' hx hx'
  rw [htwo, hone] at hle
  exact absurd hle (by decide)

/-! ### Accepted setups -/

/-- The association of the request stands as the request says, and no datagram that comes next from
its source is refused for lack of an association. -/
structure Usable (host : Host) (a : Audit) (src : SocketAddr) (req : AssociationSetupReq) :
    Prop where
  association : ∃ x, a.srv.associations.lookup req.nodeId = some x ∧ x.peerAddr = src ∧
    x.recoveryTs = req.recoveryTs
  admitted : ∀ env now data ip port, (receive host env now data src a.world).1 ≠
    .error (.establishmentWithoutAssociation ip port)

end Audit

section Handlers

variable {e : Endian} {env : Env} {data : Bytes} {src : SocketAddr} {w : World}

/-- A source that has an association is never refused for lack of one. -/
theorem handleMessage_ne_withoutAssociation (h : (findAssociation env w.srv src).isSome)
    (ip : Ipv4Addr) (port : UInt16) :
    (handleMessage e env data src w).1 ≠ .error (.establishmentWithoutAssociation ip port) := by
  obtain ⟨found, hfind⟩ := Option.isSome_iff_exists.mp h
  unfold handleMessage
  cases PfcpHeader.decode data with
  | error err => simp
  | ok p =>
    obtain ⟨header, body⟩ := p
    simp only [dispatch]
    split_ifs
    · simp [handleHeartbeat]
    · unfold handleSessionAssociation
      cases AssociationSetupReq.decode body with
      | error err => simp
      | ok req =>
        simp only
        split_ifs <;> simp
    · unfold handleSessionEstablishment
      cases SessionEstablishmentReq.decode body with
      | error err => simp
      | ok req =>
        cases src with
        | v6 => simp
        | v4 ip port =>
          simp only [hfind]
          cases req.createPdrs.findSome? (·.ueIp) with
          | none => simp
          | some ueIp =>
            cases req.createFars.findSome? (·.outerHeaderCreation) with
            | none => simp
            | some gnbInfo =>
              simp only
              rcases install _ (allocated w) with ⟨ok, w'⟩
              cases ok <;> simp
    · unfold handleSessionModification
      cases SessionModificationReq.decode body with
      | error err => simp
      | ok req =>
        cases header.seid with
        | none => simp
        | some seid =>
          simp only
          cases w.srv.sessions.lookup seid with
          | none => simp
          | some session =>
            cases src with
            | v6 => simp
            | v4 ip port =>
              simp only [hfind]
              split_ifs <;> simp
    · unfold handleSessionDeletion deletionLock
      simp only
      cases w.srv.sessions.lookup (header.seid.getD 0) with
      | none => simp
      | some session =>
        cases src with
        | v6 => simp
        | v4 ip port =>
          simp only [hfind]
          split_ifs <;> simp
    all_goals simp

end Handlers

namespace Audit

/-- **Accepted setups.**  Every Association Setup Request that can be decoded is accepted, and its
association is usable afterwards exactly when no association with the same Node ID and time stamp
had another address: a duplicate is answered without storing where it came from. -/
theorem setup_usable_iff (host : Host) (b : Boot) (evs : List Event) (env : Env) (now : Instant)
    (data : Bytes) (src : SocketAddr) (req : AssociationSetupReq)
    (hset : setupOf (received data) = some req) :
    (∃ seq, (receive host env now data src (after host b evs).world).1 =
      .ok (buildAssociationSetupResponse seq (after host b evs).srv.n3Addr
        (after host b evs).srv.recoveryTs)) ∧
    (Usable host (after host b (evs ++ [.datagram env now data src])) src req ↔
      ∀ x, (after host b evs).srv.associations.lookup req.nodeId = some x →
        x.recoveryTs = req.recoveryTs → x.peerAddr = src) := by
  obtain ⟨seq, hanswer⟩ : ∃ seq, receive host env now data src (after host b evs).world = _ :=
    handleMessage_setup (w := touched now (after host b evs).world) hset
  refine ⟨⟨seq, congrArg Prod.fst hanswer⟩, ?_⟩
  have hstep : after host b (evs ++ [.datagram env now data src]) =
      (after host b evs).step host (.datagram env now data src) := run_concat _ _ _
  rw [hstep]
  generalize after host b evs = a
  -- whoever is found by its address is admitted
  have husable : ∀ {a' : Audit}, (∃ x, a'.srv.associations.lookup req.nodeId = some x ∧
      x.peerAddr = src ∧ x.recoveryTs = req.recoveryTs) → Usable host a' src req := by
    rintro a' ⟨x, hx, hpeer, hts⟩
    refine ⟨⟨x, hx, hpeer, hts⟩, fun env now data ip port => ?_⟩
    have hfound := findAssociation_isSome env hx
    rw [hpeer] at hfound
    exact handleMessage_ne_withoutAssociation (w := touched now a'.world) hfound ip port
  cases hdup : isDuplicateSetup req a.srv with
  | false =>
    have hfresh : freshSetup (received data) a.world = some req :=
      Option.filter_eq_some_iff.mpr ⟨hset, by simpa using hdup⟩
    constructor
    · intro _ x hx hts
      simp only [isDuplicateSetup, hx, hts, decide_true] at hdup
      cases hdup
    · intro _
      refine husable ⟨.new req.nodeId src req.recoveryTs, ?_, rfl, rfl⟩
      rw [step_of_freshSetup now hfresh]
      exact (Table.lookup_insert_ite _ _ _ _).trans (if_pos rfl)
  | true =>
    obtain ⟨x, hx, hts⟩ : ∃ x, a.srv.associations.lookup req.nodeId = some x ∧
        x.recoveryTs = req.recoveryTs := by
      unfold isDuplicateSetup at hdup
      split at hdup
      · next x hx => exact ⟨x, hx, (of_decide_eq_true hdup).symm⟩
      · cases hdup
    have hsame : (a.step host (.datagram env now data src)).srv.associations = a.srv.associations :=
      step_of_duplicateSetup now hset hdup
    constructor
    · rintro ⟨⟨y, hy, hpeer, -⟩, -⟩ z hz -
      rw [hsame, hz] at hy
      rw [Option.some.inj hy]
      exact hpeer
    · intro h
      exact husable ⟨x, by rw [hsame, hx], h x hx hts, hts⟩

section Sim

open SmfSim

/-- A setup that is sent once more, from the port it came from before, leaves a usable
association. -/
theorem setup_usable_iff_again : ∃ req, setupOf (received (associationSetup smfA 1)) = some req ∧
    Usable host (after host boot ([setup smfA 1] ++ [setup smfA 1])) (peer smfA) req := by
  have hreq : (setupOf (received (associationSetup smfA 1))).map (·.nodeId) = some smfA := by
    decide +kernel
  obtain ⟨req, hreq, hnode⟩ := Option.map_eq_some_iff.mp hreq
  refine ⟨req, hreq, (setup_usable_iff host boot [setup smfA 1] env 0 _ _ req hreq).2.mpr
    fun x hx _ => ?_⟩
  have hstored : ((after host boot [setup smfA 1]).srv.associations.lookup smfA).map (·.peerAddr) =
      some (peer smfA) := by decide +kernel
  rw [hnode] at hx
  rw [hx] at hstored
  exact Option.some.inj hstored

/-- The same setup once more, from another port: it is accepted, but the association keeps the old
address, and what the simulator sends next from its new port is refused. -/
theorem not_usable_new_port : ∃ req, setupOf (received (associationSetup smfA 1)) = some req ∧
    ¬ Usable host (after host boot [setup smfA 1,
      .datagram env 0 (associationSetup smfA 1) (.v4 smfA 40000)]) (.v4 smfA 40000) req := by
  have hreq : (setupOf (received (associationSetup smfA 1))).map (·.nodeId) = some smfA := by
    decide +kernel
  obtain ⟨req, hreq, hnode⟩ := Option.map_eq_some_iff.mp hreq
  refine ⟨req, hreq, ?_⟩
  rintro ⟨⟨x, hx, hpeer, -⟩, -⟩
  have hkept : ((after host boot [setup smfA 1, .datagram env 0 (associationSetup smfA 1)
      (.v4 smfA 40000)]).srv.associations.lookup smfA).map (·.peerAddr) = some (peer smfA) := by
    decide +kernel
  rw [hnode] at hx
  rw [hx, Option.map_some, hpeer] at hkept
  exact absurd (Option.some.inj hkept) (by decide)

end Sim

end Audit

end UpfEdge
