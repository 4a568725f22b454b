import UpfEdge.Placement
import UpfEdge.Endpoints

/-!
# The four copies of the gNB's endpoint

The endpoint of a session's downlink tunnel is kept in four places: in the row of its downlink FAR,
in its SESSION_MAP row, in the session table, and in the copy of the session that its association
has under the SEID of the SMF.  A modification writes the first for every Update FAR with an Outer
Header Creation whose row is there, the second and the third only when the Update FAR also names the
access side, and the fourth never: that copy keeps what the establishment gave it.

`Copies` remembers for each session the last Outer Header Creation that was asked for its downlink.
The four copies hold it in every state of a run exactly when every accepted modification asks for
what the association's copy has anyway, for a FAR that has a row, and last on the access side, and
no establishment overwrites such a copy with another endpoint (`always_agreeing_iff`).
-/

namespace UpfEdge

open Lib Pfcp Server

/-! ### Endpoints -/

/-- The gNB's address and TEID, as a message or the server has them. -/
def Pfcp.OuterHeaderCreation.endpoint (ohc : OuterHeaderCreation) : Ipv4Addr × UInt32 :=
  (ohc.peerAddr, ohc.teid)

def Server.SessionData.endpoint (session : SessionData) : Ipv4Addr × UInt32 :=
  (session.gnbIp, session.teid)

/-- The two words a row of the maps has. -/
def SessionInfo.endpoint (info : SessionInfo) : UInt32 × UInt32 := (info.gnbIp, info.teid)

def FarValue.endpoint (fv : FarValue) : UInt32 × UInt32 := (fv.gnbIp, fv.teid)

/-- An endpoint in network order. -/
def networkOrder (e : Endian) (p : Ipv4Addr × UInt32) : UInt32 × UInt32 :=
  (e.toBe32 p.1.toU32, e.toBe32 p.2)

/-- The FARs of the core-side PDRs that a SEID has in PDR_MAP. -/
def downlinkFars (m : Maps) (seid : UInt64) : List FarKey :=
  m.pdrMap.rows.entries.filterMap fun x =>
    if seidPart x.1.key = seid ∧ x.2.sourceInterface = ifaceCore then
      some (.new seid x.2.farId)
    else none

/-- The last Outer Header Creation of a modification for a downlink FAR, with the row it is for. -/
def lastAsked (m : Maps) (seid : UInt64) (fars : List ParsedFAR) :
    Option (FarKey × OuterHeaderCreation) :=
  ((farWrites seid fars).filter fun p => p.1 ∈ downlinkFars m seid).getLast?

/-- The endpoint that a modification leaves in the session: that of the last Outer Header Creation
for the access side, or else the one it has. -/
def lastAccess (fars : List ParsedFAR) (session : SessionData) : Ipv4Addr × UInt32 :=
  ((fars.filterMap accessTunnel).getLast?.map (·.endpoint)).getD session.endpoint

namespace Audit

/-- The copy of a session in the table of the association that established it. -/
def copyOf (a : Audit) (s cpSeid : UInt64) : Option SessionData :=
  (a.origin.lookup s).bind fun o =>
    (a.srv.associations.lookup o.nodeId).bind fun assoc => assoc.sessions.lookup cpSeid

/-- What an accepted establishment enters into the tables: the Node ID of its association, and the
session. -/
def registration (host : Host) (a : Audit) : Event → Option (Ipv4Addr × SessionData)
  | .datagram env now data src =>
    (establishes env (received data) src a.world).bind fun p =>
      (p.1.createFars.findSome? (·.outerHeaderCreation)).bind fun gnbInfo =>
        (p.1.createPdrs.findSome? (·.ueIp)).bind fun ueIp =>
          if (install (installSteps host.endian env a.srv.n3Addr a.srv.nextSeid a.srv.nextTeid ueIp
            gnbInfo p.1) (allocated (touched now a.world))).1 then
            some (p.2.nodeId,
              { ueIp, teid := a.srv.nextTeid, gnbIp := gnbInfo.peerAddr, cpSeid := p.1.cpSeid })
          else none
  | _ => none

/-- The event deletes no session and empties no association: no Recovery Time Stamp changes, and no
Node ID is set up again. -/
def Undisturbed (a : Audit) : Event → Prop
  | .datagram env _ data src =>
    deletes env (received data) src a.world = none ∧
    (∀ recv ∈ (heartbeatOf (received data)).join, ∀ x ∈ a.srv.associations.entries,
      x.2.peerAddr = src → x.2.recoveryTs = recv) ∧
    ∀ req ∈ freshSetup (received data) a.world, a.srv.associations.lookup req.nodeId = none
  | _ => True

instance (a : Audit) : ∀ ev, Decidable (a.Undisturbed ev)
  | .datagram .. =>
    @instDecidableAnd _ _ inferInstance <|
      @instDecidableAnd _ _ (Option.decidableForallMem _) (Option.decidableForallMem _)
  | .snapshot _ | .report _ | .uplink _ _ | .downlink _ _ => inferInstanceAs (Decidable True)

end Audit

/-! ### The statement -/

/-- The UPF, and for each session the last Outer Header Creation that a modification has carried for
one of its downlink FARs, with the row of that FAR. -/
structure Copies where
  audit : Audit
  asked : Table UInt64 (FarKey × OuterHeaderCreation)

namespace Copies

def init (b : Boot) : Copies where
  audit := .init b
  asked := ∅

def step (host : Host) (c : Copies) (ev : Event) : Copies where
  audit := c.audit.step host ev
  asked :=
    match c.audit.modification ev with
    | some (seid, _, req) =>
      match lastAsked c.audit.maps seid req.updateFars with
      | some p => c.asked.insert seid p
      | none => c.asked
    | none => c.asked

/-- The four copies of a session's endpoint hold that of an Outer Header Creation. -/
structure Agree (host : Host) (a : Audit) (s : UInt64) (session : SessionData) (k : FarKey)
    (ohc : OuterHeaderCreation) : Prop where
  row : (a.maps.sessionMap.lookup (.ofIp host.endian session.ueIp)).map (·.endpoint) =
    some (networkOrder host.endian ohc.endpoint)
  far : (a.maps.farMap.lookup k).map (·.endpoint) = some (networkOrder host.endian ohc.endpoint)
  table : session.endpoint = ohc.endpoint
  copy : (a.copyOf s session.cpSeid).map (·.endpoint) = some ohc.endpoint

/-- Every live session whose downlink has been modified has four copies of what was last asked. -/
def Agreeing (host : Host) (c : Copies) : Prop :=
  ∀ s session k ohc, c.audit.Live s session → c.asked.lookup s = some (k, ohc) →
    Agree host c.audit s session k ohc

/-- SEIDs stay below `2 ^ 48`, live sessions have different addresses, and no session or association
goes. -/
def Premise (c : Copies) (ev : Event) : Prop :=
  c.audit.IssuesBelow (2 ^ 48) ev ∧ c.audit.NewAddress ev ∧ c.audit.Undisturbed ev

instance (c : Copies) (ev : Event) : Decidable (c.Premise ev) :=
  inferInstanceAs (Decidable (_ ∧ _ ∧ _))

/-- An accepted modification after which the session has been asked to use an endpoint finds that
endpoint in the association's copy, finds the row of the FAR, and has the session use it; an
accepted establishment that overwrites the copy of such a session has the same endpoint. -/
def Repeats (host : Host) (c : Copies) (ev : Event) : Prop :=
  (∀ m ∈ c.audit.modification ev,
    ∀ p ∈ (lastAsked c.audit.maps m.1 m.2.2.updateFars).or (c.asked.lookup m.1),
      (c.audit.copyOf m.1 m.2.1.cpSeid).map (·.endpoint) = some p.2.endpoint ∧
        (c.audit.maps.farMap.lookup p.1).isSome ∧
        lastAccess m.2.2.updateFars m.2.1 = p.2.endpoint) ∧
    ∀ r ∈ c.audit.registration host ev, ∀ x ∈ c.audit.srv.sessions.entries,
      x.2.cpSeid = r.2.cpSeid → (c.audit.origin.lookup x.1).map (·.nodeId) = some r.1 →
        ∀ p ∈ c.asked.lookup x.1, r.2.endpoint = p.2.endpoint

instance (host : Host) (c : Copies) (ev : Event) : Decidable (c.Repeats host ev) :=
  @instDecidableAnd _ _
    (@Option.decidableForallMem _ _ (fun _ => Option.decidableForallMem _) _)
    (@Option.decidableForallMem _ _ (fun _ => inferInstance) _)

/-! ### What a modification leaves -/

section Modify

variable {e : Endian} {seid : UInt64} {ueIp : Ipv4Addr} {w : World}

theorem endpoint_moved (fars : List ParsedFAR) (session : SessionData) :
    (moved fars session).endpoint = lastAccess fars session := by
  rw [moved_eq, lastAccess]
  cases (fars.filterMap accessTunnel).getLast? <;> rfl

/-- The SESSION_MAP row follows the session. -/
theorem endpoint_row {session : SessionData} (req : SessionModificationReq)
    (h : (w.maps.sessionMap.lookup (.ofIp e ueIp)).map (·.endpoint) =
      some (networkOrder e session.endpoint)) :
    ((modifySession e seid ueIp req w).maps.sessionMap.lookup (.ofIp e ueIp)).map (·.endpoint) =
      some (networkOrder e (lastAccess req.updateFars session)) := by
  obtain ⟨info, hrow, hend⟩ := Option.map_eq_some_iff.mp h
  rw [modifySession_sessionMap, foldl_overwrite_eq (setRow_setRow e), hrow, accessWrites_eq,
    lastPut_const, lastAccess]
  cases (req.updateFars.filterMap accessTunnel).getLast? with
  | none => exact congrArg some hend
  | some ohc => rfl

/-- The row of a downlink FAR: it has what was last asked for it. -/
theorem endpoint_far {m : Maps} {k : FarKey} {ohc : OuterHeaderCreation}
    (req : SessionModificationReq) (hask : lastAsked m seid req.updateFars = some (k, ohc))
    (hrow : (w.maps.farMap.lookup k).isSome) :
    ((modifySession e seid ueIp req w).maps.farMap.lookup k).map (·.endpoint) =
      some (networkOrder e ohc.endpoint) := by
  obtain ⟨fv, hfv⟩ := Option.isSome_iff_exists.mp hrow
  rw [modifySession_farMap, foldl_overwrite_eq (setFar_setFar e), hfv,
    lastPut_of_filter_some (q := fun k => k ∈ downlinkFars m seid) hask]
  rfl

/-- A modification that asks nothing for the downlink leaves the rows of its FARs alone. -/
theorem lookup_far_of_none {m : Maps} {k : FarKey} (req : SessionModificationReq)
    (hask : lastAsked m seid req.updateFars = none) (hk : k ∈ downlinkFars m seid) :
    (modifySession e seid ueIp req w).maps.farMap.lookup k = w.maps.farMap.lookup k := by
  rw [modifySession_farMap, foldl_overwrite_eq (setFar_setFar e),
    lastPut_of_filter_none (q := fun k => k ∈ downlinkFars m seid) hask (decide_eq_true hk)]
  exact Option.map_id'

end Modify

theorem mem_downlinkFars {m : Maps} {seid : UInt64} {k : FarKey} :
    k ∈ downlinkFars m seid ↔ ∃ key pdr, m.pdrMap.lookup key = some pdr ∧
      seidPart key.key = seid ∧ pdr.sourceInterface = ifaceCore ∧ k = .new seid pdr.farId := by
  unfold downlinkFars
  rw [List.mem_filterMap]
  constructor
  · rintro ⟨⟨key, pdr⟩, hmem, hif⟩
    split_ifs at hif with hcore
    exact ⟨key, pdr, Table.lookup_eq_some.mpr hmem, hcore.1, hcore.2, (Option.some.inj hif).symm⟩
  · rintro ⟨key, pdr, hrow, hseid, hcore, rfl⟩
    exact ⟨⟨key, pdr⟩, Table.lookup_eq_some.mp hrow, if_pos ⟨hseid, hcore⟩⟩

/-! ### What an event leaves of the associations' copies -/

section Step

variable {host : Host} {a a' : Audit} {ev : Event}

section Registration

variable {env : Env} {now : Instant} {data : Bytes} {src : SocketAddr}
  {req : SessionEstablishmentReq} {assoc : SmfAssociation}

theorem registration_eq_none (hest : establishes env (received data) src a.world = none) :
    a.registration host (.datagram env now data src) = none := by
  simp only [Audit.registration, hest, Option.bind_none]

theorem registration_of_refused
    (hest : establishes env (received data) src a.world = some (req, assoc))
    (hnone : req.createPdrs.findSome? (·.ueIp) = none ∨
      req.createFars.findSome? (·.outerHeaderCreation) = none) :
    a.registration host (.datagram env now data src) = none := by
  simp only [Audit.registration, hest, Option.bind_some]
  rcases hnone with hnone | hnone
  · cases hgnb : req.createFars.findSome? (·.outerHeaderCreation) with
    | none => rfl
    | some gnbInfo =>
      rw [Option.bind_some, hnone]
      rfl
  · rw [hnone]
    rfl

theorem registration_of_install {ueIp : Ipv4Addr} {gnbInfo : OuterHeaderCreation} {w' : World}
    {ok : Bool} (hest : establishes env (received data) src a.world = some (req, assoc))
    (hue : req.createPdrs.findSome? (·.ueIp) = some ueIp)
    (hgnb : req.createFars.findSome? (·.outerHeaderCreation) = some gnbInfo)
    (hinst : install (installSteps host.endian env a.srv.n3Addr a.srv.nextSeid a.srv.nextTeid ueIp
      gnbInfo req) (allocated (touched now a.world)) = (ok, w')) :
    a.registration host (.datagram env now data src) = if ok then some (assoc.nodeId,
      { ueIp, teid := a.srv.nextTeid, gnbIp := gnbInfo.peerAddr, cpSeid := req.cpSeid })
      else none := by
  simp only [Audit.registration, hest, hgnb, hue, hinst, Option.bind_some]

end Registration

section CopyOf

variable {s : UInt64} (cpSeid : UInt64) (ho : a'.origin.lookup s = a.origin.lookup s)
include ho

/-- An event that leaves the associations alone leaves the copies of issued SEIDs alone. -/
theorem copyOf_congr (hassoc : ∀ k, a'.srv.associations.lookup k = a.srv.associations.lookup k) :
    a'.copyOf s cpSeid = a.copyOf s cpSeid := by
  unfold Audit.copyOf
  rw [ho]
  congr 1
  funext o
  rw [hassoc]

/-- An association that is set up under a new Node ID has no copies, and takes none away. -/
theorem copyOf_setup {x : SmfAssociation} (hx : x.sessions = ∅)
    (hnone : a.srv.associations.lookup x.nodeId = none)
    (hassoc : ∀ k, a'.srv.associations.lookup k =
      if k = x.nodeId then some x else a.srv.associations.lookup k) :
    a'.copyOf s cpSeid = a.copyOf s cpSeid := by
  unfold Audit.copyOf
  rw [ho]
  congr 1
  funext o
  rw [hassoc]
  split_ifs with hnode
  · rw [hnode, hnone, Option.bind_some, hx]
    rfl
  · rfl

/-- A session that is entered into an association is the copy under its Node ID and SEID. -/
theorem copyOf_register {x : SmfAssociation} {session : SessionData}
    (hx : a.srv.associations.lookup x.nodeId = some x)
    (hassoc : ∀ k, a'.srv.associations.lookup k = (a.srv.associations.lookup k).map fun y =>
      if k = x.nodeId then { y with sessions := y.sessions.insert session.cpSeid session } else y) :
    a'.copyOf s cpSeid =
      if (a.origin.lookup s).map (·.nodeId) = some x.nodeId ∧ cpSeid = session.cpSeid then
        some session
      else a.copyOf s cpSeid := by
  unfold Audit.copyOf
  rw [ho]
  cases a.origin.lookup s with
  | none => simp
  | some o =>
    simp only [Option.bind_some, Option.map_some, Option.some.injEq]
    rw [hassoc]
    by_cases hnode : o.nodeId = x.nodeId
    · rw [hnode, hx]
      simp only [Option.map_some, Option.bind_some, if_true, true_and]
      exact Table.lookup_insert_ite ..
    · rw [if_neg fun h => hnode h.1]
      cases hy : a.srv.associations.lookup o.nodeId with
      | none => rfl
      | some y => simp only [Option.map_some, Option.bind_some, if_neg hnode]

end CopyOf

/-- Only an accepted establishment writes a copy: that of its own Node ID and SEID. -/
theorem copyOf_step (hl : Audit.Ledger a) (hg : a.Undisturbed ev) {s : UInt64}
    (hs : s ≠ a.srv.nextSeid) (cpSeid : UInt64) :
    (a.step host ev).copyOf s cpSeid = match a.registration host ev with
      | some (node, session) =>
        if (a.origin.lookup s).map (·.nodeId) = some node ∧ cpSeid = session.cpSeid then
          some session
        else a.copyOf s cpSeid
      | none => a.copyOf s cpSeid := by
  have hmove := a.step_move host ev
  generalize a.step host ev = a' at hmove ⊢
  have ho := Audit.origin_of_ne hmove hs
  cases hmove with
  | steady hw ho' hl' hest =>
    have hreg : a.registration host ev = none := by
      cases ev with
      | datagram env now data src => exact registration_eq_none (hest env now data src rfl)
      | snapshot | report | uplink | downlink => rfl
    rw [hreg]
    exact copyOf_congr cpSeid ho fun k => by rw [Audit.srv, hw.associations]
  | heartbeat recvTs hhb hest hw ho' hl' =>
    rw [registration_eq_none hest]
    refine copyOf_congr cpSeid ho fun k => ?_
    rw [Audit.srv, hw]
    exact Audit.heartbeat_lookup hg.2.1 hhb k
  | @setup env now data src _ req hset hest hw ho' hl' =>
    rw [registration_eq_none hest]
    refine copyOf_setup cpSeid ho (x := .new req.nodeId src req.recoveryTs) rfl (hg.2.2 req hset)
      fun k => ?_
    rw [Audit.srv, hw]
    exact Table.lookup_insert_ite ..
  | refused req assoc hest hnone hw ho' hl' =>
    rw [registration_of_refused hest hnone]
    exact copyOf_congr cpSeid ho fun k => by rw [Audit.srv, hw]; rfl
  | interrupted req assoc ueIp gnbInfo hest hue hgnb hinst ho' hl' =>
    rw [registration_of_install hest hue hgnb hinst]
    exact copyOf_congr cpSeid ho fun k => by rw [Audit.srv, (installed hinst).associations]
  | established req assoc ueIp gnbInfo w' hest hue hgnb hinst hw ho' hl' =>
    rw [registration_of_install hest hue hgnb hinst]
    obtain ⟨k, hk, -⟩ := Audit.establishes_association hest
    obtain rfl := hl.keyed hk
    refine copyOf_register cpSeid ho hk fun j => ?_
    rw [Audit.srv, hw, lookup_registerSession, (installed hinst).associations]
  | deleted seid session assoc hest hdel hw ho' hl' =>
    cases hg.1.symm.trans hdel

/-! ### What an event leaves of the sessions -/

/-- The SESSION_MAP row of a session has its endpoint. -/
def Mirrored (host : Host) (a : Audit) (session : SessionData) : Prop :=
  (a.maps.sessionMap.lookup (.ofIp host.endian session.ueIp)).map (·.endpoint) =
    some (networkOrder host.endian session.endpoint)

/-- What an event that is no modification leaves of the sessions that are there; one that it enters
has the SEID at the counter. -/
structure Left (host : Host) (a a' : Audit) : Prop where
  session : ∀ s, s ≠ a.srv.nextSeid → a'.srv.sessions.lookup s = a.srv.sessions.lookup s
  row : ∀ s session, a.Live s session → s ≠ a.srv.nextSeid →
    a'.maps.sessionMap.lookup (.ofIp host.endian session.ueIp) =
      a.maps.sessionMap.lookup (.ofIp host.endian session.ueIp)
  far : ∀ k, seidPart k.key ≠ a.srv.nextSeid →
    a'.maps.farMap.lookup k = a.maps.farMap.lookup k
  pdr : ∀ k, seidPart k.key ≠ a.srv.nextSeid →
    a'.maps.pdrMap.lookup k = a.maps.pdrMap.lookup k
  new : ∀ session, a'.Live a.srv.nextSeid session →
    a.Live a.srv.nextSeid session ∨ Mirrored host a' session

/-- What an event of a run that keeps its sessions does to them. -/
inductive Change (host : Host) (a : Audit) (ev : Event) (a' : Audit) : Prop
  | other (hmod : a.modification ev = none) (h : Left host a a')
  | modified (seid : UInt64) (session : SessionData) (req : SessionModificationReq) (now : Instant)
    (hmod : a.modification ev = some (seid, session, req)) (hreg : a.registration host ev = none)
    (hlive : a.Live seid session)
    (hw : a'.world = modifySession host.endian seid session.ueIp req (touched now a.world))

/-- An event that changes neither the rules nor the session table. -/
theorem Left.of_same (hs : a'.srv.sessions = a.srv.sessions)
    (hrow : a'.maps.sessionMap = a.maps.sessionMap) (hfar : a'.maps.farMap = a.maps.farMap)
    (hpdr : a'.maps.pdrMap = a.maps.pdrMap) : Left host a a' where
  session s _ := by rw [hs]
  row s session _ _ := by rw [hrow]
  far k _ := by rw [hfar]
  pdr k _ := by rw [hpdr]
  new session hlive := .inl (by rw [Audit.Live, hs] at hlive; exact hlive)

/-- The inserts of an establishment for a new address. -/
theorem Left.of_install {env : Env} {now : Instant} {ueIp : Ipv4Addr}
    {gnbInfo : OuterHeaderCreation} {req : SessionEstablishmentReq} {w' : World} {ok : Bool}
    (hlt : a.srv.nextSeid.toNat < 2 ^ 48)
    (hnew : ∀ t data, a.Live t data → t ≠ a.srv.nextSeid → data.ueIp ≠ ueIp)
    (hinst : install (installSteps host.endian env a.srv.n3Addr a.srv.nextSeid a.srv.nextTeid ueIp
      gnbInfo req) (allocated (touched now a.world)) = (ok, w'))
    (hm : a'.maps = w'.maps)
    (hs : a'.srv.sessions = if ok then a.srv.sessions.insert a.srv.nextSeid
        { ueIp, teid := a.srv.nextTeid, gnbIp := gnbInfo.peerAddr, cpSeid := req.cpSeid }
      else a.srv.sessions) : Left host a a' := by
  have hkept := (installed hinst).kept
  have hkey : ∀ {k : UInt64}, seidPart k ≠ a.srv.nextSeid →
      ∀ id, k ≠ composeKey a.srv.nextSeid id := by
    rintro _ hne id rfl
    exact hne (seidPart_composeKey_of_lt hlt id)
  constructor
  · intro s hne
    rw [hs]
    split_ifs
    · exact (Table.lookup_insert_ite _ _ _ _).trans (if_neg hne)
    · rfl
  · intro s session hlive hne
    rw [hm]
    exact hkept.sessionRow _ fun heq => hnew s session hlive hne (SessionKey.ofIp_inj _ heq)
  · intro k hne
    rw [hm]
    exact hkept.farRow k fun id heq => hkey hne id (congrArg FarKey.key heq)
  · intro k hne
    rw [hm]
    exact hkept.pdrRow k fun id heq => hkey hne id (congrArg PdrKey.key heq)
  · intro session hlive
    rw [Audit.Live, hs] at hlive
    cases ok with
    | false => exact .inl hlive
    | true =>
      have hlive' := (Table.lookup_insert_ite _ _ _ _).symm.trans hlive
      rw [if_pos rfl] at hlive'
      obtain rfl := Option.some.inj hlive'
      refine .inr ?_
      rw [Mirrored, hm, (written hinst).1, put, if_pos rfl]
      rfl

theorem change (hb : a.IssuesBelow (2 ^ 48) ev) (hnew : a.NewAddress ev) (hg : a.Undisturbed ev) :
    Change host a ev (a.step host ev) := by
  have hother := @step_idle host a ev
  have hcount := @step_counters host a ev
  cases ev with
  | snapshot | report | uplink | downlink =>
    obtain ⟨hs, -⟩ := hother (by rintro _ _ _ _ ⟨⟩)
    obtain ⟨stats, urrs, hm⟩ := hcount (by rintro _ _ _ _ ⟨⟩)
    exact .other rfl (.of_same hs (by rw [hm]) (by rw [hm]) (by rw [hm]))
  | datagram env now data src =>
    cases step_writes host a env now data src with
    | nothing hadm hmod hdel hm hc hs =>
      exact .other hmod (.of_same hs (by rw [hm]) (by rw [hm]) (by rw [hm]))
    | rules req assoc ueIp gnbInfo w' hest hue hgnb hmod hdel hinst hm hc hs =>
      exact .other hmod (.of_install (hb (.of_establishes hest))
        (hnew _ (Audit.admission_of hest hue hgnb)) hinst hm hs)
    | modified seid session req hiss hmod hdel hlive hw =>
      have hest : establishes env (received data) src a.world = none :=
        Option.not_isSome_iff_eq_none.mp hiss
      exact .modified seid session req now hmod (registration_eq_none hest) hlive hw
    | deleted seid session assoc hiss hmod hdel =>
      cases hg.1.symm.trans hdel

/-! ### The invariant -/

/-- What a run that keeps its sessions keeps beside the agreement. -/
structure Tracked (host : Host) (c : Copies) : Prop where
  issued : Audit.Issued (2 ^ 48) c.audit
  ledger : Audit.Ledger c.audit
  own : c.audit.OwnRows host
  mirrored : ∀ s session, c.audit.Live s session → Mirrored host c.audit session
  downlink : ∀ s k ohc, c.asked.lookup s = some (k, ohc) → k ∈ downlinkFars c.audit.maps s

variable {c : Copies}

theorem init_tracked (host : Host) (b : Boot) : Tracked host (init b) where
  issued := Audit.init_issued (by decide) b
  ledger := Audit.init_ledger b
  own s session hlive := by cases hlive
  mirrored s session hlive := by cases hlive
  downlink s k ohc hask := by cases hask

theorem asked_of_none (hmod : c.audit.modification ev = none) :
    (c.step host ev).asked = c.asked := by
  simp only [step, hmod]

theorem lookup_asked {seid : UInt64} {session : SessionData} {req : SessionModificationReq}
    (hmod : c.audit.modification ev = some (seid, session, req)) (s : UInt64) :
    (c.step host ev).asked.lookup s = if s = seid then
      (lastAsked c.audit.maps seid req.updateFars).or (c.asked.lookup seid)
      else c.asked.lookup s := by
  simp only [step, hmod]
  cases lastAsked c.audit.maps seid req.updateFars with
  | none =>
    split_ifs with hs
    · rw [hs]
      rfl
    · rfl
  | some p => exact Table.lookup_insert_ite ..

/-- A FAR of the downlink of a SEID has keys of that SEID, which has been issued. -/
theorem of_downlinkFars (hi : Audit.Issued (2 ^ 48) a) {s : UInt64} {k : FarKey}
    (h : k ∈ downlinkFars a.maps s) : s ≠ a.srv.nextSeid ∧ seidPart k.key = s := by
  obtain ⟨key, pdr, hrow, rfl, -, rfl⟩ := mem_downlinkFars.mp h
  have hlt := hi.pdrRow (k := key) (by rw [hrow]; rfl)
  refine ⟨?_, seidPart_composeKey_of_lt (hlt.trans_le hi.next_le) _⟩
  intro heq
  rw [heq] at hlt
  exact Nat.lt_irrefl _ hlt

/-- The PDR rows of the SEIDs that have been issued stay. -/
theorem Left.mem_downlinkFars (hi : Audit.Issued (2 ^ 48) a) (h : Left host a a') {s : UInt64}
    {k : FarKey} (hk : k ∈ downlinkFars a.maps s) :
    k ∈ downlinkFars a'.maps s := by
  have hne := (of_downlinkFars hi hk).1
  obtain ⟨key, pdr, hrow, hseid, hcore, rfl⟩ := Copies.mem_downlinkFars.mp hk
  refine Copies.mem_downlinkFars.mpr ⟨key, pdr, ?_, hseid, hcore, rfl⟩
  rw [h.pdr key (by rw [hseid]; exact hne)]
  exact hrow

/-! ### One step -/

section Modified

variable {seid : UInt64} {session : SessionData} {req : SessionModificationReq} {now : Instant}
  (hw : a'.world = modifySession host.endian seid session.ueIp req (touched now a.world))
include hw

/-- The sessions after a modification. -/
theorem live_of_modified (hlive : a.Live seid session) {s : UInt64} {session' : SessionData} :
    a'.Live s session' ↔ if s = seid then session' = moved req.updateFars session
      else a.Live s session' := by
  rw [Audit.Live, Audit.srv, hw, lookup_modifySession (w := touched now a.world) hlive]
  split_ifs
  · exact ⟨fun h => (Option.some.inj h).symm, fun h => by rw [h]⟩
  · rfl

/-- The row of the session that is modified follows it. -/
theorem mirrored_of_modified (h : Mirrored host a session) :
    Mirrored host a' (moved req.updateFars session) := by
  rw [Mirrored, Audit.maps, hw, moved_ueIp, endpoint_moved]
  exact endpoint_row req h

/-- The row of another session stays. -/
theorem lookup_row_of_modified (hown : a.OwnRows host) (hlive : a.Live seid session) {s : UInt64}
    {session' : SessionData} (hs : a.Live s session') (hne : s ≠ seid) :
    a'.maps.sessionMap.lookup (.ofIp host.endian session'.ueIp) =
      a.maps.sessionMap.lookup (.ofIp host.endian session'.ueIp) := by
  rw [Audit.maps, hw]
  exact modifySession_kept.sessionRow _ (hown.ofIp_ne hs hlive hne)

/-- The FAR rows of another SEID stay. -/
theorem lookup_far_of_modified (hlt : seid.toNat < 2 ^ 48) {k : FarKey}
    (hne : seidPart k.key ≠ seid) : a'.maps.farMap.lookup k = a.maps.farMap.lookup k := by
  rw [Audit.maps, hw]
  refine modifySession_kept.farRow k ?_
  rintro id rfl
  exact hne (seidPart_composeKey_of_lt hlt id)

/-- No PDR row changes. -/
theorem downlinkFars_of_modified (s : UInt64) :
    downlinkFars a'.maps s = downlinkFars a.maps s := by
  rw [Audit.maps, hw, (modifySession_rest req).2]
  rfl

end Modified

/-- The invariant is kept. -/
theorem Tracked.step (h : Tracked host c) (hp : c.Premise ev) : Tracked host (c.step host ev) := by
  obtain ⟨hbelow, hnew, hund⟩ := hp
  have hchange : Change host c.audit ev (c.audit.step host ev) := change hbelow hnew hund
  refine ⟨h.issued.step (by decide) hbelow, h.ledger.step h.issued, h.own.step hnew,
    fun s session hlive => ?_, fun s k ohc hask => ?_⟩
  · change (c.audit.step host ev).Live s session at hlive
    change Mirrored host (c.audit.step host ev) session
    cases hchange with
    | other hmod hleft =>
      by_cases hs : s = c.audit.srv.nextSeid
      · rw [hs] at hlive
        rcases hleft.new session hlive with hold | hmir
        · exact absurd (h.issued.live hold) (Nat.lt_irrefl _)
        · exact hmir
      · have hold : c.audit.Live s session := (hleft.session s hs).symm.trans hlive
        rw [Mirrored, hleft.row s session hold hs]
        exact h.mirrored s session hold
    | modified seid session' req now hmod hreg hlive' hw =>
      rw [live_of_modified hw hlive'] at hlive
      split_ifs at hlive with hs
      · rw [hlive]
        exact mirrored_of_modified hw (h.mirrored seid session' hlive')
      · rw [Mirrored, lookup_row_of_modified hw h.own hlive' hlive hs]
        exact h.mirrored s session hlive
  · change k ∈ downlinkFars (c.audit.step host ev).maps s
    cases hchange with
    | other hmod hleft =>
      rw [asked_of_none hmod] at hask
      exact hleft.mem_downlinkFars h.issued (h.downlink s k ohc hask)
    | modified seid session' req now hmod hreg hlive' hw =>
      rw [downlinkFars_of_modified hw]
      rw [lookup_asked hmod] at hask
      split_ifs at hask with hs
      · rcases Option.or_eq_some_iff.mp hask with hlast | ⟨-, hold⟩
        · rw [hs]
          exact of_decide_eq_true (List.mem_filter.mp (List.mem_of_getLast? hlast)).2
        · rw [hs]
          exact h.downlink seid k ohc hold
      · exact h.downlink s k ohc hask

/-- Where a session and its rows stay as they are, so does the agreement, if the copy does. -/
theorem Agree.keep {s : UInt64} {session : SessionData} {k : FarKey} {ohc : OuterHeaderCreation}
    (h : Agree host a s session k ohc)
    (hrow : a'.maps.sessionMap.lookup (.ofIp host.endian session.ueIp) =
      a.maps.sessionMap.lookup (.ofIp host.endian session.ueIp))
    (hfar : a'.maps.farMap.lookup k = a.maps.farMap.lookup k)
    (hcopy : (a'.copyOf s session.cpSeid).map (·.endpoint) = some ohc.endpoint) :
    Agree host a' s session k ohc where
  row := by rw [hrow]; exact h.row
  far := by rw [hfar]; exact h.far
  table := h.table
  copy := hcopy

/-- An establishment that overwrites a copy repeats its endpoint. -/
theorem Repeats.copy (h : Tracked host c) (hund : c.audit.Undisturbed ev) (hg : c.Repeats host ev)
    {s : UInt64} {session : SessionData} {k : FarKey} {ohc : OuterHeaderCreation}
    (hlive : c.audit.Live s session) (hask : c.asked.lookup s = some (k, ohc))
    (hcopy : (c.audit.copyOf s session.cpSeid).map (·.endpoint) = some ohc.endpoint) :
    ((c.audit.step host ev).copyOf s session.cpSeid).map (·.endpoint) = some ohc.endpoint := by
  have hne := (of_downlinkFars h.issued (h.downlink s k ohc hask)).1
  rw [copyOf_step h.ledger hund hne]
  split
  · next node session' hreg =>
    split_ifs with hsame
    · exact congrArg some (hg.2 (node, session') hreg ⟨s, session⟩ (Table.lookup_eq_some.mp hlive)
        hsame.2 hsame.1 (k, ohc) hask)
    · exact hcopy
  · exact hcopy

/-- A modification that asks for what the association's copy has. -/
theorem Repeats.modified (h : Tracked host c) (ha : c.Agreeing host)
    (hund : c.audit.Undisturbed ev) (hg : c.Repeats host ev) {seid : UInt64}
    {session : SessionData} {req : SessionModificationReq} {now : Instant} {k : FarKey}
    {ohc : OuterHeaderCreation}
    (hmod : c.audit.modification ev = some (seid, session, req))
    (hreg : c.audit.registration host ev = none) (hlive : c.audit.Live seid session)
    (hw : (c.audit.step host ev).world =
      modifySession host.endian seid session.ueIp req (touched now c.audit.world))
    (hask : (lastAsked c.audit.maps seid req.updateFars).or (c.asked.lookup seid) =
      some (k, ohc)) :
    Agree host (c.audit.step host ev) seid (moved req.updateFars session) k ohc := by
  obtain ⟨hcopy, hfar, haccess⟩ := hg.1 (seid, session, req) hmod (k, ohc) hask
  have hmir := mirrored_of_modified hw (h.mirrored seid session hlive)
  have hne := Audit.ne_nextSeid h.issued (Audit.mem_liveSeids.mpr ⟨session, hlive⟩)
  refine ⟨?_, ?_, ?_, ?_⟩
  · rw [hmir, endpoint_moved, haccess]
  · rw [Audit.maps, hw]
    rcases Option.or_eq_some_iff.mp hask with hlast | ⟨hnone, hold⟩
    · exact endpoint_far req hlast hfar
    · rw [lookup_far_of_none req hnone (h.downlink seid k ohc hold)]
      exact (ha seid session k ohc hlive hold).far
  · rw [endpoint_moved, haccess]
  · rw [copyOf_step h.ledger hund hne, hreg, moved_cpSeid]
    exact hcopy

/-- A step that repeats what the copies hold keeps the agreement. -/
theorem Agreeing.step (h : Tracked host c) (ha : c.Agreeing host) (hp : c.Premise ev)
    (hg : c.Repeats host ev) : (c.step host ev).Agreeing host := by
  obtain ⟨hbelow, hnew, hund⟩ := hp
  have hchange : Change host c.audit ev (c.audit.step host ev) := change hbelow hnew hund
  intro s session k ohc hlive hask
  change (c.audit.step host ev).Live s session at hlive
  change Agree host (c.audit.step host ev) s session k ohc
  cases hchange with
  | other hmod hleft =>
    rw [asked_of_none hmod] at hask
    obtain ⟨hne, hpart⟩ := of_downlinkFars h.issued (h.downlink s k ohc hask)
    have hold : c.audit.Live s session := (hleft.session s hne).symm.trans hlive
    have hagree := ha s session k ohc hold hask
    exact hagree.keep (hleft.row s session hold hne) (hleft.far k (by rw [hpart]; exact hne))
      (hg.copy h hund hold hask hagree.copy)
  | modified seid session' req now hmod hreg hlive' hw =>
    rw [live_of_modified hw hlive'] at hlive
    rw [lookup_asked hmod] at hask
    split_ifs at hlive hask with hs
    · rw [hlive, hs]
      exact hg.modified h ha hund hmod hreg hlive' hw hask
    · have hpart := (of_downlinkFars h.issued (h.downlink s k ohc hask)).2
      have hlt : seid.toNat < 2 ^ 48 := (h.issued.live hlive').trans_le h.issued.next_le
      have hagree := ha s session k ohc hlive hask
      exact hagree.keep (lookup_row_of_modified hw h.own hlive' hlive hs)
        (lookup_far_of_modified hw hlt (by rw [hpart]; exact hs))
        (hg.copy h hund hlive hask hagree.copy)

/-- Copies that agree before and after a step show that the step repeats what they hold. -/
theorem Agreeing.repeats (h : Tracked host c) (hp : c.Premise ev)
    (ha' : (c.step host ev).Agreeing host) : c.Repeats host ev := by
  obtain ⟨hbelow, hnew, hund⟩ := hp
  have hchange : Change host c.audit ev (c.audit.step host ev) := change hbelow hnew hund
  constructor
  · rintro ⟨seid, session, req⟩ hm ⟨k, ohc⟩ hask
    cases hchange with
    | other hmod => cases hmod.symm.trans hm
    | modified seid' session' req' now hmod hreg hlive hw =>
      obtain ⟨rfl, rfl, rfl⟩ : seid' = seid ∧ session' = session ∧ req' = req := by
        simpa using hmod.symm.trans hm
      have hne := Audit.ne_nextSeid h.issued (Audit.mem_liveSeids.mpr ⟨session', hlive⟩)
      have hlive' : (c.audit.step host ev).Live seid' (moved req'.updateFars session') :=
        (live_of_modified hw hlive).mpr (by rw [if_pos rfl])
      have hasked : (c.step host ev).asked.lookup seid' = some (k, ohc) := by
        rw [lookup_asked hmod, if_pos rfl]
        exact hask
      have hagree : Agree host (c.audit.step host ev) seid' _ k ohc := ha' _ _ k ohc hlive' hasked
      refine ⟨?_, ?_, ?_⟩
      · have hcopy := hagree.copy
        rw [copyOf_step h.ledger hund hne, hreg, moved_cpSeid] at hcopy
        exact hcopy
      · obtain ⟨fv, hfv, -⟩ := Option.map_eq_some_iff.mp hagree.far
        rw [Audit.maps, hw, modifySession_farMap, foldl_overwrite_eq (setFar_setFar _)] at hfv
        obtain ⟨fv', hfv', -⟩ := Option.map_eq_some_iff.mp hfv
        exact Option.isSome_iff_exists.mpr ⟨fv', hfv'⟩
      · rw [← hagree.table, endpoint_moved]
  · rintro ⟨node, session'⟩ hr ⟨s, session⟩ hx hcp hnode ⟨k, ohc⟩ hask
    have hlive : c.audit.Live s session := Table.lookup_eq_some.mpr hx
    obtain ⟨hne, -⟩ := of_downlinkFars h.issued (h.downlink s k ohc hask)
    cases hchange with
    | modified seid session req now hmod hreg => cases hreg.symm.trans hr
    | other hmod hleft =>
      have hlive' : (c.audit.step host ev).Live s session := (hleft.session s hne).trans hlive
      have hcopy := (ha' s session k ohc hlive' (by rw [asked_of_none hmod]; exact hask)).copy
      change ((c.audit.step host ev).copyOf s session.cpSeid).map _ = _ at hcopy
      rw [copyOf_step h.ledger hund hne, hr] at hcopy
      dsimp only at hcopy
      rw [if_pos ⟨hnode, hcp⟩] at hcopy
      exact Option.some.inj hcopy

end Step

/-- **The copies agree.**  In a run that deletes no session, the four copies of every session's
endpoint hold what was last asked for its downlink, in every state, exactly when each step repeats
what the association's copy of the session has. -/
theorem always_agreeing_iff (host : Host) (b : Boot) (evs : List Event)
    (h : Meets (step host) Premise (init b) evs) :
    Always (step host) (Agreeing host) (init b) evs ↔
      Meets (step host) (Repeats host) (init b) evs :=
  always_iff_meets_of (I := Tracked host) (fun _ _ hi hp => hi.step hp)
    (fun _ _ hi ha hp hg => ha.step hi hp hg) (fun _ _ hi _ hp ha' => ha'.repeats hi hp)
    (init_tracked host b) (fun _ _ _ _ hlive => by cases hlive) h

section Sim

open SmfSim

/-- A modification that names the gNB and, as its TEID, the one the UPF has allocated. -/
def repeatModification (seid : UInt64) : Bytes :=
  finish (addUpdateFar (PfcpHeader.newSessionMsg pfcpSessionModificationReq seid 4).encode
    (toGnb 2 1000))

/-- A session that is asked to use the endpoint that its association has for it. -/
theorem always_agreeing_repeat :
    Always (step host) (Agreeing host) (init boot)
      [setup smfA 1, SmfSim.establish smfA 1 ue1, sends smfA (repeatModification 1)] :=
  (always_agreeing_iff host boot _ (by decide +kernel)).mpr (by decide +kernel)

/-- The simulator moves its session to TEID `0xdeadbeef`: the copy of the association still has the
TEID that the UPF has allocated, 1000. -/
theorem not_agreeing_tunnel :
    Meets (step host) Premise (init boot)
        [setup smfA 1, SmfSim.establish smfA 1 ue1, sends smfA (tunnelModification 1 gnb)] ∧
      ¬ Always (step host) (Agreeing host) (init boot)
        [setup smfA 1, SmfSim.establish smfA 1 ue1, sends smfA (tunnelModification 1 gnb)] := by
  refine ⟨by decide +kernel, fun h => ?_⟩
  have hlast := h _ [] (List.append_nil _).symm
  have hagree := hlast 1 ⟨ue1, 0xdeadbeef, gnb, 1⟩ (.new 1 2)
    { teid := 0xdeadbeef, peerAddr := gnb, port := 2152 } (by decide +kernel) (by decide +kernel)
  have hcopy : (((run (step host) (init boot) [setup smfA 1, SmfSim.establish smfA 1 ue1,
      sends smfA (tunnelModification 1 gnb)]).audit.copyOf 1 1).map (·.endpoint)) =
        some (gnb, 1000) := by decide +kernel
  have heq := hcopy.symm.trans hagree.copy
  exact absurd heq (by decide)

end Sim

end Copies

end UpfEdge
