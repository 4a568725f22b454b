import UpfEdge.Lib.Run
import UpfEdge.Server.Modification
import UpfEdge.Server.Reporter
import UpfEdge.Xdp.Effects

/-!
# The UPF as one machine

The events are the datagrams of `pfcp_server::run`, the two critical sections of the usage
reporter, and the frames on N3 and N6; everything the program does not choose (sources, bytes, walk
orders, clock readings, helper results) is in the event.  `System.step` handles one event.

`Audit` is the system with a ledger beside it that the program does not keep: which association a
local SEID was issued to, and which node made the last Association Setup that was not a duplicate.
The ledger only watches; it is what "the association that established the session" means below.

`Transition` says once what one datagram can do, and `Move` what one event can do to the audited
system.  Proofs about runs take a `Move` apart and never unfold a handler.
-/

namespace UpfEdge

open Lib Pfcp Server Xdp

/-- What is fixed for a host. -/
structure Host where
  endian : Endian
  ncpus : ℕ

inductive Event where
  | datagram (env : Env) (now : Instant) (data : Bytes) (src : SocketAddr)
  | snapshot (order : IterOrder (Sigma fun _ : UrrKey => PerCpu UrrStats))
  | report (clock : ℕ → Instant)
  | uplink (x : XdpEnv) (f : Bytes)
  | downlink (x : XdpEnv) (f : Bytes)

/-- The world and the reporter, which holds its totals between its two sections. -/
structure System where
  world : World
  totals : Option Totals

/-- The receive buffer of `run` holds 4096 bytes; a longer datagram is cut. -/
def received (data : Bytes) : Bytes := data.take 4096

def touched (now : Instant) (w : World) : World := { w with srv := w.srv.touchActivity now }

/-- `touch_activity` and `handle_message`. -/
def receive (host : Host) (env : Env) (now : Instant) (data : Bytes) (src : SocketAddr)
    (w : World) : Outcome :=
  handleMessage host.endian env (received data) src (touched now w)

/-- The system and the reports queued by one event. -/
def System.handle (host : Host) (s : System) : Event → System × List Report
  | .datagram env now data src =>
    ({ s with world := (receive host env now data src s.world).2 }, [])
  | .snapshot order =>
    match s.totals with
    | none => ({ s with totals := some (snapshot host.ncpus order s.world.maps) }, [])
    | some _ => (s, [])
  | .report clock =>
    match s.totals with
    | none => (s, [])
    | some totals =>
      let (srv, reports) := report clock totals s.world.srv
      ({ world := { s.world with srv }, totals := none }, reports)
  | .uplink x f =>
    ({ s with world := { s.world with maps := (tryN3Uplink host.endian x f s.world.maps).2 } }, [])
  | .downlink x f =>
    ({ s with
      world := { s.world with maps := (tryN6Downlink host.endian x f s.world.maps).2 } }, [])

def System.step (host : Host) (s : System) (ev : Event) : System := (s.handle host ev).1

/-- What the process starts with. -/
structure Boot where
  n3Addr : Ipv4Addr
  unixNow : UInt32
  now : Instant
  store : Bool
  ifIndex : Vector UInt32 2
  gwMac : Vector MacAddr 2

/-- A new server with empty maps. -/
def System.init (b : Boot) : System where
  world :=
    { srv := { PfcpServer.new b.n3Addr b.unixNow b.now with sessionStore := b.store }
      maps := .empty b.ifIndex b.gwMac
      gauge := 0
      tasks := [] }
  totals := none

/-! ### What a datagram asks for -/

/-- The request of an establishment datagram. -/
def establishmentOf (data : Bytes) : Option SessionEstablishmentReq :=
  match PfcpHeader.decode data with
  | .ok (header, body) =>
    if header.msgType = pfcpSessionEstablishmentReq then
      (SessionEstablishmentReq.decode body).toOption
    else none
  | .error _ => none

/-- The request of an Association Setup datagram. -/
def setupOf (data : Bytes) : Option AssociationSetupReq :=
  match PfcpHeader.decode data with
  | .ok (header, body) =>
    if header.msgType = pfcpAssociationSetupReq then (AssociationSetupReq.decode body).toOption
    else none
  | .error _ => none

/-- The Recovery Time Stamp a Heartbeat Request carries, if it carries one. -/
def heartbeatOf (data : Bytes) : Option (Option UInt32) :=
  match PfcpHeader.decode data with
  | .ok (header, body) =>
    if header.msgType = pfcpHeartbeatReq then some (HeartbeatReq.decode body).recoveryTs else none
  | .error _ => none

/-- The local SEID a session message is handled for: the next one to be issued for an
establishment, else the one in its header. -/
def targetSeid (data : Bytes) (w : World) : Option UInt64 :=
  match PfcpHeader.decode data with
  | .ok (header, _) =>
    if header.msgType = pfcpSessionEstablishmentReq then some w.srv.nextSeid
    else if header.msgType = pfcpSessionModificationReq then header.seid
    else if header.msgType = pfcpSessionDeletionReq then some (header.seid.getD 0)
    else none
  | .error _ => none

/-- The establishment a datagram gets a SEID for: its request and the association of its source. -/
def establishes (env : Env) (data : Bytes) (src : SocketAddr) (w : World) :
    Option (SessionEstablishmentReq × SmfAssociation) :=
  match establishmentOf data, src with
  | some req, .v4 .. => (findAssociation env w.srv src).map fun a => (req, a.2)
  | _, _ => none

/-- The local SEID a Session Deletion Request names. -/
def deletionOf (data : Bytes) : Option UInt64 :=
  match PfcpHeader.decode data with
  | .ok (header, _) =>
    if header.msgType = pfcpSessionDeletionReq then some (header.seid.getD 0) else none
  | .error _ => none

/-- The deletion a datagram is accepted for: the live session it names, and the association of its
source, which has a session under the SEID that the session's SMF chose. -/
def deletes (env : Env) (data : Bytes) (src : SocketAddr) (w : World) :
    Option (UInt64 × SessionData × Sigma fun _ : Ipv4Addr => SmfAssociation) :=
  match deletionOf data, src with
  | some seid, .v4 .. =>
    (w.srv.sessions.lookup seid).bind fun session =>
      ((findAssociation env w.srv src).filter fun x =>
        (x.2.sessions.lookup session.cpSeid).isSome).map (seid, session, ·)
  | _, _ => none

/-- The Association Setup of a datagram, unless it is a duplicate. -/
def freshSetup (data : Bytes) (w : World) : Option AssociationSetupReq :=
  (setupOf data).filter fun req => !isDuplicateSetup req w.srv

/-! ### The ledger -/

/-- The association a SEID was issued to, and the SEID its SMF chose for the session. -/
structure Origin where
  nodeId : Ipv4Addr
  peerAddr : SocketAddr
  cpSeid : UInt64
  deriving DecidableEq, Repr

structure Audit where
  sys : System
  origin : Table UInt64 Origin
  lastSetup : Option Ipv4Addr

namespace Audit

abbrev world (a : Audit) : World := a.sys.world
abbrev srv (a : Audit) : PfcpServer := a.world.srv
abbrev maps (a : Audit) : Maps := a.world.maps

def init (b : Boot) : Audit where
  sys := .init b
  origin := ∅
  lastSetup := none

/-- The ledger's view of one datagram. -/
def recordDatagram (env : Env) (data : Bytes) (src : SocketAddr) (a : Audit) : Audit :=
  { a with
    origin := match establishes env data src a.world with
      | some (req, assoc) => a.origin.insert a.srv.nextSeid ⟨assoc.nodeId, src, req.cpSeid⟩
      | none => a.origin
    lastSetup := match freshSetup data a.world with
      | some req => some req.nodeId
      | none => a.lastSetup }

def record (a : Audit) : Event → Audit
  | .datagram env _ data src => a.recordDatagram env (received data) src
  | _ => a

def step (host : Host) (a : Audit) (ev : Event) : Audit :=
  { a.record ev with sys := a.sys.step host ev }

/-- The audited system after a list of events. -/
abbrev after (host : Host) (b : Boot) (evs : List Event) : Audit := run (step host) (init b) evs

/-- A session's local SEID is live when it is in the session table. -/
def Live (a : Audit) (s : UInt64) (data : SessionData) : Prop := a.srv.sessions.lookup s = some data

instance (a : Audit) (s : UInt64) (data : SessionData) : Decidable (a.Live s data) :=
  inferInstanceAs (Decidable (_ = _))

/-- `s` was established by the node of the association `assoc`, from whatever address the node had
then. -/
def EstablishedBy (a : Audit) (s : UInt64) (assoc : SmfAssociation) : Prop :=
  ∃ o, a.origin.lookup s = some o ∧ o.nodeId = assoc.nodeId

end Audit

/-! ### What one datagram can do -/

/-- The transitions of a datagram: its answer and the world it leaves. -/
inductive Transition (e : Endian) (env : Env) (data : Bytes) (src : SocketAddr) (w : World) :
    Except HandleError Bytes → World → Prop
  | idle {r} (hest : establishes env data src w = none) (hset : freshSetup data w = none)
    (herr : ∀ seid, targetSeid data w = some seid → ∃ err, r = .error err) :
    Transition e env data src w r w
  | heartbeat {r} (recvTs : Option UInt32) (hhb : heartbeatOf data = some recvTs)
    (hest : establishes env data src w = none) (hset : freshSetup data w = none)
    (htarget : targetSeid data w = none) :
    Transition e env data src w r
      { w with srv := { w.srv with associations := heartbeatAssociations env src recvTs w.srv } }
  | setup {r} (req : AssociationSetupReq) (hest : establishes env data src w = none)
    (hset : freshSetup data w = some req) (htarget : targetSeid data w = none) :
    Transition e env data src w r { w with srv := associate req.nodeId src req.recoveryTs w.srv }
  | refused {err} (req : SessionEstablishmentReq) (assoc : SmfAssociation)
    (hest : establishes env data src w = some (req, assoc)) (hset : freshSetup data w = none)
    (hnone : req.createPdrs.findSome? (·.ueIp) = none ∨
      req.createFars.findSome? (·.outerHeaderCreation) = none) :
    Transition e env data src w (.error err) (allocated w)
  | interrupted {err} (req : SessionEstablishmentReq) (assoc : SmfAssociation) (ueIp : Ipv4Addr)
    (gnbInfo : OuterHeaderCreation) (w' : World)
    (hest : establishes env data src w = some (req, assoc)) (hset : freshSetup data w = none)
    (hue : req.createPdrs.findSome? (·.ueIp) = some ueIp)
    (hgnb : req.createFars.findSome? (·.outerHeaderCreation) = some gnbInfo)
    (hinst : install (installSteps e env w.srv.n3Addr w.srv.nextSeid w.srv.nextTeid ueIp gnbInfo
      req) (allocated w) = (false, w')) :
    Transition e env data src w (.error err) w'
  | established {r} (req : SessionEstablishmentReq) (assoc : SmfAssociation) (ueIp : Ipv4Addr)
    (gnbInfo : OuterHeaderCreation) (w' : World)
    (hest : establishes env data src w = some (req, assoc)) (hset : freshSetup data w = none)
    (hue : req.createPdrs.findSome? (·.ueIp) = some ueIp)
    (hgnb : req.createFars.findSome? (·.outerHeaderCreation) = some gnbInfo)
    (hinst : install (installSteps e env w.srv.n3Addr w.srv.nextSeid w.srv.nextTeid ueIp gnbInfo
      req) (allocated w) = (true, w')) :
    Transition e env data src w (.ok r) (registerSession assoc.nodeId w.srv.nextSeid
      { ueIp, teid := w.srv.nextTeid, gnbIp := gnbInfo.peerAddr, cpSeid := req.cpSeid } w')
  | modified {r} (seid : UInt64) (session : SessionData)
    (assoc : Sigma fun _ : Ipv4Addr => SmfAssociation) (req : SessionModificationReq)
    (hest : establishes env data src w = none) (hset : freshSetup data w = none)
    (htarget : targetSeid data w = some seid)
    (hlive : w.srv.sessions.lookup seid = some session)
    (hfind : findAssociation env w.srv src = some assoc)
    (hown : (assoc.2.sessions.lookup session.cpSeid).isSome) :
    Transition e env data src w (.ok r) (modifySession e seid session.ueIp req w)
  | deleted {r} (seid : UInt64) (session : SessionData)
    (assoc : Sigma fun _ : Ipv4Addr => SmfAssociation)
    (hest : establishes env data src w = none) (hset : freshSetup data w = none)
    (htarget : targetSeid data w = some seid)
    (hdel : deletes env data src w = some (seid, session, assoc)) :
    Transition e env data src w (.ok r)
      { unregisterSession assoc.2.nodeId seid session.cpSeid w with
        maps := removeRules e env seid session w.maps
        tasks := if w.srv.sessionStore then w.tasks ++ [.delete seid] else w.tasks }

section Cases

variable {e : Endian} {env : Env} {data : Bytes} {src : SocketAddr} {w : World}
  {header : PfcpHeader} {body : Bytes}

/-- Only an establishment request establishes. -/
theorem establishes_eq_none (hd : PfcpHeader.decode data = .ok (header, body))
    (h : header.msgType ≠ pfcpSessionEstablishmentReq) : establishes env data src w = none := by
  simp [establishes, establishmentOf, hd, h]

/-- Only an Association Setup Request sets up. -/
theorem freshSetup_eq_none (hd : PfcpHeader.decode data = .ok (header, body))
    (h : header.msgType ≠ pfcpAssociationSetupReq) : freshSetup data w = none := by
  simp [freshSetup, setupOf, hd, h]

theorem establishes_of_decode (hd : PfcpHeader.decode data = .ok (header, body))
    (ht : header.msgType = pfcpSessionEstablishmentReq) {req : SessionEstablishmentReq}
    (hreq : SessionEstablishmentReq.decode body = .ok req) (ip : Ipv4Addr) (port : UInt16) :
    establishes env data (.v4 ip port) w =
      (findAssociation env w.srv (.v4 ip port)).map fun a => (req, a.2) := by
  simp [establishes, establishmentOf, hd, ht, hreq, Except.toOption]

/-- What an establishment that gets a SEID has been decoded to. -/
theorem of_establishes {req : SessionEstablishmentReq} {assoc : SmfAssociation}
    (h : establishes env data src w = some (req, assoc)) :
    ∃ header body, PfcpHeader.decode data = .ok (header, body) ∧
      header.msgType = pfcpSessionEstablishmentReq ∧
      SessionEstablishmentReq.decode body = .ok req := by
  unfold establishes at h
  split at h
  · next req' ip port hof =>
    obtain ⟨found, -, heq⟩ := Option.map_eq_some_iff.mp h
    obtain ⟨rfl, -⟩ := Prod.mk.inj heq
    unfold establishmentOf at hof
    split at hof
    · next header body hd =>
      split_ifs at hof with ht
      cases hreq : SessionEstablishmentReq.decode body with
      | error err =>
        rw [hreq] at hof
        cases hof
      | ok req =>
        rw [hreq] at hof
        exact ⟨header, body, hd, ht, hreq.trans (congrArg _ (Option.some.inj hof))⟩
    · cases hof
  · cases h

theorem association_transition (hd : PfcpHeader.decode data = .ok (header, body))
    (ht : header.msgType = pfcpAssociationSetupReq) :
    Transition e env data src w (handleSessionAssociation header body src w).1
      (handleSessionAssociation header body src w).2 := by
  have hest : establishes env data src w = none := establishes_eq_none hd (by rw [ht]; decide)
  unfold handleSessionAssociation
  cases hreq : AssociationSetupReq.decode body with
  | error err =>
    exact .idle hest (by simp [freshSetup, setupOf, hd, ht, hreq, Except.toOption])
      fun _ _ => ⟨_, rfl⟩
  | ok req =>
    have htarget : targetSeid data w = none := by
      simp only [targetSeid, hd, ht]
      rfl
    by_cases hdup : isDuplicateSetup req w.srv
    · simp only [hdup, if_true]
      exact .idle hest (by simp [freshSetup, setupOf, hd, ht, hreq, Except.toOption, hdup])
        (by simp [htarget])
    · simp only [hdup, if_false, Bool.false_eq_true]
      exact .setup req hest (by simp [freshSetup, setupOf, hd, ht, hreq, Except.toOption, hdup])
        htarget

theorem establishment_transition (hd : PfcpHeader.decode data = .ok (header, body))
    (ht : header.msgType = pfcpSessionEstablishmentReq) :
    Transition e env data src w (handleSessionEstablishment e env header body src w).1
      (handleSessionEstablishment e env header body src w).2 := by
  have hset : freshSetup data w = none := freshSetup_eq_none hd (by rw [ht]; decide)
  unfold handleSessionEstablishment
  cases hreq : SessionEstablishmentReq.decode body with
  | error err =>
    exact .idle (by simp [establishes, establishmentOf, hd, ht, hreq, Except.toOption]) hset
      fun _ _ => ⟨_, rfl⟩
  | ok req =>
    cases src with
    | v6 ip port fl sc => exact .idle (by simp [establishes]) hset fun _ _ => ⟨_, rfl⟩
    | v4 ip port =>
      have hest : establishes env data (.v4 ip port) w = _ :=
        establishes_of_decode hd ht hreq ip port
      cases hfind : findAssociation env w.srv (.v4 ip port) with
      | none =>
        simp only [hfind]
        exact .idle (by rw [hest, hfind]; rfl) hset fun _ _ => ⟨_, rfl⟩
      | some assoc =>
        rw [hfind, Option.map_some] at hest
        cases hue : req.createPdrs.findSome? (·.ueIp) with
        | none => simp only [hfind, hue]; exact .refused req assoc.2 hest hset (.inl hue)
        | some ueIp =>
          cases hgnb : req.createFars.findSome? (·.outerHeaderCreation) with
          | none => simp only [hfind, hue, hgnb]; exact .refused req assoc.2 hest hset (.inr hgnb)
          | some gnbInfo =>
            simp only [hfind, hue, hgnb]
            rcases hinst : install (installSteps e env w.srv.n3Addr w.srv.nextSeid w.srv.nextTeid
              ueIp gnbInfo req) (allocated w) with ⟨ok, w'⟩
            cases ok with
            | false => exact .interrupted req assoc.2 ueIp gnbInfo w' hest hset hue hgnb hinst
            | true => exact .established req assoc.2 ueIp gnbInfo w' hest hset hue hgnb hinst

theorem modification_transition (hd : PfcpHeader.decode data = .ok (header, body))
    (ht : header.msgType = pfcpSessionModificationReq) :
    Transition e env data src w (handleSessionModification e env header body src w).1
      (handleSessionModification e env header body src w).2 := by
  have hest : establishes env data src w = none := establishes_eq_none hd (by rw [ht]; decide)
  have hset : freshSetup data w = none := freshSetup_eq_none hd (by rw [ht]; decide)
  cases hmod : modifies env header body src w with
  | none =>
    obtain ⟨err, heq⟩ : ∃ err, handleSessionModification e env header body src w =
      (.error err, w) := modification_of_none hmod
    rw [heq]
    exact .idle hest hset fun _ _ => ⟨err, rfl⟩
  | some found =>
    obtain ⟨seid, session, req⟩ := found
    obtain ⟨-, hseid, -, hlive, assoc, hfind, hown⟩ := modifies_eq_some.mp hmod
    have htarget : targetSeid data w = some seid := by
      simp only [targetSeid, hd, ht, hseid]
      rfl
    rw [modification_of_some hmod]
    exact .modified seid session assoc req hest hset htarget hlive hfind hown

/-- What an accepted deletion has found. -/
theorem of_deletes {seid : UInt64} {session : SessionData}
    {assoc : Sigma fun _ : Ipv4Addr => SmfAssociation}
    (h : deletes env data src w = some (seid, session, assoc)) :
    deletionOf data = some seid ∧ w.srv.sessions.lookup seid = some session ∧
      findAssociation env w.srv src = some assoc ∧
      (assoc.2.sessions.lookup session.cpSeid).isSome := by
  unfold deletes at h
  split at h
  · next seid' ip port hdel =>
    obtain ⟨session', hlive, h⟩ := Option.bind_eq_some_iff.mp h
    obtain ⟨assoc', hfind, heq⟩ := Option.map_eq_some_iff.mp h
    simp only [Prod.mk.injEq] at heq
    obtain ⟨rfl, rfl, rfl⟩ := heq
    obtain ⟨hfind, hown⟩ := Option.filter_eq_some_iff.mp hfind
    exact ⟨hdel, hlive, hfind, hown⟩
  · cases h

/-- What an accepted deletion does. -/
theorem handleMessage_of_deletes {seid : UInt64} {session : SessionData}
    {assoc : Sigma fun _ : Ipv4Addr => SmfAssociation}
    (h : deletes env data src w = some (seid, session, assoc)) :
    (∃ r, (handleMessage e env data src w).1 = .ok r) ∧ (handleMessage e env data src w).2 =
      { unregisterSession assoc.2.nodeId seid session.cpSeid w with
        maps := removeRules e env seid session w.maps
        tasks := if w.srv.sessionStore then w.tasks ++ [.delete seid] else w.tasks } := by
  obtain ⟨hdel, hlive, hfind, hown⟩ := of_deletes h
  obtain ⟨ip, port, rfl⟩ : ∃ ip port, src = .v4 ip port := by
    cases src with
    | v4 ip port => exact ⟨ip, port, rfl⟩
    | v6 => simp [deletes] at h
  unfold deletionOf at hdel
  split at hdel
  · next header body hd =>
    split_ifs at hdel with ht
    obtain rfl := Option.some.inj hdel
    simp only [handleMessage, hd, dispatch_deletion ht]
    simp only [handleSessionDeletion, deletionLock, hlive, hfind, hown, if_true]
    exact ⟨⟨_, rfl⟩, rfl⟩
  · cases hdel

/-- A deletion that is not accepted changes nothing. -/
theorem deletion_of_none (hd : PfcpHeader.decode data = .ok (header, body))
    (ht : header.msgType = pfcpSessionDeletionReq) (h : deletes env data src w = none) :
    ∃ err, handleSessionDeletion e env header src w = (.error err, w) := by
  unfold handleSessionDeletion deletionLock
  cases hlive : w.srv.sessions.lookup (header.seid.getD 0) with
  | none =>
    simp only [hlive]
    exact ⟨_, rfl⟩
  | some session =>
    simp only [hlive]
    cases src with
    | v6 => exact ⟨_, rfl⟩
    | v4 ip port =>
      cases hfind : findAssociation env w.srv (.v4 ip port) with
      | none =>
        simp only [hfind]
        exact ⟨_, rfl⟩
      | some assoc =>
        have hown : ¬ (assoc.2.sessions.lookup session.cpSeid).isSome := by
          intro hown
          simp [deletes, deletionOf, hd, ht, hlive, hfind, Option.filter, hown] at h
        simp only [hfind, if_neg hown]
        exact ⟨_, rfl⟩

theorem deletion_transition (hd : PfcpHeader.decode data = .ok (header, body))
    (ht : header.msgType = pfcpSessionDeletionReq) :
    Transition e env data src w (handleSessionDeletion e env header src w).1
      (handleSessionDeletion e env header src w).2 := by
  have hest : establishes env data src w = none := establishes_eq_none hd (by rw [ht]; decide)
  have hset : freshSetup data w = none := freshSetup_eq_none hd (by rw [ht]; decide)
  cases hdel : deletes env data src w with
  | none =>
    obtain ⟨err, heq⟩ : ∃ err, handleSessionDeletion e env header src w = (.error err, w) :=
      deletion_of_none hd ht hdel
    rw [heq]
    exact .idle hest hset fun _ _ => ⟨err, rfl⟩
  | some found =>
    obtain ⟨seid, session, assoc⟩ := found
    have hmsg : handleMessage e env data src w = handleSessionDeletion e env header src w := by
      simp only [handleMessage, hd, dispatch_deletion ht]
    have htarget : targetSeid data w = some seid := by
      have hseid := (of_deletes hdel).1
      simp only [deletionOf, hd, if_pos ht] at hseid
      simp only [targetSeid, hd, ht]
      exact hseid
    obtain ⟨⟨r, hr⟩, hw⟩ := handleMessage_of_deletes (e := e) hdel
    rw [← hmsg, hr, hw]
    exact .deleted seid session assoc hest hset htarget hdel

/-- An establishment that finds no association is refused. -/
theorem establishment_of_none (hd : PfcpHeader.decode data = .ok (header, body))
    (ht : header.msgType = pfcpSessionEstablishmentReq)
    (h : establishes env data src w = none) :
    ∃ err, handleSessionEstablishment e env header body src w = (.error err, w) := by
  unfold handleSessionEstablishment
  cases hreq : SessionEstablishmentReq.decode body with
  | error err => exact ⟨_, rfl⟩
  | ok req =>
    cases src with
    | v6 => exact ⟨_, rfl⟩
    | v4 ip port =>
      rw [establishes_of_decode hd ht hreq, Option.map_eq_none_iff] at h
      simp only [h]
      exact ⟨_, rfl⟩

/-- **What a datagram can do.** -/
theorem handleMessage_transition (e : Endian) (env : Env) (data : Bytes) (src : SocketAddr)
    (w : World) :
    Transition e env data src w (handleMessage e env data src w).1
      (handleMessage e env data src w).2 := by
  unfold handleMessage
  cases hd : PfcpHeader.decode data with
  | error err =>
    exact .idle (by simp [establishes, establishmentOf, hd]) (by simp [freshSetup, setupOf, hd])
      fun _ _ => ⟨_, rfl⟩
  | ok p =>
    obtain ⟨header, body⟩ := p
    simp only [dispatch]
    split_ifs with h1 h2 h3 h4 h5 h6 h7
    · exact .heartbeat _ (by simp [heartbeatOf, hd, h1])
        (establishes_eq_none hd (by rw [h1]; decide)) (freshSetup_eq_none hd (by rw [h1]; decide))
        (by simp only [targetSeid, hd, h1]; rfl)
    · exact association_transition hd h2
    · exact establishment_transition hd h3
    · exact modification_transition hd h4
    · exact deletion_transition hd h5
    all_goals
      exact .idle (establishes_eq_none hd h3) (freshSetup_eq_none hd h2)
        (by simp [targetSeid, hd, h3, h4, h5])

theorem receive_transition (host : Host) (env : Env) (now : Instant) (data : Bytes)
    (src : SocketAddr) (w : World) :
    Transition host.endian env (received data) src (touched now w)
      (receive host env now data src w).1 (receive host env now data src w).2 :=
  handleMessage_transition ..

/-- What becomes of an establishment that finds its association: it is refused, or it goes through
its inserts and is answered if all of them are made. -/
theorem establishment_outcomes (host : Host) (now : Instant) {req : SessionEstablishmentReq}
    {assoc : SmfAssociation} (hest : establishes env (received data) src w = some (req, assoc)) :
    ((req.createPdrs.findSome? (·.ueIp) = none ∨
        req.createFars.findSome? (·.outerHeaderCreation) = none) ∧
      ∃ err, receive host env now data src w = (.error err, allocated (touched now w))) ∨
    ∃ ueIp gnbInfo, req.createPdrs.findSome? (·.ueIp) = some ueIp ∧
      req.createFars.findSome? (·.outerHeaderCreation) = some gnbInfo ∧
      ∃ made w', install (installSteps host.endian env w.srv.n3Addr w.srv.nextSeid w.srv.nextTeid
          ueIp gnbInfo req) (allocated (touched now w)) = (made, w') ∧
        ((made = false ∧ ∃ err, receive host env now data src w = (.error err, w')) ∨
          (made = true ∧ ∃ rsp, receive host env now data src w =
            (.ok rsp, registerSession assoc.nodeId w.srv.nextSeid
              { ueIp, teid := w.srv.nextTeid, gnbIp := gnbInfo.peerAddr, cpSeid := req.cpSeid }
              w'))) := by
  have htr := receive_transition host env now data src w
  have hest' : establishes env (received data) src (touched now w) = some (req, assoc) := hest
  generalize receive host env now data src w = out at htr ⊢
  obtain ⟨r, w'⟩ := out
  simp only at htr
  cases htr with
  | idle hno | heartbeat _ _ hno | setup _ hno | modified _ _ _ _ hno | deleted _ _ _ hno =>
    rw [hest'] at hno
    cases hno
  | refused req' assoc' hyes hset hnone =>
    obtain ⟨rfl, rfl⟩ := Prod.mk.inj (Option.some.inj (hest'.symm.trans hyes))
    exact .inl ⟨hnone, _, rfl⟩
  | interrupted req' assoc' ueIp gnbInfo w' hyes hset hue hgnb hinst =>
    obtain ⟨rfl, rfl⟩ := Prod.mk.inj (Option.some.inj (hest'.symm.trans hyes))
    exact .inr ⟨ueIp, gnbInfo, hue, hgnb, false, w', hinst, .inl ⟨rfl, _, rfl⟩⟩
  | established req' assoc' ueIp gnbInfo w' hyes hset hue hgnb hinst =>
    obtain ⟨rfl, rfl⟩ := Prod.mk.inj (Option.some.inj (hest'.symm.trans hyes))
    exact .inr ⟨ueIp, gnbInfo, hue, hgnb, true, w', hinst, .inr ⟨rfl, _, rfl⟩⟩

end Cases

/-! ### What one event can do -/

/-- The ledger after an establishment got its SEID. -/
def Audit.issued (a : Audit) (src : SocketAddr) (req : SessionEstablishmentReq)
    (assoc : SmfAssociation) : Table UInt64 Origin :=
  a.origin.insert a.srv.nextSeid ⟨assoc.nodeId, src, req.cpSeid⟩

/-- The moves of the audited system.  `w` is the world as the handler finds it. -/
inductive Move (host : Host) (a : Audit) : Event → Audit → Prop
  | steady {ev a'} (hw : Steady a.world a'.world) (ho : a'.origin = a.origin)
    (hl : a'.lastSetup = a.lastSetup)
    (hest : ∀ env now data src, ev = .datagram env now data src →
      establishes env (received data) src a.world = none) :
    Move host a ev a'
  | heartbeat {env now data src a'} (recvTs : Option UInt32)
    (hhb : heartbeatOf (received data) = some recvTs)
    (hest : establishes env (received data) src a.world = none)
    (hw : a'.world = { touched now a.world with
      srv := { (touched now a.world).srv with
        associations := heartbeatAssociations env src recvTs a.srv } })
    (ho : a'.origin = a.origin) (hl : a'.lastSetup = a.lastSetup) :
    Move host a (.datagram env now data src) a'
  | setup {env now data src a'} (req : AssociationSetupReq)
    (hset : freshSetup (received data) a.world = some req)
    (hest : establishes env (received data) src a.world = none)
    (hw : a'.world = { touched now a.world with
      srv := associate req.nodeId src req.recoveryTs (touched now a.world).srv })
    (ho : a'.origin = a.origin) (hl : a'.lastSetup = some req.nodeId) :
    Move host a (.datagram env now data src) a'
  | refused {env now data src a'} (req : SessionEstablishmentReq) (assoc : SmfAssociation)
    (hest : establishes env (received data) src a.world = some (req, assoc))
    (hnone : req.createPdrs.findSome? (·.ueIp) = none ∨
      req.createFars.findSome? (·.outerHeaderCreation) = none)
    (hw : a'.world = allocated (touched now a.world))
    (ho : a'.origin = a.issued src req assoc) (hl : a'.lastSetup = a.lastSetup) :
    Move host a (.datagram env now data src) a'
  | interrupted {env now data src a'} (req : SessionEstablishmentReq) (assoc : SmfAssociation)
    (ueIp : Ipv4Addr) (gnbInfo : OuterHeaderCreation)
    (hest : establishes env (received data) src a.world = some (req, assoc))
    (hue : req.createPdrs.findSome? (·.ueIp) = some ueIp)
    (hgnb : req.createFars.findSome? (·.outerHeaderCreation) = some gnbInfo)
    (hinst : install (installSteps host.endian env a.srv.n3Addr a.srv.nextSeid a.srv.nextTeid ueIp
      gnbInfo req) (allocated (touched now a.world)) = (false, a'.world))
    (ho : a'.origin = a.issued src req assoc) (hl : a'.lastSetup = a.lastSetup) :
    Move host a (.datagram env now data src) a'
  | established {env now data src a'} (req : SessionEstablishmentReq) (assoc : SmfAssociation)
    (ueIp : Ipv4Addr) (gnbInfo : OuterHeaderCreation) (w' : World)
    (hest : establishes env (received data) src a.world = some (req, assoc))
    (hue : req.createPdrs.findSome? (·.ueIp) = some ueIp)
    (hgnb : req.createFars.findSome? (·.outerHeaderCreation) = some gnbInfo)
    (hinst : install (installSteps host.endian env a.srv.n3Addr a.srv.nextSeid a.srv.nextTeid ueIp
      gnbInfo req) (allocated (touched now a.world)) = (true, w'))
    (hw : a'.world = registerSession assoc.nodeId a.srv.nextSeid
      { ueIp, teid := a.srv.nextTeid, gnbIp := gnbInfo.peerAddr, cpSeid := req.cpSeid } w')
    (ho : a'.origin = a.issued src req assoc) (hl : a'.lastSetup = a.lastSetup) :
    Move host a (.datagram env now data src) a'
  | deleted {env now data src a'} (seid : UInt64) (session : SessionData)
    (assoc : Sigma fun _ : Ipv4Addr => SmfAssociation)
    (hest : establishes env (received data) src a.world = none)
    (hdel : deletes env (received data) src a.world = some (seid, session, assoc))
    (hw : a'.world = { unregisterSession assoc.2.nodeId seid session.cpSeid
        (touched now a.world) with
      maps := removeRules host.endian env seid session a.maps
      tasks := if a.srv.sessionStore then a.world.tasks ++ [.delete seid] else a.world.tasks })
    (ho : a'.origin = a.origin) (hl : a'.lastSetup = a.lastSetup) :
    Move host a (.datagram env now data src) a'

theorem touched_steady (now : Instant) (w : World) : Steady w (touched now w) :=
  { (Steady.refl : Steady w w) with }

/-- **What an event can do.** -/
theorem Audit.step_move (host : Host) (a : Audit) (ev : Event) :
    Move host a ev (a.step host ev) := by
  cases ev with
  | datagram env now data src =>
    have htr := receive_transition host env now data src a.world
    have hw : (a.step host (.datagram env now data src)).world =
      (receive host env now data src a.world).2 := rfl
    have ho : (a.step host (.datagram env now data src)).origin =
      (a.recordDatagram env (received data) src).origin := rfl
    have hl : (a.step host (.datagram env now data src)).lastSetup =
      (a.recordDatagram env (received data) src).lastSetup := rfl
    simp only [recordDatagram] at ho hl
    generalize a.step host (.datagram env now data src) = a' at *
    generalize receive host env now data src a.world = out at htr hw
    obtain ⟨r, w'⟩ := out
    change a'.world = w' at hw
    change Transition _ _ _ _ _ r w' at htr
    -- what the ledger says follows from what the datagram is
    have hkept (h : establishes env (received data) src a.world = none) :
        a'.origin = a.origin := by
      rw [ho, h]
    have hissued {req : SessionEstablishmentReq} {assoc : SmfAssociation}
        (h : establishes env (received data) src a.world = some (req, assoc)) :
        a'.origin = a.issued src req assoc := by
      rw [ho, h]
      rfl
    have hlast (h : freshSetup (received data) a.world = none) : a'.lastSetup = a.lastSetup := by
      rw [hl, h]
    cases htr with
    | idle hest hset herr =>
      refine .steady (by rw [hw]; exact touched_steady now _) (hkept hest) (hlast hset) ?_
      rintro _ _ _ _ ⟨⟩
      exact hest
    | heartbeat recvTs hhb hest hset htarget =>
      exact .heartbeat recvTs hhb hest hw (hkept hest) (hlast hset)
    | setup req hest hset htarget =>
      have hset' : freshSetup (received data) a.world = some req := hset
      rw [hset'] at hl
      exact .setup req hset hest hw (hkept hest) hl
    | refused req assoc hest hset hnone =>
      exact .refused req assoc hest hnone hw (hissued hest) (hlast hset)
    | interrupted req assoc ueIp gnbInfo w' hest hset hue hgnb hinst =>
      rw [← hw] at hinst
      exact .interrupted req assoc ueIp gnbInfo hest hue hgnb hinst (hissued hest) (hlast hset)
    | established req assoc ueIp gnbInfo w' hest hset hue hgnb hinst =>
      exact .established req assoc ueIp gnbInfo w' hest hue hgnb hinst hw (hissued hest)
        (hlast hset)
    | modified seid session assoc req hest hset htarget hlive hfind hown =>
      refine .steady ?_ (hkept hest) (hlast hset) ?_
      · rw [hw]
        exact (touched_steady now _).trans modifySession_steady
      · rintro _ _ _ _ ⟨⟩
        exact hest
    | deleted seid session assoc hest hset htarget hdel =>
      exact .deleted seid session assoc hest hdel hw (hkept hest) (hlast hset)
  | snapshot order =>
    refine .steady ?_ rfl rfl (by simp)
    simp only [Audit.step, System.step, System.handle]
    split <;> exact .refl
  | report clock =>
    refine .steady ?_ rfl rfl (by simp)
    simp only [Audit.step, System.step, System.handle]
    split
    · exact .refl
    · exact report_steady clock _ a.world
  | uplink x f => exact .steady (tryN3Uplink_steady _ x f a.world) rfl rfl (by simp)
  | downlink x f => exact .steady (tryN6Downlink_steady _ x f a.world) rfl rfl (by simp)

/-- An accepted deletion, as a step. -/
theorem Audit.step_of_deletes (host : Host) {a : Audit} {env : Env} (now : Instant) {data : Bytes}
    {src : SocketAddr} {seid : UInt64} {session : SessionData}
    {assoc : Sigma fun _ : Ipv4Addr => SmfAssociation}
    (h : deletes env (received data) src a.world = some (seid, session, assoc)) :
    (a.step host (.datagram env now data src)).world =
        { unregisterSession assoc.2.nodeId seid session.cpSeid (touched now a.world) with
          maps := removeRules host.endian env seid session a.maps
          tasks := if a.srv.sessionStore then a.world.tasks ++ [.delete seid]
            else a.world.tasks } ∧
      (a.step host (.datagram env now data src)).origin = a.origin := by
  refine ⟨(handleMessage_of_deletes (w := touched now a.world) h).2, ?_⟩
  have hest : establishes env (received data) src a.world = none := by
    have hdel := (of_deletes h).1
    unfold deletionOf at hdel
    split at hdel
    · next header body hd =>
      split_ifs at hdel with ht
      exact establishes_eq_none hd (by rw [ht]; decide)
    · cases hdel
  change (a.recordDatagram env (received data) src).origin = a.origin
  simp only [recordDatagram, hest]

end UpfEdge
