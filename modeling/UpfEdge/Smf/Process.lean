import UpfEdge.Lib.Table
import UpfEdge.Pfcp.Wire
import UpfEdge.Smf.Transport
import UpfEdge.Smf.Validator

/-!
# The simulator as a process

`smf-sim` in its interactive mode: the state of `state.rs`, the commands of `tui/runner.rs` and the
keepalive task of `keepalive.rs`.  Every command and every round of the keepalive task is a `Task`
around one `send_and_recv` call; what is done with the result stands in `Process.conclude`.  The
tasks run side by side on one socket.

A Recovery Time Stamp is either `recovery_ts()`, which reads the clock once and keeps the value
(`RECOVERY_TS`), or a fresh reading: the interactive heartbeat and the answers of
`handle_unsolicited`.  `readings` is a ledger of the values read for either use.
-/

namespace UpfEdge.SmfSim

open Lib Pfcp

structure Config where
  smfN4Addr : Ipv4Addr
  smfN4Port : UInt16
  gnbAddr : Ipv4Addr
  ueIpPoolStart : Ipv4Addr
  ueIpPoolEnd : Ipv4Addr
  gnbTeidStart : UInt32
  maxRetries : ℕ

structure SimSession where
  cpSeid : UInt64
  upfSeid : UInt64
  upfTeid : UInt32
  upfN3Addr : Ipv4Addr
  ueIp : Ipv4Addr
  gnbTeid : UInt32
  deriving DecidableEq, Repr

/-! ### `SimState` -/

structure SimState where
  nextUeIp : UInt32
  ueIpEnd : UInt32
  nextGnbTeid : UInt32
  nextCpSeid : UInt64
  nextSeq : UInt32
  sessions : Table UInt64 SimSession

/-- `Ipv4Addr::from(u32)`. -/
def ipv4OfU32 (x : UInt32) : Ipv4Addr :=
  ⟨(x >>> 24).toUInt8, (x >>> 16).toUInt8, (x >>> 8).toUInt8, x.toUInt8⟩

namespace SimState

def new (cfg : Config) : SimState where
  nextUeIp := cfg.ueIpPoolStart.toU32
  ueIpEnd := cfg.ueIpPoolEnd.toU32
  nextGnbTeid := cfg.gnbTeidStart
  nextCpSeid := 1
  nextSeq := 1
  sessions := ∅

/-- `none` when the pool is exhausted. -/
def allocUeIp (s : SimState) : Option (Ipv4Addr × SimState) :=
  if s.nextUeIp ≤ s.ueIpEnd then
    some (ipv4OfU32 s.nextUeIp, { s with nextUeIp := s.nextUeIp + 1 })
  else none

def allocGnbTeid (s : SimState) : UInt32 × SimState :=
  (s.nextGnbTeid, { s with nextGnbTeid := s.nextGnbTeid + 1 })

def allocCpSeid (s : SimState) : UInt64 × SimState :=
  (s.nextCpSeid, { s with nextCpSeid := s.nextCpSeid + 1 })

def nextSeqNum (s : SimState) : UInt32 × SimState :=
  (s.nextSeq, { s with nextSeq := s.nextSeq + 1 })

end SimState

/-! ### Tasks -/

/-- What a call is made for, with what its message is built from. -/
inductive Purpose where
  | addSession (seq : UInt32) (cpSeid : UInt64) (ueIp : Ipv4Addr) (gnbTeid : UInt32)
  | delSession (seid upfSeid : UInt64) (seq : UInt32)
  | heartbeat (seq ts : UInt32)
  | association (ts : UInt32)
  | keepaliveHeartbeat (seq ts : UInt32)
  | keepaliveAssociation (seq ts : UInt32)
  deriving DecidableEq, Repr

def heartbeatRequest (seq ts : UInt32) : Bytes :=
  finish (addRecoveryTimestamp (PfcpHeader.newNodeMsg pfcpHeartbeatReq seq).encode ts)

def associationRequest (seq : UInt32) (smfAddr : Ipv4Addr) (ts : UInt32) : Bytes :=
  finish (addRecoveryTimestamp (addNodeIdV4
    (PfcpHeader.newNodeMsg pfcpAssociationSetupReq seq).encode smfAddr) ts)

namespace Purpose

def message (cfg : Config) : Purpose → Bytes
  | addSession seq cpSeid ueIp gnbTeid =>
    buildSessionEstablishmentRequest seq cfg.smfN4Addr cpSeid ueIp cfg.gnbAddr gnbTeid
  | delSession _ upfSeid seq =>
    finish (PfcpHeader.newSessionMsg pfcpSessionDeletionReq upfSeid seq).encode
  | heartbeat seq ts | keepaliveHeartbeat seq ts => heartbeatRequest seq ts
  | association ts => associationRequest 1 cfg.smfN4Addr ts
  | keepaliveAssociation seq ts => associationRequest seq cfg.smfN4Addr ts

/-- The SEID and the UE address that an `AddSession` gives to its session. -/
def grant? : Purpose → Option (UInt64 × Ipv4Addr)
  | addSession _ cpSeid ueIp _ => some (cpSeid, ueIp)
  | _ => none

/-- The calls of `keepalive::run`, of which there is one at a time. -/
def isKeepalive : Purpose → Bool
  | keepaliveHeartbeat .. | keepaliveAssociation .. => true
  | _ => false

end Purpose

structure Task (cfg : Config) where
  purpose : Purpose
  call : Call
  sends : call.req.msg = purpose.message cfg

namespace Task

variable {cfg : Config}

def onSent (result : Except String Unit) (t : Task cfg) : Task cfg where
  purpose := t.purpose
  call := t.call.onSent result
  sends := by rw [Call.onSent_req, t.sends]

def onLapse (e : CallError) (t : Task cfg) : Task cfg where
  purpose := t.purpose
  call := t.call.onLapse cfg.maxRetries e
  sends := by rw [Call.onLapse_req, t.sends]

def onDatagram (clock : UInt32) (buf : Bytes) (t : Task cfg) : Task cfg × Option Bytes :=
  ({ purpose := t.purpose
     call := (t.call.onDatagram clock buf).1
     sends := by rw [Call.onDatagram_req, t.sends] }, (t.call.onDatagram clock buf).2)

end Task

/-! ### The process -/

structure Process (cfg : Config) where
  state : SimState
  recoveryTs : Option UInt32
  keepaliveSeq : UInt32
  upfTs : UInt32
  tasks : List (Task cfg)
  readings : List UInt32

namespace Process

variable {cfg : Config}

def new (cfg : Config) : Process cfg where
  state := .new cfg
  recoveryTs := none
  keepaliveSeq := 100
  upfTs := 0
  tasks := []
  readings := []

/-- Seconds since 1900, from seconds since 1970. -/
def ntp (clock : UInt32) : UInt32 := clock + 2208988800

/-- A fresh reading of the clock. -/
def readClock (clock : UInt32) (p : Process cfg) : UInt32 × Process cfg :=
  (ntp clock, { p with readings := p.readings ++ [ntp clock] })

/-- `recovery_ts()`. -/
def getRecoveryTs (clock : UInt32) (p : Process cfg) : UInt32 × Process cfg :=
  match p.recoveryTs with
  | some ts => (ts, p)
  | none => (ntp clock, { (p.readClock clock).2 with recoveryTs := some (ntp clock) })

/-- `send_and_recv` is entered. -/
def begin (purpose : Purpose) (p : Process cfg) : Process cfg :=
  match h : Request.ofMsg (purpose.message cfg) with
  | .ok req => { p with tasks := p.tasks ++ [⟨purpose, .start req, Request.msg_of_ofMsg h⟩] }
  | .error _ => p

/-- One round of the `AddSession` command. -/
def addSession (p : Process cfg) : Process cfg :=
  let (seq, s) := p.state.nextSeqNum
  match s.allocUeIp with
  | none => { p with state := s }
  | some (ueIp, s) =>
    let (gnbTeid, s) := s.allocGnbTeid
    let (cpSeid, s) := s.allocCpSeid
    begin (.addSession seq cpSeid ueIp gnbTeid) { p with state := s }

def delSession (seid : UInt64) (p : Process cfg) : Process cfg :=
  match p.state.sessions.lookup seid with
  | none => p
  | some session =>
    let (seq, s) := p.state.nextSeqNum
    begin (.delSession seid session.upfSeid seq) { p with state := s }

/-- The `Heartbeat` command. -/
def heartbeat (clock : UInt32) (p : Process cfg) : Process cfg :=
  let (seq, s) := p.state.nextSeqNum
  let (ts, p) := readClock clock { p with state := s }
  begin (.heartbeat seq ts) p

/-- `do_association` of the runner. -/
def associate (clock : UInt32) (p : Process cfg) : Process cfg :=
  let (ts, p) := p.getRecoveryTs clock
  begin (.association ts) p

/-- The keepalive task finds the transport idle. -/
def keepalive (clock : UInt32) (p : Process cfg) : Process cfg :=
  if p.tasks.any fun t => t.purpose.isKeepalive && t.call.phase.running then p
  else
    let (ts, q) := getRecoveryTs clock { p with keepaliveSeq := p.keepaliveSeq + 1 }
    begin (.keepaliveHeartbeat p.keepaliveSeq ts) q

/-- `do_association` of the keepalive task. -/
def reassociate (clock : UInt32) (p : Process cfg) : Process cfg :=
  let (ts, q) := getRecoveryTs clock { p with keepaliveSeq := p.keepaliveSeq + 1 }
  begin (.keepaliveAssociation p.keepaliveSeq ts) q

/-- What follows on the end of a call. -/
def conclude (clock : UInt32) (purpose : Purpose) (phase : Phase) (p : Process cfg) : Process cfg :=
  match purpose, phase with
  | .addSession _ cpSeid ueIp gnbTeid, .returned rsp =>
    match extractSessionInfo rsp with
    | .ok (upfSeid, upfTeid, upfN3Addr) =>
      { p with state := { p.state with
        sessions := p.state.sessions.insert cpSeid
          { cpSeid, upfSeid, upfTeid, upfN3Addr, ueIp, gnbTeid } } }
    | .error _ => p
  -- the result of `validate_response` is thrown away
  | .delSession seid _ _, .returned _ =>
    { p with state := { p.state with sessions := p.state.sessions.erase seid } }
  | .keepaliveHeartbeat .., .returned rsp =>
    match extractRecoveryTs rsp with
    | some recv =>
      if p.upfTs = 0 then { p with upfTs := recv }
      else if p.upfTs ≠ recv then reassociate clock { p with upfTs := recv }
      else p
    | none => p
  | .keepaliveHeartbeat .., .failed _ => p.reassociate clock
  | .keepaliveAssociation seq _, .returned rsp =>
    match validateResponse pfcpAssociationSetupReq seq rsp, extractRecoveryTs rsp with
    | .ok (), some ts => { p with upfTs := ts }
    | _, _ => p
  | _, _ => p

/-- A task goes on, and what follows on its end if this is it. -/
def advance (clock : UInt32) (i : ℕ) (t t' : Task cfg) (p : Process cfg) : Process cfg :=
  let q := { p with tasks := p.tasks.set i t' }
  if t.call.phase.running && !t'.call.phase.running then
    q.conclude clock t'.purpose t'.call.phase
  else q

/-! ### What a turn leaves -/

def purposes (p : Process cfg) : List Purpose := p.tasks.map (·.purpose)

/-- The SEIDs and addresses the simulator has given to sessions. -/
def grants (p : Process cfg) : List (UInt64 × Ipv4Addr) := p.purposes.filterMap Purpose.grant?

/-- A turn that gives no SEID and leaves the sessions. -/
structure Quiet (p p' : Process cfg) : Prop where
  purposes : p.purposes ⊆ p'.purposes
  grants : p'.grants = p.grants
  nextCpSeid : p'.state.nextCpSeid = p.state.nextCpSeid
  sessions : p'.state.sessions = p.state.sessions

theorem Quiet.refl (p : Process cfg) : Quiet p p := ⟨List.Subset.refl _, rfl, rfl, rfl⟩

theorem Quiet.trans {p p' p'' : Process cfg} (h : Quiet p p') (h' : Quiet p' p'') :
    Quiet p p'' where
  purposes := List.Subset.trans h.purposes h'.purposes
  grants := h'.grants.trans h.grants
  nextCpSeid := h'.nextCpSeid.trans h.nextCpSeid
  sessions := h'.sessions.trans h.sessions

/-- A turn that leaves the tasks, the counter and the sessions. -/
theorem Quiet.of_tasks {p p' : Process cfg} (ht : p'.tasks = p.tasks)
    (hn : p'.state.nextCpSeid = p.state.nextCpSeid)
    (hs : p'.state.sessions = p.state.sessions) : Quiet p p' := by
  have hp : p'.purposes = p.purposes := by rw [Process.purposes, ht, Process.purposes]
  exact ⟨hp ▸ List.Subset.refl _, by rw [Process.grants, hp, Process.grants], hn, hs⟩

/-- A call adds a task with its purpose. -/
theorem begin_cases (purpose : Purpose) (p : Process cfg) :
    p.begin purpose = p ∨
      ∃ t : Task cfg, t.purpose = purpose ∧
        p.begin purpose = { p with tasks := p.tasks ++ [t] } := by
  unfold begin
  split
  · exact .inr ⟨_, rfl, rfl⟩
  · exact .inl rfl

theorem purposes_append (p : Process cfg) (t : Task cfg) :
    purposes { p with tasks := p.tasks ++ [t] } = p.purposes ++ [t.purpose] := by
  simp [purposes]

theorem quiet_begin {purpose : Purpose} (h : purpose.grant? = none) (p : Process cfg) :
    Quiet p (p.begin purpose) := by
  rcases p.begin_cases purpose with heq | ⟨t, rfl, heq⟩
  · rw [heq]
    exact .refl p
  · rw [heq]
    have hp := purposes_append p t
    exact ⟨hp ▸ List.subset_append_left .., by simp [grants, hp, h], rfl, rfl⟩

theorem quiet_readClock (clock : UInt32) (p : Process cfg) : Quiet p (p.readClock clock).2 :=
  .of_tasks rfl rfl rfl

theorem quiet_getRecoveryTs (clock : UInt32) (p : Process cfg) :
    Quiet p (p.getRecoveryTs clock).2 := by
  unfold getRecoveryTs
  split
  · exact .refl p
  · exact .of_tasks rfl rfl rfl

theorem quiet_reassociate (clock : UInt32) (p : Process cfg) : Quiet p (p.reassociate clock) := by
  refine .trans ?_ (quiet_begin rfl (getRecoveryTs clock _).2)
  refine .trans ?_ (quiet_getRecoveryTs clock _)
  exact .of_tasks rfl rfl rfl

theorem quiet_associate (clock : UInt32) (p : Process cfg) : Quiet p (p.associate clock) :=
  (quiet_getRecoveryTs clock p).trans (quiet_begin rfl _)

theorem quiet_keepalive (clock : UInt32) (p : Process cfg) : Quiet p (p.keepalive clock) := by
  unfold keepalive
  split_ifs
  · exact .refl p
  · refine .trans ?_ (quiet_begin rfl (getRecoveryTs clock _).2)
    refine .trans ?_ (quiet_getRecoveryTs clock _)
    exact .of_tasks rfl rfl rfl

theorem quiet_heartbeat (clock : UInt32) (p : Process cfg) : Quiet p (p.heartbeat clock) := by
  refine .trans ?_ (quiet_begin rfl _)
  refine .trans ?_ (quiet_readClock clock _)
  exact .of_tasks rfl rfl rfl

theorem quiet_delSession (seid : UInt64) (p : Process cfg) : Quiet p (p.delSession seid) := by
  unfold delSession
  split
  · exact .refl p
  · refine .trans ?_ (quiet_begin rfl _)
    exact .of_tasks rfl rfl rfl

/-- `AddSession` gives the SEID at the counter, unless there is no address left. -/
theorem addSession_cases (p : Process cfg) : Quiet p p.addSession ∨
    ∃ ueIp, p.purposes ⊆ p.addSession.purposes ∧
      p.addSession.grants ⊆ p.grants ++ [(p.state.nextCpSeid, ueIp)] ∧
      p.grants ⊆ p.addSession.grants ∧
      p.addSession.state.nextCpSeid = p.state.nextCpSeid + 1 ∧
      p.addSession.state.sessions = p.state.sessions := by
  by_cases hip : p.state.nextUeIp ≤ p.state.ueIpEnd
  · obtain ⟨q, hadd, hpur, hn, hs⟩ : ∃ q : Process cfg, p.addSession =
        q.begin (.addSession p.state.nextSeq p.state.nextCpSeid (ipv4OfU32 p.state.nextUeIp)
          p.state.nextGnbTeid) ∧ q.purposes = p.purposes ∧
        q.state.nextCpSeid = p.state.nextCpSeid + 1 ∧ q.state.sessions = p.state.sessions :=
      ⟨{ p with state := { p.state with
          nextUeIp := p.state.nextUeIp + 1
          nextGnbTeid := p.state.nextGnbTeid + 1
          nextCpSeid := p.state.nextCpSeid + 1
          nextSeq := p.state.nextSeq + 1 } },
        by simp [addSession, SimState.allocUeIp, SimState.nextSeqNum, SimState.allocGnbTeid,
          SimState.allocCpSeid, hip], rfl, rfl, rfl⟩
    refine .inr ⟨ipv4OfU32 p.state.nextUeIp, ?_⟩
    have hgr : q.grants = p.grants := by rw [grants, hpur, grants]
    rw [hadd, ← hpur, ← hgr, ← hn, ← hs]
    rcases q.begin_cases (.addSession p.state.nextSeq p.state.nextCpSeid
      (ipv4OfU32 p.state.nextUeIp) p.state.nextGnbTeid) with heq | ⟨t, ht, heq⟩
    · rw [heq]
      exact ⟨List.Subset.refl _, List.subset_append_left .., List.Subset.refl _, rfl, rfl⟩
    · have hgrants : grants { q with tasks := q.tasks ++ [t] } =
          q.grants ++ [(p.state.nextCpSeid, ipv4OfU32 p.state.nextUeIp)] := by
        simp [grants, purposes_append, ht, Purpose.grant?]
      rw [heq, hgrants, purposes_append]
      exact ⟨List.subset_append_left .., List.Subset.refl _, List.subset_append_left .., rfl, rfl⟩
  · have hadd : p.addSession = { p with state := p.state.nextSeqNum.2 } := by
      simp [addSession, SimState.allocUeIp, SimState.nextSeqNum, hip]
    rw [hadd]
    exact .inl (.of_tasks rfl rfl rfl)

/-- What follows on the end of a call changes the sessions at the end of two commands only. -/
inductive Concluded (purpose : Purpose) (phase : Phase) (p p' : Process cfg) : Prop
  | quiet (h : Quiet p p')
  | stored {seq : UInt32} {cpSeid : UInt64} {ueIp : Ipv4Addr} {gnbTeid : UInt32} {rsp : Bytes}
    {upfSeid : UInt64} {upfTeid : UInt32} {upfN3Addr : Ipv4Addr}
    (hpurpose : purpose = .addSession seq cpSeid ueIp gnbTeid) (hphase : phase = .returned rsp)
    (hinfo : extractSessionInfo rsp = .ok (upfSeid, upfTeid, upfN3Addr))
    (h : p' = { p with state := { p.state with
      sessions := p.state.sessions.insert cpSeid
        { cpSeid, upfSeid, upfTeid, upfN3Addr, ueIp, gnbTeid } } })
  | erased (seid : UInt64)
    (h : p' = { p with state := { p.state with sessions := p.state.sessions.erase seid } })

theorem concluded (clock : UInt32) (purpose : Purpose) (phase : Phase) (p : Process cfg) :
    Concluded purpose phase p (p.conclude clock purpose phase) := by
  unfold conclude
  split
  · split
    · next hinfo => exact .stored rfl rfl hinfo rfl
    · exact .quiet (.refl p)
  · exact .erased _ rfl
  · split
    · split_ifs
      · exact .quiet (.of_tasks rfl rfl rfl)
      · refine .quiet (.trans ?_ (quiet_reassociate clock _))
        exact .of_tasks rfl rfl rfl
      · exact .quiet (.refl p)
    · exact .quiet (.refl p)
  · exact .quiet (quiet_reassociate clock p)
  · split
    · exact .quiet (.of_tasks rfl rfl rfl)
    · exact .quiet (.refl p)
  · exact .quiet (.refl p)

theorem purposes_set {p : Process cfg} {i : ℕ} {t t' : Task cfg} (hi : p.tasks[i]? = some t)
    (hp : t'.purpose = t.purpose) :
    purposes { p with tasks := p.tasks.set i t' } = p.purposes := by
  refine List.ext_getElem? fun j => ?_
  rw [purposes, purposes, List.getElem?_map, List.getElem?_map, List.getElem?_set]
  split_ifs with hij hlt
  · rw [← hij, hi, Option.map_some, Option.map_some, hp]
  · exact absurd (List.getElem?_eq_some_iff.mp hi).1 hlt
  · rfl

theorem quiet_set {p : Process cfg} {i : ℕ} {t t' : Task cfg} (hi : p.tasks[i]? = some t)
    (hp : t'.purpose = t.purpose) : Quiet p { p with tasks := p.tasks.set i t' } := by
  have hpur := purposes_set hi hp
  exact ⟨hpur ▸ List.Subset.refl _, by rw [grants, hpur, grants], rfl, rfl⟩

/-- What the simulator keeps of its sessions when a task goes on. -/
inductive Advanced (t t' : Task cfg) (p p' : Process cfg) : Prop
  | quiet (h : Quiet p p')
  | stored {seq : UInt32} {cpSeid : UInt64} {ueIp : Ipv4Addr} {gnbTeid : UInt32} {rsp : Bytes}
    {upfSeid : UInt64} {upfTeid : UInt32} {upfN3Addr : Ipv4Addr} (hrun : t.call.phase.running)
    (hpurpose : t.purpose = .addSession seq cpSeid ueIp gnbTeid)
    (hphase : t'.call.phase = .returned rsp)
    (hinfo : extractSessionInfo rsp = .ok (upfSeid, upfTeid, upfN3Addr))
    (h : Quiet p { p' with state := { p'.state with sessions := p.state.sessions } })
    (hs : p'.state.sessions = p.state.sessions.insert cpSeid
      { cpSeid, upfSeid, upfTeid, upfN3Addr, ueIp, gnbTeid })
  | erased (seid : UInt64)
    (h : Quiet p { p' with state := { p'.state with sessions := p.state.sessions } })
    (hs : p'.state.sessions = p.state.sessions.erase seid)

theorem advanced {p : Process cfg} {i : ℕ} {t : Task cfg} (t' : Task cfg) (clock : UInt32)
    (hi : p.tasks[i]? = some t) (hp : t'.purpose = t.purpose) :
    Advanced t t' p (p.advance clock i t t') := by
  have hset := quiet_set hi hp
  unfold advance
  simp only
  split_ifs with hend
  · cases concluded clock t'.purpose t'.call.phase { p with tasks := p.tasks.set i t' } with
    | quiet h => exact .quiet (hset.trans h)
    | stored hpurpose hphase hinfo h =>
      rw [h]
      have hrun : t.call.phase.running := (Bool.and_eq_true_iff.mp hend).1
      exact .stored hrun (hp ▸ hpurpose) hphase hinfo hset rfl
    | erased seid h =>
      rw [h]
      exact .erased seid hset rfl
  · exact .quiet hset

end Process

end UpfEdge.SmfSim
