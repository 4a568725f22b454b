import UpfEdge.Conduct
import UpfEdge.Replies
import UpfEdge.Smf.Retry
import UpfEdge.Subscribers

/-!
# The basic lifecycle of a session

`smf-sim/src/scenario/basic_lifecycle.rs` against the UPF: the scenario sets up an association,
establishes a session, waits, moves the tunnel of the session to another TEID and deletes it.  Each
request is one run of `send_and_recv` on a network that loses nothing and is not too slow; between
a request, its reply and the next request anything else may happen to the UPF.

The scenario follows a script of nine turns, and the frames of its UE follow the scenario: they
pass, then go through the first tunnel, then through the second, then pass again
(`lifecycle_followed`).
-/

namespace UpfEdge

open Lib Pfcp Server Xdp

namespace SmfSim

/-! ### The scenario -/

/-- The errors that the scenario returns. -/
inductive ScenarioError where
  | poolExhausted
  | call (e : CallError)
  | validate (e : ValidateError)
  | extract (e : ExtractError)
  deriving DecidableEq, Repr

def ScenarioError.text : ScenarioError → String
  | .poolExhausted => "UE IP Pool exhausted"
  | .call e => e.text
  | .validate e => e.text
  | .extract e => e.text

/-- Where the scenario is: in the loop of the association, waiting for the reply to one of the
session requests, asleep, or at its end. -/
inductive Stage where
  | associating (l : Retry)
  | establishing (sim : SimState) (seq : UInt32) (cpSeid : UInt64) (ueIp : Ipv4Addr)
    (gnbTeid : UInt32)
  | waiting (sim : SimState) (s : SimSession)
  | modifying (sim : SimState) (seq : UInt32) (s : SimSession)
  | deleting (sim : SimState) (seq : UInt32) (s : SimSession)
  | passed (sim : SimState)
  | failed (e : ScenarioError)
  | panicked

/-- `next_seq_num`, which panics when it overflows. -/
def SimState.takeSeqNum (checks : Bool) (s : SimState) : Option (UInt32 × SimState) := do
  let _ ← settle checks (overflowingAdd s.nextSeq 1)
  return s.nextSeqNum

/-- The Session Modification Request: the tunnel to the gNB gets a new TEID. -/
def scenarioModification (seq : UInt32) (upfSeid : UInt64) (gnbAddr : Ipv4Addr) : Bytes :=
  let msg := (PfcpHeader.newSessionMsg pfcpSessionModificationReq upfSeid seq).encode
  finish (addUpdateFar msg
    { farId := 2, applyAction := actionForw, destInterface := interfaceAccess
      outerHeaderCreation := some { teid := 0xdeadbeef, peerAddr := gnbAddr, port := 2152 } })

def scenarioDeletion (seq : UInt32) (upfSeid : UInt64) : Bytes :=
  finish (PfcpHeader.newSessionMsg pfcpSessionDeletionReq upfSeid seq).encode

/-- What comes of a request: `send_and_recv(..).await?` and `validate_response(..)?`. -/
def validated (reqType : UInt8) (seq : UInt32) (result : Except CallError Bytes) :
    Except ScenarioError Bytes := do
  let rsp ← result.mapError .call
  let _ ← (validateResponse reqType seq rsp).mapError .validate
  return rsp

namespace Stage

def ofExcept : Except ScenarioError Stage → Stage
  | .ok stage => stage
  | .error e => .failed e

/-- From the end of the loop to the Session Establishment Request. -/
def establish (checks : Bool) (sim : SimState) : Stage :=
  match sim.allocUeIp with
  | none => .failed .poolExhausted
  | some (ueIp, sim₁) =>
    let stage : Option Stage := do
      let _ ← settle checks (overflowingAdd sim.nextUeIp 1)
      let (gnbTeid, sim₂) := sim₁.allocGnbTeid
      let _ ← settle checks (overflowingAdd sim₁.nextGnbTeid 1)
      let (cpSeid, sim₃) := sim₂.allocCpSeid
      let _ ← settle checks (overflowingAddWide sim₂.nextCpSeid 1)
      let (seq, sim₄) ← sim₃.takeSeqNum checks
      return .establishing sim₄ seq cpSeid ueIp gnbTeid
    stage.getD .panicked

/-- On with the request that comes next, under the next sequence number. -/
def proceed (checks : Bool) (sim : SimState) (next : SimState → UInt32 → Stage) : Stage :=
  match sim.takeSeqNum checks with
  | some (seq, sim) => next sim seq
  | none => .panicked

/-- What follows on the end of `send_and_recv`. -/
def conclude (checks : Bool) (cfg : Config) (ts : UInt32) (result : Except CallError Bytes) :
    Stage → Stage
  | associating l =>
    let l := l.step checks cfg ts result
    match l.status with
    | .trying => associating l
    | .accepted _ => establish checks l.sim
    | .panicked => panicked
  | establishing sim seq cpSeid ueIp gnbTeid => ofExcept do
    let rsp ← validated pfcpSessionEstablishmentReq seq result
    let (upfSeid, upfTeid, upfN3Addr) ← (extractSessionInfo rsp).mapError .extract
    let s : SimSession := { cpSeid, upfSeid, upfTeid, upfN3Addr, ueIp, gnbTeid }
    return waiting { sim with sessions := sim.sessions.insert cpSeid s } s
  | modifying sim seq s => ofExcept do
    let _ ← validated pfcpSessionModificationReq seq result
    return proceed checks sim (deleting · · s)
  | deleting sim seq s => ofExcept do
    let _ ← validated pfcpSessionDeletionReq seq result
    return passed { sim with sessions := sim.sessions.erase s.cpSeid }
  | stage => stage

/-- The sleep is over. -/
def wake (checks : Bool) : Stage → Stage
  | waiting sim s => proceed checks sim (modifying · · s)
  | stage => stage

/-- The request that is under way. -/
def message (cfg : Config) (ts : UInt32) : Stage → Option Bytes
  | associating l => some (associationRequest l.sim.nextSeq cfg.smfN4Addr ts)
  | establishing _ seq cpSeid ueIp gnbTeid =>
    some (scenarioEstablishment seq cpSeid cfg.smfN4Addr ueIp cfg.gnbAddr gnbTeid)
  | modifying _ seq s => some (scenarioModification seq s.upfSeid cfg.gnbAddr)
  | deleting _ seq s => some (scenarioDeletion seq s.upfSeid)
  | waiting .. | passed _ | failed _ | panicked => none

end Stage

/-! ### The scenario and the UPF -/

/-- The scenario, the call it is in and the reply that is under way to it, and the UPF. -/
structure Bench where
  upf : Audit
  stage : Stage
  call : Option Call
  reply : Option Bytes

/-- The turns of the scenario, and what others do. -/
inductive Bench.Turn where
  | deliver
  | receive
  | wake
  | other
  deriving DecidableEq, Repr

inductive Bench.Act where
  /-- The request is sent, and the UPF receives it. -/
  | deliver (env : Env) (now : Instant)
  /-- The scenario receives the reply. -/
  | receive (clock : UInt32)
  /-- The sleep is over. -/
  | wake
  /-- The scenario receives something else. -/
  | stray (clock : UInt32) (data : Bytes)
  /-- Something else happens to the UPF. -/
  | upf (ev : Event)

def Bench.Act.turn : Bench.Act → Bench.Turn
  | deliver .. => .deliver
  | receive _ => .receive
  | wake => .wake
  | stray .. | upf _ => .other

/-- Where the scenario sends from. -/
def Config.source (cfg : Config) : SocketAddr := .v4 cfg.smfN4Addr cfg.smfN4Port

namespace Bench

section

variable (host : Host) (checks : Bool) (cfg : Config) (ts : UInt32)

/-- The scenario goes on to a stage, and enters its call with a request that decodes
(`sending_enter`). -/
def enter (stage : Stage) (s : Bench) : Bench :=
  { s with
    stage
    call := (stage.message cfg ts).bind fun msg => (Request.ofMsg msg).toOption.map .start }

def start (b : Boot) : Bench :=
  enter cfg ts (.associating (.start cfg))
    { upf := .init b, stage := .panicked, call := none, reply := none }

/-- The call, if it waits, reads a datagram. -/
def read (clock : UInt32) (data : Bytes) (s : Bench) : Bench :=
  match s.call with
  | some ⟨req, .receiving attempt⟩ =>
    match (Call.onDatagram clock (cut data) ⟨req, .receiving attempt⟩).1 with
    | ⟨_, .returned rsp⟩ => s.enter cfg ts (s.stage.conclude checks cfg ts (.ok rsp))
    | call => { s with call := some call }
  | _ => s

/-- The reply of the UPF: an empty one is not sent. -/
def replyOf : Except HandleError Bytes → Option Bytes
  | .ok [] | .error _ => none
  | .ok rsp => some rsp

def step (s : Bench) : Act → Bench
  | .deliver env now =>
    match s.call with
    | some ⟨req, .sending attempt⟩ =>
      { s with
        upf := s.upf.step host (.datagram env now req.msg cfg.source)
        call := some (Call.onSent (.ok ()) ⟨req, .sending attempt⟩)
        reply := replyOf (receive host env now req.msg cfg.source s.upf.world).1 }
    | _ => s
  | .receive clock =>
    match s.reply with
    | some rsp => { s.read checks cfg ts clock rsp with reply := none }
    | none => s
  | .wake =>
    match s.stage with
    | .waiting .. => s.enter cfg ts (s.stage.wake checks)
    | _ => s
  | .stray clock data => s.read checks cfg ts clock data
  | .upf ev => { s with upf := s.upf.step host ev }

end

end Bench

/-! ### The requests -/

/-- The session that the scenario asks for, if its packets are to go to the TEID. -/
def Config.wish (cfg : Config) (gnbTeid : UInt32) : Wish where
  kind := .basicLifecycle
  seq := 2
  cpSeid := 1
  smfAddr := cfg.smfN4Addr
  ueIp := cfg.ueIpPoolStart
  gnbAddr := cfg.gnbAddr
  gnbTeid := gnbTeid

section Messages

/-- The UPF's receive buffer holds a message with a short body. -/
theorem received_of_decode {msg body : Bytes} {header : PfcpHeader}
    (hd : PfcpHeader.decode msg = .ok (header, body)) (h : body.length ≤ 4000) :
    received msg = msg := by
  have hlen := PfcpHeader.length_le_body hd
  exact List.take_of_length_le (by omega)

theorem ofNat_mod_seq {seq : UInt32} (h : seq.toNat < 2 ^ 24) :
    UInt32.ofNat (seq.toNat % 2 ^ 24) = seq := by
  rw [Nat.mod_eq_of_lt h, UInt32.ofNat_toNat]

/-- A request as both sides read it. -/
structure Reads (msg : Bytes) (t : UInt8) (seq : UInt32) (seid : Option UInt64) (body : Bytes) :
    Prop where
  decodes : ∃ header, PfcpHeader.decode msg = .ok (header, body) ∧ header.msgType = t ∧
    header.seqNum = seq ∧ header.seid = seid
  fits : received msg = msg

theorem reads_sessionMsg (t : UInt8) {seq : UInt32} (hseq : seq.toNat < 2 ^ 24) (seid : UInt64)
    {body : Bytes} (h : body.length ≤ 4000) :
    Reads (finish ((PfcpHeader.newSessionMsg t seid seq).encode ++ body)) t seq (some seid)
      body := by
  have hd := decode_newSessionMsg t seid seq body
  exact ⟨⟨_, hd, rfl, ofNat_mod_seq hseq, rfl⟩, received_of_decode hd h⟩

/-- The IEs of an Association Setup Request. -/
def setupIes (addr : Ipv4Addr) (ts : UInt32) : List (UInt16 × Bytes) :=
  [(pfcpIeNodeId, 0x00 :: addr.octets), (pfcpIeRecoveryTimeStamp, u32ToBe ts)]

theorem setupIes_short (addr : Ipv4Addr) (ts : UInt32) :
    ∀ ie ∈ setupIes addr ts, ie.2.length < 20 := by
  simp [setupIes, Ipv4Addr.octets, u32ToBe, length_bytesBe]

theorem decode_setupIes (addr : Ipv4Addr) (ts : UInt32) :
    AssociationSetupReq.decode ((setupIes addr ts).flatMap ieBytes) = .ok ⟨addr, ts⟩ := by
  have hfit := fun ie hie => (setupIes_short addr ts ie hie).trans (show 20 < 65536 by decide)
  have hne : pfcpIeNodeId ≠ pfcpIeRecoveryTimeStamp := by decide
  have hts : parseRecoveryTimestamp (u32ToBe ts) = .ok ts := by
    obtain ⟨b₀, b₁, b₂, b₃, hb⟩ : ∃ b₀ b₁ b₂ b₃, u32ToBe ts = [b₀, b₁, b₂, b₃] :=
      ⟨_, _, _, _, rfl⟩
    have hval := u32OfBe_u32ToBe ts
    rw [hb] at hval ⊢
    simp [parseRecoveryTimestamp, hval]
  unfold AssociationSetupReq.decode
  simp only [requireIe_flatMap hfit]
  simp [setupIes, hne, parseNodeId_octets, hts, Except.mapError, bind, Except.bind, pure,
    Except.pure]

theorem reads_associationRequest {seq : UInt32} (hseq : seq.toNat < 2 ^ 24) (addr : Ipv4Addr)
    (ts : UInt32) : Reads (associationRequest seq addr ts) pfcpAssociationSetupReq seq none
      ((setupIes addr ts).flatMap ieBytes) := by
  have hmsg : associationRequest seq addr ts =
      finish ((PfcpHeader.newNodeMsg pfcpAssociationSetupReq seq).encode ++
        (setupIes addr ts).flatMap ieBytes) := by
    simp [associationRequest, addNodeIdV4, addRecoveryTimestamp, appendIe_eq, setupIes]
  have hlen := length_flatMap_ieBytes (setupIes_short addr ts)
  have hcount : (setupIes addr ts).length = 2 := rfl
  have hd := decode_newNodeMsg pfcpAssociationSetupReq seq ((setupIes addr ts).flatMap ieBytes)
  rw [← hmsg] at hd
  exact ⟨⟨_, hd, rfl, ofNat_mod_seq hseq, rfl⟩, received_of_decode hd (by omega)⟩

theorem reads_establishment (cfg : Config) : ∃ body,
    Reads (cfg.wish cfg.gnbTeidStart).message pfcpSessionEstablishmentReq 2 (some 0) body := by
  have hseq : (2 : UInt32).toNat < 2 ^ 24 := by decide
  have hd := decode_newSessionMsg pfcpSessionEstablishmentReq 0 2
    (((cfg.wish cfg.gnbTeidStart).calls.map RequestCall.ie).flatMap ieBytes)
  rw [show (2 : UInt32) = (cfg.wish cfg.gnbTeidStart).seqNum from rfl, ← Wish.message_eq] at hd
  exact ⟨_, ⟨_, hd, rfl, ofNat_mod_seq hseq, rfl⟩, Wish.received_message _⟩

/-- The FAR of the modification. -/
def Config.newTunnel (cfg : Config) : FarParams := (cfg.wish 0xdeadbeef).toGnb

theorem reads_modification (cfg : Config) (upfSeid : UInt64) : ∃ body,
    Reads (scenarioModification 3 upfSeid cfg.gnbAddr) pfcpSessionModificationReq 3 (some upfSeid)
        body ∧
      SessionModificationReq.decode body =
        .ok { cpSeid := none, smfAddr := none, updateFars := [cfg.newTunnel.parsed]
              updateUrrs := [] } := by
  have hin : ∀ c ∈ [RequestCall.updateFar cfg.newTunnel], c.InRange := by
    intro c hc
    obtain rfl := List.mem_singleton.mp hc
    show interfaceAccess < 16
    decide
  have hmsg : scenarioModification 3 upfSeid cfg.gnbAddr =
      finish ((PfcpHeader.newSessionMsg pfcpSessionModificationReq upfSeid 3).encode ++
        ([RequestCall.updateFar cfg.newTunnel].map RequestCall.ie).flatMap ieBytes) := by
    rw [← RequestCall.foldl_apply]
    rfl
  have hshort : ∀ ie ∈ [RequestCall.updateFar cfg.newTunnel].map RequestCall.ie,
      ie.2.length < 433 := by
    intro ie hie
    obtain ⟨c, -, rfl⟩ := List.mem_map.mp hie
    exact Wish.length_ie c
  have hlen := length_flatMap_ieBytes hshort
  rw [List.length_map, List.length_singleton] at hlen
  rw [hmsg]
  exact ⟨_, reads_sessionMsg _ (by decide) upfSeid (by omega), decode_modification hin⟩

theorem reads_deletion (upfSeid : UInt64) :
    Reads (scenarioDeletion 4 upfSeid) pfcpSessionDeletionReq 4 (some upfSeid) [] := by
  have hseq : (4 : UInt32).toNat < 2 ^ 24 := by decide
  have hlen : ([] : Bytes).length ≤ 4000 := by decide
  have h := reads_sessionMsg pfcpSessionDeletionReq hseq upfSeid hlen
  rwa [List.append_nil] at h

end Messages

/-! ### The places of the scenario -/

/-- The turns of the scenario, in their order. -/
def script : List Bench.Turn :=
  [.deliver, .receive, .deliver, .receive, .wake, .deliver, .receive, .deliver, .receive]

/-- The call is about to send a request. -/
structure Sending (msg : Bytes) (call : Option Call) (reply : Option Bytes) : Prop where
  call : ∃ req, call = some (.start req) ∧ req.msg = msg
  reply : reply = none

/-- The reply to a request is under way. -/
structure Awaiting (t : UInt8) (seq : UInt32) (rsp : Bytes) (call : Option Call)
    (reply : Option Bytes) : Prop where
  call : ∃ req, call = some ⟨req, .receiving 0⟩ ∧ req.header.msgType = t
  reply : reply = some rsp
  fits : cut rsp = rsp
  accepted : ∃ header, Accepted header rsp ∧ header.msgType = t ∧ header.seqNum = seq

/-- The simulator knows its one session. -/
def SimState.Knows (sim : SimState) (s : SimSession) : Prop :=
  sim.sessions = Table.insert ∅ s.cpSeid s

/-- Where the scenario is after some turns of the script, with `seid` the SEID that the UPF has
given to the session. -/
inductive Place (cfg : Config) (ts : UInt32) (seid : UInt64) :
    ℕ → Stage → Option Call → Option Bytes → Prop
  | associating {call reply} (h : Sending (associationRequest 1 cfg.smfN4Addr ts) call reply) :
    Place cfg ts seid 0 (.associating (.start cfg)) call reply
  | associated {rsp call reply} (h : Awaiting pfcpAssociationSetupReq 1 rsp call reply) :
    Place cfg ts seid 1 (.associating (.start cfg)) call reply
  | establishing {sim call reply} (hnext : sim.nextSeq = 3) (hnone : sim.sessions = ∅)
    (h : Sending (cfg.wish cfg.gnbTeidStart).message call reply) :
    Place cfg ts seid 2 (.establishing sim 2 1 cfg.ueIpPoolStart cfg.gnbTeidStart) call reply
  | established {sim rsp call reply upfTeid upfN3Addr} (hnext : sim.nextSeq = 3)
    (hnone : sim.sessions = ∅) (h : Awaiting pfcpSessionEstablishmentReq 2 rsp call reply)
    (hinfo : extractSessionInfo rsp = .ok (seid, upfTeid, upfN3Addr)) :
    Place cfg ts seid 3 (.establishing sim 2 1 cfg.ueIpPoolStart cfg.gnbTeidStart) call reply
  | waiting {sim s} (hnext : sim.nextSeq = 3) (hknows : sim.Knows s) (hseid : s.upfSeid = seid) :
    Place cfg ts seid 4 (.waiting sim s) none none
  | modifying {sim s call reply} (hnext : sim.nextSeq = 4) (hknows : sim.Knows s)
    (hseid : s.upfSeid = seid) (h : Sending (scenarioModification 3 seid cfg.gnbAddr) call reply) :
    Place cfg ts seid 5 (.modifying sim 3 s) call reply
  | modified {sim s rsp call reply} (hnext : sim.nextSeq = 4) (hknows : sim.Knows s)
    (hseid : s.upfSeid = seid) (h : Awaiting pfcpSessionModificationReq 3 rsp call reply) :
    Place cfg ts seid 6 (.modifying sim 3 s) call reply
  | deleting {sim s call reply} (hknows : sim.Knows s) (hseid : s.upfSeid = seid)
    (h : Sending (scenarioDeletion 4 seid) call reply) :
    Place cfg ts seid 7 (.deleting sim 4 s) call reply
  | deleted {sim s rsp call reply} (hknows : sim.Knows s)
    (h : Awaiting pfcpSessionDeletionReq 4 rsp call reply) :
    Place cfg ts seid 8 (.deleting sim 4 s) call reply
  | passed {sim} (hnone : ∀ k, sim.sessions.lookup k = none) :
    Place cfg ts seid 9 (.passed sim) none none

section Places

variable {host : Host} {checks : Bool} {cfg : Config} {ts : UInt32} {seid : UInt64} {n : ℕ}
  {s : Bench}

/-- A turn that is not the next one of the script does nothing. -/
theorem Place.idle (h : Place cfg ts seid n s.stage s.call s.reply) {act : Bench.Act}
    (hturn : script[n]? ≠ some act.turn) (hother : act.turn ≠ .other) :
    s.step host checks cfg ts act = s := by
  obtain ⟨upf, stage, call, reply⟩ := s
  change Place cfg ts seid n stage call reply at h
  cases h with
  | associating h | establishing _ _ h | modifying _ _ _ h | deleting _ _ h =>
    obtain ⟨⟨req, rfl, -⟩, rfl⟩ := h
    cases act with
    | deliver => exact absurd rfl hturn
    | receive | wake => rfl
    | stray | upf => exact absurd rfl hother
  | associated h | established _ _ h | modified _ _ _ h | deleted _ h =>
    obtain ⟨⟨req, rfl, -⟩, rfl, -, -⟩ := h
    cases act with
    | receive => exact absurd rfl hturn
    | deliver | wake => rfl
    | stray | upf => exact absurd rfl hother
  | waiting =>
    cases act with
    | wake => exact absurd rfl hturn
    | deliver | receive => rfl
    | stray | upf => exact absurd rfl hother
  | passed =>
    cases act with
    | deliver | receive | wake => rfl
    | stray | upf => exact absurd rfl hother

/-- A datagram that the call does not wait for is passed over. -/
theorem read_of_ne {clock : UInt32} {data : Bytes}
    (h : ∀ req attempt, s.call = some ⟨req, .receiving attempt⟩ → ∀ header body,
      PfcpHeader.decode (cut data) = .ok (header, body) → header.msgType ≠ req.expectedRspType) :
    s.read checks cfg ts clock data = s := by
  obtain ⟨upf, stage, call, reply⟩ := s
  rcases call with _ | ⟨req, _ | attempt | _ | _⟩
  · rfl
  · rfl
  · have hsame : (Call.onDatagram clock (cut data) ⟨req, .receiving attempt⟩).1 =
        ⟨req, .receiving attempt⟩ := by
      rw [Call.onDatagram]
      cases hd : PfcpHeader.decode (cut data) with
      | error e => rfl
      | ok p => simp only [if_neg (h req attempt rfl p.1 p.2 hd)]
    simp only [Bench.read, hsame]
  · rfl
  · rfl

/-- The scenario reads the reply that it waits for. -/
theorem Awaiting.receive {t : UInt8} {seq : UInt32} {rsp : Bytes}
    (h : Awaiting t seq rsp s.call s.reply) (clock : UInt32) :
    s.step host checks cfg ts (.receive clock) =
      { s.enter cfg ts (s.stage.conclude checks cfg ts (.ok rsp)) with reply := none } := by
  obtain ⟨⟨req, hcall, ht⟩, hreply, hfits, header, ⟨⟨header', body', hd, ht', -⟩, -⟩, hht, -⟩ := h
  have htype : header'.msgType = (Call.mk req (.receiving 0)).req.expectedRspType := by
    rw [ht', hht, ← ht]
    rfl
  have hread := Call.onDatagram_of_type clock hd htype
  simp only [Bench.step, hreply, Bench.read, hcall, hfits, hread]

theorem Awaiting.validated {t : UInt8} {seq : UInt32} {rsp : Bytes} {call : Option Call}
    {reply : Option Bytes} (h : Awaiting t seq rsp call reply) :
    validateResponse t seq rsp = .ok () ∧ SmfSim.validated t seq (.ok rsp) = .ok rsp := by
  obtain ⟨-, -, -, header, ⟨-, hvalid⟩, rfl, rfl⟩ := h
  exact ⟨hvalid, by simp [SmfSim.validated, hvalid, Except.mapError, bind, Except.bind, pure,
    Except.pure]⟩

theorem ofMsg_of_decode {msg body : Bytes} {header : PfcpHeader}
    (hd : PfcpHeader.decode msg = .ok (header, body)) :
    Request.ofMsg msg = .ok ⟨msg, header, body, hd⟩ := by
  unfold Request.ofMsg
  split
  · next header' body' hd' =>
    obtain ⟨rfl, rfl⟩ := Prod.mk.inj (Except.ok.inj (hd.symm.trans hd'))
    rfl
  · next e hd' => cases hd.symm.trans hd'

/-- The scenario enters the call of a stage. -/
theorem sending_enter (s : Bench) {stage : Stage} {msg body : Bytes} {t : UInt8} {seq : UInt32}
    {target : Option UInt64} (hm : stage.message cfg ts = some msg)
    (hr : Reads msg t seq target body) : Sending msg (s.enter cfg ts stage).call none := by
  obtain ⟨⟨header, hd, -⟩, -⟩ := hr
  refine ⟨⟨⟨msg, header, body, hd⟩, ?_, rfl⟩, rfl⟩
  simp only [Bench.enter, hm, Option.bind_some, ofMsg_of_decode hd]
  rfl

/-! ### One stage after another -/

theorem takeSeqNum_eq {sim : SimState} (h : sim.nextSeq.toNat + 1 < 2 ^ 32) :
    sim.takeSeqNum checks = some sim.nextSeqNum := by
  have hone : (1 : UInt32).toNat = 1 := rfl
  have hover : (overflowingAdd sim.nextSeq 1).2 = false := by
    simp only [overflowingAdd, decide_eq_false_iff_not]
    omega
  unfold SimState.takeSeqNum
  rw [Retry.settle_of_false hover]
  rfl

/-- The configuration has an address and a TEID for the session, and the counters stay within their
words if that is checked. -/
structure Config.HasRoom (checks : Bool) (cfg : Config) : Prop where
  pool : cfg.ueIpPoolStart.toU32 ≤ cfg.ueIpPoolEnd.toU32
  address : checks → cfg.ueIpPoolStart.toU32.toNat + 1 < 2 ^ 32
  teid : checks → cfg.gnbTeidStart.toNat + 1 < 2 ^ 32

theorem settle_of_checked {α : Type} {r : α × Bool} (h : checks → r.2 = false) :
    settle checks r = some r.1 := by
  cases checks with
  | true => exact Retry.settle_of_false (h rfl)
  | false => rfl

/-- The pool of addresses gives back the address that it starts from. -/
theorem ipv4OfU32_toU32 (ip : Ipv4Addr) : ipv4OfU32 ip.toU32 = ip := by
  obtain ⟨a, b, c, d⟩ := ip
  have ha := a.toNat_lt
  have hb := b.toNat_lt
  have hc := c.toNat_lt
  have hd := d.toNat_lt
  have hval : natOfBe [a, b, c, d] =
      a.toNat * 16777216 + b.toNat * 65536 + c.toNat * 256 + d.toNat := by
    simp [natOfBe]
    ring
  have htoNat : (u32OfBe [a, b, c, d]).toNat =
      a.toNat * 16777216 + b.toNat * 65536 + c.toNat * 256 + d.toNat := by
    rw [u32OfBe, hval, UInt32.toNat_ofNat_of_lt']
    simp only [UInt32.size]
    omega
  simp only [ipv4OfU32, Ipv4Addr.toU32, Ipv4Addr.octets, Ipv4Addr.mk.injEq]
  refine ⟨?_, ?_, ?_, ?_⟩
  all_goals
    apply UInt8.toNat_inj.mp
    simp only [UInt32.toNat_toUInt8, UInt32.toNat_shiftRight, htoNat, Nat.shiftRight_eq_div_pow,
      UInt32.reduceToNat, Nat.reduceMod, Nat.reducePow]
    omega

theorem establish_eq (h : cfg.HasRoom checks) : ∃ sim : SimState, sim.nextSeq = 3 ∧
    sim.sessions = ∅ ∧ Stage.establish checks (SimState.new cfg).nextSeqNum.2 =
      .establishing sim 2 1 cfg.ueIpPoolStart cfg.gnbTeidStart := by
  obtain ⟨hpool, haddress, hteid⟩ := h
  have hone : (1 : UInt32).toNat = 1 := rfl
  have hip : settle checks (overflowingAdd cfg.ueIpPoolStart.toU32 1) =
      some (cfg.ueIpPoolStart.toU32 + 1) :=
    settle_of_checked fun hc => decide_eq_false (by have := haddress hc; omega)
  have hgnb : settle checks (overflowingAdd cfg.gnbTeidStart 1) = some (cfg.gnbTeidStart + 1) :=
    settle_of_checked fun hc => decide_eq_false (by have := hteid hc; omega)
  have hseid : settle checks (overflowingAddWide 1 1) = some 2 := Retry.settle_of_false rfl
  have hseq : settle checks (overflowingAdd 2 1) = some 3 := Retry.settle_of_false rfl
  have halloc : (SimState.new cfg).nextSeqNum.2.allocUeIp = some (ipv4OfU32 cfg.ueIpPoolStart.toU32,
      { (SimState.new cfg).nextSeqNum.2 with nextUeIp := cfg.ueIpPoolStart.toU32 + 1 }) :=
    if_pos hpool
  refine ⟨{ SimState.new cfg with
    nextUeIp := cfg.ueIpPoolStart.toU32 + 1
    nextGnbTeid := cfg.gnbTeidStart + 1
    nextCpSeid := 2
    nextSeq := 3 }, rfl, rfl, ?_⟩
  rw [Stage.establish, halloc]
  show Option.getD ((settle checks (overflowingAdd cfg.ueIpPoolStart.toU32 1)).bind fun _ =>
    (settle checks (overflowingAdd cfg.gnbTeidStart 1)).bind fun _ =>
    (settle checks (overflowingAddWide 1 1)).bind fun _ =>
    ((settle checks (overflowingAdd 2 1)).bind fun _ => _).bind fun _ => _) _ = _
  rw [hip, hgnb, hseid, hseq, ipv4OfU32_toU32]
  rfl

/-- The loop ends with the first reply. -/
theorem conclude_associating {rsp : Bytes}
    (h : validateResponse pfcpAssociationSetupReq 1 rsp = .ok ()) :
    (Stage.associating (.start cfg)).conclude checks cfg ts (.ok rsp) =
      .establish checks (SimState.new cfg).nextSeqNum.2 := by
  have hseq : settle checks (overflowingAdd (Retry.start cfg).sim.nextSeq 1) = some 2 :=
    Retry.settle_of_false rfl
  have htries : settle checks (overflowingAdd (Retry.start cfg).cntTries 1) = some 1 :=
    Retry.settle_of_false rfl
  have hfst : (Retry.start cfg).sim.nextSeqNum.1 = 1 := rfl
  have hround : (Retry.start cfg).round checks cfg ts (.ok rsp) = some
      { Retry.start cfg with
        status := .accepted rsp
        cntTries := 1
        sim := (SimState.new cfg).nextSeqNum.2
        sent := [associationRequest 1 cfg.smfN4Addr ts] } := by
    simp only [Retry.round, bind, Option.bind_some, hseq, htries, hfst, h]
    rfl
  have htrying : (Retry.start cfg).status = .trying := rfl
  rw [Stage.conclude, Retry.step, if_pos htrying, hround]
  rfl

end Places

/-! ### What the scenario stands on -/

/-- The TEID of the tunnel for the UE after some turns of the script. -/
def Config.tunnelAfter (cfg : Config) (n : ℕ) : Option UInt32 :=
  if n ≤ 2 then none
  else if n ≤ 5 then some cfg.gnbTeidStart
  else if n ≤ 7 then some 0xdeadbeef
  else none

/-- What the frames of the UE get, by the tunnel. -/
def Config.treats (cfg : Config) (e : Endian) (tunnel : Option UInt32) (fr : Frame) : Verdict :=
  match tunnel with
  | none => .pass
  | some gnbTeid => (cfg.wish gnbTeid).treats e (cfg.gnbAddr, gnbTeid) fr

/-- The UPF has no service for the UE, or that of the session with a tunnel. -/
def Config.Serves (host : Host) (cfg : Config) (a : Audit) : Option UInt32 → Prop
  | none => a.maps.directory host.endian cfg.ueIpPoolStart = none
  | some gnbTeid => ∃ n3Addr teid gnbInfo, a.maps.directory host.endian cfg.ueIpPoolStart =
      some ((cfg.wish gnbTeid).service host.endian n3Addr teid gnbInfo)

/-- What the scenario has of the UPF after some turns of the script. -/
structure Footing (host : Host) (cfg : Config) (seid : UInt64) (n : ℕ) (a : Audit) : Prop where
  upright : a.Upright host
  positive : a.srv.nextSeid ≠ 0
  associated : 1 ≤ n → a.Associated cfg.smfN4Addr cfg.source
  held : 3 ≤ n ∧ n ≤ 7 → a.Held cfg.source seid cfg.ueIpPoolStart
  serves : cfg.Serves host a (cfg.tunnelAfter n)

section Footing

variable {host : Host} {cfg : Config} {seid : UInt64} {n : ℕ} {a : Audit} {ev : Event}

theorem serves_of_directory {tunnel : Option UInt32} {a' : Audit} (h : cfg.Serves host a tunnel)
    (hd : a'.maps.directory host.endian cfg.ueIpPoolStart =
      a.maps.directory host.endian cfg.ueIpPoolStart) : cfg.Serves host a' tunnel := by
  cases tunnel with
  | none => exact hd.trans h
  | some gnbTeid =>
    obtain ⟨n3Addr, teid, gnbInfo, h⟩ := h
    exact ⟨n3Addr, teid, gnbInfo, hd.trans h⟩

theorem nextSeid_ne_zero (hp : a.Proper host ev) (h : a.srv.nextSeid ≠ 0) :
    (a.step host ev).srv.nextSeid ≠ 0 := by
  rw [(Audit.step_counters host a ev).1]
  split_ifs with hiss
  · have hone : (1 : UInt64).toNat = 1 := rfl
    have hlt := hp.fits.below hiss
    intro h0
    have hsum := congrArg UInt64.toNat h0
    rw [UInt64.toNat_add, hone, Nat.mod_eq_of_lt (by omega)] at hsum
    simp at hsum
  · rwa [UInt64.add_zero]

/-- What happens to the other UEs leaves it as it is. -/
theorem Footing.step_others (h : Footing host cfg seid n a) (hp : a.Proper host ev)
    (ho : ∀ o ∈ a.order host ev, o.ueIp ≠ cfg.ueIpPoolStart) :
    Footing host cfg seid n (a.step host ev) where
  upright := h.upright.step hp
  positive := nextSeid_ne_zero hp h.positive
  associated := fun hn => (h.associated hn).step hp.oneSetup
  held := fun hn => (h.held hn).step h.upright fun heq => ho _ heq rfl
  serves := serves_of_directory h.serves (Audit.directory_of_others h.upright.tidy hp.fits ho)

/-- The turns in which nothing is sent. -/
theorem Footing.succ (h : Footing host cfg seid n a) (hn : n ∈ [1, 3, 4, 6, 8]) :
    Footing host cfg seid (n + 1) a := by
  have htunnel : cfg.tunnelAfter (n + 1) = cfg.tunnelAfter n := by
    simp only [List.mem_cons, List.not_mem_nil, or_false] at hn
    rcases hn with rfl | rfl | rfl | rfl | rfl <;> rfl
  simp only [List.mem_cons, List.not_mem_nil, or_false] at hn
  refine ⟨h.upright, h.positive, fun _ => h.associated (by omega), fun hb => h.held (by omega), ?_⟩
  rw [htunnel]
  exact h.serves

end Footing

/-! ### The requests at the UPF -/

section Requests

variable {host : Host} {cfg : Config} {s : Bench} {env : Env} {now : Instant}

/-- The UPF answers the request that the scenario sends. -/
theorem Sending.deliver (checks : Bool) (ts : UInt32) {msg body rsp : Bytes} {t : UInt8}
    {seq : UInt32} {target : Option UInt64} (h : Sending msg s.call s.reply)
    (hr : Reads msg t seq target body) (hmem : t ∈ requestTypes)
    (hrsp : (receive host env now msg cfg.source s.upf.world).1 = .ok rsp)
    (hlen : rsp.length ≤ 4096) :
    (s.step host checks cfg ts (.deliver env now)).upf =
        s.upf.step host (.datagram env now msg cfg.source) ∧
      (s.step host checks cfg ts (.deliver env now)).stage = s.stage ∧
      Awaiting t seq rsp (s.step host checks cfg ts (.deliver env now)).call
        (s.step host checks cfg ts (.deliver env now)).reply := by
  obtain ⟨⟨req, hcall, rfl⟩, -⟩ := h
  obtain ⟨⟨header, hd, rfl, rfl, -⟩, hfits⟩ := hr
  have haccepted : Accepted header rsp := accepted_of_receive (by rwa [hfits]) hmem hrsp
  have hheader : req.header = header := by
    obtain ⟨body', hd'⟩ := req.decodes
    exact (Prod.mk.inj (Except.ok.inj (hd'.symm.trans hd))).1
  have hreply : Bench.replyOf (.ok rsp) = some rsp := by
    obtain ⟨⟨header', body', hd', -⟩, -⟩ := haccepted
    cases rsp with
    | nil => cases hd'
    | cons => rfl
  have hstep : s.step host checks cfg ts (.deliver env now) =
      { s with
        upf := s.upf.step host (.datagram env now req.msg cfg.source)
        call := some ⟨req, .receiving 0⟩
        reply := some rsp } := by
    simp only [Bench.step, hcall, Call.start, Call.onSent, hrsp, hreply]
  rw [hstep]
  exact ⟨rfl, rfl, ⟨req, rfl, congrArg PfcpHeader.msgType hheader⟩, rfl,
    List.take_of_length_le hlen, header, haccepted, rfl, rfl⟩

end Requests

/-! ### The turns -/

/-- The scenario is at a place of its script, and the UPF gives it what it needs there. -/
def Bench.At (host : Host) (cfg : Config) (ts : UInt32) (n : ℕ) (s : Bench) : Prop :=
  ∃ seid, Place cfg ts seid n s.stage s.call s.reply ∧ Footing host cfg seid n s.upf

section Turns

variable {host : Host} {checks : Bool} {cfg : Config} {ts : UInt32} {seid : UInt64} {s : Bench}
  {env : Env} {now : Instant}

theorem deliver_associating (hstage : s.stage = .associating (.start cfg))
    (hs : Sending (associationRequest 1 cfg.smfN4Addr ts) s.call s.reply)
    (h : Footing host cfg seid 0 s.upf)
    (hp : s.upf.Proper host (.datagram env now (associationRequest 1 cfg.smfN4Addr ts) cfg.source))
    (hnew : s.upf.srv.associations.lookup cfg.smfN4Addr = none) :
    (s.step host checks cfg ts (.deliver env now)).At host cfg ts 1 := by
  have hseq : (1 : UInt32).toNat < 2 ^ 24 := by decide
  have hr := reads_associationRequest hseq cfg.smfN4Addr ts
  obtain ⟨header, hd, ht, -⟩ := hr.decodes
  rw [← hr.fits] at hd
  obtain ⟨hrsp, hassoc, horder⟩ :=
    Audit.associated_of_setup host env now cfg.source hd ht (decode_setupIes ..) hnew
  obtain ⟨hupf, hstage', hawait⟩ :=
    hs.deliver checks ts hr (by decide) hrsp (length_setupResponse ..)
  refine ⟨seid, ?_, ?_⟩
  · rw [hstage', hstage]
    exact .associated hawait
  · rw [hupf]
    refine ⟨h.upright.step hp, nextSeid_ne_zero hp h.positive, fun _ => hassoc,
      fun hn => absurd hn.1 (by decide), serves_of_directory h.serves ?_⟩
    refine Audit.directory_of_others h.upright.tidy hp.fits fun o ho => ?_
    rw [horder] at ho
    cases ho

theorem deliver_establishing {sim : SimState}
    (hstage : s.stage = .establishing sim 2 1 cfg.ueIpPoolStart cfg.gnbTeidStart)
    (hnext : sim.nextSeq = 3) (hnone : sim.sessions = ∅)
    (hs : Sending (cfg.wish cfg.gnbTeidStart).message s.call s.reply)
    (h : Footing host cfg seid 2 s.upf)
    (hp : s.upf.Proper host
      (.datagram env now (cfg.wish cfg.gnbTeidStart).message cfg.source))
    (hteid : s.upf.srv.nextTeid ≠ 0) :
    (s.step host checks cfg ts (.deliver env now)).At host cfg ts 3 := by
  obtain ⟨body, hr⟩ := reads_establishment cfg
  obtain ⟨header, hd, ht, -⟩ := hr.decodes
  rw [← hr.fits] at hd
  have hfound := (h.associated (by decide)).found env
  obtain ⟨assoc, hfind⟩ := Option.isSome_iff_exists.mp hfound
  have hest : establishes env (received (cfg.wish cfg.gnbTeidStart).message) cfg.source
      s.upf.world = some ((cfg.wish cfg.gnbTeidStart).req, assoc.2) :=
    Wish.establishes_message _ hfind
  have hue : (cfg.wish cfg.gnbTeidStart).req.createPdrs.findSome? (·.ueIp) =
      some cfg.ueIpPoolStart := rfl
  have hgnb : (cfg.wish cfg.gnbTeidStart).req.createFars.findSome? (·.outerHeaderCreation) =
      some { teid := cfg.gnbTeidStart, peerAddr := cfg.gnbAddr, port := 2152 } := rfl
  obtain ⟨hrsp, hheld⟩ :=
    Audit.held_of_establishes host now hd ht hest hue hgnb hp.fits.completes
  obtain ⟨gnbInfo, horder⟩ := order_message host now (cfg.wish cfg.gnbTeidStart) hfound
  have hcreated : (createdPdrs s.upf.srv.n3Addr s.upf.srv.nextTeid
      (cfg.wish cfg.gnbTeidStart).req.createPdrs).length ≤ 2 := length_createdPdrs ..
  obtain ⟨hupf, hstage', hawait⟩ := hs.deliver checks ts hr (by decide) hrsp
    (length_establishmentResponse _ _ _ _ hcreated)
  refine ⟨s.upf.srv.nextSeid, ?_, ?_⟩
  · rw [hstage', hstage]
    exact .established hnext hnone hawait (extractSessionInfo_createdPdrs _ s.upf.srv.n3Addr
      h.positive hteid (List.mem_cons_self ..) rfl)
  · rw [hupf]
    have hdir := Audit.directory_of_order h.upright.tidy hp.fits horder
    exact ⟨h.upright.step hp, nextSeid_ne_zero hp h.positive,
      fun _ => (h.associated (by decide)).step hp.oneSetup, fun _ => hheld,
      s.upf.srv.n3Addr, s.upf.srv.nextTeid, gnbInfo, hdir⟩

/-- The new tunnel becomes that of the service. -/
theorem updateFar_service (e : Endian) (n3Addr : Ipv4Addr) (teid gnbTeid : UInt32)
    (gnbInfo : OuterHeaderCreation) :
    ((cfg.wish gnbTeid).service e n3Addr teid gnbInfo).updateFar e cfg.newTunnel.parsed =
      (cfg.wish 0xdeadbeef).service e n3Addr 0xdeadbeef
        { teid := 0xdeadbeef, peerAddr := cfg.gnbAddr, port := 2152 } := by
  refine Service.ext ?_ rfl
  have hupdate : ∀ s : Service, (s.updateFar e cfg.newTunnel.parsed).rules =
      s.rules.map fun rule => (rule.1, if SameId rule.1.farId 2 then
        rule.2.map (setFar e { teid := 0xdeadbeef, peerAddr := cfg.gnbAddr, port := 2152 })
        else rule.2) := fun _ => rfl
  rw [hupdate, rules_service, rules_service, List.map_map]
  rfl

theorem deliver_modifying {sim : SimState} {x : SimSession}
    (hstage : s.stage = .modifying sim 3 x) (hnext : sim.nextSeq = 4) (hknows : sim.Knows x)
    (hseid : x.upfSeid = seid)
    (hs : Sending (scenarioModification 3 seid cfg.gnbAddr) s.call s.reply)
    (h : Footing host cfg seid 5 s.upf)
    (hp : s.upf.Proper host
      (.datagram env now (scenarioModification 3 seid cfg.gnbAddr) cfg.source)) :
    (s.step host checks cfg ts (.deliver env now)).At host cfg ts 6 := by
  obtain ⟨body, hr, hreq⟩ := reads_modification cfg seid
  obtain ⟨header, hd, ht, -, htarget⟩ := hr.decodes
  rw [← hr.fits] at hd
  have hheld := h.held (by decide)
  obtain ⟨⟨cpSeid, hrsp⟩, horder⟩ := hheld.modification h.upright env now hd ht htarget hreq
  obtain ⟨hupf, hstage', hawait⟩ := hs.deliver checks ts hr (by decide) hrsp
    (length_causeResponse ..)
  refine ⟨seid, ?_, ?_⟩
  · rw [hstage', hstage]
    exact .modified hnext hknows hseid hawait
  · rw [hupf]
    obtain ⟨n3Addr, teid, gnbInfo, hold⟩ := h.serves
    refine ⟨h.upright.step hp, nextSeid_ne_zero hp h.positive,
      fun _ => (h.associated (by decide)).step hp.oneSetup,
      fun _ => hheld.step h.upright (by rw [horder]; simp),
      n3Addr, 0xdeadbeef, { teid := 0xdeadbeef, peerAddr := cfg.gnbAddr, port := 2152 }, ?_⟩
    rw [← updateFar_service host.endian n3Addr teid cfg.gnbTeidStart gnbInfo]
    refine (Audit.directory_of_order h.upright.tidy hp.fits horder).trans ?_
    rw [show (Order.retunnel cfg.ueIpPoolStart _).ueIp = cfg.ueIpPoolStart from rfl, hold]
    rfl

theorem deliver_deleting {sim : SimState} {x : SimSession} (hstage : s.stage = .deleting sim 4 x)
    (hknows : sim.Knows x) (hs : Sending (scenarioDeletion 4 seid) s.call s.reply)
    (h : Footing host cfg seid 7 s.upf)
    (hp : s.upf.Proper host (.datagram env now (scenarioDeletion 4 seid) cfg.source)) :
    (s.step host checks cfg ts (.deliver env now)).At host cfg ts 8 := by
  have hr := reads_deletion seid
  obtain ⟨header, hd, ht, -, htarget⟩ := hr.decodes
  rw [← hr.fits] at hd
  obtain ⟨hrsp, horder⟩ := (h.held (by decide)).deletion h.upright env now hd ht htarget
  obtain ⟨hupf, hstage', hawait⟩ := hs.deliver checks ts hr (by decide) hrsp
    (length_causeResponse ..)
  refine ⟨seid, ?_, ?_⟩
  · rw [hstage', hstage]
    exact .deleted hknows hawait
  · rw [hupf]
    have hdir := Audit.directory_of_order h.upright.tidy hp.fits horder
    exact ⟨h.upright.step hp, nextSeid_ne_zero hp h.positive,
      fun _ => (h.associated (by decide)).step hp.oneSetup, fun hn => absurd hn.2 (by decide), hdir⟩

end Turns

/-! ### One turn after another -/

section Run

variable {host : Host} {checks : Bool} {cfg : Config} {ts : UInt32} {n : ℕ} {s : Bench}

theorem proceed_eq {sim : SimState} {next : SimState → UInt32 → Stage}
    (h : sim.nextSeq.toNat + 1 < 2 ^ 32) :
    Stage.proceed checks sim next = next { sim with nextSeq := sim.nextSeq + 1 } sim.nextSeq := by
  rw [Stage.proceed, takeSeqNum_eq h]
  rfl

theorem message_establishing (sim : SimState) :
    (Stage.establishing sim 2 1 cfg.ueIpPoolStart cfg.gnbTeidStart).message cfg ts =
      some (cfg.wish cfg.gnbTeidStart).message := by
  simp only [Stage.message, Wish.message, Config.wish]

/-- The association comes before the session. -/
theorem receive_associated {seid : UInt64} {rsp : Bytes} (hroom : cfg.HasRoom checks)
    (hstage : s.stage = .associating (.start cfg))
    (hawait : Awaiting pfcpAssociationSetupReq 1 rsp s.call s.reply)
    (h : Footing host cfg seid 1 s.upf) (clock : UInt32) :
    (s.step host checks cfg ts (.receive clock)).At host cfg ts 2 := by
  obtain ⟨sim, hnext, hnone, heq⟩ := establish_eq hroom
  obtain ⟨body, hr⟩ := reads_establishment cfg
  have hsending : Sending (cfg.wish cfg.gnbTeidStart).message
      (s.enter cfg ts (.establishing sim 2 1 cfg.ueIpPoolStart cfg.gnbTeidStart)).call none :=
    sending_enter s (message_establishing sim) hr
  rw [hawait.receive, hstage, conclude_associating hawait.validated.1, heq]
  exact ⟨seid, .establishing hnext hnone hsending, h.succ (by decide)⟩

/-- The session is stored. -/
theorem receive_established {seid : UInt64} {rsp : Bytes} {sim : SimState} {upfTeid : UInt32}
    {upfN3Addr : Ipv4Addr}
    (hstage : s.stage = .establishing sim 2 1 cfg.ueIpPoolStart cfg.gnbTeidStart)
    (hnext : sim.nextSeq = 3) (hnone : sim.sessions = ∅)
    (hawait : Awaiting pfcpSessionEstablishmentReq 2 rsp s.call s.reply)
    (hinfo : extractSessionInfo rsp = .ok (seid, upfTeid, upfN3Addr))
    (h : Footing host cfg seid 3 s.upf) (clock : UInt32) :
    (s.step host checks cfg ts (.receive clock)).At host cfg ts 4 := by
  have hconclude : s.stage.conclude checks cfg ts (.ok rsp) =
      .waiting
        { sim with
          sessions := sim.sessions.insert 1
            ⟨1, seid, upfTeid, upfN3Addr, cfg.ueIpPoolStart, cfg.gnbTeidStart⟩ }
        ⟨1, seid, upfTeid, upfN3Addr, cfg.ueIpPoolStart, cfg.gnbTeidStart⟩ := by
    simp only [hstage, Stage.conclude, hawait.validated.2, bind, Except.bind, hinfo,
      Except.mapError]
    rfl
  rw [hawait.receive, hconclude]
  refine ⟨seid, .waiting hnext ?_ rfl, h.succ (by decide)⟩
  rw [SimState.Knows, hnone]

theorem wake_waiting {seid : UInt64} {sim : SimState} {x : SimSession}
    (hstage : s.stage = .waiting sim x) (hreply : s.reply = none) (hnext : sim.nextSeq = 3)
    (hknows : sim.Knows x) (hseid : x.upfSeid = seid) (h : Footing host cfg seid 4 s.upf) :
    (s.step host checks cfg ts .wake).At host cfg ts 5 := by
  obtain ⟨body, hr, -⟩ := reads_modification cfg seid
  have hwake : s.stage.wake checks = .modifying { sim with nextSeq := 4 } 3 x := by
    rw [hstage, Stage.wake, proceed_eq (by rw [hnext]; decide), hnext]
    rfl
  have hmsg : (Stage.modifying { sim with nextSeq := 4 } 3 x).message cfg ts =
      some (scenarioModification 3 seid cfg.gnbAddr) := by
    rw [Stage.message, hseid]
  have hstep : s.step host checks cfg ts .wake = s.enter cfg ts (s.stage.wake checks) := by
    simp only [Bench.step, hstage]
  have hsending := sending_enter s hmsg hr
  rw [hstep, hwake]
  refine ⟨seid, ?_, h.succ (by decide)⟩
  rw [show (s.enter cfg ts _).reply = none from hreply]
  exact .modifying rfl hknows hseid hsending

theorem receive_modified {seid : UInt64} {rsp : Bytes} {sim : SimState} {x : SimSession}
    (hstage : s.stage = .modifying sim 3 x) (hnext : sim.nextSeq = 4) (hknows : sim.Knows x)
    (hseid : x.upfSeid = seid) (hawait : Awaiting pfcpSessionModificationReq 3 rsp s.call s.reply)
    (h : Footing host cfg seid 6 s.upf) (clock : UInt32) :
    (s.step host checks cfg ts (.receive clock)).At host cfg ts 7 := by
  have hconclude : s.stage.conclude checks cfg ts (.ok rsp) =
      .deleting { sim with nextSeq := 5 } 4 x := by
    rw [hstage, Stage.conclude, hawait.validated.2]
    show Stage.proceed checks sim (Stage.deleting · · x) = _
    rw [proceed_eq (by rw [hnext]; decide), hnext]
    rfl
  have hmsg : (Stage.deleting { sim with nextSeq := 5 } 4 x).message cfg ts =
      some (scenarioDeletion 4 seid) := by
    rw [Stage.message, hseid]
  rw [hawait.receive, hconclude]
  exact ⟨seid, .deleting hknows hseid (sending_enter s hmsg (reads_deletion seid)),
    h.succ (by decide)⟩

/-- The session is forgotten. -/
theorem receive_deleted {seid : UInt64} {rsp : Bytes} {sim : SimState} {x : SimSession}
    (hstage : s.stage = .deleting sim 4 x) (hknows : sim.Knows x)
    (hawait : Awaiting pfcpSessionDeletionReq 4 rsp s.call s.reply)
    (h : Footing host cfg seid 8 s.upf) (clock : UInt32) :
    (s.step host checks cfg ts (.receive clock)).At host cfg ts 9 := by
  have hconclude : s.stage.conclude checks cfg ts (.ok rsp) =
      .passed { sim with sessions := sim.sessions.erase x.cpSeid } := by
    rw [hstage, Stage.conclude, hawait.validated.2]
    rfl
  rw [hawait.receive, hconclude]
  refine ⟨seid, .passed fun k => ?_, h.succ (by decide)⟩
  show (sim.sessions.erase x.cpSeid).lookup k = none
  rw [Table.lookup_erase_ite, hknows, Table.lookup_insert_ite]
  split_ifs <;> rfl

/-! ### The whole run -/

/-- What the request of a stage asks of the UPF: not to know the node yet, and to have a TEID for
the session. -/
def Stage.Ready (cfg : Config) (a : Audit) : Stage → Prop
  | associating _ => a.srv.associations.lookup cfg.smfN4Addr = none
  | establishing .. => a.srv.nextTeid ≠ 0
  | waiting .. | modifying .. | deleting .. | passed _ | failed _ | panicked => True

/-- What an act must be like.  A request of the scenario finds the UPF ready and its tables in
order; what else the scenario receives is not of the type it waits for; and what else happens to
the UPF is in order, and about other UEs. -/
def Bench.Benign (host : Host) (cfg : Config) (s : Bench) : Bench.Act → Prop
  | .deliver env now =>
    (∀ c ∈ s.call, s.upf.Proper host (.datagram env now c.req.msg cfg.source)) ∧
      s.stage.Ready cfg s.upf
  | .stray _ data =>
    ∀ c ∈ s.call, ∀ p ∈ (PfcpHeader.decode (cut data)).toOption,
      p.1.msgType ≠ c.req.expectedRspType
  | .upf ev => s.upf.Proper host ev ∧ ∀ o ∈ s.upf.order host ev, o.ueIp ≠ cfg.ueIpPoolStart
  | .receive _ | .wake => True

instance (cfg : Config) (a : Audit) : ∀ stage : Stage, Decidable (stage.Ready cfg a)
  | .associating _ => inferInstanceAs (Decidable (_ = none))
  | .establishing .. => inferInstanceAs (Decidable (_ ≠ _))
  | .waiting .. | .modifying .. | .deleting .. | .passed _ | .failed _ | .panicked =>
    inferInstanceAs (Decidable True)

instance (host : Host) (cfg : Config) (s : Bench) : ∀ act, Decidable (s.Benign host cfg act)
  | .deliver .. =>
    @instDecidableAnd _ _ (Option.decidableForallMem _)
      (inferInstanceAs (Decidable (Stage.Ready ..)))
  | .stray .. => Option.decidableForallMem _
  | .upf _ => inferInstanceAs (Decidable (_ ∧ _))
  | .receive _ | .wake => inferInstanceAs (Decidable True)

theorem Sending.proper {msg : Bytes} {env : Env} {now : Instant}
    (h : Sending msg s.call s.reply)
    (hp : ∀ c ∈ s.call, s.upf.Proper host (.datagram env now c.req.msg cfg.source)) :
    s.upf.Proper host (.datagram env now msg cfg.source) := by
  obtain ⟨⟨req, hcall, rfl⟩, -⟩ := h
  exact hp _ hcall

/-- One act is one turn of the script. -/
theorem Bench.At.step (hroom : cfg.HasRoom checks) (h : s.At host cfg ts n) {act : Bench.Act}
    (hb : s.Benign host cfg act) :
    (s.step host checks cfg ts act).At host cfg ts (follow script n act.turn) := by
  obtain ⟨seid, hplace, hfooting⟩ := h
  by_cases hother : act.turn = .other
  · have hfollow : follow script n act.turn = n := by
      refine if_neg fun hn => ?_
      rw [hother] at hn
      exact absurd (List.mem_of_getElem? hn) (by decide)
    rw [hfollow]
    cases act with
    | deliver | receive | wake => cases hother
    | upf ev => exact ⟨seid, hplace, hfooting.step_others hb.1 hb.2⟩
    | stray clock data =>
      have hsame : s.step host checks cfg ts (.stray clock data) = s :=
        read_of_ne fun req attempt hcall header body hd =>
          hb _ hcall (header, body) (by rw [hd]; rfl)
      rw [hsame]
      exact ⟨seid, hplace, hfooting⟩
  by_cases hturn : script[n]? = some act.turn
  swap
  · rw [follow, if_neg hturn, hplace.idle hturn hother]
    exact ⟨seid, hplace, hfooting⟩
  rw [follow, if_pos hturn]
  obtain ⟨upf, stage, call, reply⟩ := s
  change Place cfg ts seid n stage call reply at hplace
  cases hplace with
  | associating hs =>
    cases act with
    | deliver env now =>
      obtain ⟨hp, hnew⟩ := hb
      exact deliver_associating rfl hs hfooting (hs.proper hp) hnew
    | receive | wake | stray | upf => cases hturn
  | associated hawait =>
    cases act with
    | receive clock => exact receive_associated hroom rfl hawait hfooting clock
    | deliver | wake | stray | upf => cases hturn
  | establishing hnext hnone hs =>
    cases act with
    | deliver env now =>
      obtain ⟨hp, hteid⟩ := hb
      exact deliver_establishing rfl hnext hnone hs hfooting (hs.proper hp) hteid
    | receive | wake | stray | upf => cases hturn
  | established hnext hnone hawait hinfo =>
    cases act with
    | receive clock => exact receive_established rfl hnext hnone hawait hinfo hfooting clock
    | deliver | wake | stray | upf => cases hturn
  | waiting hnext hknows hseid =>
    cases act with
    | wake => exact wake_waiting rfl rfl hnext hknows hseid hfooting
    | deliver | receive | stray | upf => cases hturn
  | modifying hnext hknows hseid hs =>
    cases act with
    | deliver env now =>
      exact deliver_modifying rfl hnext hknows hseid hs hfooting (hs.proper hb.1)
    | receive | wake | stray | upf => cases hturn
  | modified hnext hknows hseid hawait =>
    cases act with
    | receive clock => exact receive_modified rfl hnext hknows hseid hawait hfooting clock
    | deliver | wake | stray | upf => cases hturn
  | deleting hknows hseid hs =>
    cases act with
    | deliver env now =>
      exact deliver_deleting rfl hknows hs hfooting (hs.proper hb.1)
    | receive | wake | stray | upf => cases hturn
  | deleted hknows hawait =>
    cases act with
    | receive clock => exact receive_deleted rfl hknows hawait hfooting clock
    | deliver | wake | stray | upf => cases hturn
  | passed => cases act <;> cases hturn

theorem Bench.At.run (hroom : cfg.HasRoom checks) {acts : List Bench.Act}
    (hm : Meets (Bench.step host checks cfg ts) (Bench.Benign host cfg) s acts)
    (h : s.At host cfg ts n) :
    (run (Bench.step host checks cfg ts) s acts).At host cfg ts
      (Lib.run (follow script) n (acts.map Bench.Act.turn)) := by
  induction acts generalizing s n with
  | nil => exact h
  | cons act acts ih =>
    rw [List.map_cons, run_cons, run_cons]
    exact ih hm.2 (h.step hroom hm.1)

theorem start_at (host : Host) (cfg : Config) (ts : UInt32) (b : Boot) :
    (Bench.start cfg ts b).At host cfg ts 0 := by
  have hseq : (1 : UInt32).toNat < 2 ^ 24 := by decide
  have hr := reads_associationRequest hseq cfg.smfN4Addr ts
  have hmsg : (Stage.associating (.start cfg)).message cfg ts =
      some (associationRequest 1 cfg.smfN4Addr ts) := rfl
  refine ⟨0, .associating (sending_enter _ hmsg hr), Audit.init_upright host b, ?_, ?_, ?_, ?_⟩
  · show (1 : UInt64) ≠ 0
    decide
  · exact fun hn => absurd hn (by decide)
  · exact fun hn => absurd hn.1 (by decide)
  · rfl

theorem verdict_of_serves {a : Audit} {tunnel : Option UInt32} (h : cfg.Serves host a tunnel)
    {fr : Frame} (hue : fr.ue host.endian = some cfg.ueIpPoolStart) :
    fr.verdict host.endian a.maps = cfg.treats host.endian tunnel fr := by
  rw [Frame.verdict_directory, Frame.decide, hue, Option.bind_some]
  cases tunnel with
  | none =>
    rw [show a.maps.directory host.endian cfg.ueIpPoolStart = none from h]
    rfl
  | some gnbTeid =>
    obtain ⟨n3Addr, teid, gnbInfo, hdir⟩ := h
    rw [hdir]
    exact render_service _ _ _ _ (cfg.wish gnbTeid) hue

/-- What is true of the scenario and of the UPF after some turns. -/
structure Followed (host : Host) (cfg : Config) (turns : List Bench.Turn) (s : Bench) : Prop where
  sound : s.stage ≠ .panicked ∧ ∀ e, s.stage ≠ .failed e
  ends : (∃ sim, s.stage = .passed sim) ↔ script.Sublist turns
  empty : ∀ sim, s.stage = .passed sim → ∀ k, sim.sessions.lookup k = none
  frames : ∀ fr : Frame, fr.ue host.endian = some cfg.ueIpPoolStart →
    fr.verdict host.endian s.upf.maps =
      cfg.treats host.endian (cfg.tunnelAfter (Lib.run (follow script) 0 turns)) fr

theorem Bench.At.followed {turns : List Bench.Turn}
    (h : s.At host cfg ts (Lib.run (follow script) 0 turns)) : Followed host cfg turns s := by
  obtain ⟨seid, hplace, hfooting⟩ := h
  have hends : Lib.run (follow script) 0 turns = script.length ↔ script.Sublist turns :=
    run_follow_eq_length_iff turns
  have hframes : ∀ fr : Frame, fr.ue host.endian = some cfg.ueIpPoolStart → _ :=
    fun fr hue => verdict_of_serves hfooting.serves hue
  generalize Lib.run (follow script) 0 turns = n at hplace hends
  obtain ⟨upf, stage, call, reply⟩ := s
  change Place cfg ts seid n stage call reply at hplace
  refine ⟨⟨?_, ?_⟩, ?_, ?_, hframes⟩
  · rintro rfl
    cases hplace
  · rintro e rfl
    cases hplace
  · rw [← hends]
    constructor
    · rintro ⟨sim, rfl⟩
      cases hplace
      rfl
    · rintro rfl
      cases hplace
      exact ⟨_, rfl⟩
  · rintro sim rfl
    cases hplace with
    | passed hnone => exact hnone

end Run

/-- **The basic lifecycle runs to its end.**  If its pools have a first address and a first TEID and
everything is in order that happens to the UPF and reaches the scenario (`Bench.Benign`), it follows
its script however its turns are interleaved with the rest: it never fails or panics, it has passed
exactly when the run contains the script, no session is left then, and at any time the frames of
its UE go through the tunnel of the place it has come to. -/
theorem lifecycle_followed (host : Host) (checks : Bool) (cfg : Config) (ts : UInt32) (b : Boot)
    (hroom : cfg.HasRoom checks) (acts : List Bench.Act)
    (hm : Meets (Bench.step host checks cfg ts) (Bench.Benign host cfg) (Bench.start cfg ts b)
      acts) :
    Followed host cfg (acts.map Bench.Act.turn)
      (run (Bench.step host checks cfg ts) (Bench.start cfg ts b) acts) :=
  ((start_at host cfg ts b).run hroom hm).followed

/-- The scenario while another SMF sets up a session for the second UE, with a Heartbeat Request of
the UPF in between. -/
def together : List Bench.Act :=
  [.upf (setup smfB 1), .deliver env 0, .stray 0 (heartbeatRequest 7 5), .receive 0,
    .deliver env 0, .upf (establish smfB 1 ue2), .receive 0, .wake, .wake, .deliver env 0,
    .upf (sends smfB (tunnelModification 2 gnb)), .receive 0, .deliver env 0, .receive 0]

/-- The scenario passes beside the other SMF. -/
theorem lifecycle_followed_together : ∃ sim,
    (run (Bench.step host true simConfig 5) (Bench.start simConfig 5 boot) together).stage =
      .passed sim :=
  (lifecycle_followed host true simConfig 5 boot ⟨by decide, by decide, by decide⟩ together
    (by decide +kernel)).ends.mpr (by decide)

end SmfSim

end UpfEdge
