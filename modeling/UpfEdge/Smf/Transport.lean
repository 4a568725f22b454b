import UpfEdge.Pfcp.Messages

/-!
# The transport of the simulator

`smf-sim/src/transport.rs`.  `PfcpTransport::send_and_recv` sends its message and reads the socket
until a message of the type that answers it comes, throwing away or answering whatever else it is
handed; after a timeout or a socket error it sends again, as often as it has retries.

A `Call` is one run of that function, taken apart at its `await`s: it is about to send, it waits in
`recv_from`, or it has ended.  What the socket, the clock and the timer do is up to the caller.
-/

namespace UpfEdge.SmfSim

open Lib Pfcp

/-- `handle_unsolicited`, with `clock` the seconds since 1970: a Heartbeat Request is answered with
the time of day, everything else is ignored. -/
def handleUnsolicited (clock : UInt32) (data : Bytes) : Option Bytes :=
  match PfcpHeader.decode data with
  | .ok (hdr, _) =>
    if hdr.msgType = pfcpHeartbeatReq then
      some (buildHeartbeatResponse hdr.seqNum (clock + 2208988800))
    else none
  | .error _ => none

/-- The receive buffer of a call holds 4096 bytes. -/
def cut (data : Bytes) : Bytes := data.take 4096

/-- A message that `send_and_recv` can start with: its header decodes. -/
structure Request where
  msg : Bytes
  header : PfcpHeader
  decodes : ∃ body, PfcpHeader.decode msg = .ok (header, body)

namespace Request

def ofMsg (msg : Bytes) : Except PfcpError Request :=
  match h : PfcpHeader.decode msg with
  | .ok (header, body) => .ok ⟨msg, header, body, h⟩
  | .error e => .error e

theorem msg_of_ofMsg {msg : Bytes} {req : Request} (h : ofMsg msg = .ok req) : req.msg = msg := by
  unfold ofMsg at h
  split at h
  · obtain rfl := Except.ok.inj h
    rfl
  · cases h

def expectedRspType (req : Request) : UInt8 := req.header.msgType + 1

/-- The datagram is of the type that answers the request and has its sequence number. -/
def AnsweredBy (req : Request) (data : Bytes) : Prop :=
  (PfcpHeader.decode data).toOption.map (fun p => (p.1.msgType, p.1.seqNum)) =
    some (req.expectedRspType, req.header.seqNum)

instance (req : Request) (data : Bytes) : Decidable (req.AnsweredBy data) :=
  inferInstanceAs (Decidable (_ = _))

end Request

/-- Why a call fails: the message cannot be sent, the deadline has passed before or during a read,
or a read fails. -/
inductive CallError where
  | send (e : String)
  | late (timeoutMs : UInt64)
  | timeout (timeoutMs : UInt64)
  | recv (e : String)
  deriving DecidableEq, Repr

def CallError.text : CallError → String
  | .send e => e
  | .late timeoutMs => "TImeout after " ++ toString timeoutMs ++ "ms"
  | .timeout timeoutMs => "Timeout after " ++ toString timeoutMs ++ "ms"
  | .recv e => "recv error: " ++ e

inductive Phase where
  | sending (attempt : ℕ)
  | receiving (attempt : ℕ)
  | returned (rsp : Bytes)
  | failed (e : CallError)
  deriving DecidableEq, Repr

def Phase.running : Phase → Bool
  | .sending _ | .receiving _ => true
  | .returned _ | .failed _ => false

structure Call where
  req : Request
  phase : Phase

namespace Call

def start (req : Request) : Call := ⟨req, .sending 0⟩

/-- The message has been sent, or could not be. -/
def onSent (result : Except String Unit) (c : Call) : Call :=
  match c.phase, result with
  | .sending attempt, .ok () => { c with phase := .receiving attempt }
  | .sending _, .error e => { c with phase := .failed (.send e) }
  | _, _ => c

/-- The read has ended without a datagram: the next attempt, if one is left. -/
def onLapse (maxRetries : ℕ) (e : CallError) (c : Call) : Call :=
  match c.phase with
  | .receiving attempt =>
    if attempt < maxRetries then { c with phase := .sending (attempt + 1) }
    else { c with phase := .failed e }
  | _ => c

/-- The read has brought `buf`: the call that goes on, and the answer it sends. -/
def onDatagram (clock : UInt32) (buf : Bytes) (c : Call) : Call × Option Bytes :=
  match PfcpHeader.decode buf with
  | .ok (hdr, _) =>
    if hdr.msgType = c.req.expectedRspType then ({ c with phase := .returned buf }, none)
    else (c, handleUnsolicited clock buf)
  | .error _ => (c, none)

/-! ### What a call does -/

variable {c : Call} {clock : UInt32} {buf : Bytes} {result : Except String Unit} {maxRetries : ℕ}
  {e : CallError}

@[simp] theorem onSent_req : (c.onSent result).req = c.req := by
  unfold onSent
  split <;> rfl

@[simp] theorem onLapse_req : (c.onLapse maxRetries e).req = c.req := by
  unfold onLapse
  split
  · split_ifs <;> rfl
  · rfl

@[simp] theorem onDatagram_req : (c.onDatagram clock buf).1.req = c.req := by
  unfold onDatagram
  split
  · split_ifs <;> rfl
  · rfl

/-- A call that has returned stays so. -/
theorem onSent_returned {rsp : Bytes} (h : c.phase = .returned rsp) : c.onSent result = c := by
  simp [onSent, h]

theorem onLapse_returned {rsp : Bytes} (h : c.phase = .returned rsp) :
    c.onLapse maxRetries e = c := by
  simp [onLapse, h]

/-- A call returns only from a read. -/
theorem onSent_ne_returned (h : c.phase.running) (rsp : Bytes) :
    (c.onSent result).phase ≠ .returned rsp := by
  unfold onSent
  split
  · exact nofun
  · exact nofun
  · intro hr
    rw [hr] at h
    cases h

theorem onLapse_ne_returned (h : c.phase.running) (rsp : Bytes) :
    (c.onLapse maxRetries e).phase ≠ .returned rsp := by
  unfold onLapse
  split
  · split_ifs <;> exact nofun
  · intro hr
    rw [hr] at h
    cases h

/-- What a call returns is the datagram it has read, and of the type awaited. -/
theorem of_onDatagram_returned (h : c.phase.running) {rsp : Bytes}
    (hr : (c.onDatagram clock buf).1.phase = .returned rsp) :
    rsp = buf ∧ ∃ hdr body, PfcpHeader.decode buf = .ok (hdr, body) ∧
      hdr.msgType = c.req.expectedRspType := by
  unfold onDatagram at hr
  split at hr
  · next hdr body hd =>
    split_ifs at hr with ht
    · exact ⟨(Phase.returned.inj hr).symm, hdr, body, hd, ht⟩
    · rw [hr] at h
      cases h
  · rw [hr] at h
    cases h

/-- A datagram of the type awaited is returned. -/
theorem onDatagram_of_type (clock : UInt32) {hdr : PfcpHeader} {body : Bytes}
    (hd : PfcpHeader.decode buf = .ok (hdr, body)) (ht : hdr.msgType = c.req.expectedRspType) :
    c.onDatagram clock buf = ({ c with phase := .returned buf }, none) := by
  simp [onDatagram, hd, ht]

/-- A call that is handed the answer to its request returns it. -/
theorem onDatagram_of_answeredBy (h : c.req.AnsweredBy buf) :
    c.onDatagram clock buf = ({ c with phase := .returned buf }, none) := by
  obtain ⟨⟨hdr, body⟩, hd, heq⟩ := Option.map_eq_some_iff.mp h
  exact onDatagram_of_type clock (ok_of_toOption hd) (Prod.mk.inj heq).1

end Call

end UpfEdge.SmfSim
