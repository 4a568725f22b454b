import UpfEdge.Lib.Run
import UpfEdge.Smf.Transport
import UpfEdge.SmfSim

/-!
# Two calls on one socket

The keepalive task and a command or scenario share one `PfcpTransport`, so two `send_and_recv` calls
may read the same socket.  Which of them a datagram goes to is decided by the scheduler, and a call
that is handed the other's answer returns it, if it waits for the same type of message, or throws it
away.

`Sharing.step` has one event for every turn of the scheduler, the socket and the timers.
`always_undisturbed_iff` says that no answer is lost to the other call exactly in the runs in which
the scheduler hands none of them to the other call while both are running.
-/

namespace UpfEdge.SmfSim

open Lib Pfcp Server

structure PfcpTransport where
  peerAddr : SocketAddr
  maxRetries : ℕ

inductive Side where
  | one
  | two
  deriving DecidableEq, Repr

def Side.other : Side → Side
  | .one => .two
  | .two => .one

theorem Side.eq_other_of_ne {a b : Side} (h : b ≠ a) : b = a.other := by
  cases a <;> cases b <;> first | rfl | exact absurd rfl h

/-- A datagram that a call has been handed; `contested` if the other call was running. -/
structure Receipt where
  side : Side
  data : Bytes
  contested : Bool
  deriving DecidableEq, Repr

/-- The two calls, the socket's receive queue, what has been sent, and a ledger of receipts. -/
structure Sharing where
  call : Side → Call
  queue : List (Bytes × SocketAddr)
  outbox : List (Bytes × SocketAddr)
  receipts : List Receipt

/-- A datagram arrives; or, at one of the calls, a send ends, `recv_from` gets the first datagram of
the queue, or a read ends without one. -/
inductive Turn where
  | arrive (data : Bytes) (src : SocketAddr)
  | sent (side : Side) (result : Except String Unit)
  | recv (side : Side) (clock : UInt32)
  | lapse (side : Side) (e : CallError)

namespace Sharing

def start (req : Side → Request) : Sharing where
  call side := .start (req side)
  queue := []
  outbox := []
  receipts := []

def step (t : PfcpTransport) (s : Sharing) : Turn → Sharing
  | .arrive data src => { s with queue := s.queue ++ [(data, src)] }
  | .sent side result =>
    match (s.call side).phase, result with
    | .sending _, .ok () =>
      { s with
        call := Function.update s.call side ((s.call side).onSent result)
        outbox := s.outbox ++ [((s.call side).req.msg, t.peerAddr)] }
    | _, _ => { s with call := Function.update s.call side ((s.call side).onSent result) }
  | .recv side clock =>
    match (s.call side).phase, s.queue with
    | .receiving _, (data, src) :: queue =>
      let (c, reply) := (s.call side).onDatagram clock (cut data)
      { call := Function.update s.call side c
        queue
        outbox := s.outbox ++ reply.toList.map (·, src)
        receipts := s.receipts ++ [⟨side, cut data, (s.call side.other).phase.running⟩] }
    | _, _ => s
  | .lapse side e =>
    { s with call := Function.update s.call side ((s.call side).onLapse t.maxRetries e) }

/-- A datagram that answers a call's request, read while both calls ran, went to that call, which
returned it. -/
def Undisturbed (s : Sharing) : Prop :=
  ∀ r ∈ s.receipts, r.contested → ∀ side, (s.call side).req.AnsweredBy r.data →
    r.side = side ∧ (s.call side).phase = .returned r.data

/-- While both calls run, the datagram that `recv_from` gets does not answer the other's request. -/
def Fair (s : Sharing) : Turn → Prop
  | .recv side _ =>
    match (s.call side).phase, s.queue with
    | .receiving _, (data, _) :: _ =>
      (s.call side.other).phase.running → ¬ (s.call side.other).req.AnsweredBy (cut data)
    | _, _ => True
  | _ => True

variable {t : PfcpTransport} {s : Sharing}

/-- A change of one call that leaves its request, and the call if it has returned, does no harm. -/
theorem Undisturbed.update (h : s.Undisturbed) {side : Side} {c : Call}
    (hreq : c.req = (s.call side).req)
    (hdone : ∀ rsp, (s.call side).phase = .returned rsp → c = s.call side)
    {queue outbox : List (Bytes × SocketAddr)} :
    Undisturbed { call := Function.update s.call side c, queue, outbox, receipts := s.receipts } :=
    by
  intro r hr hcon side' hans
  by_cases hs : side' = side
  · subst hs
    simp only [Function.update_self, hreq] at hans ⊢
    obtain ⟨rfl, hphase⟩ := h r hr hcon _ hans
    exact ⟨rfl, by rw [hdone _ hphase, hphase]⟩
  · simp only [Function.update_of_ne hs] at hans ⊢
    exact h r hr hcon _ hans

/-- The turn of a `recv_from` that gets a datagram. -/
theorem step_recv {side : Side} {clock : UInt32} {attempt : ℕ} {data : Bytes} {src : SocketAddr}
    {queue : List (Bytes × SocketAddr)} (hphase : (s.call side).phase = .receiving attempt)
    (hq : s.queue = (data, src) :: queue) :
    s.step t (.recv side clock) =
      { call := Function.update s.call side ((s.call side).onDatagram clock (cut data)).1
        queue
        outbox := s.outbox ++ ((s.call side).onDatagram clock (cut data)).2.toList.map (·, src)
        receipts := s.receipts ++ [⟨side, cut data, (s.call side.other).phase.running⟩] } := by
  simp [step, hphase, hq]

theorem step_undisturbed (turn : Turn) (h : s.Undisturbed) (hfair : s.Fair turn) :
    (s.step t turn).Undisturbed := by
  cases turn with
  | arrive data src => exact h
  | sent side result =>
    simp only [step]
    split <;> exact h.update Call.onSent_req fun _ => Call.onSent_returned
  | lapse side e => exact h.update Call.onLapse_req fun _ => Call.onLapse_returned
  | recv side clock =>
    cases hphase : (s.call side).phase with
    | sending | returned | failed => simpa [step, hphase] using h
    | receiving attempt =>
      cases hq : s.queue with
      | nil => simpa [step, hphase, hq] using h
      | cons head queue =>
        obtain ⟨data, src⟩ := head
        rw [step_recv hphase hq]
        have hold : Undisturbed { s with
            call := Function.update s.call side ((s.call side).onDatagram clock (cut data)).1 } :=
          h.update Call.onDatagram_req fun rsp hrsp => by rw [hphase] at hrsp; cases hrsp
        intro r hr hcon side' hans
        rcases List.mem_append.mp hr with hr | hr
        · exact hold r hr hcon side' hans
        · obtain rfl := List.mem_singleton.mp hr
          -- the datagram of this turn: it answers the call that was handed it, or none
          by_cases hs : side' = side
          · subst hs
            simp only [Function.update_self, Call.onDatagram_req] at hans
            refine ⟨rfl, ?_⟩
            simp only [Function.update_self, Call.onDatagram_of_answeredBy hans]
          · simp only [Function.update_of_ne hs] at hans
            obtain rfl := Side.eq_other_of_ne hs
            simp only [Fair, hphase, hq] at hfair
            exact absurd hans (hfair hcon)

theorem fair_of_step_undisturbed (turn : Turn) (h : (s.step t turn).Undisturbed) : s.Fair turn := by
  cases turn with
  | arrive | sent | lapse => trivial
  | recv side clock =>
    simp only [Fair]
    split
    · next attempt data src queue hphase hq =>
      intro hcon hans
      rw [step_recv hphase hq] at h
      have hne : side.other ≠ side := by cases side <;> decide
      have hlost := h ⟨side, cut data, (s.call side.other).phase.running⟩
        (List.mem_append_right _ (List.mem_singleton_self _)) hcon side.other
        (by simpa only [Function.update_of_ne hne] using hans)
      exact hne hlost.1.symm
    · trivial

/-- **Two calls keep their answers exactly when the scheduler never hands one of them to the other
call.** -/
theorem always_undisturbed_iff (t : PfcpTransport) (req : Side → Request) (turns : List Turn) :
    Always (step t) Undisturbed (start req) turns ↔ Meets (step t) Fair (start req) turns :=
  always_iff_meets (fun _ turn h hfair => step_undisturbed turn h hfair)
    (fun _ turn _ h => fair_of_step_undisturbed turn h) (fun _ hr => by cases hr)

/-- The keepalive task's first heartbeat. -/
def keepaliveRequest : Request where
  msg := finish (addRecoveryTimestamp (PfcpHeader.newNodeMsg pfcpHeartbeatReq 100).encode 7)
  header := { PfcpHeader.newNodeMsg pfcpHeartbeatReq 100 with length := 12 }
  decodes := ⟨[0, 96, 0, 4, 0, 0, 0, 7], ok_of_toOption (by decide +kernel)⟩

/-- The deletion of session 1 as the first command. -/
def deletionRequest : Request where
  msg := finish (PfcpHeader.newSessionMsg pfcpSessionDeletionReq 1 1).encode
  header := { PfcpHeader.newSessionMsg pfcpSessionDeletionReq 1 1 with length := 12 }
  decodes := ⟨[], ok_of_toOption (by decide +kernel)⟩

def keepaliveAndDeletion : Side → Request
  | .one => keepaliveRequest
  | .two => deletionRequest

/-- The command waits for its answer when the one to the keepalive comes, and is handed it. -/
def answerToTheOther : List Turn :=
  [.sent .one (.ok ()), .sent .two (.ok ()), .arrive (buildHeartbeatResponse 100 9) (peer smfB),
    .recv .two 0]

/-- It throws it away. -/
theorem not_undisturbed_keepalive :
    ¬ Always (step ⟨peer smfB, 3⟩) Undisturbed (start keepaliveAndDeletion) answerToTheOther := by
  intro h
  have hlost := h answerToTheOther [] (List.append_nil _).symm
    ⟨.two, buildHeartbeatResponse 100 9, true⟩ (by decide +kernel) rfl .one (by decide +kernel)
  cases hlost.1

end Sharing

end UpfEdge.SmfSim
