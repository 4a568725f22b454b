import UpfEdge.Interference
import UpfEdge.Persistence
import UpfEdge.Pfcp.Wire

/-!
# The keepalive task

`check_keepalive` and `keepalive_task` of `pfcp_server.rs`: after fifteen seconds without a datagram
the UPF sends a Heartbeat Request to the last peer that has set up an association.  A `Node` is the
system with the sequence number of that task.

Responses carry the Recovery Time Stamp of the server, which never changes.  A keepalive carries the
wall clock of the moment, with an NTP offset of its own.  `meets_stamped_iff` says when the two are
the same.
-/

namespace UpfEdge

open Lib Pfcp Server

/-- Fifteen seconds. -/
def keepaliveInterval : ℕ := 15 * 1000000000

/-- `check_keepalive` at the instant `now`, with `clock` the seconds since 1970: the request and its
destination, unless there is none to be sent. -/
def checkKeepalive (srv : PfcpServer) (seq : UInt32) (now : Instant) (clock : UInt32) :
    Option (SocketAddr × Bytes) :=
  if now - srv.lastActivity < keepaliveInterval then none
  else srv.peerAddr.map fun peer =>
    (peer, finish (addRecoveryTimestamp (PfcpHeader.newNodeMsg pfcpHeartbeatReq seq).encode
      (clock + 2208988800)))

/-- An event, or the keepalive task waking up.  `touched` is the instant stored when the request
could be sent. -/
inductive Input where
  | event (ev : Event)
  | keepalive (now : Instant) (clock : UInt32) (touched : Option Instant)

structure Node where
  audit : Audit
  keepaliveSeq : UInt32

namespace Node

def start (b : Boot) (sessions : List (UInt64 × SessionData)) : Node where
  audit := .started b sessions
  keepaliveSeq := 200

/-- What the UPF sends. -/
def sent (host : Host) (n : Node) : Input → List (SocketAddr × Bytes)
  | .event ev => n.audit.sent host ev
  | .keepalive now clock _ => (checkKeepalive n.audit.srv n.keepaliveSeq now clock).toList

def step (host : Host) (n : Node) : Input → Node
  | .event ev => { n with audit := n.audit.step host ev }
  | .keepalive now clock touched =>
    if (checkKeepalive n.audit.srv n.keepaliveSeq now clock).isSome then
      { audit := match touched with
          | some t => { n.audit with
              sys := { n.audit.sys with world := UpfEdge.touched t n.audit.world } }
          | none => n.audit
        keepaliveSeq := n.keepaliveSeq + 1 }
    else n

/-- Every Recovery Time Stamp that is sent is `ts`. -/
def Stamped (host : Host) (ts : UInt32) (n : Node) (i : Input) : Prop :=
  ∀ m ∈ n.sent host i, ∀ t ∈ stamps m.2, t = ts

/-- A keepalive that is sent reads a clock at which the two offsets make up for each other. -/
def Wound (ts : UInt32) (n : Node) : Input → Prop
  | .event _ => True
  | .keepalive now clock _ =>
    keepaliveInterval ≤ now - n.audit.srv.lastActivity → n.audit.srv.peerAddr.isSome →
      clock + 2208988800 = ts

end Node

/-! ### Responses -/

section Responses

variable {e : Endian} {env : Env} {data : Bytes} {src : SocketAddr} {w : World}
  {header : PfcpHeader} {body : Bytes} {r : Bytes}

theorem stamps_establishment
    (h : (handleSessionEstablishment e env header body src w).1 = .ok r) : stamps r = [] := by
  unfold handleSessionEstablishment at h
  split at h
  · cases h
  · split at h
    · cases h
    · split at h
      · cases h
      · simp only at h
        split at h
        · cases h
        · split at h
          · cases h
          · split at h
            · cases h
            · obtain rfl := Except.ok.inj h
              exact stamps_sessionEstablishmentResponse ..

theorem stamps_modification
    (h : (handleSessionModification e env header body src w).1 = .ok r) : stamps r = [] := by
  cases hmod : modifies env header body src w with
  | none =>
    obtain ⟨err, heq⟩ : ∃ err, handleSessionModification e env header body src w =
      (.error err, w) := modification_of_none hmod
    rw [heq] at h
    cases h
  | some found =>
    obtain ⟨seid, session, req⟩ := found
    rw [modification_of_some hmod] at h
    obtain rfl := Except.ok.inj h
    exact stamps_cause ..

theorem stamps_deletion (h : (handleSessionDeletion e env header src w).1 = .ok r) :
    stamps r = [] := by
  unfold handleSessionDeletion at h
  simp only at h
  split at h
  · cases h
  · obtain rfl := Except.ok.inj h
    exact stamps_cause ..

/-- The Recovery Time Stamps of a response. -/
theorem stamps_response (h : (handleMessage e env data src w).1 = .ok r) :
    ∀ t ∈ stamps r, t = w.srv.recoveryTs := by
  have hnil : ∀ {r : Bytes}, stamps r = [] → ∀ t ∈ stamps r, t = w.srv.recoveryTs := by
    intro r hr t ht
    rw [hr] at ht
    cases ht
  unfold handleMessage at h
  cases hd : PfcpHeader.decode data with
  | error err =>
    rw [hd] at h
    cases h
  | ok p =>
    obtain ⟨header, body⟩ := p
    simp only [hd, dispatch] at h
    split_ifs at h with h1 h2 h3 h4 h5 h6 h7
    · obtain rfl := Except.ok.inj h
      rw [buildHeartbeatResponse, stamps_heartbeat]
      simp
    · unfold handleSessionAssociation at h
      split at h
      · cases h
      · simp only at h
        split_ifs at h <;>
        · obtain rfl := Except.ok.inj h
          rw [stamps_associationSetupResponse]
          simp
    · exact hnil (stamps_establishment h)
    · exact hnil (stamps_modification h)
    · exact hnil (stamps_deletion h)
    · obtain rfl := Except.ok.inj h
      exact hnil rfl
    · obtain rfl := Except.ok.inj h
      exact hnil rfl

end Responses

namespace Node

section Step

variable {host : Host} {n : Node} {ts : UInt32} {i : Input}

/-- What an event sends carries the time stamp of the server. -/
theorem stamped_event (h : n.audit.srv.recoveryTs = ts) (ev : Event) :
    n.Stamped host ts (.event ev) := by
  intro m hm t ht
  have hreports : ∀ ev, m ∈ (n.audit.sys.handle host ev).2.map (fun r => (r.dest, r.message)) →
      t = ts := by
    intro ev hmem
    obtain ⟨r, -, rfl⟩ := List.mem_map.mp hmem
    rw [Report.message, stamps_sessionReportRequest] at ht
    cases ht
  cases ev with
  | snapshot | report | uplink | downlink => exact hreports _ hm
  | datagram env now data src =>
    simp only [sent, Audit.sent] at hm
    split at hm
    · next r hr =>
      split_ifs at hm
      · cases hm
      · obtain rfl := List.mem_singleton.mp hm
        rw [← h]
        exact stamps_response hr t ht
    · cases hm

theorem stamped_iff (h : n.audit.srv.recoveryTs = ts) : n.Stamped host ts i ↔ n.Wound ts i := by
  cases i with
  | event ev => exact iff_of_true (stamped_event h ev) trivial
  | keepalive now clock touched =>
    simp only [Stamped, sent, checkKeepalive, Wound]
    by_cases hidle : now - n.audit.srv.lastActivity < keepaliveInterval
    · rw [if_pos hidle]
      exact iff_of_true (by simp) fun hle => absurd hidle (Nat.not_lt.mpr hle)
    · rw [if_neg hidle]
      cases n.audit.srv.peerAddr with
      | none => simp
      | some peer =>
        simp [stamps_heartbeat, Nat.not_lt.mp hidle]

theorem step_recoveryTs : (n.step host i).audit.srv.recoveryTs = n.audit.srv.recoveryTs := by
  cases i with
  | event ev => exact (step_settings host n.audit ev).2.1
  | keepalive now clock touched =>
    simp only [step]
    split_ifs
    · cases touched <;> rfl
    · rfl

end Step

/-- **One Recovery Time Stamp.**  Every Recovery Time Stamp that is sent in a run is the one fixed
at the start exactly when every keepalive that is sent reads a clock at which its own NTP offset
leads to that same value. -/
theorem meets_stamped_iff (host : Host) (b : Boot) (sessions : List (UInt64 × SessionData))
    (inputs : List Input) :
    Meets (step host) (Stamped host (b.unixNow + 2208980800)) (start b sessions) inputs ↔
      Meets (step host) (Wound (b.unixNow + 2208980800)) (start b sessions) inputs := by
  have hstep : ∀ (guard : Node → Input → Prop) (n : Node) (i : Input),
      n.audit.srv.recoveryTs = b.unixNow + 2208980800 → guard n i →
      (n.step host i).audit.srv.recoveryTs = b.unixNow + 2208980800 :=
    fun _ n i hn _ => step_recoveryTs.trans hn
  constructor
  · exact fun hm => hm.of_inv (hstep _) (fun n i hn hs => (stamped_iff hn).mp hs) rfl
  · exact fun hm => hm.of_inv (hstep _) (fun n i hn hw => (stamped_iff hn).mpr hw) rfl

section Sim

open SmfSim

/-- A simulator sets up, and hears nothing but the keepalive that the UPF sends fifteen seconds
later, by a clock that goes right. -/
theorem not_stamped_first_keepalive :
    ¬ Meets (step host) (Stamped host (boot.unixNow + 2208980800)) (start boot [])
      [.event (setup smfA 1), .keepalive 15000000000 15 none] := by
  rintro ⟨-, hstamped, -⟩
  have hsent : ((start boot []).step host (.event (setup smfA 1))).sent host
      (.keepalive 15000000000 15 none) = [(peer smfA, finish (addRecoveryTimestamp
        (PfcpHeader.newNodeMsg pfcpHeartbeatReq 200).encode (15 + 2208988800)))] := by
    decide +kernel
  have hts := hstamped _ (by rw [hsent]; exact List.mem_singleton_self _) (15 + 2208988800)
    (by rw [stamps_heartbeat]; exact List.mem_singleton_self _)
  exact absurd hts (by decide)

end Sim

end Node

end UpfEdge
