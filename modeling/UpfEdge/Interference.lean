import UpfEdge.Ledger

/-!
# Datagrams from sources without an association

A datagram that is no Association Setup Request and whose source has no association (`Outsider`) is
answered or refused, and that is all: apart from the time of the last activity it leaves the system
as it found it (`outsider_step`).  What is sent and what the next state is do not depend on that
time, so such datagrams can be erased from a run: the final state and everything the other events
send stay the same (`outsiders_do_not_interfere`).
-/

namespace UpfEdge

open Lib Pfcp Server Xdp

/-- The message type of a datagram with a header. -/
def messageType (data : Bytes) : Option UInt8 :=
  match PfcpHeader.decode data with
  | .ok (header, _) => some header.msgType
  | .error _ => none

/-- Only an Association Setup Request asks for a setup. -/
theorem setupOf_eq_none {data : Bytes} (h : messageType data ≠ some pfcpAssociationSetupReq) :
    setupOf data = none := by
  unfold messageType at h
  unfold setupOf
  cases hd : PfcpHeader.decode data with
  | error err => rfl
  | ok p =>
    simp only [hd] at h ⊢
    exact if_neg fun ht => h (by rw [ht])

namespace Audit

/-- The system without the time of its last activity. -/
def forget (a : Audit) : Audit := { a with sys := { a.sys with world := touched 0 a.world } }

/-- What an event makes the UPF send, with the destinations: the response to a datagram, unless it
is an error or empty, and the reports of the usage reporter. -/
def sent (host : Host) (a : Audit) : Event → List (SocketAddr × Bytes)
  | .datagram env now data src =>
    match (receive host env now data src a.world).1 with
    | .ok response => if response.isEmpty then [] else [(src, response)]
    | .error _ => []
  | ev => (a.sys.handle host ev).2.map fun r => (r.dest, r.message)

/-- A datagram that is no Association Setup Request, from a source that no association has. -/
def Outsider (a : Audit) : Event → Prop
  | .datagram _ _ data src =>
    messageType (received data) ≠ some pfcpAssociationSetupReq ∧
      ∀ x ∈ a.srv.associations.entries, x.2.peerAddr ≠ src
  | _ => False

instance (a : Audit) : ∀ ev, Decidable (a.Outsider ev)
  | .datagram .. => inferInstanceAs (Decidable (_ ∧ _))
  | .snapshot _ | .report _ | .uplink _ _ | .downlink _ _ => inferInstanceAs (Decidable False)

/-- The events of a run that are not from outsiders. -/
def insiders (host : Host) : Audit → List Event → List Event
  | _, [] => []
  | a, ev :: evs =>
    if a.Outsider ev then insiders host (a.step host ev) evs
    else ev :: insiders host (a.step host ev) evs

/-- What these events send, one entry for each. -/
def sentToInsiders (host : Host) : Audit → List Event → List (List (SocketAddr × Bytes))
  | _, [] => []
  | a, ev :: evs =>
    if a.Outsider ev then sentToInsiders host (a.step host ev) evs
    else a.sent host ev :: sentToInsiders host (a.step host ev) evs

/-- What the events of a run send, one entry for each. -/
def sentAlong (host : Host) : Audit → List Event → List (List (SocketAddr × Bytes))
  | _, [] => []
  | a, ev :: evs => a.sent host ev :: sentAlong host (a.step host ev) evs

/-! ### The time of the last activity -/

section Forget

variable {host : Host} {a a' : Audit} {ev : Event}

theorem reportRow_touch (clock : ℕ → Instant) (peer : SocketAddr) (t : Instant)
    (acc : PfcpServer × List Report) (row : (UInt64 × UrrStats) × ℕ) :
    reportRow clock peer (acc.1.touchActivity t, acc.2) row =
      ((reportRow clock peer acc row).1.touchActivity t, (reportRow clock peer acc row).2) := by
  unfold reportRow
  simp only [PfcpServer.touchActivity]
  split
  · rfl
  · split_ifs <;> rfl

theorem report_touch (clock : ℕ → Instant) (totals : Totals) (srv : PfcpServer) (t : Instant) :
    report clock totals (srv.touchActivity t) =
      ((report clock totals srv).1.touchActivity t, (report clock totals srv).2) := by
  have hrows : ∀ (peer : SocketAddr) (rows : List ((UInt64 × UrrStats) × ℕ))
      (acc : PfcpServer × List Report),
      rows.foldl (reportRow clock peer) (acc.1.touchActivity t, acc.2) =
        ((rows.foldl (reportRow clock peer) acc).1.touchActivity t,
          (rows.foldl (reportRow clock peer) acc).2) := by
    intro peer rows
    induction rows with
    | nil => exact fun acc => rfl
    | cons row rows ih =>
      intro acc
      rw [List.foldl_cons, List.foldl_cons, reportRow_touch, ih]
  have hpeer : (srv.touchActivity t).peerAddr = srv.peerAddr := rfl
  unfold report
  rw [hpeer]
  cases srv.peerAddr with
  | none => rfl
  | some peer => exact hrows peer _ (srv, [])

/-- The time of the last activity matters neither to the next state nor to what is sent. -/
theorem step_forget (host : Host) (a : Audit) (ev : Event) :
    (a.step host ev).forget = (a.forget.step host ev).forget ∧
      a.sent host ev = a.forget.sent host ev := by
  cases ev with
  | datagram env now data src => exact ⟨rfl, rfl⟩
  | snapshot order =>
    obtain ⟨⟨w, totals⟩, origin, last⟩ := a
    cases totals <;> exact ⟨rfl, rfl⟩
  | report clock =>
    obtain ⟨⟨w, totals⟩, origin, last⟩ := a
    cases totals with
    | none => exact ⟨rfl, rfl⟩
    | some totals =>
      have htouch := report_touch clock totals w.srv 0
      rcases hrep : report clock totals w.srv with ⟨srv', reports⟩
      rw [hrep] at htouch
      simp only [step, record, System.step, System.handle, forget, touched, sent, hrep, htouch]
      exact ⟨rfl, trivial⟩
  | uplink x f => exact ⟨rfl, rfl⟩
  | downlink x f => exact ⟨rfl, rfl⟩

theorem step_congr (h : a.forget = a'.forget) :
    (a.step host ev).forget = (a'.step host ev).forget ∧ a.sent host ev = a'.sent host ev := by
  obtain ⟨hstep, hsent⟩ := step_forget host a ev
  obtain ⟨hstep', hsent'⟩ := step_forget host a' ev
  rw [hstep, hsent, hstep', hsent', h]
  exact ⟨rfl, rfl⟩

end Forget

/-! ### Outsiders -/

section Outsiders

variable {host : Host} {a a' : Audit} {ev : Event}

theorem findAssociation_eq_none {env : Env} {srv : PfcpServer} {src : SocketAddr}
    (h : ∀ x ∈ srv.associations.entries, x.2.peerAddr ≠ src) :
    findAssociation env srv src = none := by
  cases hfind : findAssociation env srv src with
  | none => rfl
  | some found =>
    obtain ⟨hx, hpeer⟩ := findAssociation_some hfind
    exact absurd hpeer (h found (Table.lookup_eq_some.mp hx))

/-- **A datagram of an outsider changes nothing.** -/
theorem outsider_step (h : a.Outsider ev) : (a.step host ev).forget = a.forget := by
  cases ev with
  | snapshot | report | uplink | downlink => cases h
  | datagram env now data src =>
    obtain ⟨htype, hsrc⟩ := h
    have hset := setupOf_eq_none htype
    have hfind : findAssociation env a.srv src = none := findAssociation_eq_none hsrc
    have hest : establishes env (received data) src a.world = none := by
      unfold establishes
      split
      · rw [hfind]
        rfl
      · rfl
    have hfresh : freshSetup (received data) a.world = none := by simp [freshSetup, hset]
    have htr := handleMessage_transition host.endian env (received data) src (touched now a.world)
    have hworld : (handleMessage host.endian env (received data) src (touched now a.world)).2 =
        touched now a.world := by
      generalize handleMessage host.endian env (received data) src (touched now a.world) = out at *
      obtain ⟨r, w'⟩ := out
      simp only at htr ⊢
      cases htr with
      | idle => rfl
      | heartbeat recvTs hhb hest' hset' htarget =>
        have hassoc : heartbeatAssociations env src recvTs (touched now a.world).srv =
            a.srv.associations := by
          unfold heartbeatAssociations
          rw [show findAssociation env (touched now a.world).srv src = none from hfind]
          cases src <;> rfl
        rw [hassoc]
        rfl
      | setup req hest' hset' htarget => cases hfresh.symm.trans hset'
      | refused req assoc hest' | interrupted req assoc _ _ _ hest'
      | established req assoc _ _ _ hest' => cases hest.symm.trans hest'
      | modified seid session assoc req _ _ _ _ hfound => cases hfind.symm.trans hfound
      | deleted seid session assoc _ _ _ hdel => cases hfind.symm.trans (of_deletes hdel).2.2.1
    have hledger : a.recordDatagram env (received data) src = a := by
      simp only [recordDatagram, hest, hfresh]
    have hstep : a.step host (.datagram env now data src) =
        { a.recordDatagram env (received data) src with
          sys := { a.sys with
            world :=
              (handleMessage host.endian env (received data) src (touched now a.world)).2 } } :=
      rfl
    rw [hstep, hworld, hledger]
    rfl

/-- Two systems that differ in their last activity only, one of which does not get the datagrams of
the outsiders. -/
theorem insiders_congr (host : Host) : ∀ (evs : List Event) (a a' : Audit), a.forget = a'.forget →
    (run (step host) a' (insiders host a evs)).forget = (run (step host) a evs).forget ∧
      sentAlong host a' (insiders host a evs) = sentToInsiders host a evs
  | [], a, a', h => ⟨h.symm, rfl⟩
  | ev :: evs, a, a', h => by
    unfold insiders sentToInsiders
    split_ifs with hout
    · have hsame : (a.step host ev).forget = a'.forget := (outsider_step hout).trans h
      exact insiders_congr host evs (a.step host ev) a' hsame
    · have hcongr : (a.step host ev).forget = (a'.step host ev).forget ∧
          a.sent host ev = a'.sent host ev := step_congr h
      obtain ⟨hstep, hsent⟩ := hcongr
      obtain ⟨hrun, halong⟩ := insiders_congr host evs (a.step host ev) (a'.step host ev) hstep
      refine ⟨hrun, ?_⟩
      rw [sentAlong, halong, hsent]

end Outsiders

/-- **Noninterference.**  Erasing from a run every datagram that is no Association Setup Request and
comes from a source without an association changes neither the final state, the time of the last
activity aside, nor what the other events send. -/
theorem outsiders_do_not_interfere (host : Host) (b : Boot) (evs : List Event) :
    (after host b (insiders host (init b) evs)).forget = (after host b evs).forget ∧
      sentAlong host (init b) (insiders host (init b) evs) = sentToInsiders host (init b) evs :=
  insiders_congr host evs (init b) (init b) rfl

end Audit

end UpfEdge
