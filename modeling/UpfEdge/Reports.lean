import UpfEdge.Ledger
import UpfEdge.SmfSim

/-!
# Where usage reports go

The server keeps one report destination, and every Association Setup that is not a duplicate
overwrites it with port 8805 of its Node ID.  A queued Session Report Request therefore carries the
right SEID for its SMF, but it reaches that SMF exactly when the last such setup named the address
the session was established from.
-/

namespace UpfEdge

open Lib Pfcp Server

namespace Audit

/-- The requests the reporter queues when it next takes the server lock. -/
def reports (host : Host) (a : Audit) (clock : ℕ → Instant) : List Report :=
  (a.sys.handle host (.report clock)).2

/-- A request goes to the peer address of the association that established the session of its URR,
and its header carries the SEID that SMF chose for the session. -/
def ToOwner (a : Audit) (r : Report) : Prop :=
  ∃ o, a.origin.lookup r.seid = some o ∧ r.dest = o.peerAddr ∧
    ∃ header body, PfcpHeader.decode r.message = .ok (header, body) ∧ header.seid = some o.cpSeid

/-- The last Association Setup that was not a duplicate named, as its Node ID, the address that
`seid` was established from, and that was port 8805 of it. -/
def LastSetupFrom (a : Audit) (seid : UInt64) : Prop :=
  ∃ o nodeId, a.origin.lookup seid = some o ∧ a.lastSetup = some nodeId ∧
    o.peerAddr = .v4 nodeId 8805

/-- What the header of a queued request carries. -/
theorem report_message_seid (r : Report) :
    ∃ header body, PfcpHeader.decode r.message = .ok (header, body) ∧
      header.seid = some r.cpSeid := by
  have hbytes : ∃ rest, r.message =
      finish ((PfcpHeader.newSessionMsg pfcpSessionReportReq r.cpSeid r.seq).encode ++ rest) := by
    simp only [Report.message, buildSessionReportRequest, appendIe, List.append_assoc]
    exact ⟨_, rfl⟩
  obtain ⟨rest, hbytes⟩ := hbytes
  rw [hbytes]
  obtain ⟨header, hdec, hseid⟩ := decode_finish_sessionMsg pfcpSessionReportReq r.cpSeid r.seq rest
  exact ⟨header, rest, hdec, hseid⟩

/-- A queued request comes from a configuration of the server. -/
theorem reports_fromConfig {host : Host} {a : Audit} {clock : ℕ → Instant} {r : Report}
    (hr : r ∈ a.reports host clock) : ∃ peer, a.srv.peerAddr = some peer ∧
      r.FromConfig a.srv peer := by
  simp only [reports, System.handle] at hr
  cases htotals : a.sys.totals with
  | none => simp [htotals] at hr
  | some totals =>
    rw [htotals] at hr
    exact (report_spec clock totals a.srv).2 r hr

/-- A queued request carries the SEID that was recorded when its session was established. -/
theorem reports_origin {host : Host} {a : Audit} (hl : Ledger a) {clock : ℕ → Instant} {r : Report}
    (hr : r ∈ a.reports host clock) : ∃ o nodeId, a.origin.lookup r.seid = some o ∧
      o.cpSeid = r.cpSeid ∧ a.lastSetup = some nodeId ∧ r.dest = .v4 nodeId 8805 := by
  obtain ⟨peer, hpeer, hdest, hcfg⟩ := reports_fromConfig hr
  obtain ⟨cfg, hlookup, hcp⟩ := Option.map_eq_some_iff.mp hcfg
  obtain ⟨o, ho, hocp⟩ := hl.config hlookup
  have hlast := hl.peer
  rw [hpeer] at hlast
  obtain ⟨nodeId, hnode, hpeer'⟩ := Option.map_eq_some_iff.mp hlast.symm
  exact ⟨o, nodeId, ho, hocp.trans hcp, hnode, by rw [hdest, ← hpeer']⟩

/-- **Destination of reports.**  In every run that issues each SEID once, whatever the reporter
queues for a URR reaches the SMF that established the session exactly when that SMF's address was
the one named by the last Association Setup. -/
theorem report_toOwner_iff (host : Host) (b : Boot) (evs : List Event)
    (hm : Meets (step host) (IssuesBelow (2 ^ 64 - 1)) (init b) evs) (clock : ℕ → Instant)
    (r : Report) (hr : r ∈ (after host b evs).reports host clock) :
    (after host b evs).ToOwner r ↔ (after host b evs).LastSetupFrom r.seid := by
  have hl := (after_issued (n := 2 ^ 64 - 1) (by decide) (by decide) hm).2
  obtain ⟨o, nodeId, ho, hcp, hlast, hdest⟩ := reports_origin hl hr
  constructor
  · rintro ⟨o', ho', hdest', -⟩
    exact ⟨o', nodeId, ho', hlast, hdest'.symm.trans hdest⟩
  · rintro ⟨o', nodeId', ho', hlast', hpeer⟩
    obtain rfl : o = o' := Option.some.inj (ho.symm.trans ho')
    obtain rfl : nodeId = nodeId' := Option.some.inj (hlast.symm.trans hlast')
    refine ⟨o, ho, hdest.trans hpeer.symm, ?_⟩
    rw [hcp]
    exact report_message_seid r

section Sim

open SmfSim

/-- Thirty seconds after the start, the period of the simulator's URR. -/
def afterPeriod : ℕ → Instant := fun _ => 30000000000

/-- The periodic report of session 1 at that time, sent to `dest`. -/
def periodicReport (dest : SocketAddr) : Report where
  dest := dest
  seq := 1000
  seid := 1
  cpSeid := 1
  urrId := 1
  urSeqn := 0
  trigger := usageReportTriggerPerio
  totalVol := 0
  ulBytes := 0
  dlBytes := 0

/-- One simulator alone gets its report. -/
theorem report_toOwner_iff_one_smf :
    (after host boot [setup smfA 1, establish smfA 1 ue1, .snapshot .asStored]).ToOwner
      (periodicReport (peer smfA)) :=
  (report_toOwner_iff host boot [setup smfA 1, establish smfA 1 ue1, .snapshot .asStored]
    (by decide +kernel) afterPeriod (periodicReport (peer smfA)) (by decide +kernel)).mpr
    ⟨⟨smfA, peer smfA, 1⟩, smfA, by decide +kernel, by decide +kernel, rfl⟩

/-- A second simulator associates after the first: the report for the first one's session is
addressed to the second. -/
theorem report_not_toOwner_two_smfs :
    ∃ r ∈ (after host boot [setup smfA 1, establish smfA 1 ue1, setup smfB 1,
        .snapshot .asStored]).reports host afterPeriod,
      ¬ (after host boot [setup smfA 1, establish smfA 1 ue1, setup smfB 1,
        .snapshot .asStored]).ToOwner r := by
  refine ⟨periodicReport (peer smfB), by decide +kernel, ?_⟩
  rintro ⟨o, ho, hdest, -⟩
  have hA : (after host boot [setup smfA 1, establish smfA 1 ue1, setup smfB 1,
      .snapshot .asStored]).origin.lookup 1 = some ⟨smfA, peer smfA, 1⟩ := by decide +kernel
  obtain rfl : (⟨smfA, peer smfA, 1⟩ : Origin) = o := Option.some.inj (hA.symm.trans ho)
  exact absurd hdest (by decide)

end Sim

end Audit

end UpfEdge
