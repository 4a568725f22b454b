import UpfEdge.Agreement
import UpfEdge.Cleanup
import UpfEdge.Reports
import UpfEdge.Server.Tick
import UpfEdge.Sessions

/-!
# Reports for sessions that are gone

A report needs a row in the totals the reporter holds and a configuration in `urr_configs`.  A
deletion removes the URR_MAP rows of the URRs that its PDR rows name, and never a configuration or
a row of totals that were taken before.  So nothing is reported for a deleted session as long as
every accepted deletion finds each configured URR of its session without a row, or with one that is
not in the held totals and that it removes (`Dismissed`).
-/

namespace UpfEdge

open Lib Pfcp Server

namespace Audit

/-- The totals the reporter holds between its two sections. -/
def held (a : Audit) : Totals := a.sys.totals.getD []

/-- No configured URR of session `s` has a row in the held totals, nor one in URR_MAP that its
deletion leaves there. -/
def Dismissed (e : Endian) (a : Audit) (s : UInt64) (session : SessionData) : Prop :=
  ∀ x ∈ a.srv.urrConfigs.entries, x.1.1 = s →
    (∀ t ∈ a.held, recoveredUrr ⟨t.1⟩ ≠ x.1) ∧
    ∀ row ∈ a.maps.urrMap.rows.entries, recoveredUrr row.1 = x.1 →
      row.1 ∈ ((a.listedRows e s session).filter (·.urrId ≠ 0)).map
        fun pdr => UrrKey.new s pdr.urrId

instance (e : Endian) (a : Audit) (s : UInt64) (session : SessionData) :
    Decidable (a.Dismissed e s session) :=
  inferInstanceAs (Decidable (∀ x ∈ _, _))

/-! ### What one event can add -/

section Step

variable {host : Host} {a : Audit} {ev : Event}

/-- A SESSION_MAP row after an event has the SEID of the row before it, or one just issued. -/
theorem step_sessionRow {k : SessionKey} {info : SessionInfo}
    (h : (a.step host ev).maps.sessionMap.lookup k = some info) :
    (∃ old, a.maps.sessionMap.lookup k = some old ∧ old.seid = info.seid) ∨
      a.Issues ev ∧ info.seid = a.srv.nextSeid := by
  have hmove := a.step_move host ev
  generalize a.step host ev = a' at hmove h
  cases hmove with
  | steady hw ho hl hest =>
    obtain ⟨old, hold, hseid, -⟩ := hw.sessionRow_some h
    exact .inl ⟨old, hold, hseid⟩
  | heartbeat recvTs hhb hest hw ho hl
  | setup req hset hest hw ho hl
  | refused req assoc hest hnone hw ho hl =>
    rw [Audit.maps, hw] at h
    exact .inl ⟨info, h, rfl⟩
  | interrupted req assoc ueIp gnbInfo hest hue hgnb hinst ho hl =>
    rcases (installed hinst).row_seid h with hseid | hold
    · exact .inr ⟨.of_establishes hest, hseid⟩
    · exact .inl ⟨info, hold, rfl⟩
  | established req assoc ueIp gnbInfo w' hest hue hgnb hinst hw ho hl =>
    rw [Audit.maps, hw] at h
    rcases (installed hinst).row_seid h with hseid | hold
    · exact .inr ⟨.of_establishes hest, hseid⟩
    · exact .inl ⟨info, hold, rfl⟩
  | deleted seid session assoc hest hdel hw ho hl =>
    rw [Audit.maps, hw, sessionMap_removeRules] at h
    split_ifs at h
    exact .inl ⟨info, h, rfl⟩

/-- A URR_MAP row after an event was there, or is of a SEID that is just issued or that a
SESSION_MAP row carries. -/
theorem step_urrRow {k : UrrKey} (h : ((a.step host ev).maps.urrMap.lookup k).isSome) :
    (a.maps.urrMap.lookup k).isSome ∨ (a.Issues ev ∧ ∃ id, k = .new a.srv.nextSeid id) ∨
      ∃ key info id, a.maps.sessionMap.lookup key = some info ∧ k = .new info.seid id := by
  have hmove := a.step_move host ev
  generalize a.step host ev = a' at hmove h
  have hkept {key : SessionKey} {w' : World} (hk : Kept a.srv.nextSeid key a.world w')
      (h : (w'.maps.urrMap.lookup k).isSome) :
      (a.maps.urrMap.lookup k).isSome ∨ ∃ id, k = .new a.srv.nextSeid id := by
    by_cases hnew : ∃ id, k = UrrKey.new a.srv.nextSeid id
    · exact .inr hnew
    · rw [hk.urrRow k (not_exists.mp hnew)] at h
      exact .inl h
  cases hmove with
  | steady hw ho hl hest =>
    rcases hw.urrRow k h with hold | hnew
    · exact .inl hold
    · exact .inr (.inr hnew)
  | heartbeat recvTs hhb hest hw ho hl
  | setup req hset hest hw ho hl
  | refused req assoc hest hnone hw ho hl =>
    rw [Audit.maps, hw] at h
    exact .inl h
  | interrupted req assoc ueIp gnbInfo hest hue hgnb hinst ho hl =>
    rcases hkept (installed hinst).kept h with hold | hnew
    · exact .inl hold
    · exact .inr (.inl ⟨.of_establishes hest, hnew⟩)
  | established req assoc ueIp gnbInfo w' hest hue hgnb hinst hw ho hl =>
    rw [Audit.maps, hw] at h
    rcases hkept (installed hinst).kept h with hold | hnew
    · exact .inl hold
    · exact .inr (.inl ⟨.of_establishes hest, hnew⟩)
  | deleted seid session assoc hest hdel hw ho hl =>
    rw [Audit.maps, hw, urrMap_removeRules] at h
    split_ifs at h
    · cases h
    · exact .inl h

/-- A configuration after an event was there, or is of a SEID just issued. -/
theorem step_config {k : UInt64 × UInt32}
    (h : ((a.step host ev).srv.urrConfigs.lookup k).isSome) :
    (a.srv.urrConfigs.lookup k).isSome ∨ a.Issues ev ∧ k.1 = a.srv.nextSeid := by
  obtain ⟨cfg, hcfg⟩ := Option.isSome_iff_exists.mp h
  rcases config_of_move (a.step_move host ev) hcfg with ⟨old, hold, -⟩ | ⟨hnew, -⟩
  · exact .inl (by rw [hold]; rfl)
  · exact .inr hnew

/-- The server lock taken, the reporter holds nothing. -/
theorem step_report_totals (clock : ℕ → Instant) :
    (a.step host (.report clock)).sys.totals = none := by
  simp only [Audit.step, System.step, System.handle]
  split
  · next htotals => exact htotals
  · rfl

/-- What the reporter holds after an event it held before, or has just read from URR_MAP. -/
theorem step_held {t : UInt64 × UrrStats} (h : t ∈ (a.step host ev).held) :
    t ∈ a.held ∨ (a.maps.urrMap.lookup ⟨t.1⟩).isSome := by
  cases ev with
  | datagram | uplink | downlink => exact .inl h
  | snapshot order =>
    simp only [held, Audit.step, System.step, System.handle] at h ⊢
    cases htotals : a.sys.totals with
    | some totals =>
      rw [htotals] at h
      exact .inl (by rw [← htotals]; exact h)
    | none =>
      rw [htotals] at h
      obtain ⟨row, hrow, rfl⟩ := List.mem_map.mp h
      have hlookup : a.maps.urrMap.lookup row.1 = some row.2 :=
        Table.lookup_eq_some.mpr (order.mem_perm.mp hrow)
      exact .inr (by rw [hlookup]; rfl)
  | report clock =>
    rw [held, step_report_totals] at h
    cases h

/-- The keys of the held totals are different. -/
theorem step_held_nodup (h : (a.held.map Prod.fst).Nodup) :
    ((a.step host ev).held.map Prod.fst).Nodup := by
  cases ev with
  | datagram | uplink | downlink => exact h
  | snapshot order =>
    simp only [held, Audit.step, System.step, System.handle] at h ⊢
    cases htotals : a.sys.totals with
    | some totals =>
      rw [htotals] at h
      simp only [htotals]
      exact h
    | none => exact snapshot_nodup host.ncpus order a.maps
  | report clock =>
    rw [held, step_report_totals]
    exact List.nodup_nil

/-- The counter does not go back. -/
theorem step_next_le {n : ℕ} (hn : n < 2 ^ 64) (hb : a.IssuesBelow n ev) :
    a.srv.nextSeid.toNat ≤ (a.step host ev).srv.nextSeid.toNat := by
  cases step_booked host a ev with
  | idle hiss hmod hs ht hseid hteid
  | deleted hiss hmod seid hs ht hseid hteid
  | modified hiss seid session req hmod hlive hs ht hseid hteid => rw [hseid]
  | refused hiss hmod hanswer hs ht hseid hteid
  | established hiss hmod hanswer data hdata hs ht hseid hteid =>
    rw [hseid, next_succ (hb hiss) hn]
    omega

end Step

/-! ### Sessions that are gone -/

/-- The SESSION_MAP rows of live sessions stand at the addresses of their UEs. -/
def AtHome (host : Host) (a : Audit) : Prop :=
  ∀ k info data, a.maps.sessionMap.lookup k = some info → a.Live info.seid data →
    k = .ofIp host.endian data.ueIp

/-- Nothing in the maps or the held totals can be reported for the SEID `d` any more, and no frame
can be counted for it. -/
structure Retired (a : Audit) (d : UInt64) : Prop where
  row : ∀ k info, a.maps.sessionMap.lookup k = some info → info.seid ≠ d
  urr : ∀ k, (recoveredUrr k).1 = d → (a.srv.urrConfigs.lookup (recoveredUrr k)).isSome →
    a.maps.urrMap.lookup k = none ∧ ∀ t ∈ a.held, t.1 ≠ k.key

section Gone

variable {host : Host} {a : Audit} {ev : Event}

theorem AtHome.step {n : ℕ} (hi : Issued n a) (h : a.AtHome host) :
    (a.step host ev).AtHome host := by
  have hmove := a.step_move host ev
  generalize a.step host ev = a' at hmove ⊢
  intro k info session hrow hlive
  -- the row of a SEID that has just been issued, or an old one
  have hold {w' : World} {ueIp : Ipv4Addr} {cpSeid : UInt64}
      (hin : Installed host.endian ueIp cpSeid a.world w')
      (hrow : w'.maps.sessionMap.lookup k = some info) :
      (k = .ofIp host.endian ueIp ∧ info.seid = a.srv.nextSeid) ∨
        a.maps.sessionMap.lookup k = some info := by
    obtain ⟨info', hseid, hins | ⟨-, heq⟩⟩ := hin.sessionMap
    · rw [BoundedTable.lookup_of_insert hins] at hrow
      split_ifs at hrow with hk
      · rw [← Option.some.inj hrow]
        exact .inl ⟨hk, hseid⟩
      · exact .inr hrow
    · rw [heq] at hrow
      exact .inr hrow
  cases hmove with
  | steady hw ho hl hest =>
    obtain ⟨info', hrow', hseid, -⟩ := hw.sessionRow_some hrow
    obtain ⟨session', hlive', hue, -⟩ := hw.session_some hlive
    rw [← hue]
    exact h k info' session' hrow' (by rw [hseid]; exact hlive')
  | heartbeat recvTs hhb hest hw ho hl
  | setup req hset hest hw ho hl
  | refused req assoc hest hnone hw ho hl =>
    rw [Audit.maps, hw] at hrow
    rw [Live, Audit.srv, hw] at hlive
    exact h k info session hrow hlive
  | interrupted req assoc ueIp gnbInfo hest hue hgnb hinst ho hl =>
    have hin := installed hinst
    rw [Live, Audit.srv, hin.sessions] at hlive
    rcases hold hin hrow with ⟨-, hseid⟩ | hrow
    · rw [hseid] at hlive
      exact absurd (hi.live hlive) (Nat.lt_irrefl _)
    · exact h k info session hrow hlive
  | established req assoc ueIp gnbInfo w' hest hue hgnb hinst hw ho hl =>
    have hin := installed hinst
    rw [Live, Audit.srv, hw] at hlive
    rw [Audit.maps, hw] at hrow
    have hlive' := (Table.lookup_insert_ite _ _ _ _).symm.trans hlive
    rcases hold hin hrow with ⟨hk, hseid⟩ | hrow
    · rw [if_pos hseid] at hlive'
      rw [← Option.some.inj hlive']
      exact hk
    · have hne : info.seid ≠ a.srv.nextSeid := by
        intro heq
        have := hi.sessionRow hrow
        rw [heq] at this
        exact Nat.lt_irrefl _ this
      rw [if_neg hne, hin.sessions] at hlive'
      exact h k info session hrow hlive'
  | deleted seid session' assoc hest hdel hw ho hl =>
    rw [Audit.maps, hw, sessionMap_removeRules] at hrow
    split_ifs at hrow
    rw [Live, Audit.srv, hw] at hlive
    have hlive' := (Table.lookup_erase_ite _ _ _).symm.trans hlive
    split_ifs at hlive'
    exact h k info session hrow hlive'

/-- What is gone stays gone: later SEIDs are others, and so are the keys of their rules. -/
theorem Retired.step {d : UInt64} (hi : Issued (2 ^ 48) a) (hb : a.IssuesBelow (2 ^ 48) ev)
    (hd : d.toNat < a.srv.nextSeid.toNat) (h : Retired a d) : Retired (a.step host ev) d := by
  have hnew : a.srv.nextSeid ≠ d := by
    intro heq
    rw [heq] at hd
    exact Nat.lt_irrefl _ hd
  constructor
  · intro k info hrow
    rcases step_sessionRow hrow with ⟨old, hold, hseid⟩ | ⟨-, hseid⟩
    · rw [← hseid]
      exact h.row k old hold
    · rw [hseid]
      exact hnew
  · intro k hk hcfg
    have hcfg' : (a.srv.urrConfigs.lookup (recoveredUrr k)).isSome := by
      rcases step_config hcfg with hold | ⟨-, hseid⟩
      · exact hold
      · exact absurd (hseid.symm.trans hk) hnew
    obtain ⟨hnone, hheld⟩ := h.urr k hk hcfg'
    refine ⟨Option.not_isSome_iff_eq_none.mp fun hrow => ?_, fun t ht heq => ?_⟩
    · rcases step_urrRow hrow with hold | ⟨hiss, id, rfl⟩ | ⟨key, info, id, hinfo, rfl⟩
      · rw [hnone] at hold
        cases hold
      · exact hnew ((seidPart_composeKey_of_lt (hb hiss) id).symm.trans hk)
      · have hlt := Nat.lt_of_lt_of_le (hi.sessionRow hinfo) hi.next_le
        exact h.row key info hinfo ((seidPart_composeKey_of_lt hlt id).symm.trans hk)
    · rcases step_held ht with hold | hrow
      · exact hheld t hold heq
      · rw [heq, show (⟨k.key⟩ : UrrKey) = k from rfl, hnone] at hrow
        cases hrow

theorem live_of_deletion {s : UInt64} {session : SessionData}
    {assoc : Sigma fun _ : Ipv4Addr => SmfAssociation}
    (hdel : a.deletion ev = some (s, session, assoc)) : a.Live s session := by
  cases ev with
  | snapshot | report | uplink | downlink => cases hdel
  | datagram env now data src => exact (of_deletes hdel).2.1

/-- A session that is dismissed by its deletion is gone. -/
theorem Retired.of_deletion {s : UInt64} {session : SessionData}
    {assoc : Sigma fun _ : Ipv4Addr => SmfAssociation} (hhome : a.AtHome host)
    (hdel : a.deletion ev = some (s, session, assoc)) (hdis : a.Dismissed host.endian s session) :
    Retired (a.step host ev) s := by
  have hlive := live_of_deletion hdel
  cases ev with
  | snapshot | report | uplink | downlink => cases hdel
  | datagram env now data src =>
    obtain ⟨hw, -⟩ := step_of_deletes host now hdel
    have hheld : (a.step host (.datagram env now data src)).held = a.held := rfl
    generalize a.step host (.datagram env now data src) = a' at hw hheld ⊢
    constructor
    · intro k info hrow hseid
      rw [Audit.maps, hw, sessionMap_removeRules] at hrow
      split_ifs at hrow with hk
      exact hk (hhome k info _ hrow (by rw [hseid]; exact hlive))
    · intro k hk hcfg
      rw [Audit.srv, hw] at hcfg
      obtain ⟨cfg, hcfg⟩ := Option.isSome_iff_exists.mp hcfg
      obtain ⟨htotals, hrows⟩ := hdis ⟨recoveredUrr k, cfg⟩ (Table.lookup_eq_some.mp hcfg) hk
      refine ⟨?_, fun t ht heq => ?_⟩
      · rw [Audit.maps, hw, urrMap_removeRules]
        split_ifs with hmem
        · rfl
        · refine Option.not_isSome_iff_eq_none.mp fun hsome => hmem ?_
          obtain ⟨stats, hstats⟩ := Option.isSome_iff_exists.mp hsome
          exact mem_urrIds.mpr (hrows ⟨k, stats⟩ (Table.lookup_eq_some.mp hstats) rfl)
      · rw [hheld] at ht
        exact htotals t ht (by rw [heq])

/-- Nothing is reported for a SEID that is gone. -/
theorem Retired.not_reported {d : UInt64} (h : Retired a d) {clock : ℕ → Instant} {r : Report}
    (hr : r ∈ a.reports host clock) (hnodup : (a.held.map Prod.fst).Nodup) : r.seid ≠ d := by
  rintro rfl
  simp only [reports, System.handle] at hr
  cases htotals : a.sys.totals with
  | none => simp [htotals] at hr
  | some totals =>
    have hheld : a.held = totals := by rw [held, htotals]; rfl
    rw [htotals] at hr
    rw [hheld] at hnodup
    obtain ⟨peer, row, cfg, seq, -, hrow, hcfg, -, rfl⟩ := row_of_mem_report hnodup hr
    have hmem : row.1 ∈ a.held := by
      rw [hheld]
      exact List.fst_mem_of_mem_zipIdx hrow
    have hsome : (a.srv.urrConfigs.lookup (recoveredUrr ⟨row.1.1⟩)).isSome :=
      Option.isSome_iff_exists.mpr ⟨cfg, hcfg⟩
    exact (h.urr ⟨row.1.1⟩ rfl hsome).2 row.1 hmem rfl

end Gone

end Audit

/-! ### Runs -/

/-- The UPF with the SEIDs of the sessions whose deletion it has accepted. -/
structure Departures where
  audit : Audit
  departed : List UInt64

namespace Departures

open Audit

def init (b : Boot) : Departures where
  audit := .init b
  departed := []

def step (host : Host) (s : Departures) (ev : Event) : Departures where
  audit := s.audit.step host ev
  departed := match s.audit.deletion ev with
    | some (seid, _, _) => seid :: s.departed
    | none => s.departed

/-- Whenever the reporter takes the server lock now, it queues nothing for a session whose deletion
was accepted before. -/
def Quiet (host : Host) (s : Departures) : Prop :=
  ∀ clock, ∀ r ∈ s.audit.reports host clock, r.seid ∉ s.departed

/-- The event issues no SEID from `2 ^ 48` on, and a session it deletes is dismissed. -/
def Dismisses (host : Host) (s : Departures) (ev : Event) : Prop :=
  s.audit.IssuesBelow (2 ^ 48) ev ∧
    ∀ d ∈ s.audit.deletion ev, s.audit.Dismissed host.endian d.1 d.2.1

instance (host : Host) (s : Departures) (ev : Event) : Decidable (s.Dismisses host ev) :=
  inferInstanceAs (Decidable (_ ∧ _))

/-- The invariant: what has departed is gone. -/
structure Settled (host : Host) (s : Departures) : Prop where
  issued : Issued (2 ^ 48) s.audit
  atHome : s.audit.AtHome host
  nodup : (s.audit.held.map Prod.fst).Nodup
  past : ∀ d ∈ s.departed, d.toNat < s.audit.srv.nextSeid.toNat
  gone : ∀ d ∈ s.departed, Retired s.audit d

section Run

variable {host : Host} {s : Departures} {ev : Event}

theorem init_settled (host : Host) (b : Boot) : Settled host (init b) where
  issued := init_issued (by decide) b
  atHome k info data hrow := by cases hrow
  nodup := List.nodup_nil
  past d hd := by cases hd
  gone d hd := by cases hd

/-- A SEID that has departed after the event had departed before, or is deleted by it. -/
theorem mem_departed {d : UInt64} (h : d ∈ (s.step host ev).departed) :
    d ∈ s.departed ∨ ∃ session assoc, s.audit.deletion ev = some (d, session, assoc) := by
  simp only [step] at h
  split at h
  · next seid session assoc hdel =>
    rcases List.mem_cons.mp h with rfl | h
    · exact .inr ⟨session, assoc, hdel⟩
    · exact .inl h
  · exact .inl h

theorem Settled.step (h : Settled host s) (hg : s.Dismisses host ev) :
    Settled host (s.step host ev) := by
  obtain ⟨hb, hdis⟩ := hg
  have hle : s.audit.srv.nextSeid.toNat ≤ (s.audit.step host ev).srv.nextSeid.toNat :=
    step_next_le (n := 2 ^ 48) (by decide) hb
  refine ⟨h.issued.step (by decide) hb, h.atHome.step h.issued, step_held_nodup h.nodup,
    fun d hd => ?_, fun d hd => ?_⟩
  · rcases mem_departed hd with hold | ⟨session, assoc, hdel⟩
    · exact Nat.lt_of_lt_of_le (h.past d hold) hle
    · exact Nat.lt_of_lt_of_le (h.issued.live (live_of_deletion hdel)) hle
  · rcases mem_departed hd with hold | ⟨session, assoc, hdel⟩
    · exact (h.gone d hold).step h.issued hb (h.past d hold)
    · exact .of_deletion h.atHome hdel (hdis _ hdel)

theorem Settled.quiet (h : Settled host s) : s.Quiet host :=
  fun _ r hr hmem => (h.gone r.seid hmem).not_reported hr h.nodup rfl

end Run

/-- **No report after a deletion.**  In every run that issues fewer than `2 ^ 48` SEIDs and whose
deletions dismiss every configured URR of their sessions, the reporter queues nothing for a session
that was deleted before it took the server lock, however its sections fall between the others. -/
theorem quiet_of_dismisses (host : Host) (b : Boot) (evs : List Event)
    (hm : Meets (step host) (Dismisses host) (init b) evs) :
    Always (step host) (Quiet host) (init b) evs := by
  rintro pre post rfl
  have hpre := (meets_append.mp hm).1
  exact (run_inv (fun _ _ h hg => Settled.step h hg) (init_settled host b) hpre).quiet

section Sim

open SmfSim

/-- The simulator's session, deleted between two ticks: both of its PDRs with a URR are listed. -/
theorem quiet_of_dismisses_sim :
    Always (step host) (Quiet host) (init boot)
      [setup smfA 1, establish smfA 1 ue1, .snapshot .asStored, .report afterPeriod,
        sends smfA (sessionDeletion 1), .snapshot .asStored] :=
  quiet_of_dismisses host boot _ (by decide +kernel)

/-- A session with a URR for periodic reports that no PDR is linked to. -/
def unlinkedUrr : Event :=
  sends smfA (establishmentWith 1 smfA [anyPacket 1 100 interfaceAccess ue1 1]
    [{ farId := 1, applyAction := actionForw, destInterface := interfaceCore
       outerHeaderCreation := none }, toGnb 2 0x80000001]
    [{ urrId := 1, measurementMethod := measurementMethodVolum
       reportingTriggers := reportingTriggerPerio
       volumeThresholdTotal := none, measurementPeriod := some 30 }])

/-- Its reports go on after its deletion. -/
theorem not_quiet_unlinkedUrr :
    ¬ Always (step host) (Quiet host) (init boot)
      [setup smfA 1, unlinkedUrr, sends smfA (sessionDeletion 1), .snapshot .asStored] := by
  intro h
  have hquiet := h _ [] (List.append_nil _).symm
  have hr : periodicReport (peer smfA) ∈ (run (step host) (init boot) [setup smfA 1, unlinkedUrr,
      sends smfA (sessionDeletion 1), .snapshot .asStored]).audit.reports host afterPeriod := by
    decide +kernel
  refine hquiet afterPeriod _ hr ?_
  decide +kernel

end Sim

end Departures

end UpfEdge
