import UpfEdge.Server.Tick
import UpfEdge.SmfSim

/-!
# Which triggers fire

The reporter decides the volume trigger by multiplying the triggers octet by the VOLTH bit, where
the periodic trigger masks it.  The product is zero only for octets 0 and 128, so a threshold fires
whatever other trigger is enabled, and it does not fit its octet from 128 on.
-/

namespace UpfEdge

open Lib Pfcp Server Xdp

/-- The reporter evaluates the triggers of `cfg` at the counters `sum`. -/
def Evaluated (srv : PfcpServer) (totals : Totals) (cfg : UrrConfig) (sum : UrrStats) : Prop :=
  srv.peerAddr.isSome ∧
    ∃ key, (key, sum) ∈ totals ∧ srv.urrConfigs.lookup (recoveredUrr ⟨key⟩) = some cfg

/-- A tick queues requests for triggers that are enabled only, and none of its arithmetic leaves the
type it is done in. -/
structure OnlyEnabled (clock : ℕ → Instant) (totals : Totals) (srv : PfcpServer) : Prop where
  volth : ∀ r ∈ (report clock totals srv).2, r.trigger &&& usageReportTriggerVolth ≠ 0 →
    ∃ cfg, srv.urrConfigs.lookup (r.seid, r.urrId) = some cfg ∧
      cfg.reportingTriggers &&& reportingTriggerVolth ≠ 0
  perio : ∀ r ∈ (report clock totals srv).2, r.trigger &&& usageReportTriggerPerio ≠ 0 →
    ∃ cfg, srv.urrConfigs.lookup (r.seid, r.urrId) = some cfg ∧
      cfg.reportingTriggers &&& reportingTriggerPerio ≠ 0
  product : ∀ cfg sum, Evaluated srv totals cfg sum →
    cfg.reportingTriggers.toNat * reportingTriggerVolth.toNat < 2 ^ 8
  volume : ∀ cfg sum, Evaluated srv totals cfg sum →
    sum.ulBytes.toNat + sum.dlBytes.toNat < 2 ^ 64

/-- The octet is below 128, the volumes have a sum, and where the octet lacks VOLTH it has no other
bit either, or there is no threshold that is reached and was not reported before. -/
def NoStrayTrigger (cfg : UrrConfig) (sum : UrrStats) : Prop :=
  cfg.reportingTriggers.toNat < 128 ∧ sum.ulBytes.toNat + sum.dlBytes.toNat < 2 ^ 64 ∧
    (cfg.reportingTriggers &&& reportingTriggerVolth ≠ 0 ∨ cfg.reportingTriggers = 0 ∨
      cfg.thresholdReported = true ∨
      ∀ th ∈ cfg.volumeThresholdTotal, sum.ulBytes.toNat + sum.dlBytes.toNat < th.toNat)

section Sections

variable {clock : ℕ → Instant} {totals : Totals} {srv : PfcpServer}

/-- The rows of a section with a configuration are what is evaluated. -/
theorem evaluated_of_row {peer : SocketAddr} (hpeer : srv.peerAddr = some peer) {row : Row}
    (hrow : row ∈ totals.zipIdx) {cfg : UrrConfig}
    (hcfg : srv.urrConfigs.lookup row.urr = some cfg) : Evaluated srv totals cfg row.1.2 :=
  ⟨by rw [hpeer]; rfl, row.1.1, List.fst_mem_of_mem_zipIdx hrow, hcfg⟩

theorem mul_volth_ne_zero {t : UInt8} (hlt : t.toNat < 128) (hne : t ≠ 0) :
    t * reportingTriggerVolth ≠ 0 := by
  intro heq
  apply hne
  have hnat := congrArg UInt8.toNat heq
  rw [UInt8.toNat_mul, show reportingTriggerVolth.toNat = 2 from rfl] at hnat
  apply UInt8.toNat_inj.mp
  have : (0 : UInt8).toNat = 0 := rfl
  omega

theorem toNat_totalVol {row : Row} (h : row.1.2.ulBytes.toNat + row.1.2.dlBytes.toNat < 2 ^ 64) :
    row.totalVol.toNat = row.1.2.ulBytes.toNat + row.1.2.dlBytes.toNat := by
  rw [Row.totalVol, UInt64.toNat_add, Nat.mod_eq_of_lt h]

/-- A threshold that is reached fires where any bit of an octet below 128 is set. -/
theorem volumeFires_iff {row : Row} {cfg : UrrConfig} (hlt : cfg.reportingTriggers.toNat < 128)
    (hsum : row.1.2.ulBytes.toNat + row.1.2.dlBytes.toNat < 2 ^ 64) :
    cfg.VolumeFires row.totalVol ↔ ¬ (cfg.reportingTriggers = 0 ∨ cfg.thresholdReported = true ∨
      ∀ th ∈ cfg.volumeThresholdTotal,
        row.1.2.ulBytes.toNat + row.1.2.dlBytes.toNat < th.toNat) := by
  have hle : ∀ th : UInt64, th ≤ row.totalVol ↔
      ¬ row.1.2.ulBytes.toNat + row.1.2.dlBytes.toNat < th.toNat := by
    intro th
    rw [UInt64.le_iff_toNat_le, toNat_totalVol hsum, not_lt]
  constructor
  · rintro ⟨hmul, hrep, th, hth, hreached⟩ (hzero | hrep' | hbelow)
    · exact hmul (by rw [hzero]; rfl)
    · rw [hrep] at hrep'
      cases hrep'
    · exact (hle th).mp hreached (hbelow th hth)
  · intro h
    simp only [not_or, not_forall] at h
    obtain ⟨hne, hrep, th, hth, hreached⟩ := h
    exact ⟨mul_volth_ne_zero hlt hne, by simpa using hrep, th, hth, (hle th).mpr hreached⟩

/-- The tick on any totals with different keys, whatever the configurations. -/
theorem onlyEnabled_iff_of_nodup (hnodup : (totals.map Prod.fst).Nodup) :
    OnlyEnabled clock totals srv ↔
      ∀ cfg sum, Evaluated srv totals cfg sum → NoStrayTrigger cfg sum := by
  constructor
  · intro h cfg sum hev
    have hproduct := h.product cfg sum hev
    rw [show reportingTriggerVolth.toNat = 2 from rfl] at hproduct
    have hlt : cfg.reportingTriggers.toNat < 128 := by omega
    have hvolume := h.volume cfg sum hev
    refine ⟨hlt, hvolume, or_iff_not_imp_left.mpr fun hbit => ?_⟩
    by_contra hfires
    obtain ⟨hpeer, key, hkey, hcfg⟩ := hev
    obtain ⟨peer, hpeer⟩ := Option.isSome_iff_exists.mp hpeer
    obtain ⟨i, hrow⟩ := exists_row hkey
    have hv : cfg.VolumeFires (Row.totalVol ((key, sum), i)) :=
      (volumeFires_iff hlt hvolume).mpr hfires
    obtain ⟨seq, hr⟩ : ∃ seq, Row.request clock ((key, sum), i) cfg peer seq ∈
        (report clock totals srv).2 :=
      exists_request_of_fires hnodup hpeer hrow hcfg (.inl hv)
    obtain ⟨cfg', hcfg', hset⟩ := h.volth _ hr (Row.trigger_volth.mpr hv)
    obtain rfl : cfg = cfg' := Option.some.inj (hcfg.symm.trans hcfg')
    exact hbit hset
  · intro h
    refine ⟨fun r hr hbit => ?_, fun r hr hbit => ?_, fun cfg sum hev => ?_,
      fun cfg sum hev => (h cfg sum hev).2.1⟩
    · obtain ⟨peer, row, cfg, seq, hpeer, hrow, hcfg, -, rfl⟩ := row_of_mem_report hnodup hr
      obtain ⟨hlt, hsum, hcond⟩ := h cfg row.1.2 (evaluated_of_row hpeer hrow hcfg)
      have hv := (volumeFires_iff hlt hsum).mp (Row.trigger_volth.mp hbit)
      exact ⟨cfg, hcfg, hcond.resolve_right hv⟩
    · obtain ⟨peer, row, cfg, seq, hpeer, hrow, hcfg, -, rfl⟩ := row_of_mem_report hnodup hr
      exact ⟨cfg, hcfg, (Row.trigger_perio.mp hbit).1⟩
    · have hlt := (h cfg sum hev).1
      rw [show reportingTriggerVolth.toNat = 2 from rfl]
      omega

end Sections

/-- **Triggers and ticks.**  In every state a run of the UPF reaches, for whatever URR_MAP holds and
whenever the clock is read, a tick queues requests for enabled triggers only and overflows nowhere
exactly when no configuration it evaluates has a trigger to fire that is not enabled. -/
theorem onlyEnabled_iff (host : Host) (b : Boot) (evs : List Event) (m : Maps)
    (order : IterOrder (Sigma fun _ : UrrKey => PerCpu UrrStats)) (clock : ℕ → Instant) :
    OnlyEnabled clock (snapshot host.ncpus order m) (Audit.after host b evs).srv ↔
      ∀ cfg sum, Evaluated (Audit.after host b evs).srv (snapshot host.ncpus order m) cfg sum →
        NoStrayTrigger cfg sum :=
  onlyEnabled_iff_of_nodup (snapshot_nodup host.ncpus order m)

section Sim

open SmfSim

/-- A URR for periodic reports only, every thirty seconds, that has a threshold of one octet. -/
def periodicOnly : Event :=
  sends smfA (establishmentWith 1 smfA
    [{ anyPacket 1 100 interfaceAccess ue1 1 with urrId := some 1 }]
    [{ farId := 1, applyAction := actionForw, destInterface := interfaceCore
       outerHeaderCreation := none }, toGnb 2 0x80000001]
    [{ urrId := 1, measurementMethod := measurementMethodVolum
       reportingTriggers := reportingTriggerPerio
       volumeThresholdTotal := some 1, measurementPeriod := some 30 }])

/-- One frame reaches the threshold, and the tick after it reports it as a volume. -/
theorem not_onlyEnabled_periodicOnly :
    ¬ OnlyEnabled (fun _ => 0)
      (snapshot host.ncpus .asStored (Audit.after host boot [setup smfA 1, periodicOnly,
        .uplink machine (uplinkFrame ue1)]).maps)
      (Audit.after host boot [setup smfA 1, periodicOnly,
        .uplink machine (uplinkFrame ue1)]).srv := by
  intro h
  set a := Audit.after host boot [setup smfA 1, periodicOnly, .uplink machine (uplinkFrame ue1)]
  have hr : (⟨peer smfA, 1000, 1, 1, 1, 0, usageReportTriggerVolth, 74, 0, 74⟩ : Report) ∈
      (report (fun _ => 0) (snapshot host.ncpus .asStored a.maps) a.srv).2 := by
    decide +kernel
  have henabled : (a.srv.urrConfigs.lookup (1, 1)).map (·.reportingTriggers) =
      some reportingTriggerPerio := by
    decide +kernel
  obtain ⟨cfg, hcfg, hbit⟩ := h.volth _ hr (by decide)
  rw [hcfg] at henabled
  have hperio : cfg.reportingTriggers = reportingTriggerPerio := Option.some.inj henabled
  rw [hperio] at hbit
  exact hbit rfl

end Sim

end UpfEdge
