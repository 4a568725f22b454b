import UpfEdge.Server.Reporter

/-!
# One section of the reporter, URR by URR

The rows of a snapshot have different keys, and different keys are taken for different URRs.  So
every row finds the configuration its URR had when the section began, and the section is a list of
independent decisions: `report_config_of_mem` says what it makes of the configurations,
`report_requests` what it queues.
-/

namespace UpfEdge.Server

open Lib Pfcp

/-! ### The triggers -/

/-- The volume trigger fires at this volume. -/
def UrrConfig.VolumeFires (cfg : UrrConfig) (totalVol : UInt64) : Prop :=
  cfg.reportingTriggers * reportingTriggerVolth ≠ 0 ∧ cfg.thresholdReported = false ∧
    ∃ th ∈ cfg.volumeThresholdTotal, th ≤ totalVol

/-- The periodic trigger fires at this reading of the clock. -/
def UrrConfig.PeriodFires (cfg : UrrConfig) (read : Instant) : Prop :=
  cfg.reportingTriggers &&& reportingTriggerPerio ≠ 0 ∧
    ∃ period ∈ cfg.measurementPeriod, period.toNat * 1000000000 ≤ read - cfg.lastReport

instance (cfg : UrrConfig) (v : UInt64) : Decidable (cfg.VolumeFires v) :=
  inferInstanceAs (Decidable (_ ∧ _ ∧ _))

instance (cfg : UrrConfig) (read : Instant) : Decidable (cfg.PeriodFires read) :=
  inferInstanceAs (Decidable (_ ∧ _))

theorem volumeTrigger_eq (v : UInt64) (cfg : UrrConfig) :
    volumeTrigger v cfg = if cfg.VolumeFires v then
      (usageReportTriggerVolth, { cfg with thresholdReported := true }) else (0, cfg) := by
  obtain ⟨id, seid, cpSeid, method, triggers, threshold, period, last, reported, seqn⟩ := cfg
  unfold volumeTrigger UrrConfig.VolumeFires
  by_cases hmul : triggers * reportingTriggerVolth = 0
  · simp [hmul]
  · cases threshold with
    | none => simp
    | some th => cases reported with
      | true => simp
      | false => simp [hmul]

theorem periodTrigger_eq (read set : Instant) (cfg : UrrConfig) :
    periodTrigger read set cfg = if cfg.PeriodFires read then
      (usageReportTriggerPerio, { cfg with lastReport := set }) else (0, cfg) := by
  obtain ⟨id, seid, cpSeid, method, triggers, threshold, period, last, reported, seqn⟩ := cfg
  unfold periodTrigger UrrConfig.PeriodFires
  by_cases hand : triggers &&& reportingTriggerPerio = 0
  · simp [hand]
  · cases period with
    | none => simp
    | some period => simp [hand]

/-! ### One row -/

/-- A row of the totals with its number. -/
abbrev Row : Type := (UInt64 × UrrStats) × ℕ

namespace Row

/-- The URR that a row is taken for. -/
def urr (row : Row) : UInt64 × UInt32 := recoveredUrr ⟨row.1.1⟩

def totalVol (row : Row) : UInt64 := row.1.2.ulBytes + row.1.2.dlBytes

variable (clock : ℕ → Instant) (row : Row) (cfg : UrrConfig)

/-- A trigger of `cfg` fires for the row. -/
def Fires : Prop := cfg.VolumeFires row.totalVol ∨ cfg.PeriodFires (clock (2 * row.2))

instance : Decidable (row.Fires clock cfg) := inferInstanceAs (Decidable (_ ∨ _))

def trigger : UInt8 :=
  (if cfg.VolumeFires row.totalVol then usageReportTriggerVolth else 0) |||
    (if cfg.PeriodFires (clock (2 * row.2)) then usageReportTriggerPerio else 0)

/-- The configuration after the row. -/
def config : UrrConfig :=
  { cfg with
    thresholdReported := cfg.thresholdReported || decide (cfg.VolumeFires row.totalVol)
    lastReport := if cfg.PeriodFires (clock (2 * row.2)) then clock (2 * row.2 + 1)
      else cfg.lastReport
    urSeqn := if row.Fires clock cfg then cfg.urSeqn + 1 else cfg.urSeqn }

/-- The request the row queues when a trigger fires, as number `seq`. -/
def request (peer : SocketAddr) (seq : UInt32) : Report where
  dest := peer
  seq := seq
  seid := row.urr.1
  cpSeid := cfg.cpSeid
  urrId := row.urr.2
  urSeqn := cfg.urSeqn
  trigger := row.trigger clock cfg
  totalVol := row.totalVol
  ulBytes := row.1.2.ulBytes
  dlBytes := row.1.2.dlBytes

variable {clock row cfg}

theorem trigger_volth :
    row.trigger clock cfg &&& usageReportTriggerVolth ≠ 0 ↔ cfg.VolumeFires row.totalVol := by
  unfold trigger
  split_ifs with hv hp hp <;> simp [hv] <;> decide

theorem trigger_perio :
    row.trigger clock cfg &&& usageReportTriggerPerio ≠ 0 ↔
      cfg.PeriodFires (clock (2 * row.2)) := by
  unfold trigger
  split_ifs with hv hp hp <;> simp [hp] <;> decide

theorem trigger_eq_zero : row.trigger clock cfg = 0 ↔ ¬ row.Fires clock cfg := by
  unfold trigger Fires
  split_ifs with hv hp hp <;> simp [hv, hp] <;> decide

theorem config_of_not_fires (h : ¬ row.Fires clock cfg) : row.config clock cfg = cfg := by
  obtain ⟨hv, hp⟩ := not_or.mp h
  simp [config, h, hv, hp]

end Row

theorem volumeTrigger_fst (v : UInt64) (cfg : UrrConfig) :
    (volumeTrigger v cfg).1 = if cfg.VolumeFires v then usageReportTriggerVolth else 0 := by
  rw [volumeTrigger_eq]
  split_ifs <;> rfl

/-- The periodic trigger does not look at what the volume trigger has set. -/
theorem periodTrigger_volumeTrigger (read set : Instant) (v : UInt64) (cfg : UrrConfig) :
    periodTrigger read set (volumeTrigger v cfg).2 =
      (if cfg.PeriodFires read then usageReportTriggerPerio else 0,
        { cfg with
          thresholdReported := cfg.thresholdReported || decide (cfg.VolumeFires v)
          lastReport := if cfg.PeriodFires read then set else cfg.lastReport }) := by
  have hsame : (volumeTrigger v cfg).2.PeriodFires read ↔ cfg.PeriodFires read := by
    rw [volumeTrigger_eq]
    split_ifs <;> rfl
  have hset : (volumeTrigger v cfg).2 = { cfg with
      thresholdReported := cfg.thresholdReported || decide (cfg.VolumeFires v) } := by
    rw [volumeTrigger_eq]
    split_ifs with hv <;> simp [hv]
  rw [periodTrigger_eq, if_congr hsame rfl rfl, hset]
  split_ifs <;> rfl

/-- **What one row does.** -/
theorem reportRow_eq (clock : ℕ → Instant) (peer : SocketAddr) (srv : PfcpServer)
    (sent : List Report) (row : Row) :
    reportRow clock peer (srv, sent) row =
      match srv.urrConfigs.lookup row.urr with
      | none => (srv, sent)
      | some cfg =>
        if row.Fires clock cfg then
          ({ srv with
              urrConfigs := srv.urrConfigs.insert row.urr (row.config clock cfg)
              nextReportSeq := srv.nextReportSeq + 1 },
            sent ++ [row.request clock cfg peer srv.nextReportSeq])
        else (srv, sent) := by
  obtain ⟨⟨key, sum⟩, i⟩ := row
  have hkey : (key >>> 16, (key &&& 0xFFFF).toUInt32) = recoveredUrr ⟨key⟩ := rfl
  simp only [reportRow, Row.urr, hkey, volumeTrigger_fst, periodTrigger_volumeTrigger]
  cases hcfg : srv.urrConfigs.lookup (recoveredUrr ⟨key⟩) with
  | none => rfl
  | some cfg =>
    by_cases hfires : Row.Fires clock ((key, sum), i) cfg
    · have hne := mt Row.trigger_eq_zero.mp (not_not.mpr hfires)
      simp only [Row.config, if_pos hfires]
      exact if_neg hne
    · simp only [if_neg hfires]
      exact if_pos (Row.trigger_eq_zero.mpr hfires)

/-! ### The rows of a section -/

/-- A request but for its sequence number. -/
def Report.unnumbered (r : Report) : Report := { r with seq := 0 }

/-- What a row queues where the configurations are `f`. -/
def Row.queued (clock : ℕ → Instant) (peer : SocketAddr) (f : UInt64 × UInt32 → Option UrrConfig)
    (row : Row) : Option Report :=
  (f row.urr).bind fun cfg =>
    if row.Fires clock cfg then some (row.request clock cfg peer 0) else none

section Rows

variable {clock : ℕ → Instant} {peer : SocketAddr}

theorem reportRow_configs (acc : PfcpServer × List Report) (row : Row) :
    (reportRow clock peer acc row).1.urrConfigs.lookup =
      overwrite (Row.config clock) acc.1.urrConfigs.lookup (row.urr, row) := by
  funext k
  rw [reportRow_eq, overwrite]
  cases hcfg : acc.1.urrConfigs.lookup row.urr with
  | none =>
    split_ifs with hk
    · simp only [hk, hcfg, Option.map_none]
    · rfl
  | some cfg =>
    by_cases hfires : row.Fires clock cfg
    · simp only [if_pos hfires, Table.lookup_insert_ite]
      split_ifs with hk
      · simp only [hk, hcfg, Option.map_some]
      · rfl
    · simp only [if_neg hfires]
      split_ifs with hk
      · simp only [hk, hcfg, Option.map_some, Row.config_of_not_fires hfires]
      · rfl

theorem reportRow_requests (acc : PfcpServer × List Report) (row : Row) :
    ((reportRow clock peer acc row).2.map Report.unnumbered) =
      acc.2.map Report.unnumbered ++ (row.queued clock peer acc.1.urrConfigs.lookup).toList := by
  rw [reportRow_eq, Row.queued]
  cases acc.1.urrConfigs.lookup row.urr with
  | none => simp
  | some cfg =>
    by_cases hfires : row.Fires clock cfg
    · simp only [if_pos hfires, List.map_append, Option.bind_some]
      rfl
    · simp [hfires]

theorem reportRows_configs (rows : List Row) (acc : PfcpServer × List Report) :
    (rows.foldl (reportRow clock peer) acc).1.urrConfigs.lookup =
      (rows.map fun row => (row.urr, row)).foldl (overwrite (Row.config clock))
        acc.1.urrConfigs.lookup := by
  induction rows generalizing acc with
  | nil => rfl
  | cons row rows ih => rw [List.foldl_cons, ih, reportRow_configs, List.map_cons, List.foldl_cons]

/-- Rows of different URRs each find the configuration that was there before all of them. -/
theorem reportRows_requests {rows : List Row} (hnodup : (rows.map Row.urr).Nodup)
    (acc : PfcpServer × List Report) :
    (rows.foldl (reportRow clock peer) acc).2.map Report.unnumbered =
      acc.2.map Report.unnumbered ++ rows.filterMap (Row.queued clock peer
        acc.1.urrConfigs.lookup) := by
  induction rows generalizing acc with
  | nil => simp
  | cons row rows ih =>
    rw [List.map_cons, List.nodup_cons] at hnodup
    have hsame : ∀ row' ∈ rows,
        row'.queued clock peer (reportRow clock peer acc row).1.urrConfigs.lookup =
          row'.queued clock peer acc.1.urrConfigs.lookup := by
      intro row' hrow'
      have hne : row'.urr ≠ row.urr := fun heq => hnodup.1 (heq ▸ List.mem_map_of_mem hrow')
      rw [Row.queued, reportRow_configs, overwrite, if_neg hne]
      rfl
    rw [List.foldl_cons, ih hnodup.2, reportRow_requests, List.filterMap_congr hsame,
      List.append_assoc]
    cases hq : row.queued clock peer acc.1.urrConfigs.lookup with
    | none => rw [List.filterMap_cons_none hq]; rfl
    | some r => rw [List.filterMap_cons_some hq]; rfl

end Rows

/-- Of what the elements of a list yield, what is under the key of one of them is what that one
yields, when the keys are different. -/
theorem filter_filterMap_of_nodup {α β K : Type} [DecidableEq K] {f : α → K} {g : α → Option β}
    (key : β → K) (hkey : ∀ a b, g a = some b → key b = f a) {l : List α}
    (hnodup : (l.map f).Nodup) {x : α} (hx : x ∈ l) :
    (l.filterMap g).filter (fun b => key b = f x) = (g x).toList := by
  have hother : ∀ {y : α} {l : List α}, f y ∉ l.map f →
      (l.filterMap g).filter (fun b => key b = f y) = [] := by
    intro y l hy
    refine List.filter_eq_nil_iff.mpr fun b hb => ?_
    obtain ⟨a, ha, hab⟩ := List.mem_filterMap.mp hb
    rw [decide_eq_true_iff, hkey a b hab]
    exact fun heq => hy (heq ▸ List.mem_map_of_mem ha)
  induction l with
  | nil => cases hx
  | cons a l ih =>
    rw [List.map_cons, List.nodup_cons] at hnodup
    rcases List.mem_cons.mp hx with rfl | hx
    · cases hg : g x with
      | none => rw [List.filterMap_cons_none hg, hother hnodup.1]; rfl
      | some b =>
        rw [List.filterMap_cons_some hg, List.filter_cons_of_pos (by simp [hkey x b hg]),
          hother hnodup.1]
        rfl
    · have hne : f a ≠ f x := fun heq => hnodup.1 (heq ▸ List.mem_map_of_mem hx)
      cases hg : g a with
      | none => rw [List.filterMap_cons_none hg, ih hnodup.2 hx]
      | some b =>
        rw [List.filterMap_cons_some hg, List.filter_cons_of_neg (by simpa [hkey a b hg] using hne),
          ih hnodup.2 hx]

/-! ### The section -/

/-- The rows of a snapshot have different keys. -/
theorem snapshot_nodup (ncpus : ℕ) (order : IterOrder (Sigma fun _ : UrrKey => PerCpu UrrStats))
    (m : Maps) : ((snapshot ncpus order m).map Prod.fst).Nodup := by
  have hkeys : (m.urrMap.rows.entries.map Sigma.fst).Nodup := m.urrMap.rows.nodupKeys
  have hperm := ((order.isPerm m.urrMap.rows.entries).map Sigma.fst).nodup_iff.mpr hkeys
  have hmap : (snapshot ncpus order m).map Prod.fst =
      ((order.perm m.urrMap.rows.entries).map Sigma.fst).map UrrKey.key := by
    simp [snapshot]
  rw [hmap]
  exact hperm.map fun k k' h => by cases k; cases k'; exact congrArg UrrKey.mk h

section Section

variable {clock : ℕ → Instant} {totals : Totals} {srv : PfcpServer}

theorem nodup_rows (h : (totals.map Prod.fst).Nodup) : (totals.zipIdx.map Row.urr).Nodup := by
  have hmap : totals.zipIdx.map Row.urr =
      (totals.map Prod.fst).map fun key => recoveredUrr ⟨key⟩ := by
    conv_rhs => rw [← List.zipIdx_map_fst 0 totals]
    rw [List.map_map, List.map_map]
    rfl
  rw [hmap]
  exact h.map fun key key' heq => UrrKey.mk.inj (recoveredUrr_inj heq)

theorem exists_row {t : UInt64 × UrrStats} (h : t ∈ totals) : ∃ i, (t, i) ∈ totals.zipIdx := by
  obtain ⟨i, hi, hget⟩ := List.mem_iff_getElem.mp h
  exact ⟨i, List.mem_zipIdx_iff_getElem?.mpr (by rw [← hget]; exact List.getElem?_eq_getElem hi)⟩

/-- What a section makes of the configuration that a row of it is for. -/
theorem report_config_of_mem (hnodup : (totals.map Prod.fst).Nodup) {peer : SocketAddr}
    (hpeer : srv.peerAddr = some peer) {row : Row} (h : row ∈ totals.zipIdx) :
    (report clock totals srv).1.urrConfigs.lookup row.urr =
      (srv.urrConfigs.lookup row.urr).map (row.config clock) := by
  have hkeys : ((totals.zipIdx.map fun row : Row => (row.urr, row)).map Prod.fst).Nodup := by
    rw [List.map_map]
    exact nodup_rows hnodup
  have hmem : (row.urr, row) ∈ totals.zipIdx.map fun row : Row => (row.urr, row) :=
    List.mem_map_of_mem h
  simp only [report, hpeer, reportRows_configs, foldl_overwrite_of_mem hkeys hmem]

/-- **What a section queues.** -/
theorem report_requests (hnodup : (totals.map Prod.fst).Nodup) {peer : SocketAddr}
    (hpeer : srv.peerAddr = some peer) :
    (report clock totals srv).2.map Report.unnumbered =
      totals.zipIdx.filterMap (Row.queued clock peer srv.urrConfigs.lookup) := by
  simp only [report, hpeer]
  rw [reportRows_requests (nodup_rows hnodup)]
  rfl

theorem report_of_none (hpeer : srv.peerAddr = none) : report clock totals srv = (srv, []) := by
  simp only [report, hpeer]

/-- A queued request is that of a row, for the configuration of its URR. -/
theorem row_of_mem_report (hnodup : (totals.map Prod.fst).Nodup) {r : Report}
    (hr : r ∈ (report clock totals srv).2) :
    ∃ (peer : SocketAddr) (row : Row) (cfg : UrrConfig) (seq : UInt32),
      srv.peerAddr = some peer ∧ row ∈ totals.zipIdx ∧
      srv.urrConfigs.lookup row.urr = some cfg ∧ row.Fires clock cfg ∧
      r = row.request clock cfg peer seq := by
  cases hpeer : srv.peerAddr with
  | none =>
    rw [report_of_none hpeer] at hr
    cases hr
  | some peer =>
    have hmem : r.unnumbered ∈ (report clock totals srv).2.map Report.unnumbered :=
      List.mem_map_of_mem hr
    rw [report_requests hnodup hpeer] at hmem
    obtain ⟨row, hrow, hq⟩ := List.mem_filterMap.mp hmem
    obtain ⟨cfg, hcfg, hq⟩ := Option.bind_eq_some_iff.mp hq
    split_ifs at hq with hfires
    refine ⟨peer, row, cfg, r.seq, rfl, hrow, hcfg, hfires, ?_⟩
    exact congrArg (fun r' : Report => { r' with seq := r.seq }) (Option.some.inj hq).symm

/-- A row with a configuration one of whose triggers fires has its request queued. -/
theorem exists_request_of_fires (hnodup : (totals.map Prod.fst).Nodup) {peer : SocketAddr}
    (hpeer : srv.peerAddr = some peer) {row : Row} (hrow : row ∈ totals.zipIdx) {cfg : UrrConfig}
    (hcfg : srv.urrConfigs.lookup row.urr = some cfg) (hfires : row.Fires clock cfg) :
    ∃ seq, row.request clock cfg peer seq ∈ (report clock totals srv).2 := by
  have hmem : row.request clock cfg peer 0 ∈ (report clock totals srv).2.map Report.unnumbered := by
    rw [report_requests hnodup hpeer]
    refine List.mem_filterMap.mpr ⟨row, hrow, ?_⟩
    rw [Row.queued, hcfg, Option.bind_some, if_pos hfires]
  obtain ⟨r, hr, heq⟩ := List.mem_map.mp hmem
  have hreq : r = row.request clock cfg peer r.seq :=
    congrArg (fun r' : Report => { r' with seq := r.seq }) heq
  exact ⟨r.seq, hreq ▸ hr⟩

/-- The requests of one URR: at most one, that of its row. -/
theorem report_requests_urr (hnodup : (totals.map Prod.fst).Nodup) {peer : SocketAddr}
    (hpeer : srv.peerAddr = some peer) {row : Row} (hrow : row ∈ totals.zipIdx) {cfg : UrrConfig}
    (hcfg : srv.urrConfigs.lookup row.urr = some cfg) :
    ∃ seq, (report clock totals srv).2.filter (fun r => (r.seid, r.urrId) = row.urr) =
      if row.Fires clock cfg then [row.request clock cfg peer seq] else [] := by
  have hmap : ((report clock totals srv).2.filter fun r => (r.seid, r.urrId) = row.urr).map
      Report.unnumbered = (row.queued clock peer srv.urrConfigs.lookup).toList := by
    rw [← filter_filterMap_of_nodup (fun r : Report => (r.seid, r.urrId)) ?_
      (nodup_rows hnodup) hrow, ← report_requests hnodup hpeer, List.filter_map]
    · rfl
    · intro row' r hq
      obtain ⟨cfg', -, hq⟩ := Option.bind_eq_some_iff.mp hq
      split_ifs at hq
      rw [← Option.some.inj hq]
      rfl
  rw [Row.queued, hcfg, Option.bind_some] at hmap
  split_ifs at hmap ⊢ with hfires
  · obtain ⟨r, hr, heq⟩ := List.map_eq_singleton_iff.mp hmap
    refine ⟨r.seq, ?_⟩
    rw [hr]
    exact congrArg (fun r' : Report => [{ r' with seq := r.seq }]) heq
  · exact ⟨0, List.map_eq_nil_iff.mp hmap⟩

/-- A URR without a configuration has no requests. -/
theorem report_requests_of_none (hnodup : (totals.map Prod.fst).Nodup) {k : UInt64 × UInt32}
    (h : srv.urrConfigs.lookup k = none) :
    (report clock totals srv).2.filter (fun r => (r.seid, r.urrId) = k) = [] := by
  refine List.filter_eq_nil_iff.mpr fun r hr => ?_
  obtain ⟨peer, row, cfg, seq, -, -, hcfg, -, rfl⟩ := row_of_mem_report hnodup hr
  rw [decide_eq_true_iff]
  intro hk
  rw [show row.urr = k from hk, h] at hcfg
  cases hcfg

/-- The number of the row of a URR. -/
theorem findIdx_urr (hnodup : (totals.map Prod.fst).Nodup) {row : Row}
    (hrow : row ∈ totals.zipIdx) :
    totals.findIdx (fun t => recoveredUrr ⟨t.1⟩ = row.urr) = row.2 := by
  obtain ⟨hlt, hget⟩ := List.mem_zipIdx' hrow
  rw [List.findIdx_eq hlt]
  refine ⟨by simp [Row.urr, hget], fun j hj => ?_⟩
  rw [decide_eq_false_iff_not]
  intro heq
  rw [Row.urr, hget] at heq
  have hkey : totals[j].1 = totals[row.2].1 := UrrKey.mk.inj (recoveredUrr_inj heq)
  have hsame : totals[j] = totals[row.2] :=
    List.inj_on_of_nodup_map hnodup (List.getElem_mem _) (List.getElem_mem _) hkey
  have hidx : j = row.2 := hnodup.of_map.getElem_inj_iff.mp hsame
  omega

end Section

end UpfEdge.Server
