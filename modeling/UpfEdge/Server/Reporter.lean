import UpfEdge.Server.Effects

/-!
# The usage reporter

`upf-edge/src/urr_reporter.rs`: every tick it copies the counters of URR_MAP under the lock of that
map (`snapshot`), and then, under the server lock, decides for each row whether a trigger of its
URR fires and queues a Session Report Request (`report`).  The two are separate critical sections.

`report_spec` says what a queued request carries: the server's one peer address, and the SEID the
SMF chose, as the URR's configuration has it.
-/

namespace UpfEdge.Server

open Lib Pfcp

/-- The counters of one URR_MAP row, summed over the CPUs. -/
def sumPerCpu (ncpus : ℕ) (perCpu : PerCpu UrrStats) : UrrStats :=
  (List.range ncpus).foldl (fun sum i =>
    { ulBytes := sum.ulBytes + (perCpu i).ulBytes
      ulPackets := sum.ulPackets + (perCpu i).ulPackets
      dlBytes := sum.dlBytes + (perCpu i).dlBytes
      dlPackets := sum.dlPackets + (perCpu i).dlPackets }) {}

/-- `totals`: the composed key and the summed counters of every row. -/
abbrev Totals : Type := List (UInt64 × UrrStats)

def snapshot (ncpus : ℕ) (order : IterOrder (Sigma fun _ : UrrKey => PerCpu UrrStats)) (m : Maps) :
    Totals :=
  (order.perm m.urrMap.rows.entries).map fun row => (row.1.key, sumPerCpu ncpus row.2)

/-- One entry of `to_send`, by the arguments its message is built from. -/
structure Report where
  dest : SocketAddr
  seq : UInt32
  seid : UInt64
  cpSeid : UInt64
  urrId : UInt32
  urSeqn : UInt32
  trigger : UInt8
  totalVol : UInt64
  ulBytes : UInt64
  dlBytes : UInt64
  deriving DecidableEq, Repr

/-- The datagram of a report. -/
def Report.message (r : Report) : Bytes :=
  buildSessionReportRequest r.seq r.cpSeid r.urrId r.urSeqn r.trigger r.totalVol r.ulBytes r.dlBytes

/-- The volume trigger.  The source multiplies the triggers octet by the VOLTH bit. -/
def volumeTrigger (totalVol : UInt64) (cfg : UrrConfig) : UInt8 × UrrConfig :=
  if cfg.reportingTriggers * reportingTriggerVolth ≠ 0 then
    match cfg.volumeThresholdTotal with
    | some th =>
      if totalVol ≥ th ∧ !cfg.thresholdReported then
        (usageReportTriggerVolth, { cfg with thresholdReported := true })
      else (0, cfg)
    | none => (0, cfg)
  else (0, cfg)

/-- The periodic trigger: `read` is the instant `elapsed` reads, `set` the one stored. -/
def periodTrigger (read set : Instant) (cfg : UrrConfig) : UInt8 × UrrConfig :=
  if cfg.reportingTriggers &&& reportingTriggerPerio ≠ 0 then
    match cfg.measurementPeriod with
    | some period =>
      if read - cfg.lastReport ≥ period.toNat * 1000000000 then
        (usageReportTriggerPerio, { cfg with lastReport := set })
      else (0, cfg)
    | none => (0, cfg)
  else (0, cfg)

/-- One row of the totals: `i` counts the rows, so that the clock readings of different rows are
different readings. -/
def reportRow (clock : ℕ → Instant) (peer : SocketAddr) (acc : PfcpServer × List Report)
    (row : (UInt64 × UrrStats) × ℕ) : PfcpServer × List Report :=
  let (srv, toSend) := acc
  let ((composedKey, sum), i) := row
  let seid := composedKey >>> 16
  let urrId := (composedKey &&& 0xFFFF).toUInt32
  match srv.urrConfigs.lookup (seid, urrId) with
  | none => (srv, toSend)
  | some cfg =>
    let totalVol := sum.ulBytes + sum.dlBytes
    let (volth, cfg) := volumeTrigger totalVol cfg
    let (perio, cfg) := periodTrigger (clock (2 * i)) (clock (2 * i + 1)) cfg
    let trigger := volth ||| perio
    -- no trigger fired, so neither of them has changed the configuration
    if trigger = 0 then (srv, toSend)
    else
      let urSeqn := cfg.urSeqn
      let cfg := { cfg with urSeqn := cfg.urSeqn + 1 }
      let srv := { srv with urrConfigs := srv.urrConfigs.insert (seid, urrId) cfg }
      let (seq, srv) := srv.allocReportSeq
      (srv, toSend ++
        [{ dest := peer, seq, seid, cpSeid := cfg.cpSeid, urrId, urSeqn, trigger, totalVol
           ulBytes := sum.ulBytes, dlBytes := sum.dlBytes }])

/-- The section under the server lock: the server after it, and the requests queued. -/
def report (clock : ℕ → Instant) (totals : Totals) (srv : PfcpServer) :
    PfcpServer × List Report :=
  match srv.peerAddr with
  | none => (srv, [])
  | some peer => totals.zipIdx.foldl (reportRow clock peer) (srv, [])

/-! ### What the reporter keeps and queues -/

theorem volumeTrigger_cpSeid (v : UInt64) (cfg : UrrConfig) :
    (volumeTrigger v cfg).2.cpSeid = cfg.cpSeid := by
  unfold volumeTrigger
  split_ifs
  · split
    · split_ifs <;> rfl
    · rfl
  · rfl

theorem periodTrigger_cpSeid (read set : Instant) (cfg : UrrConfig) :
    (periodTrigger read set cfg).2.cpSeid = cfg.cpSeid := by
  unfold periodTrigger
  split_ifs
  · split
    · split_ifs <;> rfl
    · rfl
  · rfl

/-- The reporter changes the configurations, keeping whom they report to, and leaves alone what
says which sessions there are. -/
structure SameConfigs (srv srv' : PfcpServer) : Prop where
  associations : srv'.associations = srv.associations
  nextSeid : srv'.nextSeid = srv.nextSeid
  peerAddr : srv'.peerAddr = srv.peerAddr
  sessions : srv'.sessions = srv.sessions
  config : ∀ k, (srv'.urrConfigs.lookup k).map (·.cpSeid) =
    (srv.urrConfigs.lookup k).map (·.cpSeid)

theorem SameConfigs.refl {srv : PfcpServer} : SameConfigs srv srv :=
  ⟨rfl, rfl, rfl, rfl, fun _ => rfl⟩

/-- A request is addressed to `peer` and carries the SEID its URR is configured with. -/
def Report.FromConfig (srv : PfcpServer) (peer : SocketAddr) (r : Report) : Prop :=
  r.dest = peer ∧ (srv.urrConfigs.lookup (r.seid, r.urrId)).map (·.cpSeid) = some r.cpSeid

theorem reportRow_spec {clock : ℕ → Instant} {peer : SocketAddr} {srv : PfcpServer}
    {acc : PfcpServer × List Report} (row : (UInt64 × UrrStats) × ℕ)
    (hsrv : SameConfigs srv acc.1) (hsent : ∀ r ∈ acc.2, r.FromConfig srv peer) :
    SameConfigs srv (reportRow clock peer acc row).1 ∧
      ∀ r ∈ (reportRow clock peer acc row).2, r.FromConfig srv peer := by
  obtain ⟨srv', toSend⟩ := acc
  obtain ⟨⟨composedKey, sum⟩, i⟩ := row
  simp only [reportRow]
  split
  · exact ⟨hsrv, hsent⟩
  · next cfg hcfg =>
    split_ifs with ht
    · exact ⟨hsrv, hsent⟩
    · have hcp : ((periodTrigger (clock (2 * i)) (clock (2 * i + 1))
          (volumeTrigger (sum.ulBytes + sum.dlBytes) cfg).2).2).cpSeid = cfg.cpSeid := by
        rw [periodTrigger_cpSeid, volumeTrigger_cpSeid]
      have hold := hsrv.config (composedKey >>> 16, (composedKey &&& 0xFFFF).toUInt32)
      rw [hcfg, Option.map_some] at hold
      refine ⟨{ hsrv with config := fun k => ?_ }, fun r hr => ?_⟩
      · simp only [PfcpServer.allocReportSeq]
        rw [Table.lookup_insert_ite]
        split_ifs with hk
        · rw [hk, ← hold, Option.map_some, hcp]
        · exact hsrv.config k
      · rcases List.mem_append.mp hr with hr | hr
        · exact hsent r hr
        · obtain rfl := List.mem_singleton.mp hr
          exact ⟨rfl, by rw [← hold, hcp]⟩

theorem reportRows_spec {clock : ℕ → Instant} {peer : SocketAddr} {srv : PfcpServer}
    (rows : List ((UInt64 × UrrStats) × ℕ)) {acc : PfcpServer × List Report}
    (hsrv : SameConfigs srv acc.1) (hsent : ∀ r ∈ acc.2, r.FromConfig srv peer) :
    SameConfigs srv (rows.foldl (reportRow clock peer) acc).1 ∧
      ∀ r ∈ (rows.foldl (reportRow clock peer) acc).2, r.FromConfig srv peer := by
  induction rows generalizing acc with
  | nil => exact ⟨hsrv, hsent⟩
  | cons row rows ih =>
    obtain ⟨hsrv', hsent'⟩ := @reportRow_spec clock peer srv acc row hsrv hsent
    exact ih hsrv' hsent'

/-- **What a section of the reporter does.** -/
theorem report_spec (clock : ℕ → Instant) (totals : Totals) (srv : PfcpServer) :
    SameConfigs srv (report clock totals srv).1 ∧
      ∀ r ∈ (report clock totals srv).2, ∃ peer, srv.peerAddr = some peer ∧
        r.FromConfig srv peer := by
  unfold report
  cases hp : srv.peerAddr with
  | none => exact ⟨.refl, by simp⟩
  | some peer =>
    have hnil : ∀ r ∈ ([] : List Report), r.FromConfig srv peer := by simp
    have hfold := @reportRows_spec clock peer srv totals.zipIdx (srv, []) .refl hnil
    exact ⟨hfold.1, fun r hr => ⟨peer, rfl, hfold.2 r hr⟩⟩

/-- The reporter changes nothing of the server but the configurations and its own counter. -/
theorem report_srv (clock : ℕ → Instant) (totals : Totals) (srv : PfcpServer) :
    (report clock totals srv).1 = { srv with
      urrConfigs := (report clock totals srv).1.urrConfigs
      nextReportSeq := (report clock totals srv).1.nextReportSeq } := by
  have hrow : ∀ (peer : SocketAddr) (acc : PfcpServer × List Report)
      (row : (UInt64 × UrrStats) × ℕ), (reportRow clock peer acc row).1 = { acc.1 with
        urrConfigs := (reportRow clock peer acc row).1.urrConfigs
        nextReportSeq := (reportRow clock peer acc row).1.nextReportSeq } := by
    intro peer acc row
    unfold reportRow
    simp only
    split
    · rfl
    · split_ifs <;> rfl
  have hrows : ∀ (peer : SocketAddr) (rows : List ((UInt64 × UrrStats) × ℕ))
      (acc : PfcpServer × List Report), (rows.foldl (reportRow clock peer) acc).1 = { acc.1 with
        urrConfigs := (rows.foldl (reportRow clock peer) acc).1.urrConfigs
        nextReportSeq := (rows.foldl (reportRow clock peer) acc).1.nextReportSeq } := by
    intro peer rows
    induction rows with
    | nil => exact fun acc => rfl
    | cons row rows ih =>
      intro acc
      rw [List.foldl_cons, ih, hrow]
  unfold report
  split
  · rfl
  · exact hrows _ _ _

theorem report_steady (clock : ℕ → Instant) (totals : Totals) (w : World) :
    Steady w { w with srv := (report clock totals w.srv).1 } := by
  have h := (report_spec clock totals w.srv).1
  exact { (Steady.refl : Steady w w) with
    associations := h.associations
    nextSeid := h.nextSeid
    peerAddr := h.peerAddr
    session := fun s => by simp only [h.sessions]
    config := h.config }

end UpfEdge.Server
