import UpfEdge.Server.Modification
import UpfEdge.Server.Tick

/-!
# The log of a URR

What an SMF knows of a URR: when it was created and with which settings, which settings it was given
since, and the Session Report Requests it has sent.  `Lawful` says how the requests of a log follow
one another.

The configuration that the UPF keeps for the URR is a summary of the log (`Accords`): the number of
requests, the last settings, whether a volume request was sent since, and the instant the period
runs from.  So what the reporter decides by the configuration it decides by the log
(`Lawful.report`).
-/

namespace UpfEdge

open Lib Pfcp Server

/-- The request is sent for the volume threshold. -/
def Server.Report.isVolth (r : Report) : Bool := r.trigger &&& usageReportTriggerVolth ≠ 0

/-- The request is sent for the measurement period. -/
def Server.Report.isPerio (r : Report) : Bool := r.trigger &&& usageReportTriggerPerio ≠ 0

/-- An entry of a log. -/
inductive Entry where
  /-- A Create URR, with the instant of the establishment, or an accepted Update URR. -/
  | configured (urr : ParsedURR) (created : Option Instant)
  /-- A request, with the instant it was decided at and the one it was then stamped with. -/
  | reported (r : Report) (read set : Instant)

/-- A log, the last entry first. -/
abbrev Log : Type := List Entry

namespace Log

/-- The requests, the last first. -/
def requests (log : Log) : List Report :=
  log.filterMap fun
    | .configured .. => none
    | .reported r _ _ => some r

/-- The settings of the last configuration. -/
def settings (log : Log) : Option ParsedURR :=
  log.findSome? fun
    | .configured urr _ => some urr
    | .reported .. => none

/-- A volume request was sent since the last configuration. -/
def volthSince : Log → Bool
  | [] => false
  | .configured .. :: _ => false
  | .reported r _ _ :: log => r.isVolth || volthSince log

/-- The instant of the last periodic request, or of the establishment. -/
def periodStart : Log → Option Instant
  | [] => none
  | .configured _ (some now) :: _ => some now
  | .configured _ none :: log => periodStart log
  | .reported r _ set :: log => if r.isPerio then some set else periodStart log

/-- How the requests of a log follow one another. -/
structure Lawful (log : Log) : Prop where
  /-- They are numbered 0, 1, 2 and so on. -/
  numbered : log.requests.map (·.urSeqn.toNat) = (List.range log.requests.length).reverse
  total : ∀ r ∈ log.requests, r.totalVol.toNat = r.ulBytes.toNat + r.dlBytes.toNat
  growing : log.requests.Pairwise fun r r' =>
    r'.ulBytes ≤ r.ulBytes ∧ r'.dlBytes ≤ r.dlBytes ∧ r'.totalVol ≤ r.totalVol
  /-- A volume request is the first since the last configuration, and has its threshold. -/
  volth : ∀ later r read set earlier, log = later ++ .reported r read set :: earlier →
    r.isVolth = true → volthSince earlier = false ∧ ∃ urr th, settings earlier = some urr ∧
      urr.volumeThresholdTotal = some th ∧ th.toNat ≤ r.totalVol.toNat
  /-- A periodic request comes a period after the one before, or after the establishment. -/
  perio : ∀ later r read set earlier, log = later ++ .reported r read set :: earlier →
    r.isPerio = true → ∃ urr period start, settings earlier = some urr ∧
      urr.measurementPeriod = some period ∧ periodStart earlier = some start ∧
      start + period.toNat * 1000000000 ≤ read

/-- The configuration is a summary of the log. -/
structure Accords (log : Log) (cfg : UrrConfig) : Prop where
  urSeqn : cfg.urSeqn.toNat = log.requests.length
  settings : ∃ urr, log.settings = some urr ∧ cfg.reportingTriggers = urr.reportingTriggers ∧
    cfg.volumeThresholdTotal = urr.volumeThresholdTotal ∧
    cfg.measurementPeriod = urr.measurementPeriod
  latch : cfg.thresholdReported = log.volthSince
  start : log.periodStart = some cfg.lastReport

/-- The volumes of all requests are at most these. -/
def Below (log : Log) (sum : UrrStats) : Prop :=
  ∀ r ∈ log.requests, r.ulBytes ≤ sum.ulBytes ∧ r.dlBytes ≤ sum.dlBytes

theorem requests_append (log log' : Log) :
    requests (log ++ log') = log.requests ++ log'.requests :=
  List.filterMap_append ..

/-! ### Configurations -/

section Configured

variable {log : Log} {urr : ParsedURR} {created : Option Instant} {cfg : UrrConfig}

theorem lawful_nil : Lawful [] where
  numbered := rfl
  total r hr := by cases hr
  growing := .nil
  volth later r read set earlier h := by simp at h
  perio later r read set earlier h := by simp at h

theorem Lawful.configured (h : Lawful log) : Lawful (.configured urr created :: log) where
  numbered := h.numbered
  total := h.total
  growing := h.growing
  volth later r read set earlier heq := by
    cases later with
    | nil => cases (List.cons.inj heq).1
    | cons e later => exact h.volth later r read set earlier (List.cons.inj heq).2
  perio later r read set earlier heq := by
    cases later with
    | nil => cases (List.cons.inj heq).1
    | cons e later => exact h.perio later r read set earlier (List.cons.inj heq).2

/-- The configuration of a URR that is created. -/
theorem accords_urrConfig (seid cpSeid : UInt64) (now : Instant) (urr : ParsedURR) :
    Accords [.configured urr (some now)] (urrConfig seid cpSeid now urr) where
  urSeqn := rfl
  settings := ⟨urr, rfl, rfl, rfl, rfl⟩
  latch := rfl
  start := rfl

/-- An accepted Update URR. -/
theorem Accords.configured (h : Accords log cfg) :
    Accords (.configured urr none :: log) (setConfig urr cfg) where
  urSeqn := h.urSeqn
  settings := ⟨urr, rfl, rfl, rfl, rfl⟩
  latch := rfl
  start := h.start

theorem Accords.ne_nil (h : Accords log cfg) : log ≠ [] := by
  rintro rfl
  obtain ⟨urr, hurr, -⟩ := h.settings
  cases hurr

end Configured

/-! ### Requests -/

section Reported

variable {log : Log} {r : Report} {read set : Instant}

theorem Lawful.reported (h : Lawful log) (hnum : r.urSeqn.toNat = log.requests.length)
    (htotal : r.totalVol.toNat = r.ulBytes.toNat + r.dlBytes.toNat)
    (hgrow : ∀ r' ∈ log.requests, r'.ulBytes ≤ r.ulBytes ∧ r'.dlBytes ≤ r.dlBytes)
    (hvolth : r.isVolth = true → volthSince log = false ∧ ∃ urr th, settings log = some urr ∧
      urr.volumeThresholdTotal = some th ∧ th.toNat ≤ r.totalVol.toNat)
    (hperio : r.isPerio = true → ∃ urr period start, settings log = some urr ∧
      urr.measurementPeriod = some period ∧ periodStart log = some start ∧
      start + period.toNat * 1000000000 ≤ read) :
    Lawful (.reported r read set :: log) where
  numbered := by
    change (r :: log.requests).map _ = (List.range (log.requests.length + 1)).reverse
    rw [List.map_cons, h.numbered, List.range_succ, List.reverse_append, hnum]
    rfl
  total r' hr' := by
    rcases List.mem_cons.mp hr' with rfl | hr'
    · exact htotal
    · exact h.total r' hr'
  growing := by
    refine List.pairwise_cons.mpr ⟨fun r' hr' => ?_, h.growing⟩
    obtain ⟨hul, hdl⟩ := hgrow r' hr'
    refine ⟨hul, hdl, ?_⟩
    have htotal' := h.total r' hr'
    rw [UInt64.le_iff_toNat_le] at hul hdl ⊢
    omega
  volth later r' read' set' earlier heq := by
    cases later with
    | nil =>
      obtain ⟨hentry, rfl⟩ := List.cons.inj heq
      obtain ⟨rfl, rfl, rfl⟩ := Entry.reported.inj hentry
      exact hvolth
    | cons e later => exact h.volth later r' read' set' earlier (List.cons.inj heq).2
  perio later r' read' set' earlier heq := by
    cases later with
    | nil =>
      obtain ⟨hentry, rfl⟩ := List.cons.inj heq
      obtain ⟨rfl, rfl, rfl⟩ := Entry.reported.inj hentry
      exact hperio
    | cons e later => exact h.perio later r' read' set' earlier (List.cons.inj heq).2

end Reported

/-! ### The reporter -/

/-- An octet with the VOLTH bit is not lost in the multiplication. -/
theorem mul_volth_of_bit {t : UInt8} (h : t &&& reportingTriggerVolth ≠ 0) :
    t * reportingTriggerVolth ≠ 0 := by
  intro heq
  have hnat := congrArg UInt8.toNat heq
  rw [UInt8.toNat_mul, show reportingTriggerVolth.toNat = 2 from rfl,
    show (0 : UInt8).toNat = 0 from rfl] at hnat
  have hlt := t.toNat_lt
  have hcases : t.toNat = (0 : UInt8).toNat ∨ t.toNat = (128 : UInt8).toNat := by
    rw [show (0 : UInt8).toNat = 0 from rfl, show (128 : UInt8).toNat = 128 from rfl]
    omega
  rcases hcases with hzero | hhigh
  · exact h (by rw [UInt8.toNat_inj.mp hzero]; decide)
  · exact h (by rw [UInt8.toNat_inj.mp hhigh]; decide)

section Row

variable {log : Log} {clock : ℕ → Instant} {row : Row} {cfg : UrrConfig} {peer : SocketAddr}
  {seq : UInt32}

theorem isVolth_request : (row.request clock cfg peer seq).isVolth = true ↔
    cfg.VolumeFires row.totalVol :=
  decide_eq_true_iff.trans Row.trigger_volth

theorem isPerio_request : (row.request clock cfg peer seq).isPerio = true ↔
    cfg.PeriodFires (clock (2 * row.2)) :=
  decide_eq_true_iff.trans Row.trigger_perio

/-- What a row makes of the configuration is what its request makes of the log. -/
theorem Accords.report (h : Accords log cfg) (hfires : row.Fires clock cfg)
    (hshort : log.requests.length + 1 < 2 ^ 32) :
    Accords (.reported (row.request clock cfg peer seq) (clock (2 * row.2))
      (clock (2 * row.2 + 1)) :: log) (row.config clock cfg) where
  urSeqn := by
    change (if row.Fires clock cfg then cfg.urSeqn + 1 else cfg.urSeqn).toNat =
      log.requests.length + 1
    rw [if_pos hfires, UInt32.toNat_add, h.urSeqn]
    exact Nat.mod_eq_of_lt hshort
  settings := h.settings
  latch := by
    have hvolth : (row.request clock cfg peer seq).isVolth =
        decide (cfg.VolumeFires row.totalVol) := by
      rw [Bool.eq_iff_iff, isVolth_request, decide_eq_true_iff]
    change (cfg.thresholdReported || _) = (_ || log.volthSince)
    rw [h.latch, hvolth, Bool.or_comm]
  start := by
    change (if Report.isPerio _ then some (clock (2 * row.2 + 1)) else log.periodStart) =
      some (if cfg.PeriodFires (clock (2 * row.2)) then clock (2 * row.2 + 1) else cfg.lastReport)
    simp only [isPerio_request, h.start]
    split_ifs <;> rfl

/-- **A request that a trigger of the configuration is sent for follows the log.** -/
theorem Lawful.report (h : Lawful log) (hcfg : Accords log cfg) (hbelow : Below log row.1.2)
    (hsum : row.1.2.ulBytes.toNat + row.1.2.dlBytes.toNat < 2 ^ 64)
    (hlast : cfg.lastReport ≤ clock (2 * row.2)) :
    Lawful (.reported (row.request clock cfg peer seq) (clock (2 * row.2))
      (clock (2 * row.2 + 1)) :: log) := by
  obtain ⟨urr, hurr, -, hth, hperiod⟩ := hcfg.settings
  refine h.reported hcfg.urSeqn ?_ hbelow (fun hv => ?_) fun hp => ?_
  · exact (UInt64.toNat_add ..).trans (Nat.mod_eq_of_lt hsum)
  · obtain ⟨-, hlatch, th, hmem, hreached⟩ := isVolth_request.mp hv
    refine ⟨hcfg.latch.symm.trans hlatch, urr, th, hurr, hth.symm.trans hmem, ?_⟩
    exact UInt64.le_iff_toNat_le.mp hreached
  · obtain ⟨-, period, hmem, helapsed⟩ := isPerio_request.mp hp
    refine ⟨urr, period, cfg.lastReport, hurr, hperiod.symm.trans hmem, hcfg.start, ?_⟩
    rw [Nat.add_comm]
    exact (Nat.le_sub_iff_add_le hlast).mp helapsed

/-- A threshold that is enabled and reached has been reported when the reporter is past the row. -/
theorem Accords.volthSince_of_reached (h : Accords log cfg) {urr : ParsedURR} {th : UInt64}
    (hurr : log.settings = some urr)
    (henabled : urr.reportingTriggers &&& reportingTriggerVolth ≠ 0)
    (hth : urr.volumeThresholdTotal = some th) (hreached : th ≤ row.totalVol) :
    cfg.VolumeFires row.totalVol ∨ log.volthSince = true := by
  obtain ⟨urr', hurr', htriggers, hth', -⟩ := h.settings
  obtain rfl : urr = urr' := Option.some.inj (hurr.symm.trans hurr')
  cases hlatch : log.volthSince with
  | true => exact .inr rfl
  | false =>
    refine .inl ⟨?_, h.latch.trans hlatch, th, hth'.trans hth, hreached⟩
    rw [htriggers]
    exact mul_volth_of_bit henabled

end Row

end Log

end UpfEdge
