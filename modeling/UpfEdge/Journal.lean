import Mathlib.Algebra.Order.BigOperators.Group.List
import UpfEdge.Associations
import UpfEdge.Chronicle
import UpfEdge.Datagrams
import UpfEdge.Departures
import UpfEdge.Server.Installation

/-!
# The journal of the reports

A run of the UPF in which the reporter's tick is one act: both of its sections, with nothing in
between (`Act.tick`).  The `Journal` keeps the log of every URR beside the UPF, and the last instant
that was read.  `Sequenced` is what the logs should look like, `Premise` what it takes.

For a live session URR_MAP has the row of every URR that has a configuration, and the configuration
is a summary of the log (`Recorded`).  A frame only moves the counters of the rows, and a datagram
begins the logs of a session or adds an entry to them.
-/

namespace UpfEdge

open Lib Pfcp Server Xdp

/-! ### Counters -/

/-- The bytes that all CPUs have counted in one direction. -/
def counted (ncpus : ℕ) (dir : UrrStats → UInt64) (row : PerCpu UrrStats) : ℕ :=
  ((List.range ncpus).map fun i => (dir (row i)).toNat).sum

section Counted

variable {ncpus : ℕ} {row row' : PerCpu UrrStats}

theorem counted_mono {dir : UrrStats → UInt64} (h : ∀ i < ncpus, dir (row i) ≤ dir (row' i)) :
    counted ncpus dir row ≤ counted ncpus dir row' :=
  List.sum_le_sum fun i hi => UInt64.le_iff_toNat_le.mp (h i (List.mem_range.mp hi))

/-- The sum over the CPUs that the reporter takes, as long as it fits a word. -/
theorem toNat_sumPerCpu {dir : UrrStats → UInt64} (hzero : dir {} = 0)
    (hadd : ∀ sum v : UrrStats, dir
      { ulBytes := sum.ulBytes + v.ulBytes, ulPackets := sum.ulPackets + v.ulPackets
        dlBytes := sum.dlBytes + v.dlBytes, dlPackets := sum.dlPackets + v.dlPackets } =
      dir sum + dir v)
    (h : counted ncpus dir row < 2 ^ 64) :
    (dir (sumPerCpu ncpus row)).toNat = counted ncpus dir row := by
  have hfold : ∀ (l : List ℕ) (sum : UrrStats), (dir (l.foldl (fun sum i =>
      { ulBytes := sum.ulBytes + (row i).ulBytes
        ulPackets := sum.ulPackets + (row i).ulPackets
        dlBytes := sum.dlBytes + (row i).dlBytes
        dlPackets := sum.dlPackets + (row i).dlPackets }) sum)).toNat =
      ((dir sum).toNat + (l.map fun i => (dir (row i)).toNat).sum) % 2 ^ 64 := by
    intro l
    induction l with
    | nil => exact fun sum => (Nat.mod_eq_of_lt (dir sum).toNat_lt).symm
    | cons i l ih =>
      intro sum
      rw [List.foldl_cons, ih, hadd, UInt64.toNat_add, Nat.mod_add_mod, List.map_cons,
        List.sum_cons, Nat.add_assoc]
  rw [sumPerCpu, hfold, hzero, show (0 : UInt64).toNat = 0 from rfl, Nat.zero_add]
  exact Nat.mod_eq_of_lt h

end Counted

/-! ### Whom to report to -/

namespace Audit

/-- Where there is an association or a session, there is an address that reports are sent to. -/
structure Peered (a : Audit) : Prop where
  association : ∀ k x, a.srv.associations.lookup k = some x → a.srv.peerAddr.isSome
  session : ∀ s data, a.Live s data → a.srv.peerAddr.isSome

section Peered

variable {host : Host} {a : Audit} {ev : Event}

/-- The address is never taken back. -/
theorem step_peerAddr (h : a.srv.peerAddr.isSome) : (a.step host ev).srv.peerAddr.isSome := by
  have hmove := a.step_move host ev
  generalize a.step host ev = a' at hmove ⊢
  cases hmove with
  | steady hw ho hl hest =>
    rw [Audit.srv, hw.peerAddr]
    exact h
  | heartbeat recvTs hhb hest hw ho hl
  | refused req assoc hest hnone hw ho hl
  | deleted seid session assoc hest hdel hw ho hl =>
    rw [Audit.srv, hw]
    exact h
  | setup req hset hest hw ho hl =>
    rw [Audit.srv, hw]
    rfl
  | interrupted req assoc ueIp gnbInfo hest hue hgnb hinst ho hl =>
    rw [Audit.srv, (installed hinst).peerAddr]
    exact h
  | established req assoc ueIp gnbInfo w' hest hue hgnb hinst hw ho hl =>
    rw [Audit.srv, hw]
    change w'.srv.peerAddr.isSome
    rw [(installed hinst).peerAddr]
    exact h

theorem Peered.step (h : a.Peered) : (a.step host ev).Peered := by
  constructor
  · intro k x' hx'
    rcases peerAddr_before hx' with ⟨x, hx, -⟩ | ⟨env, now, data, src, req, rfl, hset, -⟩
    · exact step_peerAddr (h.association k x hx)
    · rw [step_of_freshSetup now hset]
      rfl
  · intro s data hlive
    have hold : ∀ data', a.Live s data' → (a.step host ev).srv.peerAddr.isSome :=
      fun data' hlive' => step_peerAddr (h.session s data' hlive')
    cases step_booked host a ev with
    | idle hiss hmod hs | refused hiss hmod hanswer hs =>
      rw [Audit.Live, hs] at hlive
      exact hold data hlive
    | established hiss =>
      cases ev with
      | datagram env now data src =>
        obtain ⟨⟨req, assoc⟩, hest⟩ := Option.isSome_iff_exists.mp hiss
        obtain ⟨k, hk, -⟩ := establishes_association hest
        exact step_peerAddr (h.association k assoc hk)
      | snapshot | report | uplink | downlink => cases hiss
    | deleted hiss hmod seid hs =>
      rw [Audit.Live, hs, Table.lookup_erase_ite] at hlive
      split_ifs at hlive
      exact hold data hlive
    | modified hiss seid session req hmod hlive' hs =>
      rw [Audit.Live, hs] at hlive
      split_ifs at hlive with heq
      · exact hold session (by rw [heq]; exact hlive')
      · exact hold data hlive

end Peered

end Audit

/-! ### The journal -/

/-- What the UPF does: a datagram or a frame, or a tick of the reporter. -/
inductive Act where
  | datagram (env : Env) (now : Instant) (data : Bytes) (src : SocketAddr)
  | tick (order : IterOrder (Sigma fun _ : UrrKey => PerCpu UrrStats)) (clock : ℕ → Instant)
  | uplink (x : XdpEnv) (f : Bytes)
  | downlink (x : XdpEnv) (f : Bytes)

/-- The events of an act. -/
def Act.events : Act → List Event
  | .datagram env now data src => [.datagram env now data src]
  | .tick order clock => [.snapshot order, .report clock]
  | .uplink x f => [.uplink x f]
  | .downlink x f => [.downlink x f]

/-- The UPF, the log of every URR, the last instant that was read and how many requests were
sent. -/
structure Journal where
  audit : Audit
  log : UInt64 × UInt32 → Log
  time : Instant
  sent : ℕ

namespace Journal

def init (b : Boot) : Journal where
  audit := .init b
  log _ := []
  time := b.now
  sent := 0

/-- What the tick reads from URR_MAP. -/
def totals (host : Host) (s : Journal)
    (order : IterOrder (Sigma fun _ : UrrKey => PerCpu UrrStats)) : Totals :=
  snapshot host.ncpus order s.audit.maps

/-- The requests of an act. -/
def queued (host : Host) (s : Journal) : Act → List Report
  | .tick order clock => (s.audit.step host (.snapshot order)).reports host clock
  | _ => []

/-- The Create URRs of an establishment as entries. -/
def creations (env : Env) (seid : UInt64) (req : SessionEstablishmentReq) :
    List ((UInt64 × UInt32) × Entry) :=
  req.createUrrs.zipIdx.map fun p => ((seid, p.1.urrId), .configured p.1 (some (env.now p.2)))

/-- The Update URRs of a modification as entries. -/
def updates (seid : UInt64) (req : SessionModificationReq) : List ((UInt64 × UInt32) × Entry) :=
  (configWrites seid req.updateUrrs).map fun p => (p.1, .configured p.2 none)

/-- What an act adds to the log of a URR. -/
def entries (host : Host) (s : Journal) : Act → UInt64 × UInt32 → Log
  | .datagram env now data src, k =>
    match establishes env (received data) src s.audit.world,
      s.audit.modification (.datagram env now data src) with
    | some (req, _), _ =>
      if s.audit.answered host (.datagram env now data src) then
        (lastPut (creations env s.audit.srv.nextSeid req) k).toList
      else []
    -- an Update URR is for a URR that was created; any other is ignored
    | none, some (seid, _, req) =>
      if s.log k = [] then [] else (lastPut (updates seid req) k).toList
    | none, none => []
  | .tick order clock, k =>
    let i := (s.totals host order).findIdx fun t => recoveredUrr ⟨t.1⟩ = k
    ((s.queued host (.tick order clock)).filter fun r => (r.seid, r.urrId) = k).reverse.map fun r =>
      .reported r (clock (2 * i)) (clock (2 * i + 1))
  | _, _ => []

/-- The readings of the clock during an act, in order. -/
def readings (host : Host) (s : Journal) : Act → List Instant
  | .datagram env now data src =>
    now :: (List.range ((establishes env (received data) src s.audit.world).elim 0
      (·.1.createUrrs.length))).map env.now
  | .tick order clock => (List.range (2 * (s.totals host order).length)).map clock
  | _ => []

def step (host : Host) (s : Journal) (act : Act) : Journal where
  audit := run (Audit.step host) s.audit act.events
  log k := s.entries host act k ++ s.log k
  time := (s.readings host act).getLast?.getD s.time
  sent := s.sent + (s.queued host act).length

/-! ### What is assumed and what is promised -/

/-- The counters of URR_MAP are below `2 ^ 63`. -/
def Bounded (host : Host) (s : Journal) : Prop :=
  ∀ x ∈ s.audit.maps.urrMap.rows.entries, counted host.ncpus UrrStats.ulBytes x.2 < 2 ^ 63 ∧
    counted host.ncpus UrrStats.dlBytes x.2 < 2 ^ 63

/-- No counter of the maps `m` is lower in `m'`. -/
def NoneDown (host : Host) (m m' : Maps) : Prop :=
  ∀ row ∈ m.urrMap.rows.entries, ∀ row' ∈ m'.urrMap.lookup row.1, ∀ i < host.ncpus,
    (row.2 i).ulBytes ≤ (row' i).ulBytes ∧ (row.2 i).dlBytes ≤ (row' i).dlBytes

/-- A frame takes no counter down. -/
def Grows (host : Host) (s : Journal) : Act → Prop
  | .uplink x f => NoneDown host s.audit.maps (tryN3Uplink host.endian x f s.audit.maps).2
  | .downlink x f => NoneDown host s.audit.maps (tryN6Downlink host.endian x f s.audit.maps).2
  | _ => True

/-- The Create URRs of an establishment have ids below 65536. -/
def SmallIds (s : Journal) : Act → Prop
  | .datagram env _ data src => ∀ p ∈ establishes env (received data) src s.audit.world,
    ∀ urr ∈ p.1.createUrrs, urr.urrId.toNat < 65536
  | _ => True

/-- The clock does not go back, counters only grow and stay below `2 ^ 63`, URR ids are below 65536
and fewer than `2 ^ 32` requests are sent. -/
def Premise (host : Host) (s : Journal) (act : Act) : Prop :=
  (s.time :: s.readings host act).Pairwise (· ≤ ·) ∧ (s.step host act).Bounded host ∧
    s.Grows host act ∧ s.SmallIds act ∧ (s.step host act).sent < 2 ^ 32

/-- No SEID from `n` on is issued. -/
def IssuesBelow (n : ℕ) (s : Journal) (act : Act) : Prop :=
  ∀ ev ∈ act.events, s.audit.IssuesBelow n ev

section Decidable

variable (host : Host) (s : Journal)

instance : Decidable (s.Bounded host) :=
  inferInstanceAs (Decidable (∀ x ∈ s.audit.maps.urrMap.rows.entries, _ ∧ _))

instance (m m' : Maps) : Decidable (NoneDown host m m') :=
  inferInstanceAs (Decidable (∀ row ∈ m.urrMap.rows.entries, ∀ row' ∈ m'.urrMap.lookup row.1,
    ∀ i < host.ncpus, _ ∧ _))

instance : ∀ act, Decidable (s.Grows host act)
  | .uplink .. | .downlink .. => inferInstanceAs (Decidable (NoneDown ..))
  | .datagram .. | .tick .. => .isTrue trivial

instance : ∀ act, Decidable (s.SmallIds act)
  | .datagram env _ data src => inferInstanceAs (Decidable
      (∀ p ∈ establishes env (received data) src s.audit.world, ∀ urr ∈ p.1.createUrrs, _ < _))
  | .tick .. | .uplink .. | .downlink .. => .isTrue trivial

instance (act : Act) : Decidable (s.Premise host act) :=
  inferInstanceAs (Decidable (_ ∧ _ ∧ _ ∧ _ ∧ _))

instance (n : ℕ) (act : Act) : Decidable (s.IssuesBelow n act) :=
  inferInstanceAs (Decidable (∀ ev ∈ act.events, _))

end Decidable

/-- The volume that is counted for a URR. -/
def volume (host : Host) (s : Journal) (k : UInt64 × UInt32) : ℕ :=
  (s.audit.maps.urrMap.lookup (.new k.1 k.2)).elim 0 fun row =>
    counted host.ncpus UrrStats.ulBytes row + counted host.ncpus UrrStats.dlBytes row

/-- The requests of every URR of a live session follow one another as they should, and a tick ends
with a volume request for every one that has VOLTH and whose threshold is reached. -/
structure Sequenced (host : Host) (s : Journal) (act : Act) : Prop where
  lawful : ∀ seid data u, (s.step host act).audit.Live seid data →
    ((s.step host act).log (seid, u)).Lawful
  prompt : ∀ order clock, act = .tick order clock → ∀ seid data u urr th,
    s.audit.Live seid data → (s.log (seid, u)).settings = some urr →
    urr.reportingTriggers &&& reportingTriggerVolth ≠ 0 → urr.volumeThresholdTotal = some th →
    th.toNat ≤ s.volume host (seid, u) → ((s.step host act).log (seid, u)).volthSince = true

/-! ### The clock -/

section Clock

variable {host : Host} {s : Journal} {act : Act}

theorem le_getLast_of_pairwise {l : List Instant} (h : l.Pairwise (· ≤ ·)) {x y : Instant}
    (hx : x ∈ l) (hy : y ∈ l.getLast?) : x ≤ y := by
  obtain ⟨ys, rfl⟩ := List.getLast?_eq_some_iff.mp hy
  rcases List.mem_append.mp hx with hx | hx
  · exact (List.pairwise_append.mp h).2.2 x hx y (List.mem_singleton_self y)
  · rw [List.mem_singleton.mp hx]

/-- The readings of an act are between the last one before and the last one after it. -/
theorem time_bounds (h : (s.time :: s.readings host act).Pairwise (· ≤ ·)) :
    s.time ≤ (s.step host act).time ∧
      ∀ x ∈ s.readings host act, s.time ≤ x ∧ x ≤ (s.step host act).time := by
  obtain ⟨hfirst, hrest⟩ := List.pairwise_cons.mp h
  simp only [step]
  cases hlast : (s.readings host act).getLast? with
  | none =>
    rw [List.getLast?_eq_none_iff.mp hlast]
    exact ⟨le_refl _, fun x hx => by cases hx⟩
  | some y =>
    refine ⟨hfirst y (List.mem_of_getLast? hlast), fun x hx => ⟨hfirst x hx, ?_⟩⟩
    exact le_getLast_of_pairwise hrest hx hlast

end Clock

/-! ### The invariant -/

/-- The configuration of a URR is a summary of its log, and the URR_MAP row under its key counts at
least what was reported. -/
structure Tracked (host : Host) (s : Journal) (k : UInt64 × UInt32) (cfg : UrrConfig) : Prop where
  accords : (s.log k).Accords cfg
  lawful : (s.log k).Lawful
  last : cfg.lastReport ≤ s.time
  small : k.2.toNat < 65536
  row : ∃ row, s.audit.maps.urrMap.lookup (.new k.1 k.2) = some row ∧
    (s.log k).Below (sumPerCpu host.ncpus row)

/-- The URRs of a session are those with a log, and their configurations are tracked. -/
structure Covers (host : Host) (s : Journal) (seid : UInt64) : Prop where
  absent : ∀ u, s.audit.srv.urrConfigs.lookup (seid, u) = none → s.log (seid, u) = []
  tracked : ∀ u cfg, s.audit.srv.urrConfigs.lookup (seid, u) = some cfg →
    s.Tracked host (seid, u) cfg

/-- The logs of all live sessions are kept track of. -/
structure Recorded (host : Host) (s : Journal) : Prop where
  issued : Audit.Issued (2 ^ 48) s.audit
  idle : s.audit.sys.totals = none
  peered : s.audit.Peered
  bounded : s.Bounded host
  past : ∀ k, s.log k ≠ [] → k.1.toNat < s.audit.srv.nextSeid.toNat
  short : ∀ k, (s.log k).requests.length ≤ s.sent
  covers : ∀ seid data, s.audit.Live seid data → s.Covers host seid

theorem init_recorded (host : Host) (b : Boot) : (init b).Recorded host where
  issued := Audit.init_issued (by decide) b
  idle := rfl
  peered :=
    { association := fun k x hx => by cases hx
      session := fun t data hlive => by cases hlive }
  bounded x hx := by cases hx
  past k hk := (hk rfl).elim
  short k := le_refl _
  covers seid data hlive := by cases hlive

section Transfer

variable {host : Host} {s s' : Journal} {k : UInt64 × UInt32} {cfg : UrrConfig}

/-- The sums over the CPUs are what was counted. -/
theorem Bounded.sums (h : s.Bounded host) {key : UrrKey} {row : PerCpu UrrStats}
    (hrow : s.audit.maps.urrMap.lookup key = some row) :
    (sumPerCpu host.ncpus row).ulBytes.toNat = counted host.ncpus UrrStats.ulBytes row ∧
      (sumPerCpu host.ncpus row).dlBytes.toNat = counted host.ncpus UrrStats.dlBytes row ∧
      counted host.ncpus UrrStats.ulBytes row < 2 ^ 63 ∧
      counted host.ncpus UrrStats.dlBytes row < 2 ^ 63 := by
  obtain ⟨hul, hdl⟩ : counted host.ncpus UrrStats.ulBytes row < 2 ^ 63 ∧
      counted host.ncpus UrrStats.dlBytes row < 2 ^ 63 :=
    h ⟨key, row⟩ (Table.lookup_eq_some.mp hrow)
  exact ⟨toNat_sumPerCpu rfl (fun _ _ => rfl) (by omega),
    toNat_sumPerCpu rfl (fun _ _ => rfl) (by omega), hul, hdl⟩

/-- A URR that an act leaves alone, but for frames that are counted for it. -/
theorem Tracked.of_same (h : s.Tracked host k cfg) (hlog : s'.log k = s.log k)
    (htime : s.time ≤ s'.time)
    (hrow : ∀ row, s.audit.maps.urrMap.lookup (.new k.1 k.2) = some row →
      ∃ row', s'.audit.maps.urrMap.lookup (.new k.1 k.2) = some row' ∧
        (sumPerCpu host.ncpus row).ulBytes ≤ (sumPerCpu host.ncpus row').ulBytes ∧
        (sumPerCpu host.ncpus row).dlBytes ≤ (sumPerCpu host.ncpus row').dlBytes) :
    s'.Tracked host k cfg where
  accords := by rw [hlog]; exact h.accords
  lawful := by rw [hlog]; exact h.lawful
  last := h.last.trans htime
  small := h.small
  row := by
    obtain ⟨row, hk, hbelow⟩ := h.row
    obtain ⟨row', hk', hul, hdl⟩ := hrow row hk
    rw [hlog]
    exact ⟨row', hk', fun r hr =>
      ⟨UInt64.le_trans (hbelow r hr).1 hul, UInt64.le_trans (hbelow r hr).2 hdl⟩⟩

/-- A session that an act leaves alone, but for frames that are counted for it. -/
theorem Covers.of_same {seid : UInt64} (h : s.Covers host seid)
    (hcfg : ∀ u, s'.audit.srv.urrConfigs.lookup (seid, u) =
      s.audit.srv.urrConfigs.lookup (seid, u))
    (hlog : ∀ u, s'.log (seid, u) = s.log (seid, u)) (htime : s.time ≤ s'.time)
    (hrow : ∀ u row, s.audit.maps.urrMap.lookup (.new seid u) = some row →
      ∃ row', s'.audit.maps.urrMap.lookup (.new seid u) = some row' ∧
        (sumPerCpu host.ncpus row).ulBytes ≤ (sumPerCpu host.ncpus row').ulBytes ∧
        (sumPerCpu host.ncpus row).dlBytes ≤ (sumPerCpu host.ncpus row').dlBytes) :
    s'.Covers host seid where
  absent u hnone := by
    rw [hlog]
    exact h.absent u ((hcfg u).symm.trans hnone)
  tracked u cfg hsome :=
    (h.tracked u cfg ((hcfg u).symm.trans hsome)).of_same (hlog u) htime (hrow u)

end Transfer

/-! ### Frames -/

section Frame

variable {host : Host} {s s' : Journal}

/-- Where only counters have changed, and none has gone down. -/
theorem Recorded.of_counters (h : s.Recorded host) (hissued : Audit.Issued (2 ^ 48) s'.audit)
    (hpeered : s'.audit.Peered) (hbounded : s'.Bounded host) (hlog : ∀ k, s'.log k = s.log k)
    (htime : s'.time = s.time) (hsent : s'.sent = s.sent) (hsrv : s'.audit.srv = s.audit.srv)
    (hidle : s'.audit.sys.totals = s.audit.sys.totals)
    (hrows : ∀ k row, s.audit.maps.urrMap.lookup k = some row →
      ∃ row', s'.audit.maps.urrMap.lookup k = some row' ∧ ∀ i < host.ncpus,
        (row i).ulBytes ≤ (row' i).ulBytes ∧ (row i).dlBytes ≤ (row' i).dlBytes) :
    s'.Recorded host where
  issued := hissued
  idle := hidle.trans h.idle
  peered := hpeered
  bounded := hbounded
  past k hk := by
    rw [hlog] at hk
    rw [hsrv]
    exact h.past k hk
  short k := by
    rw [hlog, hsent]
    exact h.short k
  covers seid data hlive := by
    rw [Audit.Live, hsrv] at hlive
    refine (h.covers seid data hlive).of_same (fun _ => by rw [hsrv]) (fun _ => hlog _) htime.ge
      fun u row hrow => ?_
    obtain ⟨row', hrow', hgrow⟩ := hrows _ row hrow
    obtain ⟨hul, hdl, -, -⟩ := h.bounded.sums hrow
    obtain ⟨hul', hdl', -, -⟩ := hbounded.sums hrow'
    refine ⟨row', hrow', ?_, ?_⟩
    · rw [UInt64.le_iff_toNat_le, hul, hul']
      exact counted_mono fun i hi => (hgrow i hi).1
    · rw [UInt64.le_iff_toNat_le, hdl, hdl']
      exact counted_mono fun i hi => (hgrow i hi).2

theorem Recorded.uplink (h : s.Recorded host) {x : XdpEnv} {f : Bytes}
    (hissued : Audit.Issued (2 ^ 48) (s.step host (.uplink x f)).audit)
    (hpeered : (s.step host (.uplink x f)).audit.Peered) (hp : s.Premise host (.uplink x f)) :
    (s.step host (.uplink x f)).Recorded host := by
  obtain ⟨-, hbounded, hgrows, -, -⟩ := hp
  refine h.of_counters hissued hpeered hbounded (fun _ => rfl) rfl rfl rfl rfl fun k row hrow => ?_
  have hsome : ((tryN3Uplink host.endian x f s.audit.maps).2.urrMap.lookup k).isSome :=
    tryN3Uplink_urrRow (by rw [hrow]; rfl)
  obtain ⟨row', hrow'⟩ := Option.isSome_iff_exists.mp hsome
  exact ⟨row', hrow', hgrows ⟨k, row⟩ (Table.lookup_eq_some.mp hrow) row' hrow'⟩

theorem Recorded.downlink (h : s.Recorded host) {x : XdpEnv} {f : Bytes}
    (hissued : Audit.Issued (2 ^ 48) (s.step host (.downlink x f)).audit)
    (hpeered : (s.step host (.downlink x f)).audit.Peered) (hp : s.Premise host (.downlink x f)) :
    (s.step host (.downlink x f)).Recorded host := by
  obtain ⟨-, hbounded, -, -, -⟩ := hp
  refine h.of_counters hissued hpeered hbounded (fun _ => rfl) rfl rfl rfl rfl fun k row hrow => ?_
  obtain ⟨stats, hm⟩ := tryN6Downlink_maps host.endian x f s.audit.maps
  have hrow' : (tryN6Downlink host.endian x f s.audit.maps).2.urrMap.lookup k = some row := by
    rw [hm]
    exact hrow
  exact ⟨row, hrow', fun i _ => ⟨UInt64.le_refl _, UInt64.le_refl _⟩⟩

end Frame

/-! ### Datagrams -/

section Datagram

variable {host : Host} {s : Journal} {env : Env} {now : Instant} {data : Bytes} {src : SocketAddr}

/-- The entries of a datagram are configurations. -/
theorem requests_entries_datagram (k : UInt64 × UInt32) :
    (s.entries host (.datagram env now data src) k).requests = [] := by
  have hput {L : List ((UInt64 × UInt32) × Entry)}
      (hL : ∀ p ∈ L, ∃ urr created, p.2 = .configured urr created) :
      Log.requests (lastPut L k).toList = [] := by
    cases hlast : lastPut L k with
    | none => rfl
    | some e =>
      obtain ⟨urr, created, rfl⟩ := hL _ (mem_of_lastPut hlast)
      rfl
  simp only [entries]
  split
  · split_ifs
    · refine hput fun p hp => ?_
      obtain ⟨q, -, rfl⟩ := List.mem_map.mp hp
      exact ⟨_, _, rfl⟩
    · rfl
  · split_ifs
    · rfl
    · refine hput fun p hp => ?_
      obtain ⟨q, -, rfl⟩ := List.mem_map.mp hp
      exact ⟨_, _, rfl⟩
  · rfl

/-- An establishment adds to the logs of the SEID it gets only. -/
theorem lastPut_creations_of_ne {seid : UInt64} {req : SessionEstablishmentReq}
    {k : UInt64 × UInt32} (h : k.1 ≠ seid) : lastPut (creations env seid req) k = none := by
  refine lastPut_eq_none_iff.mpr fun hk => h ?_
  obtain ⟨p, hp, rfl⟩ := List.mem_map.mp hk
  obtain ⟨q, -, rfl⟩ := List.mem_map.mp hp
  rfl

theorem entries_of_ne (hmod : s.audit.modification (.datagram env now data src) = none)
    {k : UInt64 × UInt32} (h : k.1 ≠ s.audit.srv.nextSeid) :
    s.entries host (.datagram env now data src) k = [] := by
  simp only [entries, hmod]
  split
  · split_ifs
    · rw [lastPut_creations_of_ne h]
      rfl
    · rfl
  · next heq => cases heq
  · rfl

/-- What a datagram adds to is a log that was begun, or that of a SEID it gets. -/
theorem past_datagram (h : s.Recorded host)
    (hb : s.audit.IssuesBelow (2 ^ 48) (.datagram env now data src)) (k : UInt64 × UInt32)
    (hk : (s.step host (.datagram env now data src)).log k ≠ []) :
    k.1.toNat < (s.step host (.datagram env now data src)).audit.srv.nextSeid.toNat := by
  have hle : s.audit.srv.nextSeid.toNat ≤
      (s.audit.step host (.datagram env now data src)).srv.nextSeid.toNat :=
    Audit.step_next_le (by decide) hb
  by_cases hold : s.log k = []
  · by_cases hnew : k.1 = s.audit.srv.nextSeid ∧ s.audit.Issues (.datagram env now data src)
    · rw [hnew.1]
      change s.audit.srv.nextSeid.toNat <
        (s.audit.step host (.datagram env now data src)).srv.nextSeid.toNat
      cases step_booked host s.audit (.datagram env now data src) with
      | idle hiss | deleted hiss | modified hiss => exact absurd hnew.2 hiss
      | refused hiss hmod hanswer hs ht hseid | established hiss hmod hanswer d hd hs ht hseid =>
        rw [hseid, Audit.next_succ (hb hiss) (by decide)]
        omega
    · refine absurd ?_ hk
      change s.entries host (.datagram env now data src) k ++ s.log k = []
      rw [hold, List.append_nil]
      simp only [entries]
      split
      · next req assoc hest =>
        rw [lastPut_creations_of_ne fun heq => hnew ⟨heq, by
          change (establishes env (received data) src s.audit.world).isSome
          rw [hest]
          rfl⟩]
        exact ite_self _
      · rw [if_pos hold]
      · rfl
  · exact lt_of_lt_of_le (h.past k hold) hle

/-- A datagram after which the live sessions are kept track of. -/
theorem Recorded.of_covers (h : s.Recorded host)
    (hissued : Audit.Issued (2 ^ 48) (s.step host (.datagram env now data src)).audit)
    (hpeered : (s.step host (.datagram env now data src)).audit.Peered)
    (hb : s.audit.IssuesBelow (2 ^ 48) (.datagram env now data src))
    (hbounded : (s.step host (.datagram env now data src)).Bounded host)
    (hcovers : ∀ seid session, (s.step host (.datagram env now data src)).audit.Live seid session →
      (s.step host (.datagram env now data src)).Covers host seid) :
    (s.step host (.datagram env now data src)).Recorded host where
  issued := hissued
  idle := h.idle
  peered := hpeered
  bounded := hbounded
  past := past_datagram h hb
  short k := by
    change (s.entries host (.datagram env now data src) k ++ s.log k).requests.length ≤ s.sent
    rw [Log.requests_append, requests_entries_datagram]
    exact h.short k
  covers := hcovers

/-- A session that a datagram does not work for. -/
theorem Covers.of_rest {seid : UInt64} (h : s.Covers host seid)
    (hp : s.Premise host (.datagram env now data src))
    (hmod : s.audit.modification (.datagram env now data src) = none)
    (hne : seid ≠ s.audit.srv.nextSeid)
    (hcfg : ∀ u, (s.audit.step host (.datagram env now data src)).srv.urrConfigs.lookup (seid, u) =
      s.audit.srv.urrConfigs.lookup (seid, u))
    (hrow : ∀ u, (s.audit.step host (.datagram env now data src)).maps.urrMap.lookup
      (.new seid u) = s.audit.maps.urrMap.lookup (.new seid u)) :
    (s.step host (.datagram env now data src)).Covers host seid := by
  refine h.of_same hcfg (fun u => ?_) (time_bounds hp.1).1 fun u row hu => ?_
  · change s.entries host (.datagram env now data src) (seid, u) ++ s.log (seid, u) = _
    rw [entries_of_ne hmod hne, List.nil_append]
  · exact ⟨row, (hrow u).trans hu, UInt64.le_refl _, UInt64.le_refl _⟩

theorem lastPut_creations (seid : UInt64) (req : SessionEstablishmentReq) (k : UInt64 × UInt32) :
    lastPut (creations env seid req) k =
      (lastPut (urrsOf seid req) k).map fun p => .configured p.1 (some (env.now p.2)) := by
  rw [← lastPut_map, urrsOf, List.map_map]
  rfl

/-- The session of an accepted establishment: its URRs are those of the request. -/
theorem covers_created (h : s.Recorded host) (hp : s.Premise host (.datagram env now data src))
    {req : SessionEstablishmentReq} {assoc : SmfAssociation} {ueIp : Ipv4Addr}
    {gnbInfo : OuterHeaderCreation} {w' : World}
    (hest : establishes env (received data) src s.audit.world = some (req, assoc))
    (hanswer : s.audit.answered host (.datagram env now data src) = true)
    (hinst : install (installSteps host.endian env s.audit.srv.n3Addr s.audit.srv.nextSeid
      s.audit.srv.nextTeid ueIp gnbInfo req) (allocated (touched now s.audit.world)) = (true, w'))
    (hm : (s.audit.step host (.datagram env now data src)).maps = w'.maps)
    (hc : (s.audit.step host (.datagram env now data src)).srv.urrConfigs = w'.srv.urrConfigs) :
    (s.step host (.datagram env now data src)).Covers host s.audit.srv.nextSeid := by
  have hfresh : ∀ u, s.log (s.audit.srv.nextSeid, u) = [] := by
    intro u
    by_contra hne
    exact lt_irrefl _ (h.past _ hne)
  have hlog : ∀ u, (s.step host (.datagram env now data src)).log (s.audit.srv.nextSeid, u) =
      (lastPut (creations env s.audit.srv.nextSeid req) (s.audit.srv.nextSeid, u)).toList := by
    intro u
    change s.entries host (.datagram env now data src) _ ++ s.log _ = _
    rw [hfresh, List.append_nil]
    simp only [entries, hest, hanswer, if_true]
  refine ⟨fun u hnone => ?_, fun u cfg hsome => ?_⟩
  · rw [hlog, lastPut_creations]
    cases hlast : lastPut (urrsOf s.audit.srv.nextSeid req) (s.audit.srv.nextSeid, u) with
    | none => rfl
    | some p =>
      rw [show (s.step host (.datagram env now data src)).audit.srv.urrConfigs = w'.srv.urrConfigs
        from hc, (installed_config hinst).2 p rfl hlast] at hnone
      cases hnone
  · rw [show (s.step host (.datagram env now data src)).audit.srv.urrConfigs = w'.srv.urrConfigs
      from hc] at hsome
    cases hlast : lastPut (urrsOf s.audit.srv.nextSeid req) (s.audit.srv.nextSeid, u) with
    | none =>
      -- no configuration has the SEID that is just issued
      rw [(installed_config hinst).1 hlast] at hsome
      exact absurd (h.issued.config hsome) (lt_irrefl _)
    | some p =>
      obtain ⟨hmem, rfl⟩ := mem_urrsOf hlast
      have hcfg : cfg = urrConfig s.audit.srv.nextSeid req.cpSeid (env.now p.2) p.1 :=
        Option.some.inj (hsome.symm.trans ((installed_config hinst).2 p rfl hlast))
      have hlog' : (s.step host (.datagram env now data src)).log
          (s.audit.srv.nextSeid, p.1.urrId) = [.configured p.1 (some (env.now p.2))] := by
        rw [hlog, lastPut_creations, hlast]
        rfl
      refine ⟨?_, ?_, ?_, ?_, ?_⟩
      · rw [hlog', hcfg]
        exact Log.accords_urrConfig ..
      · rw [hlog']
        exact Log.lawful_nil.configured
      · rw [hcfg]
        refine ((time_bounds hp.1).2 (env.now p.2) (List.mem_cons_of_mem _ ?_)).2
        rw [hest]
        exact List.mem_map_of_mem (List.mem_range.mpr (List.snd_lt_of_mem_zipIdx hmem))
      · exact hp.2.2.2.1 _ hest p.1 (List.fst_mem_of_mem_zipIdx hmem)
      · refine ⟨fun _ => {}, ?_, fun r hr => ?_⟩
        · rw [show (s.step host (.datagram env now data src)).audit.maps = w'.maps from hm]
          exact installed_urr hinst hmem
        · rw [hlog'] at hr
          cases hr

/-- A session when a modification is accepted, of it or of another. -/
theorem Covers.modify {seid seid' : UInt64} (h : s.Covers host seid)
    (hp : s.Premise host (.datagram env now data src)) {session : SessionData}
    {req : SessionModificationReq}
    (hiss : ¬ s.audit.Issues (.datagram env now data src))
    (hmod : s.audit.modification (.datagram env now data src) = some (seid', session, req))
    (hw : (s.audit.step host (.datagram env now data src)).world =
      modifySession host.endian seid' session.ueIp req (touched now s.audit.world)) :
    (s.step host (.datagram env now data src)).Covers host seid := by
  have hest : establishes env (received data) src s.audit.world = none :=
    Option.not_isSome_iff_eq_none.mp hiss
  have hlog : ∀ u, (s.step host (.datagram env now data src)).log (seid, u) =
      if s.log (seid, u) = [] then [] else
        ((lastPut (configWrites seid' req.updateUrrs) (seid, u)).map fun urr =>
          Entry.configured urr none).toList ++ s.log (seid, u) := by
    intro u
    change s.entries host (.datagram env now data src) (seid, u) ++ s.log (seid, u) = _
    simp only [entries, hest, hmod]
    split_ifs with hnil
    · exact hnil
    · rw [← lastPut_map]
      rfl
  have hcfg : ∀ u,
      (s.step host (.datagram env now data src)).audit.srv.urrConfigs.lookup (seid, u) =
        (s.audit.srv.urrConfigs.lookup (seid, u)).map fun cfg =>
          ((lastPut (configWrites seid' req.updateUrrs) (seid, u)).map (setConfig · cfg)).getD
            cfg := by
    intro u
    change (s.audit.step host (.datagram env now data src)).world.srv.urrConfigs.lookup _ = _
    rw [hw, modifySession_urrConfigs, foldl_overwrite_eq setConfig_setConfig]
    rfl
  have hrow : (s.step host (.datagram env now data src)).audit.maps.urrMap =
      s.audit.maps.urrMap := by
    change (s.audit.step host (.datagram env now data src)).world.maps.urrMap = _
    rw [hw, (modifySession_rest req).2]
    rfl
  refine ⟨fun u hnone => ?_, fun u cfg hsome => ?_⟩
  · rw [hcfg, Option.map_eq_none_iff] at hnone
    rw [hlog, if_pos (h.absent u hnone)]
  · rw [hcfg] at hsome
    obtain ⟨cfg', hcfg', heq⟩ := Option.map_eq_some_iff.mp hsome
    have ht := h.tracked u cfg' hcfg'
    have hlog' := hlog u
    rw [if_neg ht.accords.ne_nil] at hlog'
    have htime := (time_bounds hp.1).1
    cases hlast : lastPut (configWrites seid' req.updateUrrs) (seid, u) with
    | none =>
      rw [hlast] at heq hlog'
      obtain rfl : cfg' = cfg := heq
      refine ht.of_same hlog' htime fun row hu => ⟨row, ?_, UInt64.le_refl _, UInt64.le_refl _⟩
      rw [hrow]
      exact hu
    | some urr =>
      rw [hlast] at heq hlog'
      obtain rfl : setConfig urr cfg' = cfg := heq
      have hlog'' : (s.step host (.datagram env now data src)).log (seid, u) =
        .configured urr none :: s.log (seid, u) := hlog'
      refine ⟨?_, ?_, ht.last.trans htime, ht.small, ?_⟩
      · rw [hlog'']
        exact ht.accords.configured
      · rw [hlog'']
        exact ht.lawful.configured
      · rw [hlog'', hrow]
        exact ht.row

/-- **A datagram.** -/
theorem Recorded.datagram (h : s.Recorded host)
    (hissued : Audit.Issued (2 ^ 48) (s.step host (.datagram env now data src)).audit)
    (hpeered : (s.step host (.datagram env now data src)).audit.Peered)
    (hp : s.Premise host (.datagram env now data src))
    (hb : s.audit.IssuesBelow (2 ^ 48) (.datagram env now data src)) :
    (s.step host (.datagram env now data src)).Recorded host := by
  refine h.of_covers hissued hpeered hb hp.2.1 fun seid session hlive => ?_
  change (s.audit.step host (.datagram env now data src)).srv.sessions.lookup seid = _ at hlive
  -- a session that was live has a SEID below the counter
  have hne : ∀ {session'}, s.audit.Live seid session' → seid ≠ s.audit.srv.nextSeid := by
    intro session' hold heq
    have hlt := h.issued.live hold
    rw [heq] at hlt
    exact lt_irrefl _ hlt
  cases step_writes host s.audit env now data src with
  | nothing hadm hmod hdel hm hc hs =>
    rw [hs] at hlive
    refine (h.covers seid session hlive).of_rest hp hmod (hne hlive) (fun u => ?_) fun u => ?_
    · rw [hc]
    · rw [hm]
  | rules req assoc ueIp gnbInfo w' hest hue hgnb hmod hdel hinst hm hc hs =>
    have hlt : s.audit.srv.nextSeid.toNat < 2 ^ 48 := hb (by
      change (establishes env (received data) src s.audit.world).isSome
      rw [hest]
      rfl)
    have hother : ∀ {session'}, s.audit.Live seid session' →
        (s.step host (.datagram env now data src)).Covers host seid := by
      intro session' hold
      have hrules : SameRules seid s.audit.world w' := (installed hinst).kept.sameRules hlt
        (lt_of_lt_of_le (h.issued.live hold) h.issued.next_le) (hne hold)
      refine (h.covers seid session' hold).of_rest hp hmod (hne hold) (fun u => ?_) fun u => ?_
      · rw [hc]
        exact hrules.config u
      · rw [hm]
        exact hrules.urr u
    rw [hs] at hlive
    split_ifs at hlive with hanswer
    · rw [Table.lookup_insert_ite] at hlive
      split_ifs at hlive with heq
      · rw [heq]
        rw [hanswer] at hinst
        exact covers_created h hp hest hanswer hinst hm hc
      · exact hother hlive
    · exact hother hlive
  | modified seid' session' req hiss hmod hdel hlive' hw =>
    rw [Audit.srv, hw] at hlive
    obtain ⟨session'', hold, -⟩ := modifySession_steady.session_some hlive
    exact (h.covers seid session'' hold).modify hp hiss hmod hw
  | deleted seid' session' assoc hiss hmod hdel hlive' hm hc hs =>
    rw [hs, Table.lookup_erase_ite] at hlive
    split_ifs at hlive with heq
    refine (h.covers seid session hlive).of_rest hp hmod (hne hlive) (fun u => ?_) fun u => ?_
    · rw [hc]
    · rw [hm, urrMap_removeRules, if_neg]
      intro hmem
      obtain ⟨id, -, hkey⟩ := List.mem_map.mp hmem
      refine heq (composeKey_inj_seid ?_ ?_ (UrrKey.mk.inj hkey)).symm
      · exact lt_of_lt_of_le (h.issued.live hlive') h.issued.next_le
      · exact lt_of_lt_of_le (h.issued.live hlive) h.issued.next_le

end Datagram

end Journal

end UpfEdge
