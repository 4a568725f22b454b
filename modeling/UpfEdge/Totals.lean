import Mathlib.Data.UInt
import UpfEdge.Accounting
import UpfEdge.Datagrams
import UpfEdge.Directory
import UpfEdge.Lib.Tally
import UpfEdge.Server.SessionStore

/-!
# The totals that are exported

`upf-edge/src/metrics/session_stats.rs`: every five seconds the poller sums up the rows of STATS_MAP
over the CPUs and sets four counters for each of them, by the address of the UE.

The programs write that map in cells (`Lib.Tally`): each frame they count is one posting to the cell
of the CPU it arrives on.  They count a frame of a session when the FAR of the PDR chosen for it
does not drop it; that is before `downlink_get_far` can drop a frame on N6, and before the head of
the frame is moved, so that a frame which is dropped or passed after that is counted too.  Nothing
else writes the map (`step_statsMap`), so what is exported is exactly the traffic counted
(`polled_exact`), and it only grows (`polled_grows`).  How the frames are spread over the CPUs and
in which order they are processed makes no difference, neither to what is exported, nor to what the
usage reporter sees, nor to what becomes of a frame (`steering_irrelevant`).
-/

namespace UpfEdge

open Lib Pfcp Server Xdp

/-! ### Counters as amounts -/

attribute [ext] SessionStats UrrStats

namespace SessionStats

instance : Zero SessionStats := ⟨⟨0, 0, 0, 0⟩⟩

instance : Add SessionStats :=
  ⟨fun s t => ⟨s.rxBytes + t.rxBytes, s.rxPackets + t.rxPackets, s.txBytes + t.txBytes,
    s.txPackets + t.txPackets⟩⟩

@[simp] theorem zero_rxBytes : (0 : SessionStats).rxBytes = 0 := rfl
@[simp] theorem zero_rxPackets : (0 : SessionStats).rxPackets = 0 := rfl
@[simp] theorem zero_txBytes : (0 : SessionStats).txBytes = 0 := rfl
@[simp] theorem zero_txPackets : (0 : SessionStats).txPackets = 0 := rfl

section

variable (s t : SessionStats)

@[simp] theorem add_rxBytes : (s + t).rxBytes = s.rxBytes + t.rxBytes := rfl
@[simp] theorem add_rxPackets : (s + t).rxPackets = s.rxPackets + t.rxPackets := rfl
@[simp] theorem add_txBytes : (s + t).txBytes = s.txBytes + t.txBytes := rfl
@[simp] theorem add_txPackets : (s + t).txPackets = s.txPackets + t.txPackets := rfl

end

instance : AddCommMonoid SessionStats where
  add_assoc a b c := by ext1 <;> simp [add_assoc]
  zero_add a := by ext1 <;> simp
  add_zero a := by ext1 <;> simp
  add_comm a b := by ext1 <;> simp [add_comm]
  nsmul := nsmulRec

/-- All that is counted. -/
def size (s : SessionStats) : ℕ :=
  s.rxBytes.toNat + s.rxPackets.toNat + s.txBytes.toNat + s.txPackets.toNat

theorem size_add_le (s t : SessionStats) : (s + t).size ≤ s.size + t.size := by
  have hfield : ∀ x y : UInt64, (x + y).toNat ≤ x.toNat + y.toNat := fun x y => by
    rw [UInt64.toNat_add]
    exact Nat.mod_le _ _
  have h₁ := hfield s.rxBytes t.rxBytes
  have h₂ := hfield s.rxPackets t.rxPackets
  have h₃ := hfield s.txBytes t.txBytes
  have h₄ := hfield s.txPackets t.txPackets
  simp only [size, add_rxBytes, add_rxPackets, add_txBytes, add_txPackets]
  omega

/-- Where nothing wraps around, each counter grows. -/
theorem le_add {s t : SessionStats} (h : s.size + t.size < 2 ^ 64) :
    s.rxBytes ≤ (s + t).rxBytes ∧ s.txBytes ≤ (s + t).txBytes ∧
      s.rxPackets ≤ (s + t).rxPackets ∧ s.txPackets ≤ (s + t).txPackets := by
  have hfield : ∀ x y : UInt64, x.toNat + y.toNat < 2 ^ 64 → x ≤ x + y := fun x y hxy => by
    rw [UInt64.le_iff_toNat_le, UInt64.toNat_add, Nat.mod_eq_of_lt hxy]
    exact Nat.le_add_right _ _
  simp only [size] at h
  refine ⟨hfield _ _ ?_, hfield _ _ ?_, hfield _ _ ?_, hfield _ _ ?_⟩ <;> omega

/-- One packet in one direction. -/
def packet (uplink : Bool) (pktLen : UInt64) : SessionStats :=
  if uplink then ⟨pktLen, 1, 0, 0⟩ else ⟨0, 0, pktLen, 1⟩

theorem rx_eq (pktLen : UInt64) (s : SessionStats) :
    SessionStats.rx pktLen s = s + packet true pktLen := by
  ext1 <;> simp [SessionStats.rx, packet]

theorem tx_eq (pktLen : UInt64) (s : SessionStats) :
    SessionStats.tx pktLen s = s + packet false pktLen := by
  ext1 <;> simp [SessionStats.tx, packet]

end SessionStats

namespace UrrStats

instance : Zero UrrStats := ⟨{}⟩

instance : Add UrrStats :=
  ⟨fun s t => ⟨s.ulBytes + t.ulBytes, s.ulPackets + t.ulPackets, s.dlBytes + t.dlBytes,
    s.dlPackets + t.dlPackets⟩⟩

@[simp] theorem zero_ulBytes : (0 : UrrStats).ulBytes = 0 := rfl
@[simp] theorem zero_ulPackets : (0 : UrrStats).ulPackets = 0 := rfl
@[simp] theorem zero_dlBytes : (0 : UrrStats).dlBytes = 0 := rfl
@[simp] theorem zero_dlPackets : (0 : UrrStats).dlPackets = 0 := rfl

section

variable (s t : UrrStats)

@[simp] theorem add_ulBytes : (s + t).ulBytes = s.ulBytes + t.ulBytes := rfl
@[simp] theorem add_ulPackets : (s + t).ulPackets = s.ulPackets + t.ulPackets := rfl
@[simp] theorem add_dlBytes : (s + t).dlBytes = s.dlBytes + t.dlBytes := rfl
@[simp] theorem add_dlPackets : (s + t).dlPackets = s.dlPackets + t.dlPackets := rfl

end

instance : AddCommMonoid UrrStats where
  add_assoc a b c := by ext1 <;> simp [add_assoc]
  zero_add a := by ext1 <;> simp
  add_zero a := by ext1 <;> simp
  add_comm a b := by ext1 <;> simp [add_comm]
  nsmul := nsmulRec

def packet (uplink : Bool) (pktLen : UInt64) : UrrStats := UrrStats.count uplink pktLen 0

theorem count_eq (uplink : Bool) (pktLen : UInt64) (s : UrrStats) :
    UrrStats.count uplink pktLen s = s + packet uplink pktLen := by
  ext1 <;> cases uplink <;> simp [UrrStats.count, packet]

end UrrStats

/-- A program counts by making a posting. -/
theorem countRow_eq_add {cap : ℕ} {K V : Type} [DecidableEq K] [Inhabited V] [AddCommMonoid V]
    (hzero : (default : V) = 0) {f : V → V} {amount : V} (hf : ∀ v, f v = v + amount) (cpu : ℕ)
    (k : K) (t : BoundedTable cap K (PerCpu V)) :
    countRow cpu k f t = Posting.add t ⟨cpu, k, amount⟩ := by
  have hcell : onCpu cpu f = addAt cpu amount := by
    funext row
    rw [onCpu, addAt, hf]
  unfold countRow Posting.add
  rw [hcell, hzero]
  rfl

/-! ### What the programs count -/

namespace Xdp.Frame

/-- The posting a frame makes in STATS_MAP: that of a frame of a session whose chosen FAR does not
drop it, whatever becomes of it afterwards. -/
def posting (e : Endian) (m : Maps) (fr : Frame) : Option (Posting SessionKey SessionStats) :=
  (fr.selection e m).bind fun (_, sel) =>
    if shouldDrop sel then none
    else (fr.key e).map fun k => ⟨fr.cpu, k, .packet fr.uplink (pktLen fr.bytes)⟩

/-- The posting it makes in URR_MAP.  Only the uplink program makes one, and it counts as
downlink. -/
def urrPosting (e : Endian) (m : Maps) (fr : Frame) : Option (Posting UrrKey UrrStats) :=
  (fr.selection e m).bind fun (session, sel) =>
    if shouldDrop sel ∨ fr.uplink = false ∨ matchedUrrId sel = 0 then none
    else some ⟨fr.cpu, .new session.seid (matchedUrrId sel), .packet false (pktLen fr.bytes)⟩

section

variable (cpu : ℕ) (len : UInt64) (m : Maps)

theorem statsRx_eq (k : SessionKey) : statsRx cpu k len m =
    { m with statsMap := Posting.add m.statsMap ⟨cpu, k, .packet true len⟩ } := by
  rw [statsRx, countRow_eq_add rfl (SessionStats.rx_eq len)]

theorem statsTx_eq (k : SessionKey) : statsTx cpu k len m =
    { m with statsMap := Posting.add m.statsMap ⟨cpu, k, .packet false len⟩ } := by
  rw [statsTx, countRow_eq_add rfl (SessionStats.tx_eq len)]

theorem urrCount_eq (seid : UInt64) {urrId : UInt32} (h : urrId ≠ 0) (uplink : Bool) :
    urrCount cpu seid urrId len uplink m =
      { m with urrMap := Posting.add m.urrMap ⟨cpu, .new seid urrId, .packet uplink len⟩ } := by
  rw [urrCount, if_neg h, countRow_eq_add rfl (UrrStats.count_eq uplink len)]

end

/-- **What a frame counts.** -/
theorem process_counts (e : Endian) (m : Maps) (fr : Frame) :
    (fr.process e m).2 = { m with
      statsMap := run (fun t x => Posting.add t x) m.statsMap (fr.posting e m).toList
      urrMap := run (fun t x => Posting.add t x) m.urrMap (fr.urrPosting e m).toList } := by
  cases fr with
  | n3 x f =>
    rw [process, tryN3Uplink_eq, posting, urrPosting, selection]
    cases hm : uplinkMatch e f m with
    | none => rfl
    | some found =>
      obtain ⟨p, session⟩ := found
      have hkey : (Frame.n3 x f).key e = some ⟨p.tuple.srcIp⟩ := by
        rw [key, (uplinkMatch_row hm).1]
        rfl
      have hup : (Frame.n3 x f).uplink = true := rfl
      simp only [Option.map_some, Option.bind_some, hkey, forwardUplink]
      by_cases hdrop : shouldDrop (selected m session ifaceAccess p.tuple) = true
      · simp only [hdrop, true_or, if_true]
        rfl
      by_cases hurr : matchedUrrId (selected m session ifaceAccess p.tuple) = 0
      · simp only [hdrop, hup, hurr, statsRx_eq, urrCount, or_true, if_true]
        rfl
      · simp only [hdrop, hup, hurr, statsRx_eq, urrCount_eq _ _ _ _ hurr, Bool.true_eq_false,
          or_self]
        rfl
  | n6 x f =>
    rw [process, tryN6Downlink_eq, posting, urrPosting, selection]
    cases hm : downlinkMatch e f m with
    | none => rfl
    | some found =>
      obtain ⟨t, session⟩ := found
      have hkey : (Frame.n6 x f).key e = some ⟨t.dstIp⟩ := by
        rw [key, (downlinkMatch_row hm).1]
        rfl
      have hup : (Frame.n6 x f).uplink = false := rfl
      simp only [Option.map_some, Option.bind_some, hkey, forwardDownlink]
      by_cases hdrop : shouldDrop (selected m session ifaceCore t) = true
      · simp only [hdrop, true_or, if_true]
        rfl
      · simp only [if_neg hdrop, hup, statsTx_eq, true_or, or_true, if_true]
        split <;> rfl

end Xdp.Frame

/-! ### The poller -/

/-- `u32::from_be`. -/
def fromBe32 (e : Endian) (x : UInt32) : UInt32 := u32OfBe (e.store32 x)

/-- `Ipv4Addr::from(u32::from_be(key.ue_ip))`. -/
def address (e : Endian) (k : SessionKey) : Ipv4Addr :=
  .ofOctets (u32ToBe (fromBe32 e k.ueIp))

theorem ofIp_address (e : Endian) (k : SessionKey) : SessionKey.ofIp e (address e k) = k := by
  have htoU32 : (address e k).toU32 = u32OfBe (e.store32 k.ueIp) := by
    have hlen : (u32ToBe (fromBe32 e k.ueIp)).length = 4 := length_bytesBe 4 _
    rw [Ipv4Addr.toU32, address, Ipv4Addr.octets_ofOctets hlen, u32OfBe_u32ToBe]
    rfl
  rw [SessionKey.ofIp, htoU32, toBe32_ofBe e (length_store32 e _), load32_store32]

theorem address_ofIp (e : Endian) (ip : Ipv4Addr) : address e (.ofIp e ip) = ip :=
  SessionKey.ofIp_inj e (ofIp_address e _)

/-- Rows have different labels. -/
theorem text_address_inj {e : Endian} {k k' : SessionKey}
    (h : (address e k).text = (address e k').text) : k = k' := by
  have hparse := congrArg Ipv4Addr.parse h
  rw [Ipv4Addr.parse_text, Ipv4Addr.parse_text] at hparse
  rw [← ofIp_address e k, Option.some.inj hparse, ofIp_address]

/-- One `counter!(…).absolute(…)`. -/
structure Absolute where
  metric : String
  ueIp : String
  value : UInt64
  deriving DecidableEq, Repr

def absolutes (ueIp : String) (total : SessionStats) : List Absolute :=
  [⟨"upf_session_rx_bytes_total", ueIp, total.rxBytes⟩,
    ⟨"upf_session_tx_bytes_total", ueIp, total.txBytes⟩,
    ⟨"upf_session_rx_packets_total", ueIp, total.rxPackets⟩,
    ⟨"upf_session_tx_packets_total", ueIp, total.txPackets⟩]

/-- The counters of one row, summed over the CPUs. -/
def sumStats (ncpus : ℕ) (perCpuValues : PerCpu SessionStats) : SessionStats :=
  (List.range ncpus).foldl (fun total i =>
    { rxPackets := total.rxPackets + (perCpuValues i).rxPackets
      rxBytes := total.rxBytes + (perCpuValues i).rxBytes
      txPackets := total.txPackets + (perCpuValues i).txPackets
      txBytes := total.txBytes + (perCpuValues i).txBytes }) ⟨0, 0, 0, 0⟩

/-- One tick of `spawn_stats_poller`. -/
def poll (e : Endian) (ncpus : ℕ)
    (order : IterOrder (Sigma fun _ : SessionKey => PerCpu SessionStats)) (m : Maps) :
    List Absolute :=
  (order.perm m.statsMap.rows.entries).flatMap fun row =>
    absolutes (address e row.1).text (sumStats ncpus row.2)

theorem sumStats_eq (ncpus : ℕ) (row : PerCpu SessionStats) :
    sumStats ncpus row = total ncpus row := foldl_range_add ncpus row

theorem sumPerCpu_eq (ncpus : ℕ) (row : PerCpu UrrStats) :
    sumPerCpu ncpus row = total ncpus row := foldl_range_add ncpus row

theorem mem_poll {e : Endian} {ncpus : ℕ}
    {order : IterOrder (Sigma fun _ : SessionKey => PerCpu SessionStats)} {m : Maps}
    {x : Absolute} : x ∈ poll e ncpus order m ↔ ∃ k row, m.statsMap.lookup k = some row ∧
      x ∈ absolutes (address e k).text (sumStats ncpus row) := by
  rw [poll, List.mem_flatMap]
  constructor
  · rintro ⟨⟨k, row⟩, hrow, hx⟩
    exact ⟨k, row, Table.lookup_eq_some.mpr ((order.isPerm _).mem_iff.mp hrow), hx⟩
  · rintro ⟨k, row, hrow, hx⟩
    exact ⟨⟨k, row⟩, (order.isPerm _).mem_iff.mpr (Table.lookup_eq_some.mp hrow), hx⟩

/-- A counter is set once. -/
theorem poll_nodup (e : Endian) (ncpus : ℕ)
    (order : IterOrder (Sigma fun _ : SessionKey => PerCpu SessionStats)) (m : Maps) :
    ((poll e ncpus order m).map fun x => (x.metric, x.ueIp)).Nodup := by
  have hkeys : ((order.perm m.statsMap.rows.entries).map (·.1)).Nodup :=
    ((order.isPerm _).map _).nodup_iff.mpr m.statsMap.rows.nodupKeys
  rw [poll, List.map_flatMap, List.nodup_flatMap]
  refine ⟨fun row _ => ?_, (List.pairwise_map.mp hkeys).imp fun hne => ?_⟩
  · simp [absolutes]
  · intro p hp hp'
    obtain ⟨x, hx, rfl⟩ := List.mem_map.mp hp
    obtain ⟨y, hy, hxy⟩ := List.mem_map.mp hp'
    have hlabel : ∀ {ueIp : String} {s : SessionStats} {z},
        z ∈ absolutes ueIp s → z.ueIp = ueIp := by
      intro ueIp s z hz
      simp only [absolutes, List.mem_cons, List.not_mem_nil, or_false] at hz
      rcases hz with rfl | rfl | rfl | rfl <;> rfl
    refine hne (text_address_inj (e := e) ?_)
    rw [← hlabel hx, ← hlabel hy]
    exact (congrArg Prod.snd hxy).symm

/-! ### Bursts of frames -/

/-- What a burst of frames leaves. -/
def burst (e : Endian) (m : Maps) (frs : List Frame) : Maps :=
  run (fun m fr => (fr.process e m).2) m frs

/-- The same frame on another CPU. -/
def Xdp.Frame.onCpu (cpu : ℕ) : Frame → Frame
  | .n3 x f => .n3 { x with cpu } f
  | .n6 x f => .n6 { x with cpu } f

/-- The frames of a burst, whatever their CPU, each with what becomes of it. -/
def outcomes (e : Endian) (m : Maps) : List Frame → List (Frame × Verdict)
  | [] => []
  | fr :: frs => (fr.onCpu 0, fr.verdict e m) :: outcomes e (fr.process e m).2 frs

section Burst

variable {e : Endian} {m : Maps}

/-- Counters do not matter to what a frame gets or counts. -/
theorem verdict_counters (fr : Frame) (stats : BoundedTable 1024 SessionKey (PerCpu SessionStats))
    (urrs : BoundedTable 4096 UrrKey (PerCpu UrrStats)) :
    fr.verdict e { m with statsMap := stats, urrMap := urrs } = fr.verdict e m ∧
      fr.posting e { m with statsMap := stats, urrMap := urrs } = fr.posting e m ∧
      fr.urrPosting e { m with statsMap := stats, urrMap := urrs } = fr.urrPosting e m := by
  refine ⟨?_, ?_, ?_⟩
  · rw [Frame.verdict_directory, Frame.verdict_directory]
    rfl
  · cases fr <;> rfl
  · cases fr <;> rfl

theorem burst_eq (frs : List Frame) : burst e m frs = { m with
    statsMap := run (fun t x => Posting.add t x) m.statsMap (frs.filterMap (Frame.posting e m))
    urrMap := run (fun t x => Posting.add t x) m.urrMap
      (frs.filterMap (Frame.urrPosting e m)) } := by
  induction frs generalizing m with
  | nil => rfl
  | cons fr frs ih =>
    have hstep : burst e m (fr :: frs) = burst e (fr.process e m).2 frs := rfl
    have hadd : ∀ {K M : Type} [DecidableEq K] [AddCommMonoid M] {cap : ℕ}
        (t : BoundedTable cap K (ℕ → M)) (f : Frame → Option (Posting K M)),
        run (fun t x => Posting.add t x) (run (fun t x => Posting.add t x) t (f fr).toList)
            (frs.filterMap f) =
          run (fun t x => Posting.add t x) t ((fr :: frs).filterMap f) := by
      intro K M _ _ cap t f
      rw [← run_append]
      cases hf : f fr with
      | none => rw [List.filterMap_cons_none hf]; rfl
      | some x => rw [List.filterMap_cons_some hf]; rfl
    rw [hstep, ih, Frame.process_counts]
    have hposting := funext fun fr' : Frame => (verdict_counters (m := m) (e := e) fr'
      (run (fun t x => Posting.add t x) m.statsMap (fr.posting e m).toList)
      (run (fun t x => Posting.add t x) m.urrMap (fr.urrPosting e m).toList)).2.1
    have hurr := funext fun fr' : Frame => (verdict_counters (m := m) (e := e) fr'
      (run (fun t x => Posting.add t x) m.statsMap (fr.posting e m).toList)
      (run (fun t x => Posting.add t x) m.urrMap (fr.urrPosting e m).toList)).2.2
    simp only [hposting, hurr, hadd]

theorem outcomes_eq (frs : List Frame) :
    outcomes e m frs = frs.map fun fr => (fr.onCpu 0, fr.verdict e m) := by
  induction frs generalizing m with
  | nil => rfl
  | cons fr frs ih =>
    rw [outcomes, ih, Frame.process_counts]
    simp only [verdict_counters, List.map_cons]

theorem verdict_onCpu (fr : Frame) : (fr.onCpu 0).verdict e m = fr.verdict e m := by
  rw [Frame.verdict_directory, Frame.verdict_directory]
  cases fr <;> rfl

/-- A frame makes the same postings on another CPU, in another cell. -/
theorem posting_onCpu (fr : Frame) :
    (fr.onCpu 0).posting e m = (fr.posting e m).map fun x => { x with cell := 0 } := by
  have hsel : (fr.onCpu 0).selection e m = fr.selection e m := by cases fr <;> rfl
  have hkey : (fr.onCpu 0).key e = fr.key e := by cases fr <;> rfl
  have hup : (fr.onCpu 0).uplink = fr.uplink := by cases fr <;> rfl
  have hbytes : (fr.onCpu 0).bytes = fr.bytes := by cases fr <;> rfl
  have hcpu : (fr.onCpu 0).cpu = 0 := by cases fr <;> rfl
  rw [Frame.posting, Frame.posting, hsel, hkey, hup, hbytes, hcpu]
  cases fr.selection e m with
  | none => rfl
  | some found =>
    simp only [Option.bind_some]
    split_ifs
    · rfl
    · rw [Option.map_map]
      rfl

theorem urrPosting_onCpu (fr : Frame) :
    (fr.onCpu 0).urrPosting e m = (fr.urrPosting e m).map fun x => { x with cell := 0 } := by
  have hsel : (fr.onCpu 0).selection e m = fr.selection e m := by cases fr <;> rfl
  have hup : (fr.onCpu 0).uplink = fr.uplink := by cases fr <;> rfl
  have hbytes : (fr.onCpu 0).bytes = fr.bytes := by cases fr <;> rfl
  have hcpu : (fr.onCpu 0).cpu = 0 := by cases fr <;> rfl
  rw [Frame.urrPosting, Frame.urrPosting, hsel, hup, hbytes, hcpu]
  cases fr.selection e m with
  | none => rfl
  | some found =>
    simp only [Option.bind_some]
    split_ifs <;> rfl

/-- Postings of the same frames are the same postings but for their cells. -/
theorem postings_perm {K M : Type} {frs frs' : List Frame} {f : Frame → Option (Posting K M)}
    (hf : ∀ fr, f (fr.onCpu 0) = (f fr).map fun x => { x with cell := 0 })
    (hperm : (frs.map (Frame.onCpu 0)).Perm (frs'.map (Frame.onCpu 0))) :
    ((frs.filterMap f).map fun x => (x.key, x.amount)).Perm
      ((frs'.filterMap f).map fun x => (x.key, x.amount)) := by
  have hmap : ∀ frs : List Frame, (frs.filterMap f).map (fun x => (x.key, x.amount)) =
      (frs.map (Frame.onCpu 0)).filterMap fun fr => (f fr).map fun x => (x.key, x.amount) := by
    intro frs
    rw [List.map_filterMap, List.filterMap_map]
    refine List.filterMap_congr fun fr _ => ?_
    rw [Function.comp_apply, hf, Option.map_map]
    rfl
  rw [hmap, hmap]
  exact hperm.filterMap _

theorem cell_of_posting {fr : Frame} {x : Posting SessionKey SessionStats}
    (h : fr.posting e m = some x) : x.cell = fr.cpu := by
  obtain ⟨⟨session, sel⟩, -, hsome⟩ := Option.bind_eq_some_iff.mp h
  simp only at hsome
  split_ifs at hsome
  obtain ⟨k, -, rfl⟩ := Option.map_eq_some_iff.mp hsome
  rfl

theorem cell_of_urrPosting {fr : Frame} {x : Posting UrrKey UrrStats}
    (h : fr.urrPosting e m = some x) : x.cell = fr.cpu := by
  obtain ⟨⟨session, sel⟩, -, hsome⟩ := Option.bind_eq_some_iff.mp h
  simp only at hsome
  split_ifs at hsome
  obtain rfl := Option.some.inj hsome
  rfl

theorem cells_of_postings {frs : List Frame} {ncpus : ℕ} (hcpu : ∀ fr ∈ frs, fr.cpu < ncpus) :
    (∀ x ∈ frs.filterMap (Frame.posting e m), x.cell < ncpus) ∧
      ∀ x ∈ frs.filterMap (Frame.urrPosting e m), x.cell < ncpus := by
  constructor
  · intro x hx
    obtain ⟨fr, hfr, hposting⟩ := List.mem_filterMap.mp hx
    rw [cell_of_posting hposting]
    exact hcpu fr hfr
  · intro x hx
    obtain ⟨fr, hfr, hposting⟩ := List.mem_filterMap.mp hx
    rw [cell_of_urrPosting hposting]
    exact hcpu fr hfr

/-- The poller goes by the sums over the CPUs only. -/
theorem poll_perm {ncpus : ℕ} {m m' : Maps}
    (h : (m.statsMap.rows.entries.map fun r => (r.1, total ncpus r.2)).Perm
      (m'.statsMap.rows.entries.map fun r => (r.1, total ncpus r.2)))
    (order order' : IterOrder (Sigma fun _ : SessionKey => PerCpu SessionStats)) :
    (poll e ncpus order m).Perm (poll e ncpus order' m') := by
  have hpoll : ∀ m order, (poll e ncpus order m).Perm
      ((m.statsMap.rows.entries.map fun r => (r.1, total ncpus r.2)).flatMap fun p =>
        absolutes (address e p.1).text p.2) := by
    intro m order
    rw [List.flatMap_map]
    simp only [poll, sumStats_eq]
    exact (order.isPerm _).flatMap_right _
  exact (hpoll m order).trans ((h.flatMap_right _).trans (hpoll m' order').symm)

theorem snapshot_perm {ncpus : ℕ} {m m' : Maps}
    (h : (m.urrMap.rows.entries.map fun r => (r.1, total ncpus r.2)).Perm
      (m'.urrMap.rows.entries.map fun r => (r.1, total ncpus r.2)))
    (order order' : IterOrder (Sigma fun _ : UrrKey => PerCpu UrrStats)) :
    (snapshot ncpus order m).Perm (snapshot ncpus order' m') := by
  have hsnap : ∀ m order, (snapshot ncpus order m).Perm
      ((m.urrMap.rows.entries.map fun r => (r.1, total ncpus r.2)).map fun p =>
        (p.1.key, p.2)) := by
    intro m order
    rw [List.map_map]
    simp only [snapshot, sumPerCpu_eq]
    exact (order.isPerm _).map _
  exact (hsnap m order).trans ((h.map _).trans (hsnap m' order').symm)

/-- **Steering and order make no difference.**  Two bursts have the same frames, in any order and on
any CPUs, and there is room for their counters.  Then each frame has the same outcome in both, and
afterwards the poller exports the same and the usage reporter takes the same snapshot. -/
theorem steering_irrelevant (e : Endian) (ncpus : ℕ) (m : Maps) (frs frs' : List Frame)
    (hperm : (frs.map (Frame.onCpu 0)).Perm (frs'.map (Frame.onCpu 0)))
    (hcpu : ∀ fr ∈ frs ++ frs', fr.cpu < ncpus)
    (hstats : Room m.statsMap (frs.filterMap (Frame.posting e m)))
    (hurrs : Room m.urrMap (frs.filterMap (Frame.urrPosting e m)))
    (order order' : IterOrder (Sigma fun _ : SessionKey => PerCpu SessionStats))
    (urrOrder urrOrder' : IterOrder (Sigma fun _ : UrrKey => PerCpu UrrStats)) :
    (outcomes e m frs).Perm (outcomes e m frs') ∧
      (poll e ncpus order (burst e m frs)).Perm (poll e ncpus order' (burst e m frs')) ∧
      (snapshot ncpus urrOrder (burst e m frs)).Perm
        (snapshot ncpus urrOrder' (burst e m frs')) := by
  have hleft := fun fr hfr => hcpu fr (List.mem_append_left _ hfr)
  have hright := fun fr hfr => hcpu fr (List.mem_append_right _ hfr)
  refine ⟨?_, ?_, ?_⟩
  · rw [outcomes_eq, outcomes_eq]
    have hmap : ∀ frs : List Frame, frs.map (fun fr => (fr.onCpu 0, fr.verdict e m)) =
        (frs.map (Frame.onCpu 0)).map fun fr => (fr, fr.verdict e m) := by
      intro frs
      rw [List.map_map]
      exact List.map_congr_left fun fr _ => congrArg (Prod.mk _) (verdict_onCpu fr).symm
    rw [hmap, hmap]
    exact hperm.map _
  · rw [burst_eq, burst_eq]
    exact poll_perm (totals_perm _ (postings_perm posting_onCpu hperm) hstats
      (cells_of_postings hleft).1 (cells_of_postings hright).1) order order'
  · rw [burst_eq, burst_eq]
    exact snapshot_perm (totals_perm _ (postings_perm urrPosting_onCpu hperm) hurrs
      (cells_of_postings hleft).2 (cells_of_postings hright).2) urrOrder urrOrder'

end Burst

open SmfSim in
/-- Three frames of one UE, on one CPU, and in another order on two. -/
theorem steering_irrelevant_twoCpus :
    let m := (Audit.after host boot [setup smfA 1, establish smfA 1 ue1]).maps
    let up : Frame := .n3 machine (uplinkFrame ue1)
    let down : Frame := .n6 machine (downlinkFrame ue1)
    (poll .little 2 .asStored (burst .little m [up, down, up])).Perm
      (poll .little 2 .asStored (burst .little m [down.onCpu 1, up.onCpu 1, up])) := by
  intro m up down
  refine (steering_irrelevant .little 2 m [up, down, up] [down.onCpu 1, up.onCpu 1, up]
    (.swap _ _ _) ?_ (by decide +kernel) (by decide +kernel) .asStored .asStored .asStored
    .asStored).2.1
  decide

/-! ### Runs of the system -/

namespace Audit

/-- The posting of an event in STATS_MAP. -/
def posting (host : Host) (a : Audit) : Event → Option (Posting SessionKey SessionStats)
  | .uplink x f => (Frame.n3 x f).posting host.endian a.maps
  | .downlink x f => (Frame.n6 x f).posting host.endian a.maps
  | _ => none

/-- The CPUs the programs run on are those the poller sums up. -/
def OnKnownCpu (host : Host) : Event → Prop
  | .uplink x _ | .downlink x _ => x.cpu < host.ncpus
  | _ => True

instance (host : Host) : (ev : Event) → Decidable (OnKnownCpu host ev)
  | .uplink x _ | .downlink x _ => inferInstanceAs (Decidable (x.cpu < host.ncpus))
  | .datagram _ _ _ _ | .snapshot _ | .report _ => isTrue trivial

section

variable {host : Host} {a : Audit} {ev : Event}

/-- **Only frames write STATS_MAP.** -/
theorem step_statsMap : (a.step host ev).maps.statsMap =
    run (fun t x => Posting.add t x) a.maps.statsMap (a.posting host ev).toList := by
  cases ev with
  | uplink x f => exact congrArg Maps.statsMap (Frame.process_counts host.endian a.maps (.n3 x f))
  | downlink x f => exact congrArg Maps.statsMap (Frame.process_counts host.endian a.maps (.n6 x f))
  | snapshot order =>
    simp only [Audit.step, System.step, System.handle]
    split <;> rfl
  | report clock =>
    simp only [Audit.step, System.step, System.handle]
    split <;> rfl
  | datagram env now data src =>
    have hw := step_writes host a env now data src
    generalize a.step host (.datagram env now data src) = a' at hw ⊢
    show a'.maps.statsMap = a.maps.statsMap
    cases hw with
    | nothing hadm hmod hdel hm hc hs => rw [hm]
    | rules req assoc ueIp gnbInfo w' hest hue hgnb hmod hdel hinst hm hc hs =>
      obtain ⟨-, -, -, hstats⟩ := install_srv (installSteps host.endian env a.srv.n3Addr
        a.srv.nextSeid a.srv.nextTeid ueIp gnbInfo req) (allocated (touched now a.world))
      rw [hinst] at hstats
      rw [hm]
      exact hstats
    | modified seid session req hiss hmod hdel hlive hw =>
      have hrest : (modifySession host.endian seid session.ueIp req
          (touched now a.world)).maps.statsMap = a.maps.statsMap := by
        rw [(modifySession_rest req).2]
        rfl
      show a'.world.maps.statsMap = _
      rw [hw, hrest]
    | deleted seid session assoc hiss hmod hdel hlive hm hc hs =>
      rw [hm]
      rfl

theorem posting_cell {x : Posting SessionKey SessionStats} (hcpu : OnKnownCpu host ev)
    (h : a.posting host ev = some x) : x.cell < host.ncpus := by
  cases ev with
  | uplink y f =>
    rw [cell_of_posting h]
    exact hcpu
  | downlink y f =>
    rw [cell_of_posting h]
    exact hcpu
  | datagram env now data src => cases h
  | snapshot order => cases h
  | report clock => cases h

end

section

variable (host : Host) (b : Boot)

/-- The postings of a run in STATS_MAP: the traffic counted. -/
def traffic (evs : List Event) : List (Posting SessionKey SessionStats) :=
  orders (step host) (posting host) (init b) evs

theorem statsMap_run (a : Audit) (evs : List Event) :
    (run (step host) a evs).maps.statsMap =
      run (fun t x => Posting.add t x) a.maps.statsMap (orders (step host) (posting host) a evs) :=
  run_refines (fun a : Audit => a.maps.statsMap) (I := fun _ => True) (fun _ _ _ _ => trivial)
    (fun _ _ _ _ => step_statsMap) trivial (meets_true evs a)

variable {host b}

theorem cell_of_orders {a : Audit} {evs : List Event} (hcpu : ∀ ev ∈ evs, OnKnownCpu host ev) :
    ∀ x ∈ orders (step host) (posting host) a evs, x.cell < host.ncpus := by
  induction evs generalizing a with
  | nil =>
    intro x hx
    cases hx
  | cons ev evs ih =>
    intro x hx
    rcases List.mem_append.mp hx with hx | hx
    · exact posting_cell (hcpu ev (List.mem_cons_self ..)) (Option.mem_toList.mp hx)
    · exact ih (fun ev' hev => hcpu ev' (List.mem_cons_of_mem _ hev)) x hx

/-- The row of a UE shows what was counted for it. -/
theorem total_traffic {evs : List Event} (hcpu : ∀ ev ∈ evs, OnKnownCpu host ev) {k : SessionKey}
    {row : PerCpu SessionStats} (hrow : (after host b evs).maps.statsMap.lookup k = some row) :
    sumStats host.ncpus row = amountOf (traffic host b evs) k := by
  rw [after, statsMap_run] at hrow
  have hzero : total host.ncpus (0 : PerCpu SessionStats) = 0 := Finset.sum_const_zero
  have htotal := (tallied_run _ _).total_eq (cell_of_orders hcpu) hrow
  rw [show (init b).maps.statsMap.lookup k = none from rfl, Option.getD_none, hzero,
    zero_add] at htotal
  rw [sumStats_eq]
  exact htotal

/-- All that the postings count. -/
def load (xs : List (Posting SessionKey SessionStats)) : ℕ := (xs.map (·.amount.size)).sum

theorem size_amountOf_le (xs : List (Posting SessionKey SessionStats)) (k : SessionKey) :
    (amountOf xs k).size ≤ load xs := by
  induction xs with
  | nil => exact Nat.le_refl 0
  | cons x xs ih =>
    have hhead : (if x.key = k then x.amount else 0).size ≤ x.amount.size := by
      split_ifs
      · exact Nat.le_refl _
      · exact Nat.zero_le _
    exact (SessionStats.size_add_le _ _).trans (Nat.add_le_add hhead ih)

/-- **What is exported is what was counted.**  Each counter shows the traffic of a UE that had some,
and is set once; and a UE that had traffic is shown, unless the 1024 rows are taken. -/
theorem polled_exact (host : Host) (b : Boot) (evs : List Event)
    (hcpu : ∀ ev ∈ evs, OnKnownCpu host ev)
    (order : IterOrder (Sigma fun _ : SessionKey => PerCpu SessionStats)) :
    (∀ x ∈ poll host.endian host.ncpus order (after host b evs).maps, ∃ ip : Ipv4Addr,
        (∃ y ∈ traffic host b evs, y.key = .ofIp host.endian ip) ∧
          x ∈ absolutes ip.text (amountOf (traffic host b evs) (.ofIp host.endian ip))) ∧
      ((poll host.endian host.ncpus order (after host b evs).maps).map
        fun x => (x.metric, x.ueIp)).Nodup ∧
      ∀ ip : Ipv4Addr, (∃ y ∈ traffic host b evs, y.key = .ofIp host.endian ip) →
        absolutes ip.text (amountOf (traffic host b evs) (.ofIp host.endian ip)) ⊆
            poll host.endian host.ncpus order (after host b evs).maps ∨
          1024 ≤ (after host b evs).maps.statsMap.rows.keys.length := by
  have htally : Tallied (init b).maps.statsMap (traffic host b evs)
      (after host b evs).maps.statsMap := by
    rw [after, statsMap_run]
    exact tallied_run _ _
  refine ⟨fun x hx => ?_, poll_nodup .., fun ip hip => ?_⟩
  · obtain ⟨k, row, hrow, hx⟩ := mem_poll.mp hx
    rw [total_traffic hcpu hrow] at hx
    refine ⟨address host.endian k, ?_, ?_⟩
    · rw [ofIp_address]
      exact (htally.keys k (by rw [hrow]; rfl)).resolve_left Bool.false_ne_true
    · rwa [ofIp_address]
  · obtain ⟨y, hy, hkey⟩ := hip
    cases hrow : (after host b evs).maps.statsMap.lookup (.ofIp host.endian ip) with
    | some row =>
      refine .inl fun x hx => mem_poll.mpr ⟨_, row, hrow, ?_⟩
      rwa [total_traffic hcpu hrow, address_ofIp]
    | none => exact .inr ((htally.missing _ hrow).2.resolve_left fun hxs => hxs y hy hkey)

/-- **What is exported only grows.**  A counter that was set is set again, to as much or more, as
long as fewer than 2^64 octets and packets have been counted. -/
theorem polled_grows (host : Host) (b : Boot) (pre post : List Event)
    (hcpu : ∀ ev ∈ pre ++ post, OnKnownCpu host ev)
    (hload : load (traffic host b (pre ++ post)) < 2 ^ 64)
    (order order' : IterOrder (Sigma fun _ : SessionKey => PerCpu SessionStats)) :
    ∀ x ∈ poll host.endian host.ncpus order (after host b pre).maps,
      ∃ y ∈ poll host.endian host.ncpus order' (after host b (pre ++ post)).maps,
        y.metric = x.metric ∧ y.ueIp = x.ueIp ∧ x.value ≤ y.value := by
  intro x hx
  obtain ⟨k, row, hrow, hx⟩ := mem_poll.mp hx
  rw [total_traffic (fun ev hev => hcpu ev (List.mem_append_left _ hev)) hrow] at hx
  have htally : Tallied (after host b pre).maps.statsMap
      (orders (step host) (posting host) (after host b pre) post)
      (after host b (pre ++ post)).maps.statsMap := by
    have hafter : after host b (pre ++ post) = run (step host) (after host b pre) post :=
      run_append _ _ _
    rw [hafter, statsMap_run host (after host b pre) post]
    exact tallied_run _ _
  have hsplit : traffic host b (pre ++ post) = traffic host b pre ++
      orders (step host) (posting host) (after host b pre) post := orders_append _ _ _
  cases hlater : (after host b (pre ++ post)).maps.statsMap.lookup k with
  | none =>
    rw [(htally.missing k hlater).1] at hrow
    cases hrow
  | some row' =>
    have hgrow := SessionStats.le_add (s := amountOf (traffic host b pre) k)
      (t := amountOf (orders (step host) (posting host) (after host b pre) post) k) (by
        rw [hsplit, load, List.map_append, List.sum_append] at hload
        exact (Nat.add_le_add (size_amountOf_le _ k) (size_amountOf_le _ k)).trans_lt hload)
    have hpoll : ∀ y ∈ absolutes (address host.endian k).text
        (amountOf (traffic host b (pre ++ post)) k),
        y ∈ poll host.endian host.ncpus order' (after host b (pre ++ post)).maps := fun y hy =>
      mem_poll.mpr ⟨k, row', hlater, by rwa [total_traffic hcpu hlater]⟩
    rw [hsplit, amountOf_append] at hpoll
    obtain ⟨hrx, htx, hrxp, htxp⟩ := hgrow
    simp only [absolutes, List.forall_mem_cons] at hpoll
    obtain ⟨hp₁, hp₂, hp₃, hp₄, -⟩ := hpoll
    simp only [absolutes, List.mem_cons, List.not_mem_nil, or_false] at hx
    rcases hx with rfl | rfl | rfl | rfl
    · exact ⟨_, hp₁, rfl, rfl, hrx⟩
    · exact ⟨_, hp₂, rfl, rfl, htx⟩
    · exact ⟨_, hp₃, rfl, rfl, hrxp⟩
    · exact ⟨_, hp₄, rfl, rfl, htxp⟩

end

section Sim

open SmfSim

def twoCpus : Host := { host with ncpus := 2 }

/-- A session, and traffic of its UE on two CPUs. -/
def measured : List Event :=
  [setup smfA 1, establish smfA 1 ue1, .uplink machine (uplinkFrame ue1),
    .downlink { machine with cpu := 1 } (downlinkFrame ue1)]

theorem polled_exact_measured :
    (poll twoCpus.endian twoCpus.ncpus .asStored (after twoCpus boot measured).maps).length = 4 ∧
      ∀ x ∈ poll twoCpus.endian twoCpus.ncpus .asStored (after twoCpus boot measured).maps,
        ∃ ip : Ipv4Addr, (∃ y ∈ traffic twoCpus boot measured, y.key = .ofIp twoCpus.endian ip) ∧
          x ∈ absolutes ip.text
            (amountOf (traffic twoCpus boot measured) (.ofIp twoCpus.endian ip)) :=
  ⟨by decide +kernel, (polled_exact twoCpus boot measured (by decide) .asStored).1⟩

theorem polled_grows_measured :
    (poll twoCpus.endian twoCpus.ncpus .asStored (after twoCpus boot measured).maps).length = 4 ∧
      ∀ x ∈ poll twoCpus.endian twoCpus.ncpus .asStored (after twoCpus boot measured).maps,
        ∃ y ∈ poll twoCpus.endian twoCpus.ncpus .asStored
            (after twoCpus boot (measured ++ measured)).maps,
          y.metric = x.metric ∧ y.ueIp = x.ueIp ∧ x.value ≤ y.value :=
  ⟨by decide +kernel,
    polled_grows twoCpus boot measured measured (by decide) (by decide +kernel) .asStored .asStored⟩

end Sim

end Audit

end UpfEdge
