import Mathlib.Data.UInt
import UpfEdge.SmfSim
import UpfEdge.Xdp.Verdict

/-!
# Volume accounting

What the URR counters should show of a sequence of frames, and what they do show.  A redirected
frame whose selected PDR carries a URR is a `Charge`; `Accounted` says that the counters have grown
by the charges of their URR, uplink and downlink apart, and that nothing else in URR_MAP has
changed.

The uplink program counts, but with the downlink flag; the downlink program selects a URR and never
counts.  So the counters are right after every frame of a sequence exactly when the sequence has
nothing to count (`always_accounted_iff`).
-/

namespace UpfEdge

open Lib Server Xdp

namespace Xdp.Frame

/-- The session row a frame finds, and what it selects there. -/
def selection (e : Endian) (m : Maps) : Frame → Option (SessionInfo × Option (FarValue × UInt32))
  | .n3 _ f => (uplinkMatch e f m).map fun (p, session) =>
      (session, selected m session ifaceAccess p.tuple)
  | .n6 _ f => (downlinkMatch e f m).map fun (t, session) =>
      (session, selected m session ifaceCore t)

def cpu : Frame → ℕ
  | .n3 x _ | .n6 x _ => x.cpu

def uplink : Frame → Bool
  | .n3 .. => true
  | .n6 .. => false

def bytes : Frame → Bytes
  | .n3 _ f | .n6 _ f => f

end Xdp.Frame

/-! ### What should be counted -/

/-- One frame to be charged to a URR. -/
structure Charge where
  cpu : ℕ
  seid : UInt64
  urrId : UInt32
  uplink : Bool
  len : UInt64

/-- A frame is charged when it is redirected and a PDR was selected for it. -/
def Xdp.Frame.charge (e : Endian) (m : Maps) (fr : Frame) : Option Charge :=
  if (fr.process e m).1.redirected then
    (fr.selection e m).bind fun (session, sel) => sel.map fun (_, urrId) =>
      { cpu := fr.cpu, seid := session.seid, urrId, uplink := fr.uplink, len := pktLen fr.bytes }
  else none

/-- The maps, and the charges of the frames processed so far. -/
structure Meter where
  maps : Maps
  charges : List Charge

def Meter.step (e : Endian) (s : Meter) (fr : Frame) : Meter where
  maps := (fr.process e s.maps).2
  charges := (fr.charge e s.maps).toList ++ s.charges

/-- The charges of one direction of a URR on a CPU. -/
def chargesOf (cs : List Charge) (cpu : ℕ) (seid : UInt64) (urrId : UInt32) (uplink : Bool) :
    List Charge :=
  cs.filter fun c => c.cpu = cpu ∧ c.seid = seid ∧ c.urrId = urrId ∧ c.uplink = uplink

/-- The number of packets charged. -/
def packets (cs : List Charge) (cpu : ℕ) (seid : UInt64) (urrId : UInt32) (uplink : Bool) :
    UInt64 :=
  UInt64.ofNat (chargesOf cs cpu seid urrId uplink).length

/-- The number of bytes charged. -/
def volume (cs : List Charge) (cpu : ℕ) (seid : UInt64) (urrId : UInt32) (uplink : Bool) : UInt64 :=
  ((chargesOf cs cpu seid urrId uplink).map (·.len)).sum

/-- The counters of a URR on a CPU; a URR without a row has counted nothing. -/
def urrStats (m : Maps) (cpu : ℕ) (seid : UInt64) (urrId : UInt32) : UrrStats :=
  ((m.urrMap.lookup (.new seid urrId)).map (· cpu)).getD {}

/-- The counters have grown by what was charged, and no other row has changed. -/
structure Accounted (m₀ : Maps) (s : Meter) : Prop where
  ulBytes : ∀ cpu seid urrId, urrId ≠ 0 → (urrStats s.maps cpu seid urrId).ulBytes =
    (urrStats m₀ cpu seid urrId).ulBytes + volume s.charges cpu seid urrId true
  ulPackets : ∀ cpu seid urrId, urrId ≠ 0 → (urrStats s.maps cpu seid urrId).ulPackets =
    (urrStats m₀ cpu seid urrId).ulPackets + packets s.charges cpu seid urrId true
  dlBytes : ∀ cpu seid urrId, urrId ≠ 0 → (urrStats s.maps cpu seid urrId).dlBytes =
    (urrStats m₀ cpu seid urrId).dlBytes + volume s.charges cpu seid urrId false
  dlPackets : ∀ cpu seid urrId, urrId ≠ 0 → (urrStats s.maps cpu seid urrId).dlPackets =
    (urrStats m₀ cpu seid urrId).dlPackets + packets s.charges cpu seid urrId false
  others : ∀ k : UrrKey, (∀ c ∈ s.charges, c.urrId ≠ 0 → k ≠ .new c.seid c.urrId) →
    s.maps.urrMap.lookup k = m₀.urrMap.lookup k

/-! ### When nothing is counted -/

/-- URR_MAP has no row for the key and no room for one. -/
def NoRoom (m : Maps) (k : UrrKey) : Prop :=
  m.urrMap.lookup k = none ∧ 4096 ≤ m.urrMap.rows.keys.length

/-- There is nothing to count for a frame: it finds no session, is dropped, cannot be sent on, or
its selected PDR carries no URR.  An N3 frame that cannot be sent on is counted all the same, so
there must be no row to count it in. -/
def Xdp.Frame.Free (e : Endian) (m : Maps) : Frame → Prop
  | .n3 x f => ∀ p session, uplinkMatch e f m = some (p, session) →
      let sel := selected m session ifaceAccess p.tuple
      shouldDrop sel ∨ matchedUrrId sel = 0 ∨
        (canStrip x f p.outerTotal = false ∧ NoRoom m (.new session.seid (matchedUrrId sel)))
  | .n6 x f => ∀ t session, downlinkMatch e f m = some (t, session) →
      let sel := selected m session ifaceCore t
      shouldDrop sel ∨ matchedUrrId sel = 0 ∨ downlinkTunnel m session = none ∨ canGrow x f = false

section Step

variable {e : Endian} {x : XdpEnv} {f : Bytes} {m m₀ : Maps} {s : Meter} {p : UplinkPacket}
  {t : FiveTuple} {session : SessionInfo} {fr : Frame}

/-! ### What the programs count -/

theorem countRow_eq_self {cap cpu : ℕ} {K V : Type} [DecidableEq K] [Inhabited V] {k : K}
    {g : V → V} {tbl : BoundedTable cap K (PerCpu V)} (hnone : tbl.lookup k = none)
    (hfull : cap ≤ tbl.rows.keys.length) : countRow cpu k g tbl = tbl := by
  unfold countRow
  rw [hnone]
  have hins : tbl.insert k (onCpu cpu g fun _ => default) = none := by
    unfold BoundedTable.insert
    refine dif_neg ?_
    rintro (hsome | hlt)
    · change (tbl.lookup k).isSome at hsome
      rw [hnone] at hsome
      cases hsome
    · omega
  rw [hins]
  rfl

/-- Where there is a row or room for one, counting changes this CPU's value. -/
theorem countRow_self {cap cpu : ℕ} {K V : Type} [DecidableEq K] [Inhabited V] {k : K}
    {g : V → V} {tbl : BoundedTable cap K (PerCpu V)}
    (h : ¬ (tbl.lookup k = none ∧ cap ≤ tbl.rows.keys.length)) :
    (((countRow cpu k g tbl).lookup k).map (· cpu)).getD default =
      g (((tbl.lookup k).map (· cpu)).getD default) := by
  unfold countRow
  cases hk : tbl.lookup k with
  | some row =>
    simp only
    rw [BoundedTable.lookup_modify, if_pos rfl, hk]
    simp [onCpu]
  | none =>
    have hlt : tbl.rows.keys.length < cap := by
      by_contra hge
      exact h ⟨hk, by omega⟩
    have hins : (tbl.insert k (onCpu cpu g fun _ => default)).isSome := by
      unfold BoundedTable.insert
      rw [dif_pos (.inr hlt)]
      rfl
    obtain ⟨tbl', hins⟩ := Option.isSome_iff_exists.mp hins
    simp only [hins, Option.getD_some]
    rw [BoundedTable.lookup_of_insert hins, if_pos rfl]
    simp [onCpu]

/-- An N3 frame of a session, in terms of its selection. -/
theorem tryN3Uplink_match (hm : uplinkMatch e f m = some (p, session)) :
    (tryN3Uplink e x f m).1.redirected =
        (!shouldDrop (selected m session ifaceAccess p.tuple) && canStrip x f p.outerTotal) ∧
      (tryN3Uplink e x f m).2.urrMap =
        if shouldDrop (selected m session ifaceAccess p.tuple) then m.urrMap
        else (urrCount x.cpu session.seid (matchedUrrId (selected m session ifaceAccess p.tuple))
          (pktLen f) false m).urrMap := by
  rw [tryN3Uplink_eq, hm]
  simp only [forwardUplink]
  split_ifs with hdrop
  · exact ⟨by rw [hdrop]; rfl, rfl⟩
  · refine ⟨?_, ?_⟩
    · rw [decapsulate_redirected (uplinkMatch_row hm).1, Bool.eq_false_iff.mpr hdrop]
      rfl
    · simp only [urrCount]
      split_ifs <;> rfl

/-- An N6 frame of a session, in terms of its selection. -/
theorem tryN6Downlink_match (hm : downlinkMatch e f m = some (t, session)) :
    (tryN6Downlink e x f m).1.redirected =
      (!shouldDrop (selected m session ifaceCore t) && (downlinkTunnel m session).isSome &&
        canGrow x f) := by
  rw [tryN6Downlink_eq, hm]
  simp only [forwardDownlink]
  split_ifs with hdrop
  · rw [hdrop]
    rfl
  · have htunnel : downlinkTunnel (statsTx x.cpu ⟨t.dstIp⟩ (pktLen f) m) session =
        downlinkTunnel m session := rfl
    rw [htunnel, Bool.eq_false_iff.mpr hdrop]
    cases downlinkTunnel m session with
    | none => rfl
    | some tunnel => exact encapsulate_redirected (downlinkMatch_row hm).1 x _ session tunnel

/-! ### One frame -/

theorem charge_eq_none (fr : Frame) (h : (fr.process e m).1.redirected = false) :
    fr.charge e m = none :=
  if_neg (by rw [h]; exact Bool.false_ne_true)

theorem urrId_of_charge {sel : Option (FarValue × UInt32)} {c : Charge}
    (hsel : fr.selection e m = some (session, sel)) (hc : fr.charge e m = some c) :
    c.urrId = matchedUrrId sel := by
  unfold Xdp.Frame.charge at hc
  split_ifs at hc
  rw [hsel, Option.bind_some] at hc
  obtain ⟨⟨far, urrId⟩, rfl, rfl⟩ := Option.map_eq_some_iff.mp hc
  rfl

/-- A redirected frame with a URR is charged to it. -/
theorem charge_of_redirected {sel : Option (FarValue × UInt32)}
    (hr : (fr.process e m).1.redirected) (hsel : fr.selection e m = some (session, sel))
    (hne : matchedUrrId sel ≠ 0) : fr.charge e m = some
      { cpu := fr.cpu, seid := session.seid, urrId := matchedUrrId sel, uplink := fr.uplink
        len := pktLen fr.bytes } := by
  cases sel with
  | none => exact absurd rfl hne
  | some su =>
    unfold Xdp.Frame.charge
    rw [if_pos hr, hsel]
    rfl

/-- A frame with nothing to count: no counter moves, and no URR is charged. -/
theorem Xdp.Frame.Free.uncounted (h : fr.Free e m) :
    (fr.process e m).2.urrMap = m.urrMap ∧ ∀ c ∈ fr.charge e m, c.urrId = 0 := by
  cases fr with
  | n3 x f =>
    cases hm : uplinkMatch e f m with
    | none =>
      have hproc : tryN3Uplink e x f m = (⟨.pass, f⟩, m) := by rw [tryN3Uplink_eq, hm]
      refine ⟨congrArg (·.2.urrMap) hproc, fun c hc => ?_⟩
      rw [charge_eq_none (.n3 x f) (congrArg (·.1.redirected) hproc)] at hc
      cases hc
    | some ps =>
      obtain ⟨p, session⟩ := ps
      obtain ⟨hred, hurr⟩ := tryN3Uplink_match (x := x) hm
      have hsel : (Frame.n3 x f).selection e m =
          some (session, selected m session ifaceAccess p.tuple) := by
        simp only [selection, hm, Option.map_some]
      rcases h p session hm with hdrop | hzero | ⟨hstrip, hnone, hfull⟩
      · rw [if_pos hdrop] at hurr
        rw [hdrop] at hred
        refine ⟨hurr, fun c hc => ?_⟩
        rw [charge_eq_none (.n3 x f) hred] at hc
        cases hc
      · refine ⟨hurr.trans ?_, fun c hc => (urrId_of_charge hsel hc).trans hzero⟩
        rw [hzero]
        exact ite_self _
      · rw [hstrip, Bool.and_false] at hred
        refine ⟨hurr.trans ?_, fun c hc => ?_⟩
        · simp only [urrCount]
          split_ifs
          · rfl
          · rfl
          · exact countRow_eq_self hnone hfull
        · rw [charge_eq_none (.n3 x f) hred] at hc
          cases hc
  | n6 x f =>
    obtain ⟨stats, hstats⟩ := tryN6Downlink_maps e x f m
    refine ⟨congrArg (·.urrMap) hstats, fun c hc => ?_⟩
    cases hm : downlinkMatch e f m with
    | none =>
      have hproc : tryN6Downlink e x f m = (⟨.pass, f⟩, m) := by rw [tryN6Downlink_eq, hm]
      rw [charge_eq_none (.n6 x f) (congrArg (·.1.redirected) hproc)] at hc
      cases hc
    | some ts =>
      obtain ⟨t, session⟩ := ts
      have hred := tryN6Downlink_match (x := x) hm
      have hsel : (Frame.n6 x f).selection e m =
          some (session, selected m session ifaceCore t) := by
        simp only [selection, hm, Option.map_some]
      rcases h t session hm with hdrop | hzero | htunnel | hgrow
      · rw [hdrop] at hred
        rw [charge_eq_none (.n6 x f) hred] at hc
        cases hc
      · exact (urrId_of_charge hsel hc).trans hzero
      · rw [htunnel, Option.isSome_none, Bool.and_false, Bool.false_and] at hred
        rw [charge_eq_none (.n6 x f) hred] at hc
        cases hc
      · rw [hgrow, Bool.and_false] at hred
        rw [charge_eq_none (.n6 x f) hred] at hc
        cases hc

/-! ### Charges -/

theorem chargesOf_append_ne {cs cs' : List Charge} {cpu : ℕ} {seid : UInt64} {urrId : UInt32}
    {up : Bool} (h : ∀ c ∈ cs, c.urrId = urrId → c.uplink ≠ up) :
    chargesOf (cs ++ cs') cpu seid urrId up = chargesOf cs' cpu seid urrId up := by
  unfold chargesOf
  rw [List.filter_append, List.filter_eq_nil_iff.mpr, List.nil_append]
  intro c hc hp
  obtain ⟨-, -, hid, hup⟩ := of_decide_eq_true hp
  exact h c hc hid hup

theorem packets_cons_self (c : Charge) (cs : List Charge) :
    packets (c :: cs) c.cpu c.seid c.urrId c.uplink =
      packets cs c.cpu c.seid c.urrId c.uplink + 1 := by
  unfold packets chargesOf
  rw [List.filter_cons_of_pos (by simp), List.length_cons, UInt64.ofNat_add]
  rfl

/-- Frames that move no counter and charge no URR keep the account. -/
theorem Accounted.step (h : Accounted m₀ s) (hfree : fr.Free e s.maps) :
    Accounted m₀ (s.step e fr) := by
  obtain ⟨hurr, hzero⟩ := hfree.uncounted
  have hstats : ∀ cpu seid urrId,
      urrStats (s.step e fr).maps cpu seid urrId = urrStats s.maps cpu seid urrId := by
    intro cpu seid urrId
    simp only [urrStats, Meter.step, hurr]
  have hcharges : ∀ cpu seid urrId up, urrId ≠ 0 →
      chargesOf (s.step e fr).charges cpu seid urrId up =
        chargesOf s.charges cpu seid urrId up := by
    intro cpu seid urrId up hne
    refine chargesOf_append_ne fun c hc hid => ?_
    rw [← hid] at hne
    exact absurd (hzero c (Option.mem_toList.mp hc)) hne
  constructor
  · intro cpu seid urrId hne
    rw [hstats, h.ulBytes cpu seid urrId hne, volume, volume, hcharges _ _ _ _ hne]
  · intro cpu seid urrId hne
    rw [hstats, h.ulPackets cpu seid urrId hne, packets, packets, hcharges _ _ _ _ hne]
  · intro cpu seid urrId hne
    rw [hstats, h.dlBytes cpu seid urrId hne, volume, volume, hcharges _ _ _ _ hne]
  · intro cpu seid urrId hne
    rw [hstats, h.dlPackets cpu seid urrId hne, packets, packets, hcharges _ _ _ _ hne]
  · intro k hk
    refine (congrArg (BoundedTable.lookup · k) hurr).trans (h.others k fun c hc => hk c ?_)
    exact List.mem_append_right _ hc

/-- A charge without a counter that moves breaks the account. -/
theorem Accounted.not_charged {c : Charge} (h : Accounted m₀ s) (h' : Accounted m₀ (s.step e fr))
    (hc : fr.charge e s.maps = some c) (hne : c.urrId ≠ 0)
    (hurr : (fr.process e s.maps).2.urrMap = s.maps.urrMap) : False := by
  have hstats : urrStats (s.step e fr).maps c.cpu c.seid c.urrId =
      urrStats s.maps c.cpu c.seid c.urrId := by
    simp only [urrStats, Meter.step, hurr]
  have hcharges : (s.step e fr).charges = c :: s.charges := by
    simp only [Meter.step, hc, Option.toList_some, List.singleton_append]
  have hadd : ∀ n : UInt64, n ≠ n + 1 := fun n heq => absurd (UInt64.left_eq_add.mp heq) (by decide)
  have hcons := packets_cons_self c s.charges
  cases hup : c.uplink with
  | true =>
    have hafter := h'.ulPackets c.cpu c.seid c.urrId hne
    rw [hup] at hcons
    rw [hstats, hcharges, hcons, h.ulPackets c.cpu c.seid c.urrId hne, ← UInt64.add_assoc] at hafter
    exact hadd _ hafter
  | false =>
    have hafter := h'.dlPackets c.cpu c.seid c.urrId hne
    rw [hup] at hcons
    rw [hstats, hcharges, hcons, h.dlPackets c.cpu c.seid c.urrId hne, ← UInt64.add_assoc] at hafter
    exact hadd _ hafter

/-- **A frame that keeps the account has nothing to count.** -/
theorem Accounted.free (h : Accounted m₀ s) (h' : Accounted m₀ (s.step e fr)) :
    fr.Free e s.maps := by
  cases fr with
  | n3 x f =>
    intro p session hm sel
    obtain ⟨hred, hurr⟩ := tryN3Uplink_match (x := x) hm
    have hsel : (Frame.n3 x f).selection e s.maps = some (session, sel) := by
      simp only [Frame.selection, hm, Option.map_some, sel]
    by_contra hnot
    obtain ⟨hdrop, hne, hroom⟩ : shouldDrop sel = false ∧ matchedUrrId sel ≠ 0 ∧
        ¬ (canStrip x f p.outerTotal = false ∧
          NoRoom s.maps (.new session.seid (matchedUrrId sel))) := by
      simpa [not_or] using hnot
    change (tryN3Uplink e x f s.maps).1.redirected = (!shouldDrop sel && _) at hred
    change (tryN3Uplink e x f s.maps).2.urrMap = if shouldDrop sel = true then _ else
      (urrCount x.cpu session.seid (matchedUrrId sel) (pktLen f) false s.maps).urrMap at hurr
    rw [hdrop, if_neg Bool.false_ne_true, urrCount, if_neg hne] at hurr
    rw [hdrop, Bool.not_false, Bool.true_and] at hred
    by_cases hno : NoRoom s.maps (.new session.seid (matchedUrrId sel))
    · -- the frame is sent on and counted nowhere
      have hstrip : canStrip x f p.outerTotal = true := by
        rw [← Bool.not_eq_false]
        exact fun hs => hroom ⟨hs, hno⟩
      rw [hstrip] at hred
      exact h.not_charged h' (charge_of_redirected hred hsel hne) hne
        (hurr.trans (countRow_eq_self hno.1 hno.2))
    · -- the frame is counted, as downlink
      have hcount : (urrStats (s.step e (.n3 x f)).maps x.cpu session.seid (matchedUrrId sel)) =
          UrrStats.count false (pktLen f)
            (urrStats s.maps x.cpu session.seid (matchedUrrId sel)) := by
        change (((tryN3Uplink e x f s.maps).2.urrMap.lookup _).map _).getD _ = _
        rw [hurr]
        exact countRow_self hno
      have hcharges : chargesOf (s.step e (.n3 x f)).charges x.cpu session.seid (matchedUrrId sel)
          false = chargesOf s.charges x.cpu session.seid (matchedUrrId sel) false := by
        refine chargesOf_append_ne fun c hc _ => ?_
        obtain ⟨-, hc⟩ := Option.ite_none_right_eq_some.mp (Option.mem_toList.mp hc)
        rw [hsel, Option.bind_some] at hc
        obtain ⟨_, -, rfl⟩ := Option.map_eq_some_iff.mp hc
        exact Bool.noConfusion
      have hafter := h'.dlPackets x.cpu session.seid _ hne
      rw [hcount, packets, hcharges, ← packets, ← h.dlPackets x.cpu session.seid _ hne] at hafter
      exact absurd (UInt64.add_eq_left.mp hafter) (by decide)
  | n6 x f =>
    intro t session hm sel
    have hred := tryN6Downlink_match (x := x) hm
    have hsel : (Frame.n6 x f).selection e s.maps = some (session, sel) := by
      simp only [Frame.selection, hm, Option.map_some, sel]
    obtain ⟨stats, hstats⟩ := tryN6Downlink_maps e x f s.maps
    by_contra hnot
    obtain ⟨hdrop, hne, htunnel, hgrow⟩ : shouldDrop sel = false ∧ matchedUrrId sel ≠ 0 ∧
        downlinkTunnel s.maps session ≠ none ∧ canGrow x f = true := by
      simpa [not_or] using hnot
    change (tryN6Downlink e x f s.maps).1.redirected = (!shouldDrop sel && _ && _) at hred
    rw [hdrop, Option.isSome_iff_ne_none.mpr htunnel, hgrow] at hred
    exact h.not_charged h' (charge_of_redirected hred hsel hne) hne (congrArg (·.urrMap) hstats)

end Step

/-- **Accounting.**  From any maps, the counters show what was charged after every frame of a
sequence exactly when no frame of it has anything to count. -/
theorem always_accounted_iff (e : Endian) (m₀ : Maps) (frames : List Frame) :
    Always (Meter.step e) (Accounted m₀) ⟨m₀, []⟩ frames ↔
      Meets (Meter.step e) (fun s fr => fr.Free e s.maps) ⟨m₀, []⟩ frames := by
  have hstart : Accounted m₀ ⟨m₀, []⟩ := by
    constructor
    · exact fun _ _ _ _ => (UInt64.add_zero _).symm
    · exact fun _ _ _ _ => (UInt64.add_zero _).symm
    · exact fun _ _ _ _ => (UInt64.add_zero _).symm
    · exact fun _ _ _ _ => (UInt64.add_zero _).symm
    · exact fun _ _ => rfl
  exact always_iff_meets (fun _ _ h hg => h.step hg) (fun _ _ h h' => h.free h') hstart

open SmfSim in
/-- One TCP segment from a UE of the simulator: it is redirected and charged to URR 1, whose uplink
counters stay at zero. -/
theorem not_accounted_uplink :
    let m := (Audit.after host boot [setup smfA 1, establish smfA 1 ue1]).maps
    ¬ Accounted m (run (Meter.step host.endian) ⟨m, []⟩ [.n3 machine (uplinkFrame ue1)]) := by
  intro m h
  have hcounter : (urrStats (run (Meter.step host.endian) ⟨m, []⟩
      [.n3 machine (uplinkFrame ue1)]).maps 0 1 1).ulPackets = 0 := by
    decide +kernel
  have hstart : (urrStats m 0 1 1).ulPackets = 0 := by decide +kernel
  have hcharged : packets (run (Meter.step host.endian) ⟨m, []⟩
      [.n3 machine (uplinkFrame ue1)]).charges 0 1 1 true = 1 := by
    decide +kernel
  have hbad := h.ulPackets 0 1 1 (by decide)
  rw [hcounter, hstart, hcharged] at hbad
  exact absurd hbad (by decide)

end UpfEdge
