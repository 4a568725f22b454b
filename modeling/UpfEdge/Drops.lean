import UpfEdge.Accounting
import UpfEdge.Selection

/-!
# Frames that are dropped

Both programs ask the selected FAR whether to drop a frame before they count it.  The downlink
program asks the first core-side FAR as well, when it looks for a tunnel, and by then the frame is
in STATS_MAP.  `uncounted_iff` says that this is the only way a dropped frame is counted.
-/

namespace UpfEdge

open Lib Pfcp Server Xdp

/-- If the frame is dropped, STATS_MAP and URR_MAP are as before. -/
def Uncounted (e : Endian) (m : Maps) (fr : Frame) : Prop :=
  (fr.process e m).1.action = .drop →
    (fr.process e m).2.statsMap = m.statsMap ∧ (fr.process e m).2.urrMap = m.urrMap

/-- STATS_MAP has no row for the key and no room for one. -/
def Xdp.NoStats (m : Maps) (k : SessionKey) : Prop :=
  m.statsMap.lookup k = none ∧ 1024 ≤ m.statsMap.rows.keys.length

/-- An N6 frame of a session is not dropped by the first core-side FAR, unless the selected one
drops it already or there is no row to count it in. -/
def Xdp.Frame.DropsFirst (e : Endian) (m : Maps) : Frame → Prop
  | .n3 .. => True
  | .n6 _ f => ∀ t session first, downlinkMatch e f m = some (t, session) →
      FirstCore m session first → isDrop first →
        shouldDrop (selected m session ifaceCore t) ∨ NoStats m ⟨t.dstIp⟩

section Programs

variable {e : Endian} {x : XdpEnv} {f : Bytes} {m : Maps}

/-- The uplink program drops before it counts. -/
theorem uncounted_n3 : Uncounted e m (.n3 x f) := by
  intro h
  simp only [Frame.process, tryN3Uplink_eq] at h ⊢
  cases hm : uplinkMatch e f m with
  | none => exact ⟨rfl, rfl⟩
  | some ps =>
    obtain ⟨p, session⟩ := ps
    rw [hm] at h
    simp only [forwardUplink] at h ⊢
    split_ifs at h ⊢
    · exact ⟨rfl, rfl⟩
    · simp only [decapsulate_action (uplinkMatch_row hm).1] at h
      split_ifs at h

/-- Counting shows, where there is a row or room for one. -/
theorem statsTx_ne (k : SessionKey) (h : ¬ NoStats m k) :
    (statsTx x.cpu k (pktLen f) m).statsMap ≠ m.statsMap := by
  intro heq
  have hrow : countRow x.cpu k (SessionStats.tx (pktLen f)) m.statsMap = m.statsMap := heq
  have hself : (((countRow x.cpu k (SessionStats.tx (pktLen f)) m.statsMap).lookup k).map
      (· x.cpu)).getD default =
    SessionStats.tx (pktLen f) (((m.statsMap.lookup k).map (· x.cpu)).getD default) :=
      countRow_self h
  rw [hrow] at hself
  have hpackets := congrArg SessionStats.txPackets hself
  simp [SessionStats.tx] at hpackets

/-- The downlink program drops a frame it has counted exactly when the second walk stops it. -/
theorem process_n6 {t : FiveTuple} {session : SessionInfo}
    (hm : downlinkMatch e f m = some (t, session))
    (hsel : shouldDrop (selected m session ifaceCore t) = false) :
    ((tryN6Downlink e x f m).1.action = .drop ↔ downlinkTunnel m session = none) ∧
      (tryN6Downlink e x f m).2 = statsTx x.cpu ⟨t.dstIp⟩ (pktLen f) m := by
  have htunnel : downlinkTunnel (statsTx x.cpu ⟨t.dstIp⟩ (pktLen f) m) session =
    downlinkTunnel m session := rfl
  rw [tryN6Downlink_eq, hm]
  simp only [forwardDownlink, hsel, Bool.false_eq_true, if_false, htunnel]
  cases htun : downlinkTunnel m session with
  | none => simp
  | some tunnel =>
    have henc := encapsulate_eq (downlinkMatch_row hm).1 x
      (statsTx x.cpu ⟨t.dstIp⟩ (pktLen f) m) session tunnel
    cases hgrow : canGrow x f with
    | true =>
      rw [hgrow, if_pos rfl] at henc
      obtain ⟨totLen, -, henc⟩ := henc
      simp [henc]
    | false =>
      rw [hgrow, if_neg Bool.false_ne_true] at henc
      simp [henc]

end Programs

/-- **Dropped frames are not counted, except by the second walk.**  On whatever the maps hold, a
frame that is dropped leaves the counters exactly when it is not the first core-side FAR alone that
drops it. -/
theorem uncounted_iff (e : Endian) (m : Maps) (fr : Frame) :
    Uncounted e m fr ↔ fr.DropsFirst e m := by
  cases fr with
  | n3 x f => exact iff_of_true uncounted_n3 trivial
  | n6 x f =>
    constructor
    · intro h t session first hm hfirst hdrop
      by_contra hno
      obtain ⟨hsel, hroom⟩ := not_or.mp hno
      obtain ⟨haction, hmaps⟩ := process_n6 (x := x) hm (Bool.eq_false_iff.mpr hsel)
      have htunnel : downlinkTunnel m session = none := by
        rw [Frame.downlinkTunnel_of_first hfirst, if_pos hdrop]
      have hstats := (h (haction.mpr htunnel)).1
      rw [Frame.process, hmaps] at hstats
      exact statsTx_ne ⟨t.dstIp⟩ hroom hstats
    · intro h haction
      simp only [Frame.process] at haction ⊢
      cases hm : downlinkMatch e f m with
      | none =>
        rw [tryN6Downlink_eq, hm]
        exact ⟨rfl, rfl⟩
      | some ts =>
        obtain ⟨t, session⟩ := ts
        cases hsel : shouldDrop (selected m session ifaceCore t) with
        | true =>
          rw [tryN6Downlink_eq, hm]
          simp [forwardDownlink, hsel]
        | false =>
          obtain ⟨hiff, hmaps⟩ := process_n6 (x := x) hm hsel
          have hbarred : (Frame.n6 x f).Barred m session :=
            target_eq_none_iff.mp (by rw [Frame.target, hiff.mp haction]; rfl)
          obtain ⟨first, hfirst, hdrop⟩ := hbarred
          have hroom : NoStats m ⟨t.dstIp⟩ := by
            rcases h t session first hm hfirst hdrop with hsel' | hroom
            · rw [hsel] at hsel'
              cases hsel'
            · exact hroom
          rw [hmaps]
          exact ⟨countRow_eq_self hroom.1 hroom.2, rfl⟩

section Sim

open SmfSim

/-- A FAR that drops. -/
def dropping (farId : UInt32) : FarParams :=
  { toGnb farId 0x1111 with applyAction := actionDrop }

/-- Two rules for downlink packets: the first listed drops, the second has the better precedence. -/
def dropAndForward : Event :=
  sends smfA (establishmentWith 1 smfA
    [anyPacket 1 200 interfaceCore ue1 1, anyPacket 2 100 interfaceCore ue1 2]
    [dropping 1, toGnb 2 0x2222] [])

/-- A frame for the UE is counted and dropped. -/
theorem not_uncounted_dropAndForward :
    ¬ Uncounted .little (Audit.after host boot [setup smfA 1, dropAndForward]).maps
      (.n6 machine (downlinkFrame ue1)) := by
  intro h
  set m := (Audit.after host boot [setup smfA 1, dropAndForward]).maps
  have hstats := (h (by decide +kernel)).1
  have hbefore : (m.statsMap.lookup (.ofIp .little ue1)).isSome = false := by decide +kernel
  have hafter : (((Frame.n6 machine (downlinkFrame ue1)).process .little m).2.statsMap.lookup
      (.ofIp .little ue1)).isSome = true := by decide +kernel
  rw [hstats, hbefore] at hafter
  cases hafter

end Sim

end UpfEdge
