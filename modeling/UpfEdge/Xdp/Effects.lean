import UpfEdge.Server.Effects
import UpfEdge.Xdp.Reads

/-!
# What the XDP programs do to the maps

A frame writes STATS_MAP and URR_MAP and nothing else.  `uplinkMatch` and `downlinkMatch` are the
part both halves of a program share, the parsed packet with the session row of its UE; each program
is a function of them (`tryN3Uplink_eq`, `tryN6Downlink_eq`).
-/

namespace UpfEdge.Xdp

open Lib Server

/-- The packet of an N3 frame and the session row of its inner source address. -/
def uplinkMatch (e : Endian) (f : Bytes) (m : Maps) : Option (UplinkPacket × SessionInfo) :=
  (parseUplink e f).bind fun p => (m.sessionMap.lookup ⟨p.tuple.srcIp⟩).map (p, ·)

/-- The five-tuple of an N6 frame and the session row of its destination address. -/
def downlinkMatch (e : Endian) (f : Bytes) (m : Maps) : Option (FiveTuple × SessionInfo) :=
  (parseDownlink e f).bind fun t => (m.sessionMap.lookup ⟨t.dstIp⟩).map (t, ·)

theorem tryN3Uplink_eq (e : Endian) (x : XdpEnv) (f : Bytes) (m : Maps) :
    tryN3Uplink e x f m =
      match uplinkMatch e f m with
      | none => (⟨.pass, f⟩, m)
      | some (p, session) => forwardUplink e x f p session m := by
  unfold tryN3Uplink uplinkMatch
  cases parseUplink e f with
  | none => rfl
  | some p =>
    simp only [Option.bind_some]
    cases m.sessionMap.lookup ⟨p.tuple.srcIp⟩ <;> rfl

theorem tryN6Downlink_eq (e : Endian) (x : XdpEnv) (f : Bytes) (m : Maps) :
    tryN6Downlink e x f m =
      match downlinkMatch e f m with
      | none => (⟨.pass, f⟩, m)
      | some (t, session) => forwardDownlink e x f t session m := by
  unfold tryN6Downlink downlinkMatch
  cases parseDownlink e f with
  | none => rfl
  | some t =>
    simp only [Option.bind_some]
    cases m.sessionMap.lookup ⟨t.dstIp⟩ <;> rfl

theorem uplinkMatch_row {e : Endian} {f : Bytes} {m : Maps} {p : UplinkPacket}
    {session : SessionInfo} (h : uplinkMatch e f m = some (p, session)) :
    parseUplink e f = some p ∧ m.sessionMap.lookup ⟨p.tuple.srcIp⟩ = some session := by
  obtain ⟨p', hp, hrow⟩ := Option.bind_eq_some_iff.mp h
  obtain ⟨session', hs, heq⟩ := Option.map_eq_some_iff.mp hrow
  obtain ⟨rfl, rfl⟩ := Prod.mk.inj heq
  exact ⟨hp, hs⟩

theorem downlinkMatch_row {e : Endian} {f : Bytes} {m : Maps} {t : FiveTuple}
    {session : SessionInfo} (h : downlinkMatch e f m = some (t, session)) :
    parseDownlink e f = some t ∧ m.sessionMap.lookup ⟨t.dstIp⟩ = some session := by
  obtain ⟨t', ht, hrow⟩ := Option.bind_eq_some_iff.mp h
  obtain ⟨session', hs, heq⟩ := Option.map_eq_some_iff.mp hrow
  obtain ⟨rfl, rfl⟩ := Prod.mk.inj heq
  exact ⟨ht, hs⟩

/-! ### Redirection -/

/-- Whether the head of an N3 frame can be moved to where the inner packet's new Ethernet header
starts. -/
def canStrip (x : XdpEnv) (f : Bytes) (outerTotal : ℕ) : Bool :=
  ((x.adjustHead f outerTotal).bind (x.adjustHead · (-ethHdrLen))).isSome

/-- Whether the head of an N6 frame can be moved to make room for the outer headers. -/
def canGrow (x : XdpEnv) (f : Bytes) : Bool :=
  (x.adjustHead f (-(ipHdrLen + udpHdrLen + gtpuHdrLen + gtpuExtHdrLen : ℕ))).isSome

/-- A packet that gets as far as being decapsulated is redirected when its head can be moved. -/
theorem decapsulate_action {e : Endian} {f : Bytes} {p : UplinkPacket}
    (h : parseUplink e f = some p) (x : XdpEnv) (m : Maps) :
    (decapsulate e x m p.outerTotal f).action =
      if canStrip x f p.outerTotal then .redirect (m.ifIndex.get 1) else .pass := by
  have hsrc : (ptrAt f 6 6).isSome := ptrAt_isSome.mpr (by have := parseUplink_length h; omega)
  obtain ⟨ethSrc, hsrc⟩ := Option.isSome_iff_exists.mp hsrc
  cases hstrip : x.adjustHead f p.outerTotal with
  | none => simp [decapsulate, canStrip, hsrc, hstrip]
  | some stripped =>
    cases hgrow : x.adjustHead stripped (-ethHdrLen) with
    | none => simp [decapsulate, canStrip, hsrc, hstrip, hgrow]
    | some grown =>
      obtain ⟨room, hroom, rfl⟩ := x.adjustHead_grow hgrow
      have hlen : ¬ room.length + stripped.length < ethHdrLen := by omega
      have hport : m.ifIndex[1] = m.ifIndex.get 1 := rfl
      simp [decapsulate, canStrip, hsrc, hstrip, hgrow, hlen, hport]

/-- A packet that gets as far as being encapsulated is redirected when its head can be moved, with
its outer headers in place of its Ethernet header. -/
theorem encapsulate_eq {e : Endian} {f : Bytes} {t : FiveTuple} (h : parseDownlink e f = some t)
    (x : XdpEnv) (m : Maps) (session : SessionInfo) (tunnel : UInt32 × UInt32) :
    if canGrow x f then
      ∃ totLen, readBe16 e f (ethHdrLen + 2) = some totLen ∧ encapsulate e x m session tunnel f =
        ⟨.redirect (m.ifIndex.get 0),
          outerHeaders e (m.gwMac.get 1).addr (f.take 6) session.upfIp tunnel.1 tunnel.2 totLen ++
            f.drop ethHdrLen⟩
    else (encapsulate e x m session tunnel f).action = .pass := by
  have hlen := parseDownlink_length h
  obtain ⟨totLen, htot⟩ := Option.isSome_iff_exists.mp
    (readBe16_isSome (e := e).mpr (show ethHdrLen + 2 + 2 ≤ f.length by unfold ethHdrLen; omega))
  have hsix : ptrAt f 0 6 = some (f.take 6) := if_neg (by omega)
  unfold encapsulate canGrow
  simp only [htot, hsix]
  cases hgrow : x.adjustHead f (-(ipHdrLen + udpHdrLen + gtpuHdrLen + gtpuExtHdrLen : ℕ)) with
  | none => rfl
  | some grown =>
    obtain ⟨room, hroom, rfl⟩ := x.adjustHead_grow hgrow
    have hlen' : ¬ (room ++ f).length <
        ethHdrLen + (ipHdrLen + udpHdrLen + gtpuHdrLen + gtpuExtHdrLen) := by
      rw [List.length_append, hroom]
      unfold ethHdrLen
      omega
    -- the room made is as long as the new headers without an Ethernet header
    have hdrop : (room ++ f).drop (ethHdrLen +
        (ipHdrLen + udpHdrLen + gtpuHdrLen + gtpuExtHdrLen)) = f.drop ethHdrLen := by
      rw [← hroom, Nat.add_comm, List.drop_length_add_append]
    simp only [if_neg hlen', Option.isSome_some, if_true, hdrop]
    exact ⟨totLen, rfl, rfl⟩

theorem decapsulate_redirected {e : Endian} {f : Bytes} {p : UplinkPacket}
    (h : parseUplink e f = some p) (x : XdpEnv) (m : Maps) :
    (decapsulate e x m p.outerTotal f).redirected = canStrip x f p.outerTotal := by
  unfold XdpResult.redirected
  rw [decapsulate_action h]
  cases canStrip x f p.outerTotal <;> rfl

theorem encapsulate_redirected {e : Endian} {f : Bytes} {t : FiveTuple}
    (h : parseDownlink e f = some t) (x : XdpEnv) (m : Maps) (session : SessionInfo)
    (tunnel : UInt32 × UInt32) : (encapsulate e x m session tunnel f).redirected = canGrow x f := by
  have heq := encapsulate_eq h x m session tunnel
  cases hgrow : canGrow x f with
  | true =>
    rw [hgrow, if_pos rfl] at heq
    obtain ⟨totLen, -, heq⟩ := heq
    rw [heq]
    rfl
  | false =>
    rw [hgrow, if_neg Bool.false_ne_true] at heq
    unfold XdpResult.redirected
    rw [heq]

/-! ### Counting -/

/-- Counting for a key changes no other row. -/
theorem lookup_countRow_ne {cap : ℕ} {K V : Type} [DecidableEq K] [Inhabited V] {cpu : ℕ} {k j : K}
    {f : V → V} {t : BoundedTable cap K (PerCpu V)} (h : j ≠ k) :
    (countRow cpu k f t).lookup j = t.lookup j := by
  unfold countRow
  split
  · exact (BoundedTable.lookup_modify _ _ _ _).trans (if_neg h)
  · cases hi : t.insert k (onCpu cpu f fun _ => default) with
    | none => rfl
    | some t' => exact (BoundedTable.lookup_of_insert hi j).trans (if_neg h)

/-- Counting takes no row away. -/
theorem lookup_countRow_isSome {cap : ℕ} {K V : Type} [DecidableEq K] [Inhabited V] {cpu : ℕ}
    {k j : K} {f : V → V} {t : BoundedTable cap K (PerCpu V)} (h : (t.lookup j).isSome) :
    ((countRow cpu k f t).lookup j).isSome := by
  by_cases hj : j = k
  · obtain ⟨row, hrow⟩ := Option.isSome_iff_exists.mp h
    rw [hj] at hrow ⊢
    simp only [countRow, hrow, BoundedTable.lookup_modify, if_true, Option.map_some,
      Option.isSome_some]
  · rw [lookup_countRow_ne hj]
    exact h

/-- A frame's counting makes at most one URR row, for the SEID it counts for. -/
theorem urrCount_isSome {cpu : ℕ} {seid : UInt64} {urrId : UInt32} {len : UInt64} {up : Bool}
    {m : Maps} {k : UrrKey} (h : ((urrCount cpu seid urrId len up m).urrMap.lookup k).isSome) :
    (m.urrMap.lookup k).isSome ∨ k = UrrKey.new seid urrId := by
  by_cases hk : k = UrrKey.new seid urrId
  · exact .inr hk
  · left
    unfold urrCount at h
    split_ifs at h
    · exact h
    · rwa [lookup_countRow_ne hk] at h

theorem urrCount_rest (cpu : ℕ) (seid : UInt64) (urrId : UInt32) (len : UInt64) (up : Bool)
    (m : Maps) : urrCount cpu seid urrId len up m =
      { m with urrMap := (urrCount cpu seid urrId len up m).urrMap } := by
  unfold urrCount
  split_ifs <;> rfl

/-! ### The frame of a program -/

/-- **An N3 frame is steady.** -/
theorem tryN3Uplink_steady (e : Endian) (x : XdpEnv) (f : Bytes) (w : World) :
    Steady w { w with maps := (tryN3Uplink e x f w.maps).2 } := by
  rw [tryN3Uplink_eq]
  cases hm : uplinkMatch e f w.maps with
  | none => exact .refl
  | some ps =>
    obtain ⟨p, session⟩ := ps
    obtain ⟨-, hrow⟩ := uplinkMatch_row hm
    simp only [forwardUplink]
    split_ifs
    · exact .refl
    · simp only
      rw [urrCount_rest]
      refine { (Steady.refl : Steady w w) with urrRow := fun k hk => ?_ }
      rcases urrCount_isSome hk with hk | rfl
      · exact .inl hk
      · exact .inr ⟨_, session, _, hrow, rfl⟩

/-- The maps after an N3 frame: only the counters have changed. -/
theorem tryN3Uplink_maps (e : Endian) (x : XdpEnv) (f : Bytes) (m : Maps) :
    ∃ stats urrs, (tryN3Uplink e x f m).2 = { m with statsMap := stats, urrMap := urrs } := by
  rw [tryN3Uplink_eq]
  cases uplinkMatch e f m with
  | none => exact ⟨m.statsMap, m.urrMap, rfl⟩
  | some ps =>
    obtain ⟨p, session⟩ := ps
    simp only [forwardUplink]
    split_ifs
    · exact ⟨m.statsMap, m.urrMap, rfl⟩
    · simp only
      rw [urrCount_rest]
      exact ⟨_, _, rfl⟩

/-- An N3 frame takes no URR row away. -/
theorem tryN3Uplink_urrRow {e : Endian} {x : XdpEnv} {f : Bytes} {m : Maps} {k : UrrKey}
    (h : (m.urrMap.lookup k).isSome) : ((tryN3Uplink e x f m).2.urrMap.lookup k).isSome := by
  rw [tryN3Uplink_eq]
  cases uplinkMatch e f m with
  | none => exact h
  | some ps =>
    obtain ⟨p, session⟩ := ps
    simp only [forwardUplink]
    split_ifs
    · exact h
    · simp only [urrCount]
      split_ifs
      · exact h
      · exact lookup_countRow_isSome h

/-- The maps after an N6 frame: only STATS_MAP has changed. -/
theorem tryN6Downlink_maps (e : Endian) (x : XdpEnv) (f : Bytes) (m : Maps) :
    ∃ stats, (tryN6Downlink e x f m).2 = { m with statsMap := stats } := by
  rw [tryN6Downlink_eq]
  cases downlinkMatch e f m with
  | none => exact ⟨m.statsMap, rfl⟩
  | some ts =>
    obtain ⟨t, session⟩ := ts
    simp only [forwardDownlink]
    split_ifs
    · exact ⟨m.statsMap, rfl⟩
    · split <;> exact ⟨_, rfl⟩

/-- **An N6 frame is steady.** -/
theorem tryN6Downlink_steady (e : Endian) (x : XdpEnv) (f : Bytes) (w : World) :
    Steady w { w with maps := (tryN6Downlink e x f w.maps).2 } := by
  obtain ⟨stats, h⟩ := tryN6Downlink_maps e x f w.maps
  rw [h]
  exact { (Steady.refl : Steady w w) with }

end UpfEdge.Xdp
