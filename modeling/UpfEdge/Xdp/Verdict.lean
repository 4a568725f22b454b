import UpfEdge.Xdp.Effects

/-!
# What a frame gets, and what that depends on

The verdict on a frame is the action of its program and, when an N6 frame is redirected, the outer
destination and TEID written in front of it.  It depends on the maps only through the session row
of the frame's UE and the rules of the SEID in that row (`Frame.verdict_eq`): the rules decide on a
`Ruling`, and the frame's own length and headroom whether a packet that may go can be sent.
-/

namespace UpfEdge.Xdp

open Lib Server

/-! ### The rules of one session -/

/-- PDRs and FARs by id, as the programs look them up. -/
@[ext]
structure Rules where
  pdr : UInt32 → Option PdrValue
  far : UInt32 → Option FarValue

/-- The rules of a SEID. -/
def rulesOf (m : Maps) (seid : UInt64) : Rules where
  pdr id := m.pdrMap.lookup (.new seid id)
  far id := m.farMap.lookup (.new seid id)

namespace Rules

/-- One turn of the loop of `select_far` on the rules of the session. -/
def selectStep (r : Rules) (iface : UInt8) (t : FiveTuple)
    (best : Option (FarValue × UInt32) × UInt32) (pdrId : UInt32) :
    Option (FarValue × UInt32) × UInt32 :=
  match r.pdr pdrId with
  | none => best
  | some pdr =>
    if pdr.sourceInterface ≠ iface then best
    else if !sdfMatches pdr t then best
    else if pdr.precedence ≥ best.2 then best
    else
      match r.far pdr.farId with
      | none => best
      | some far => (some (far, pdr.urrId), pdr.precedence)

/-- What the rules of the session select. -/
def selected (r : Rules) (session : SessionInfo) (iface : UInt8) (t : FiveTuple) :
    Option (FarValue × UInt32) :=
  if session.pdrCount > 0 then
    (session.listed.foldl (r.selectStep iface t) (none, 0xFFFFFFFF)).1
  else none

/-- The tunnel of a downlink packet on the rules of the session. -/
def tunnel (r : Rules) (session : SessionInfo) : Option (UInt32 × UInt32) :=
  if session.pdrCount > 0 then
    match session.listed.findSome? fun pdrId => (r.pdr pdrId).bind fun pdr =>
        if pdr.sourceInterface ≠ ifaceCore then none else r.far pdr.farId with
    | some far =>
      if isDrop far then none
      else if isForw far then some (far.gnbIp, far.teid)
      else some (session.gnbIp, session.teid)
    | none => some (session.gnbIp, session.teid)
  else some (session.gnbIp, session.teid)

/-- None of the PDRs listed in the row leads to a FAR. -/
def Unusable (r : Rules) (session : SessionInfo) : Prop :=
  ∀ id ∈ session.listed, ((r.pdr id).bind fun pdr => r.far pdr.farId) = none

end Rules

theorem selected_eq (m : Maps) (session : SessionInfo) (iface : UInt8) (t : FiveTuple) :
    selected m session iface t = (rulesOf m session.seid).selected session iface t := rfl

section Unusable

variable {r : Rules} {session : SessionInfo}

/-- Without a usable rule nothing is selected. -/
theorem Rules.Unusable.selected (h : r.Unusable session) (iface : UInt8) (t : FiveTuple) :
    r.selected session iface t = none := by
  have hfold : ∀ (ids : List UInt32) (best : Option (FarValue × UInt32) × UInt32),
      (∀ id ∈ ids, ((r.pdr id).bind fun pdr => r.far pdr.farId) = none) →
      ids.foldl (r.selectStep iface t) best = best := by
    intro ids
    induction ids with
    | nil => exact fun _ _ => rfl
    | cons id ids ih =>
      intro best hids
      rw [List.foldl_cons, ih _ fun id' h' => hids id' (List.mem_cons_of_mem _ h')]
      have hid := hids id (List.mem_cons_self ..)
      unfold Rules.selectStep
      cases hp : r.pdr id with
      | none => rfl
      | some pdr =>
        rw [hp, Option.bind_some] at hid
        simp only [hid]
        split_ifs <;> rfl
  unfold Rules.selected
  rw [hfold _ _ h]
  exact ite_self _

/-- Without a usable rule the tunnel is that of the session row. -/
theorem Rules.Unusable.tunnel (h : r.Unusable session) :
    r.tunnel session = some (session.gnbIp, session.teid) := by
  have hnone : (session.listed.findSome? fun pdrId => (r.pdr pdrId).bind fun pdr =>
      if pdr.sourceInterface ≠ ifaceCore then none else r.far pdr.farId) = none := by
    refine List.findSome?_eq_none_iff.mpr fun id hid => ?_
    have hid' := h id hid
    cases hp : r.pdr id with
    | none => rfl
    | some pdr =>
      rw [hp, Option.bind_some] at hid'
      simp only [Option.bind_some, hid', ite_self]
  unfold Rules.tunnel
  rw [hnone]
  exact ite_self _

end Unusable

/-! ### Frames -/

/-- A frame on N3 or N6, with the machine that processes it. -/
inductive Frame where
  | n3 (x : XdpEnv) (f : Bytes)
  | n6 (x : XdpEnv) (f : Bytes)

/-- What becomes of a frame; `outer` is the outer destination and the TEID of an N6 frame. -/
inductive Verdict where
  | pass
  | drop
  | redirect (outer : Option (Bytes × Bytes))
  deriving DecidableEq, Repr

/-- The destination address of the outer IP header. -/
def outerDst (f : Bytes) : Bytes := (f.drop 30).take 4

/-- The TEID of the GTP-U header behind it. -/
def outerTeid (f : Bytes) : Bytes := (f.drop 46).take 4

/-- What the rules say: `none` to drop, else the tunnel of an N6 frame. -/
abbrev Ruling : Type := Option (Option (UInt32 × UInt32))

namespace Frame

def process (e : Endian) (m : Maps) : Frame → XdpResult × Maps
  | .n3 x f => tryN3Uplink e x f m
  | .n6 x f => tryN6Downlink e x f m

def verdict (e : Endian) (m : Maps) (fr : Frame) : Verdict :=
  let r := (fr.process e m).1
  match r.action with
  | .pass => .pass
  | .drop => .drop
  | .redirect _ =>
    match fr with
    | .n3 .. => .redirect none
    | .n6 .. => .redirect (some (outerDst r.frame, outerTeid r.frame))

/-- The SESSION_MAP key of a frame. -/
def key (e : Endian) : Frame → Option SessionKey
  | .n3 _ f => (parseUplink e f).map fun p => ⟨p.tuple.srcIp⟩
  | .n6 _ f => (parseDownlink e f).map fun t => ⟨t.dstIp⟩

/-- What the rules of a session say about a frame. -/
def ruling (e : Endian) (r : Rules) (session : SessionInfo) : Frame → Ruling
  | .n3 _ f =>
    match parseUplink e f with
    | some p => if shouldDrop (r.selected session ifaceAccess p.tuple) then none else some none
    | none => some none
  | .n6 _ f =>
    match parseDownlink e f with
    | some t =>
      if shouldDrop (r.selected session ifaceCore t) then none else (r.tunnel session).map some
    | none => some none

/-- Whether the head of the frame can be moved as sending it on needs. -/
def sendable (e : Endian) : Frame → Bool
  | .n3 x f =>
    match parseUplink e f with
    | some p => canStrip x f p.outerTotal
    | none => false
  | .n6 x f => canGrow x f

/-- The verdict that follows from a ruling. -/
def render (e : Endian) (fr : Frame) : Ruling → Verdict
  | none => .drop
  | some tunnel =>
    if fr.sendable e then .redirect (tunnel.map fun t => (e.store32 t.1, e.store32 t.2)) else .pass

/-- Rules that cannot be used are as good as any others that cannot. -/
theorem ruling_of_unusable {e : Endian} {r r' : Rules} {session : SessionInfo}
    (h : r.Unusable session) (h' : r'.Unusable session) (fr : Frame) :
    fr.ruling e r session = fr.ruling e r' session := by
  cases fr with
  | n3 x f => simp only [ruling, h.selected, h'.selected]
  | n6 x f => simp only [ruling, h.selected, h'.selected, h.tunnel, h'.tunnel]

/-! ### The verdict of the programs -/

section Programs

variable {e : Endian} {m : Maps}

/-- Bytes behind a prefix of known length. -/
theorem slice_append (pre mid post : Bytes) {n k : ℕ} (hpre : pre.length = n)
    (hmid : mid.length = k) :
    ((pre ++ (mid ++ post)).drop n).take k = mid := by
  rw [← hpre, List.drop_left, ← hmid, List.take_left]

theorem ipHdr_bytes (h : IpHdr) :
    ∃ pre, pre.length = 16 ∧ h.bytes e = pre ++ e.store32 h.daddr :=
  ⟨_, by simp [length_store16, length_store32], rfl⟩

/-- The headers of an encapsulated packet carry the tunnel where a receiver looks for it. -/
theorem outer_outerHeaders (e : Endian) {gnbMac ethSrc : Bytes} (rest : Bytes)
    (hmac : gnbMac.length = 6) (hsrc : ethSrc.length = 6) (upfIp gnbIp teid : UInt32)
    (totLen : UInt16) :
    outerDst (outerHeaders e gnbMac ethSrc upfIp gnbIp teid totLen ++ rest) = e.store32 gnbIp ∧
      outerTeid (outerHeaders e gnbMac ethSrc upfIp gnbIp teid totLen ++ rest) =
        e.store32 teid := by
  have hheaders : ∃ ip udp gtpu : Bytes, ip.length = 16 ∧ udp.length = 8 ∧ gtpu.length = 4 ∧
      outerHeaders e gnbMac ethSrc upfIp gnbIp teid totLen =
        (gnbMac ++ ethSrc ++ e.store16 0x0008) ++ (ip ++ e.store32 gnbIp) ++ udp ++
          (gtpu ++ e.store32 teid) ++ extBytes := by
    unfold outerHeaders
    simp only
    obtain ⟨ip, hlen, hip⟩ := ipHdr_bytes (e := e) _
    rw [hip]
    exact ⟨ip, _, _, hlen, by simp [length_store16], by simp [length_store16], rfl⟩
  obtain ⟨ip, udp, gtpu, hip, hudp, hgtpu, heq⟩ := hheaders
  rw [heq]
  constructor
  · have hslice := slice_append (gnbMac ++ ethSrc ++ e.store16 0x0008 ++ ip) (e.store32 gnbIp)
      (udp ++ (gtpu ++ e.store32 teid) ++ extBytes ++ rest) (n := 30)
      (by simp [hmac, hsrc, hip, length_store16]) (length_store32 e gnbIp)
    simpa only [outerDst, List.append_assoc] using hslice
  · have hslice := slice_append (gnbMac ++ ethSrc ++ e.store16 0x0008 ++ ip ++ e.store32 gnbIp ++
        udp ++ gtpu) (e.store32 teid) (extBytes ++ rest) (n := 46)
      (by simp [hmac, hsrc, hip, hudp, hgtpu, length_store16, length_store32])
      (length_store32 e teid)
    simpa only [outerTeid, List.append_assoc] using hslice

/-- **The verdict on an N3 frame** follows from the row of its UE and the rules of that session. -/
theorem verdict_n3 (x : XdpEnv) (f : Bytes) : (Frame.n3 x f).verdict e m =
    match ((Frame.n3 x f).key e).bind m.sessionMap.lookup with
    | none => .pass
    | some session =>
      (Frame.n3 x f).render e ((Frame.n3 x f).ruling e (rulesOf m session.seid) session) := by
  cases hp : parseUplink e f with
  | none => simp [verdict, process, tryN3Uplink, key, hp]
  | some p =>
    cases hrow : m.sessionMap.lookup ⟨p.tuple.srcIp⟩ with
    | none => simp [verdict, process, tryN3Uplink, key, hp, hrow]
    | some session =>
      have hkey : ((Frame.n3 x f).key e).bind m.sessionMap.lookup = some session := by
        simp [key, hp, hrow]
      have hproc : (Frame.n3 x f).process e m = forwardUplink e x f p session m := by
        simp [process, tryN3Uplink, hp, hrow]
      have hsel := selected_eq m session ifaceAccess p.tuple
      rw [hkey]
      simp only [verdict, hproc, forwardUplink]
      cases hdrop : shouldDrop (selected m session ifaceAccess p.tuple) with
      | true => simp [ruling, render, hp, ← hsel, hdrop]
      | false =>
        cases hsend : canStrip x f p.outerTotal with
        | true => simp [ruling, render, sendable, hp, ← hsel, hdrop, decapsulate_action hp, hsend]
        | false => simp [ruling, render, sendable, hp, ← hsel, hdrop, decapsulate_action hp, hsend]

/-- **The verdict on an N6 frame** follows from the row of its UE and the rules of that session. -/
theorem verdict_n6 (x : XdpEnv) (f : Bytes) : (Frame.n6 x f).verdict e m =
    match ((Frame.n6 x f).key e).bind m.sessionMap.lookup with
    | none => .pass
    | some session =>
      (Frame.n6 x f).render e ((Frame.n6 x f).ruling e (rulesOf m session.seid) session) := by
  cases hp : parseDownlink e f with
  | none => simp [verdict, process, tryN6Downlink, key, hp]
  | some t =>
    cases hrow : m.sessionMap.lookup ⟨t.dstIp⟩ with
    | none => simp [verdict, process, tryN6Downlink, key, hp, hrow]
    | some session =>
      have hkey : ((Frame.n6 x f).key e).bind m.sessionMap.lookup = some session := by
        simp [key, hp, hrow]
      have hproc : (Frame.n6 x f).process e m = forwardDownlink e x f t session m := by
        simp [process, tryN6Downlink, hp, hrow]
      have hsel := selected_eq m session ifaceCore t
      have htunnel : downlinkTunnel (statsTx x.cpu ⟨t.dstIp⟩ (pktLen f) m) session =
          (rulesOf m session.seid).tunnel session := rfl
      rw [hkey]
      simp only [verdict, hproc, forwardDownlink, htunnel]
      cases hdrop : shouldDrop (selected m session ifaceCore t) with
      | true => simp [ruling, render, hp, ← hsel, hdrop]
      | false =>
        cases htun : (rulesOf m session.seid).tunnel session with
        | none => simp [ruling, render, hp, ← hsel, hdrop, htun]
        | some tunnel =>
          have henc := encapsulate_eq hp x (statsTx x.cpu ⟨t.dstIp⟩ (pktLen f) m) session tunnel
          cases hsend : canGrow x f with
          | true =>
            rw [hsend, if_pos rfl] at henc
            obtain ⟨totLen, -, henc⟩ := henc
            have hsrc : (f.take 6).length = 6 := by
              have := parseDownlink_length hp
              rw [List.length_take]
              omega
            obtain ⟨hdst, hteid⟩ := outer_outerHeaders e (f.drop ethHdrLen) (m.gwMac[1]).size hsrc
              session.upfIp tunnel.1 tunnel.2 totLen
            have hdst' : outerDst (encapsulate e x (statsTx x.cpu ⟨t.dstIp⟩ (pktLen f) m) session
                tunnel f).frame = e.store32 tunnel.1 := by
              rw [henc]
              exact hdst
            have hteid' : outerTeid (encapsulate e x (statsTx x.cpu ⟨t.dstIp⟩ (pktLen f) m) session
                tunnel f).frame = e.store32 tunnel.2 := by
              rw [henc]
              exact hteid
            have haction := congrArg XdpResult.action henc
            simp [ruling, render, sendable, hp, ← hsel, hdrop, htun, hsend, haction, hdst', hteid']
          | false =>
            rw [hsend, if_neg Bool.false_ne_true] at henc
            simp [ruling, render, sendable, hp, ← hsel, hdrop, htun, hsend, henc]

/-- **The verdict on a frame.** -/
theorem verdict_eq (fr : Frame) : fr.verdict e m =
    match (fr.key e).bind m.sessionMap.lookup with
    | none => .pass
    | some session => fr.render e (fr.ruling e (rulesOf m session.seid) session) := by
  cases fr with
  | n3 x f => exact verdict_n3 x f
  | n6 x f => exact verdict_n6 x f

end Programs

end Frame

end UpfEdge.Xdp
