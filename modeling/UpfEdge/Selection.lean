import UpfEdge.SmfSim
import UpfEdge.Xdp.Verdict

/-!
# Which rule a frame goes by

`select_far` walks the PDRs listed in a session row and ends with the FAR of the applicable PDR of
the least precedence (`selectFar_spec`).  The uplink program goes by that FAR alone.  The downlink
program asks it whether to drop the frame, and then takes the tunnel from a second walk,
`downlink_get_far`, that stops at the first core-side PDR with a FAR, whatever its precedence and
its filter: `followsSelection_iff` says when the two walks come to the same.

Both programs let a frame through that no rule applies to; `forwarded_unless_dropped` says what
stands in the way of a frame.

The walk of `select_far` starts from the greatest precedence as if a PDR had been found with it, so
a PDR that has it is never taken: `bestMatch_iff`.
-/

namespace UpfEdge

open Lib Pfcp Server Xdp

namespace Xdp

/-! ### The walk of `select_far` -/

/-- The PDR row of a listed id and its FAR row, when the PDR is on the side of `iface`, its filter
matches the packet, and both rows are there. -/
def applicable (m : Maps) (session : SessionInfo) (iface : UInt8) (t : FiveTuple) (id : UInt32) :
    Option (PdrValue × FarValue) :=
  (m.pdrMap.lookup (.new session.seid id)).bind fun pdr =>
    if pdr.sourceInterface = iface ∧ sdfMatches pdr t then
      (m.farMap.lookup (.new session.seid pdr.farId)).map (pdr, ·)
    else none

/-- No PDR of the session applies to the packet with a precedence that can be selected: the walk
starts from the greatest one. -/
def NoRule (m : Maps) (session : SessionInfo) (iface : UInt8) (t : FiveTuple) : Prop :=
  ∀ id ∈ session.listed, ∀ r, applicable m session iface t id = some r →
    (0xFFFFFFFF : UInt32) ≤ r.1.precedence

/-- The applicable PDR `pdr` with the FAR `far` has the least precedence, and is listed before any
other that has it. -/
def Selects (m : Maps) (session : SessionInfo) (iface : UInt8) (t : FiveTuple) (pdr : PdrValue)
    (far : FarValue) : Prop :=
  ∃ pre id post, session.listed = pre ++ id :: post ∧
    applicable m session iface t id = some (pdr, far) ∧ pdr.precedence < 0xFFFFFFFF ∧
    (∀ id' ∈ pre, ∀ r, applicable m session iface t id' = some r →
      pdr.precedence < r.1.precedence) ∧
    ∀ id' ∈ post, ∀ r, applicable m session iface t id' = some r →
      pdr.precedence ≤ r.1.precedence

section Walk

variable {m : Maps} {session : SessionInfo} {iface : UInt8} {t : FiveTuple}

/-- One turn of the walk takes an applicable PDR that beats the best so far. -/
theorem selectStep_eq (best : Option (FarValue × UInt32) × UInt32) (id : UInt32) :
    selectStep m session.seid iface t best id =
      match applicable m session iface t id with
      | some (pdr, far) =>
        if pdr.precedence < best.2 then (some (far, pdr.urrId), pdr.precedence) else best
      | none => best := by
  unfold selectStep applicable
  cases m.pdrMap.lookup (.new session.seid id) with
  | none => rfl
  | some pdr =>
    simp only [Option.bind_some]
    by_cases hside : pdr.sourceInterface = iface
    · cases hsdf : sdfMatches pdr t with
      | false => simp [hside]
      | true =>
        cases hfar : m.farMap.lookup (.new session.seid pdr.farId) with
        | none => simp [hside]
        | some far =>
          by_cases hprec : pdr.precedence < best.2
          · simp [hside, hprec, UInt32.not_le.mpr hprec]
          · simp [hside, hprec, UInt32.not_lt.mp hprec]
    · simp [hside]

/-- What the walk over a list of ids ends with, from a best so far. -/
theorem foldl_selectStep (m : Maps) (session : SessionInfo) (iface : UInt8) (t : FiveTuple)
    (ids : List UInt32) (best : Option (FarValue × UInt32) × UInt32) :
    (ids.foldl (selectStep m session.seid iface t) best = best ∧
        ∀ id ∈ ids, ∀ r, applicable m session iface t id = some r → best.2 ≤ r.1.precedence) ∨
      ∃ pre id post pdr far, ids = pre ++ id :: post ∧
        applicable m session iface t id = some (pdr, far) ∧ pdr.precedence < best.2 ∧
        ids.foldl (selectStep m session.seid iface t) best =
          (some (far, pdr.urrId), pdr.precedence) ∧
        (∀ id' ∈ pre, ∀ r, applicable m session iface t id' = some r →
          pdr.precedence < r.1.precedence) ∧
        ∀ id' ∈ post, ∀ r, applicable m session iface t id' = some r →
          pdr.precedence ≤ r.1.precedence := by
  induction ids generalizing best with
  | nil => exact .inl ⟨rfl, by simp⟩
  | cons id ids ih =>
    rw [List.foldl_cons, selectStep_eq]
    cases happ : applicable m session iface t id with
    | none =>
      have hskip : ∀ (P : PdrValue × FarValue → Prop) (r : PdrValue × FarValue),
          applicable m session iface t id = some r → P r := by
        intro P r hr
        rw [happ] at hr
        cases hr
      rcases ih best with ⟨heq, hge⟩ | ⟨pre, id', post, pdr, far, hsplit, h', hlt, heq, hpre, hpost⟩
      · exact .inl ⟨heq, List.forall_mem_cons.mpr ⟨hskip _, hge⟩⟩
      · exact .inr ⟨id :: pre, id', post, pdr, far, by rw [hsplit]; rfl, h', hlt, heq,
          List.forall_mem_cons.mpr ⟨hskip _, hpre⟩, hpost⟩
    | some r₀ =>
      obtain ⟨pdr₀, far₀⟩ := r₀
      have hhead : ∀ {P : PdrValue × FarValue → Prop}, P (pdr₀, far₀) →
          ∀ r, applicable m session iface t id = some r → P r := by
        intro P h r hr
        rw [happ] at hr
        rw [← Option.some.inj hr]
        exact h
      by_cases hbeats : pdr₀.precedence < best.2
      · simp only [if_pos hbeats]
        rcases ih (some (far₀, pdr₀.urrId), pdr₀.precedence) with
          ⟨heq, hge⟩ | ⟨pre, id', post, pdr, far, hsplit, h', hlt, heq, hpre, hpost⟩
        · exact .inr ⟨[], id, ids, pdr₀, far₀, rfl, happ, hbeats, heq, by simp, hge⟩
        · exact .inr ⟨id :: pre, id', post, pdr, far, by rw [hsplit]; rfl, h',
            UInt32.lt_trans hlt hbeats, heq, List.forall_mem_cons.mpr ⟨hhead hlt, hpre⟩, hpost⟩
      · simp only [if_neg hbeats]
        have hle := UInt32.not_lt.mp hbeats
        rcases ih best with
          ⟨heq, hge⟩ | ⟨pre, id', post, pdr, far, hsplit, h', hlt, heq, hpre, hpost⟩
        · exact .inl ⟨heq, List.forall_mem_cons.mpr ⟨hhead hle, hge⟩⟩
        · exact .inr ⟨id :: pre, id', post, pdr, far, by rw [hsplit]; rfl, h', hlt, heq,
            List.forall_mem_cons.mpr ⟨hhead (UInt32.lt_of_lt_of_le hlt hle), hpre⟩, hpost⟩

/-- **What `select_far` selects.** -/
theorem selectFar_spec (m : Maps) (session : SessionInfo) (iface : UInt8) (t : FiveTuple) :
    (selectFar m session iface t = none ∧ NoRule m session iface t) ∨
      ∃ pdr far, selectFar m session iface t = some (far, pdr.urrId) ∧
        Selects m session iface t pdr far := by
  rcases foldl_selectStep m session iface t session.listed (none, 0xFFFFFFFF) with
    ⟨heq, hge⟩ | ⟨pre, id, post, pdr, far, hsplit, happ, hlt, heq, hpre, hpost⟩
  · exact .inl ⟨by rw [selectFar, heq], hge⟩
  · exact .inr ⟨pdr, far, by rw [selectFar, heq],
      pre, id, post, hsplit, happ, hlt, hpre, hpost⟩

theorem selectFar_eq_none_iff :
    selectFar m session iface t = none ↔ NoRule m session iface t := by
  rcases selectFar_spec m session iface t with
    ⟨heq, hnone⟩ | ⟨pdr, far, heq, pre, id, post, hsplit, happ, hlt, -⟩
  · exact iff_of_true heq hnone
  · refine iff_of_false (by simp [heq]) fun hnone => ?_
    have hmem : id ∈ session.listed := by simp [hsplit]
    exact absurd hlt (UInt32.not_lt.mpr (hnone id hmem _ happ))

end Walk

/-- The rules select at most one FAR, and it is the one `select_far` returns. -/
theorem Selects.selectFar {m : Maps} {session : SessionInfo} {iface : UInt8} {t : FiveTuple}
    {pdr : PdrValue} {far : FarValue} (h : Selects m session iface t pdr far) :
    selectFar m session iface t = some (far, pdr.urrId) := by
  obtain ⟨pre, id, post, hsplit, happ, hlt, hpre, hpost⟩ := h
  rcases selectFar_spec m session iface t with ⟨-, hnone⟩ |
    ⟨pdr', far', heq, pre', id', post', hsplit', happ', hlt', hpre', hpost'⟩
  · have hmem : id ∈ session.listed := by simp [hsplit]
    exact absurd hlt (UInt32.not_lt.mpr (hnone id hmem _ happ))
  · rw [hsplit'] at hsplit
    rcases List.append_eq_append_iff.mp hsplit with ⟨mid, hmid, hrest⟩ | ⟨mid, hmid, hrest⟩
    · cases mid with
      | nil =>
        obtain ⟨rfl, -⟩ := List.cons.inj hrest
        obtain ⟨rfl, rfl⟩ := Prod.mk.inj (Option.some.inj (happ'.symm.trans happ))
        exact heq
      | cons b mid =>
        -- the one found later is listed behind, so neither can beat the other
        obtain ⟨rfl, hpost''⟩ := List.cons.inj hrest
        have h1 := hpre _ (by simp [hmid]) _ happ'
        have h2 := hpost' id (by simp [hpost'']) _ happ
        exact absurd h1 (UInt32.not_lt.mpr h2)
    · cases mid with
      | nil =>
        obtain ⟨rfl, -⟩ := List.cons.inj hrest
        obtain ⟨rfl, rfl⟩ := Prod.mk.inj (Option.some.inj (happ'.symm.trans happ))
        exact heq
      | cons b mid =>
        obtain ⟨rfl, hpost''⟩ := List.cons.inj hrest
        have h1 := hpre' _ (by simp [hmid]) _ happ
        have h2 := hpost id' (by simp [hpost'']) _ happ'
        exact absurd h1 (UInt32.not_lt.mpr h2)

/-! ### The walk of `downlink_get_far` -/

/-- The FAR of a listed id, when its PDR is on the core side. -/
def coreFar (m : Maps) (session : SessionInfo) (id : UInt32) : Option FarValue :=
  (m.pdrMap.lookup (.new session.seid id)).bind fun pdr =>
    if pdr.sourceInterface ≠ ifaceCore then none
    else m.farMap.lookup (.new session.seid pdr.farId)

/-- `far` is the FAR of the first listed core-side PDR that has one. -/
def FirstCore (m : Maps) (session : SessionInfo) (far : FarValue) : Prop :=
  ∃ pre id post, session.listed = pre ++ id :: post ∧ coreFar m session id = some far ∧
    ∀ id' ∈ pre, coreFar m session id' = none

/-- Where a frame goes whose first core-side FAR is `far`: to the FAR's endpoint when it forwards,
else to that of the session row. -/
def endpoint (session : SessionInfo) (far : FarValue) : UInt32 × UInt32 :=
  if isForw far then (far.gnbIp, far.teid) else (session.gnbIp, session.teid)

section Core

variable {m : Maps} {session : SessionInfo} {t : FiveTuple} {pdr : PdrValue} {far : FarValue}

theorem downlinkGetFar_eq_some_iff :
    downlinkGetFar m session = some far ↔ FirstCore m session far :=
  List.findSome?_eq_some_iff

/-- Where a FAR is selected for a downlink packet, the second walk finds one too. -/
theorem Selects.firstCore (h : Selects m session ifaceCore t pdr far) :
    ∃ first, FirstCore m session first := by
  obtain ⟨pre, id, post, hsplit, happ, -⟩ := h
  have hcore : coreFar m session id = some far := by
    obtain ⟨pdr', hpdr, hif⟩ := Option.bind_eq_some_iff.mp happ
    split_ifs at hif with hside
    obtain ⟨far', hfar, heq⟩ := Option.map_eq_some_iff.mp hif
    obtain ⟨rfl, rfl⟩ := Prod.mk.inj heq
    rw [coreFar, hpdr, Option.bind_some, if_neg (not_not.mpr hside.1), hfar]
  have hsome : (downlinkGetFar m session).isSome :=
    List.findSome?_isSome_iff.mpr ⟨id, by simp [hsplit], by
      change (coreFar m session id).isSome
      rw [hcore]
      rfl⟩
  obtain ⟨first, hfirst⟩ := Option.isSome_iff_exists.mp hsome
  exact ⟨first, downlinkGetFar_eq_some_iff.mp hfirst⟩

theorem pdrCount_pos {pre post : List UInt32} {id : UInt32}
    (h : session.listed = pre ++ id :: post) : session.pdrCount > 0 := by
  by_contra hzero
  have hcount : session.pdrCount = 0 := by
    simpa using hzero
  rw [SessionInfo.listed, hcount] at h
  simp at h

theorem selected_eq_selectFar (h : session.pdrCount > 0) (iface : UInt8) (t : FiveTuple) :
    selected m session iface t = selectFar m session iface t := if_pos h

end Core

/-! ### Frames of a session -/

def Verdict.isRedirect : Verdict → Bool
  | .redirect _ => true
  | _ => false

namespace Frame

/-- The packet of a frame as the rules see it, and the session it belongs to. -/
def matched (e : Endian) (m : Maps) : Frame → Option (FiveTuple × SessionInfo)
  | .n3 _ f => (uplinkMatch e f m).map fun (p, session) => (p.tuple, session)
  | .n6 _ f => downlinkMatch e f m

/-- The side whose PDRs are for the frame. -/
def side : Frame → UInt8
  | .n3 .. => ifaceAccess
  | .n6 .. => ifaceCore

/-- What a frame that is not dropped by the selected FAR is sent to, if anything. -/
def target (m : Maps) (session : SessionInfo) : Frame → Ruling
  | .n3 .. => some none
  | .n6 .. => (downlinkTunnel m session).map some

section Matched

variable {e : Endian} {m : Maps} {fr : Frame} {t : FiveTuple} {session : SessionInfo}

/-- The verdict on a frame of a session. -/
theorem verdict_of_matched (h : fr.matched e m = some (t, session)) : fr.verdict e m =
    fr.render e (if shouldDrop (selected m session fr.side t) then none
      else fr.target m session) := by
  cases fr with
  | n3 x f =>
    obtain ⟨⟨p, session'⟩, hm, heq⟩ := Option.map_eq_some_iff.mp h
    obtain ⟨rfl, rfl⟩ := Prod.mk.inj heq
    obtain ⟨hp, hrow⟩ := uplinkMatch_row hm
    have hkey : ((Frame.n3 x f).key e).bind m.sessionMap.lookup = some session' := by
      simp [key, hp, hrow]
    rw [verdict_n3, hkey]
    simp only [ruling, hp, selected_eq, side, target]
    rfl
  | n6 x f =>
    obtain ⟨ht, hrow⟩ := downlinkMatch_row h
    have hkey : ((Frame.n6 x f).key e).bind m.sessionMap.lookup = some session := by
      simp [key, ht, hrow]
    rw [verdict_n6, hkey]
    simp only [ruling, ht, selected_eq, side, target]
    rfl

theorem downlinkTunnel_of_first {first : FarValue} (h : FirstCore m session first) :
    downlinkTunnel m session = if isDrop first then none else some (endpoint session first) := by
  have hget := downlinkGetFar_eq_some_iff.mpr h
  obtain ⟨pre, id, post, hsplit, -⟩ := h
  rw [downlinkTunnel, if_pos (pdrCount_pos hsplit), hget, endpoint]
  simp only
  split_ifs <;> rfl

theorem downlinkTunnel_of_none (h : ∀ first, ¬ FirstCore m session first) :
    downlinkTunnel m session = some (session.gnbIp, session.teid) := by
  have hget : downlinkGetFar m session = none :=
    Option.eq_none_iff_forall_ne_some.mpr fun far hfar =>
      h far (downlinkGetFar_eq_some_iff.mp hfar)
  rw [downlinkTunnel, hget]
  exact ite_self _

/-- The verdict on a downlink frame that a FAR is selected for, by the two FARs of the two walks. -/
theorem verdict_of_selects {x : XdpEnv} {f : Bytes} {pdr : PdrValue} {far first : FarValue}
    (hmatch : downlinkMatch e f m = some (t, session))
    (hsel : Selects m session ifaceCore t pdr far) (hfirst : FirstCore m session first) :
    (Frame.n6 x f).verdict e m =
      if isDrop far ∨ isDrop first then .drop
      else if canGrow x f then .redirect (some (e.store32 (endpoint session first).1,
        e.store32 (endpoint session first).2))
      else .pass := by
  have hcount : session.pdrCount > 0 := by
    obtain ⟨pre, id, post, hsplit, -⟩ := hfirst
    exact pdrCount_pos hsplit
  have hselected : selected m session ifaceCore t = some (far, pdr.urrId) :=
    (selected_eq_selectFar hcount _ _).trans hsel.selectFar
  rw [verdict_of_matched (show (Frame.n6 x f).matched e m = some (t, session) from hmatch)]
  simp only [side, target, hselected, shouldDrop, downlinkTunnel_of_first hfirst]
  cases isDrop far with
  | true => simp [render]
  | false =>
    cases isDrop first with
    | true => simp [render]
    | false => cases hgrow : canGrow x f <;> simp [render, sendable, hgrow]

end Matched

end Frame

end Xdp

/-! ### One rule or two -/

/-- What the downlink program does to a frame follows the FAR that is selected for it: redirected,
the frame goes to that FAR's endpoint, and it is dropped only by that FAR. -/
def FollowsSelection (e : Endian) (m : Maps) (x : XdpEnv) (f : Bytes) : Prop :=
  ∀ t session far urrId, downlinkMatch e f m = some (t, session) →
    selectFar m session ifaceCore t = some (far, urrId) →
    (∀ outer, (Frame.n6 x f).verdict e m = .redirect outer →
      outer = some (e.store32 far.gnbIp, e.store32 far.teid)) ∧
    ((Frame.n6 x f).verdict e m = .drop → isDrop far)

/-- When a FAR is selected for the frame that does not drop it, neither does the first core-side
FAR, and the endpoint taken from that one is the endpoint of the selected one, unless there is no
room to send the frame at all. -/
def SameRule (e : Endian) (m : Maps) (x : XdpEnv) (f : Bytes) : Prop :=
  ∀ t session pdr far, downlinkMatch e f m = some (t, session) →
    Selects m session ifaceCore t pdr far → isDrop far = false →
    ∃ first, FirstCore m session first ∧ isDrop first = false ∧
      (canGrow x f = false ∨ endpoint session first = (far.gnbIp, far.teid))

/-- **One rule or two.**  On whatever the maps hold, enforcement and forwarding of a downlink frame
go by one rule exactly when the first core-side FAR says what the selected one does. -/
theorem followsSelection_iff (e : Endian) (m : Maps) (x : XdpEnv) (f : Bytes) :
    FollowsSelection e m x f ↔ SameRule e m x f := by
  constructor
  · intro h t session pdr far hmatch hsel hdrop
    obtain ⟨first, hfirst⟩ := hsel.firstCore
    obtain ⟨hredirect, hdropped⟩ := h t session far pdr.urrId hmatch hsel.selectFar
    rw [Frame.verdict_of_selects hmatch hsel hfirst, hdrop] at hredirect hdropped
    have hfirstDrop : isDrop first = false := by
      by_contra hne
      simp [hne] at hdropped
    refine ⟨first, hfirst, hfirstDrop, ?_⟩
    cases hgrow : canGrow x f with
    | false => exact .inl rfl
    | true =>
      simp only [hfirstDrop, hgrow, Bool.false_eq_true, or_self, if_false, if_true] at hredirect
      obtain ⟨hip, hteid⟩ := Prod.mk.inj (Option.some.inj (hredirect _ rfl))
      exact .inr (Prod.ext (store32_inj e hip) (store32_inj e hteid))
  · intro h t session far urrId hmatch hfar
    obtain ⟨pdr, hsel⟩ : ∃ pdr, Selects m session ifaceCore t pdr far := by
      rcases selectFar_spec m session ifaceCore t with ⟨hnone, -⟩ | ⟨pdr, far', heq, hsel⟩
      · rw [hnone] at hfar
        cases hfar
      · rw [heq] at hfar
        obtain ⟨rfl, -⟩ := Prod.mk.inj (Option.some.inj hfar)
        exact ⟨pdr, hsel⟩
    cases hdrop : isDrop far with
    | true =>
      obtain ⟨first, hfirst⟩ := hsel.firstCore
      rw [Frame.verdict_of_selects hmatch hsel hfirst, hdrop]
      simp
    | false =>
      obtain ⟨first, hfirst, hfirstDrop, hsame⟩ := h t session pdr far hmatch hsel hdrop
      rw [Frame.verdict_of_selects hmatch hsel hfirst, hdrop, hfirstDrop]
      rcases hsame with hgrow | hsame
      · simp [hgrow]
      · cases canGrow x f <;> simp [hsame]

section Sim

open SmfSim

/-- Two rules for downlink packets, the second with the better precedence, to two tunnels. -/
def twoTunnels : Event :=
  sends smfA (establishmentWith 1 smfA
    [anyPacket 1 200 interfaceCore ue1 1, anyPacket 2 100 interfaceCore ue1 2]
    [toGnb 1 0x1111, toGnb 2 0x2222] [])

/-- FAR 2 is selected, and the frame goes to the tunnel of FAR 1. -/
theorem not_followsSelection_twoTunnels :
    ¬ FollowsSelection .little (Audit.after host boot [setup smfA 1, twoTunnels]).maps machine
      (downlinkFrame ue1) := by
  intro h
  set m := (Audit.after host boot [setup smfA 1, twoTunnels]).maps
  obtain ⟨⟨t, session⟩, hmatch⟩ : ∃ p, downlinkMatch .little (downlinkFrame ue1) m = some p :=
    Option.isSome_iff_exists.mp (by decide +kernel)
  have hteid : ((downlinkMatch .little (downlinkFrame ue1) m).bind fun p =>
      (selectFar m p.2 ifaceCore p.1).map (·.1.teid)) = some 0x22220000 := by decide +kernel
  rw [hmatch, Option.bind_some] at hteid
  obtain ⟨⟨far, urrId⟩, hsel, hfar⟩ := Option.map_eq_some_iff.mp hteid
  have hverdict : (Frame.n6 machine (downlinkFrame ue1)).verdict .little m =
      .redirect (some (gnb.octets, [0, 0, 0x11, 0x11])) := by decide +kernel
  have hsame := (h t session far urrId hmatch hsel).1 _ hverdict
  rw [show far.teid = 0x22220000 from hfar] at hsame
  have hbytes : [0, 0, 0x11, 0x11] = Endian.little.store32 0x22220000 :=
    congrArg Prod.snd (Option.some.inj hsame)
  exact absurd hbytes (by decide)

end Sim

/-! ### What stands in the way of a frame -/

/-- The second walk of the downlink program ends at a FAR that drops. -/
def Xdp.Frame.Barred (m : Maps) (session : SessionInfo) : Frame → Prop
  | .n3 .. => False
  | .n6 .. => ∃ first, FirstCore m session first ∧ isDrop first = true

section Forwarding

variable {e : Endian} {m : Maps} {fr : Frame} {t : FiveTuple} {session : SessionInfo}

theorem target_eq_none_iff : fr.target m session = none ↔ fr.Barred m session := by
  cases fr with
  | n3 x f => simp [Frame.target, Frame.Barred]
  | n6 x f =>
    rw [Frame.target, Option.map_eq_none_iff, Frame.Barred]
    by_cases hfirst : ∃ first, FirstCore m session first
    · obtain ⟨first, hfirst⟩ := hfirst
      have huniq : ∀ first', FirstCore m session first' → first' = first := fun first' h' =>
        Option.some.inj ((downlinkGetFar_eq_some_iff.mpr h').symm.trans
          (downlinkGetFar_eq_some_iff.mpr hfirst))
      rw [Frame.downlinkTunnel_of_first hfirst]
      constructor
      · intro h
        split_ifs at h with hdrop
        exact ⟨first, hfirst, hdrop⟩
      · rintro ⟨first', hfirst', hdrop⟩
        rw [huniq first' hfirst'] at hdrop
        exact if_pos hdrop
    · rw [Frame.downlinkTunnel_of_none (not_exists.mp hfirst)]
      refine iff_of_false (by simp) ?_
      rintro ⟨first, hfirst', -⟩
      exact hfirst ⟨first, hfirst'⟩

theorem isRedirect_render (ruling : Ruling) :
    (fr.render e ruling).isRedirect ↔ fr.sendable e ∧ ruling ≠ none := by
  cases ruling with
  | none => simp [Frame.render, Verdict.isRedirect]
  | some tunnel => cases hsend : fr.sendable e <;> simp [Frame.render, Verdict.isRedirect, hsend]

/-- When a frame of a session is redirected. -/
theorem isRedirect_iff (hmatch : fr.matched e m = some (t, session)) :
    (fr.verdict e m).isRedirect ↔ fr.sendable e ∧
      shouldDrop (selected m session fr.side t) = false ∧ ¬ fr.Barred m session := by
  rw [Frame.verdict_of_matched hmatch, isRedirect_render, ← target_eq_none_iff]
  cases shouldDrop (selected m session fr.side t) <;> simp

/-- **Forwarding by default.**  A frame of a session for which a rule is selected is redirected only
if the selected FAR does not drop it; a frame for which none is selected is redirected when there is
room to send it and, on N6, the first core-side FAR does not drop it. -/
theorem forwarded_unless_dropped (e : Endian) (m : Maps) (fr : Frame) (t : FiveTuple)
    (session : SessionInfo) (hmatch : fr.matched e m = some (t, session))
    (hcount : session.pdrCount > 0) :
    (∀ pdr far, Selects m session fr.side t pdr far → (fr.verdict e m).isRedirect →
        isDrop far = false) ∧
      (NoRule m session fr.side t → fr.sendable e → ¬ fr.Barred m session →
        (fr.verdict e m).isRedirect) := by
  rw [isRedirect_iff hmatch, selected_eq_selectFar hcount]
  constructor
  · rintro pdr far hsel ⟨-, hdrop, -⟩
    rw [hsel.selectFar] at hdrop
    exact hdrop
  · intro hnone hsend hbarred
    rw [selectFar_eq_none_iff.mpr hnone]
    exact ⟨hsend, rfl, hbarred⟩

end Forwarding

section Sim

open SmfSim

/-- A session that has downlink rules only lets an uplink frame through. -/
theorem forwarded_unless_dropped_uplink :
    ((Frame.n3 machine (uplinkFrame ue1)).verdict .little
      (Audit.after host boot [setup smfA 1, twoTunnels]).maps).isRedirect := by
  set m := (Audit.after host boot [setup smfA 1, twoTunnels]).maps
  obtain ⟨⟨t, session⟩, hmatch⟩ : ∃ p, (Frame.n3 machine (uplinkFrame ue1)).matched .little m =
    some p := Option.isSome_iff_exists.mp (by decide +kernel)
  have hnone : ((Frame.n3 machine (uplinkFrame ue1)).matched .little m).map
    (fun p => (decide (p.2.pdrCount > 0), (selectFar m p.2 ifaceAccess p.1).isSome)) =
      some (true, false) := by decide +kernel
  rw [hmatch, Option.map_some, Option.some.injEq, Prod.mk.injEq, decide_eq_true_eq] at hnone
  obtain ⟨hcount, hnone⟩ := hnone
  have hnorule : NoRule m session ifaceAccess t := selectFar_eq_none_iff.mp (by simpa using hnone)
  exact (forwarded_unless_dropped .little m _ t session hmatch hcount).2 hnorule (by decide +kernel)
    id

/-- And the frame has no rule at all, let alone one that forwards. -/
theorem not_forward_rules_only :
    ¬ ∀ (e : Endian) (m : Maps) (fr : Frame) (t : FiveTuple) (session : SessionInfo),
      fr.matched e m = some (t, session) → session.pdrCount > 0 → (fr.verdict e m).isRedirect →
      ∃ pdr far, Selects m session fr.side t pdr far ∧ isForw far = true ∧ isDrop far = false := by
  intro h
  set m := (Audit.after host boot [setup smfA 1, twoTunnels]).maps
  obtain ⟨⟨t, session⟩, hmatch⟩ : ∃ p, (Frame.n3 machine (uplinkFrame ue1)).matched .little m =
    some p := Option.isSome_iff_exists.mp (by decide +kernel)
  have hnone : ((Frame.n3 machine (uplinkFrame ue1)).matched .little m).map
    (fun p => (decide (p.2.pdrCount > 0), (selectFar m p.2 ifaceAccess p.1).isSome)) =
      some (true, false) := by decide +kernel
  rw [hmatch, Option.map_some, Option.some.injEq, Prod.mk.injEq, decide_eq_true_eq] at hnone
  obtain ⟨pdr, far, hsel, -, -⟩ := h .little m _ t session hmatch hnone.1 (by decide +kernel)
  have hsome := hnone.2
  rw [show selectFar m session ifaceAccess t = _ from hsel.selectFar] at hsome
  cases hsome

end Sim

/-! ### The best match -/

/-- `select_far` returns nothing exactly when no listed PDR applies to the packet, and otherwise the
FAR and the URR id of the applicable PDR with the least precedence, the first listed of those that
have it. -/
def BestMatch (m : Maps) (session : SessionInfo) (iface : UInt8) (t : FiveTuple) : Prop :=
  (selectFar m session iface t = none ↔
      ∀ id ∈ session.listed, applicable m session iface t id = none) ∧
    ∀ far urrId, selectFar m session iface t = some (far, urrId) →
      ∃ pre id post pdr, session.listed = pre ++ id :: post ∧
        applicable m session iface t id = some (pdr, far) ∧ pdr.urrId = urrId ∧
        (∀ id' ∈ pre, ∀ r, applicable m session iface t id' = some r →
          pdr.precedence < r.1.precedence) ∧
        ∀ id' ∈ post, ∀ r, applicable m session iface t id' = some r →
          pdr.precedence ≤ r.1.precedence

/-- If a PDR applies, one applies whose precedence is not the greatest there is. -/
def Selectable (m : Maps) (session : SessionInfo) (iface : UInt8) (t : FiveTuple) : Prop :=
  (∃ id ∈ session.listed, ∃ r, applicable m session iface t id = some r) →
    ∃ id ∈ session.listed, ∃ r, applicable m session iface t id = some r ∧
      r.1.precedence < 0xFFFFFFFF

/-- **The best match is selected exactly when it can be**: only PDRs of the greatest precedence are
passed over. -/
theorem bestMatch_iff (m : Maps) (session : SessionInfo) (iface : UInt8) (t : FiveTuple) :
    BestMatch m session iface t ↔ Selectable m session iface t := by
  constructor
  · rintro ⟨hnone, -⟩ ⟨id, hid, r, hr⟩
    have hsome : selectFar m session iface t ≠ none := by
      intro h
      rw [hnone.mp h id hid] at hr
      cases hr
    by_contra hlt
    refine hsome (selectFar_eq_none_iff.mpr fun id' hid' r' hr' => ?_)
    by_contra hle
    exact hlt ⟨id', hid', r', hr', UInt32.not_le.mp hle⟩
  · intro h
    rcases selectFar_spec m session iface t with
      ⟨heq, hno⟩ | ⟨pdr, far, heq, pre, id, post, hsplit, happ, -, hpre, hpost⟩
    · refine ⟨iff_of_true heq fun id hid => ?_, fun far urrId hsel => ?_⟩
      · by_contra hne
        obtain ⟨id', hid', r', hr', hlt⟩ := h ⟨id, hid, Option.ne_none_iff_exists'.mp hne⟩
        exact absurd hlt (UInt32.not_lt.mpr (hno id' hid' r' hr'))
      · rw [heq] at hsel
        cases hsel
    · refine ⟨iff_of_false (by rw [heq]; simp) fun hall => ?_, fun far' urrId hsel => ?_⟩
      · rw [hall id (by simp [hsplit])] at happ
        cases happ
      · rw [heq] at hsel
        obtain ⟨rfl, rfl⟩ := Prod.mk.inj (Option.some.inj hsel)
        exact ⟨pre, id, post, pdr, hsplit, happ, rfl, hpre, hpost⟩

section Sim

open SmfSim

/-- One rule for downlink packets, with the greatest precedence. -/
def lastResort : Event :=
  sends smfA (establishmentWith 1 smfA [anyPacket 1 0xFFFFFFFF interfaceCore ue1 1]
    [toGnb 1 0x1111] [])

/-- It applies to the frame and is not selected. -/
theorem not_bestMatch_lastResort :
    ¬ ∀ (m : Maps) (session : SessionInfo) (iface : UInt8) (t : FiveTuple),
      BestMatch m session iface t := by
  intro h
  set m := (Audit.after host boot [setup smfA 1, lastResort]).maps
  obtain ⟨⟨t, session⟩, hmatch⟩ : ∃ p, downlinkMatch .little (downlinkFrame ue1) m = some p :=
    Option.isSome_iff_exists.mp (by decide +kernel)
  have hwalk : (downlinkMatch .little (downlinkFrame ue1) m).map (fun p =>
      ((selectFar m p.2 ifaceCore p.1).isSome,
        p.2.listed.map fun id => (applicable m p.2 ifaceCore p.1 id).isSome)) =
      some (false, [true]) := by decide +kernel
  rw [hmatch, Option.map_some, Option.some.injEq, Prod.mk.injEq] at hwalk
  obtain ⟨hsel, hlisted⟩ := hwalk
  have hall := (h m session ifaceCore t).1.mp (by simpa using hsel)
  have hmap : session.listed.map (fun id => (applicable m session ifaceCore t id).isSome) =
      session.listed.map fun _ => false :=
    List.map_congr_left fun id hid => by rw [hall id hid]; rfl
  rw [hmap] at hlisted
  have hmem : true ∈ session.listed.map fun _ => false := by
    rw [hlisted]
    exact List.mem_singleton_self _
  simp at hmem

end Sim

end UpfEdge
